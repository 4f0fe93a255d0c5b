import IgbDriver.Receive
import IgbDriver.RxQueue
import IgbDriver.Conservation
import Mathlib.Algebra.Order.BigOperators.Group.List
import Mathlib.Algebra.Order.Group.Nat

namespace IgbDriver

open Foundation

/-! # Where the device stores

The descriptors a device owns point at entries of the receive ring, and an entry of
the ring is in nobody else's hands.
-/

/-- A byte of the memory of entry `id`. -/
def MemPool.InSlot (pool : MemPool) (id byte : Nat) : Prop :=
  ∃ base, pool.getPhysAddr id = .ok base ∧ base ≤ byte ∧ byte < base + pool.entrySize

/-- Every slot holds a frame, and no two slots share a byte. -/
structure MemPool.SlotsApart (pool : MemPool) : Prop where
  wide : 2048 ≤ pool.entrySize
  apart : ∀ first second byte, pool.InSlot first byte → pool.InSlot second byte → first = second

/-- A byte of the memory a frame was stored to. -/
def Frame.Covers (frame : Frame) (byte : Nat) : Prop :=
  frame.address.toNat ≤ byte ∧ byte < frame.address.toNat + frame.length

/-- The entry is free, in a live packet or in a transmit queue. -/
def System.OutsideRx (system : System) (ref : PoolRef) (id : Nat) : Prop :=
  id ∈ system.machine.arcs.free ref ∨ (∃ packet ∈ system.live, packet.home = (ref, id)) ∨
    ∃ queue ∈ system.machine.dev.txQueues, id ∈ queue.bufsInUse

theorem MemPool.inSlot_layout {pool pool' : MemPool} (same : pool.layout = pool'.layout)
    {id byte : Nat} (inside : pool.InSlot id byte) : pool'.InSlot id byte := by
  obtain ⟨base, located, lower, upper⟩ := inside
  rw [← MemPool.getPhysAddr_layout, same] at located
  have size := congrArg MemPool.entrySize same
  change pool.entrySize = pool'.entrySize at size
  exact ⟨base, located, lower, by omega⟩

/-- A frame that fits the slot of the entry it is stored to covers bytes of it only. -/
theorem covers_inSlot {pool : MemPool} {entry address byte : Nat} {frame : Frame}
    (located : pool.getPhysAddr entry = .ok address)
    (points : frame.address = BitVec.ofNat 64 address) (short : frame.length ≤ pool.entrySize)
    (covered : frame.Covers byte) : pool.InSlot entry byte := by
  obtain ⟨word, _, rfl⟩ := MemPool.getPhysAddr_ok located
  have start : frame.address.toNat = word.toNat := by
    rw [points, BitVec.ofNat_toNat, BitVec.setWidth_eq]
  exact ⟨_, located, by unfold Frame.Covers at covered; omega,
    by unfold Frame.Covers at covered; omega⟩

namespace RxRing

variable {size queueId : Nat} {view : RxView} {trace : List Event}

/-- Every descriptor from the head up to the tail is armed. -/
theorem armed_of_between (ring : RxRing size queueId view trace) (positive : 0 < size) {slot : Nat}
    (between : Ring.Between size view.head.toNat view.tail.toNat slot) :
    ∃ desc, view.queue.descriptors.cells[slot]? = some desc ∧
      RxArmed view.layout view.queue.bufsInUse slot desc := by
  have taken := ring.inCall
  have few := view.unarmed_le
  have ordered := ring.ordered
  have reached := ring.reached
  have counter : ∃ counter, (storedOn queueId trace).length ≤ counter ∧
      counter < (deliveredOn queueId trace).length - view.unarmed + size ∧
        counter % size = slot := by
    by_cases small : 16 * size < 4294967296
    · have below :=
        Nat.mod_lt ((deliveredOn queueId trace).length - view.inCall + size - 1) positive
      have tail : view.tail.toNat =
          ((deliveredOn queueId trace).length - view.inCall + size - 1) % size := by
        rw [ring.tail, BitVec.toNat_ofNat]
        exact Nat.mod_eq_of_lt (by omega)
      rw [ring.head_toNat positive, tail] at between
      obtain ⟨counter, lower, upper, same⟩ :=
        Ring.exists_counter_of_between (by omega) (by omega) between
      exact ⟨counter, lower, by omega, same⟩
    · -- Such a ring has no length for the device, which has stored nothing yet.
      have none_stored := ring.stalled (by omega)
      exact ⟨slot, by omega, by have inside := between.1; omega, Nat.mod_eq_of_lt between.1⟩
  obtain ⟨counter, lower, upper, rfl⟩ := counter
  exact ring.armed counter lower upper

theorem tail_eq (ring : RxRing size queueId view trace) (positive : 0 < size)
    (quiet : view.phase = .quiet) :
    view.tail = BitVec.ofNat 32 ((view.queue.rxIndex + size - 1) % size) := by
  have index := ring.rxIndex
  have tail := ring.tail
  have none_taken : view.inCall = 0 := by rw [RxView.inCall, quiet]
  rw [none_taken, Nat.sub_zero] at index tail
  rw [tail, index, Nat.add_sub_assoc positive, Nat.add_sub_assoc positive, Nat.mod_add_mod]

end RxRing

theorem rxStore_ok {profile : Profile} {system after : System} {queueId index : Nat}
    {writeBack : WriteBack} {events : List Event} {queue : IgbRxQueue}
    (stepped : next profile system (.rxStore queueId index writeBack) = some (.ok (events, after)))
    (found : system.rxQueue? queueId = some queue) :
    ∃ desc, queue.descriptors.cells[index]? = some desc ∧
      events = [.stored queueId ⟨desc.packetBufferAddress, writeBack.length⟩] := by
  obtain ⟨result, stored, same⟩ := Option.map_eq_some_iff.mp stepped
  rw [System.rxQueue?] at found
  rw [rxStoreStep, found] at stored
  cases cell : queue.descriptors.cells[index]? with
  | none => simp only [cell] at stored; cases stored
  | some desc =>
      simp only [cell] at stored
      cases stored
      cases same
      exact ⟨desc, rfl, rfl⟩

theorem rxStore_steps {profile : Profile} {system : System} {queueId index : Nat}
    {queue : IgbRxQueue} {desc : AdvancedRxDescriptor} (writeBack : WriteBack)
    (found : system.rxQueue? queueId = some queue)
    (cell : queue.descriptors.cells[index]? = some desc) :
    ∃ after, next profile system (.rxStore queueId index writeBack) =
      some (.ok ([.stored queueId ⟨desc.packetBufferAddress, writeBack.length⟩], after)) := by
  rw [System.rxQueue?] at found
  rw [next, rxStoreStep, found]
  simp only [cell]
  exact ⟨_, rfl⟩

theorem rxPhase_quiet {system : System} {queueId : Nat} (idle : system.control = .idle) :
    system.control.rxPhase queueId = .quiet := by
  rw [idle]
  rfl

section Run

variable {σ : Type} {host : Host σ} {profile : Profile} {qs numRx numTx queueId : Nat}
  {pool : PoolRef} {before : Arcs} {system after : System} {trace : List Event}

/-- An entry of a receive ring is nowhere else. -/
theorem System.Single.not_outsideRx (single : system.Single pool) (uses : system.OnPool pool)
    {queue : IgbRxQueue} {index entry : Nat} (found : system.rxQueue? queueId = some queue)
    (held : queue.bufsInUse[index]? = some entry) : ¬ system.OutsideRx pool entry := by
  have one := single entry
  have queued : queue ∈ system.machine.dev.rxQueues := List.mem_of_getElem? found
  have share : 0 < rxShare pool entry queue := by
    rw [rxShare, if_pos (uses.receive queue queued)]
    exact List.count_pos_iff.mpr (List.mem_of_getElem? held)
  have mine : rxShare pool entry queue ≤
      (system.machine.dev.rxQueues.map (rxShare pool entry)).sum :=
    List.le_sum_of_mem (List.mem_map_of_mem queued)
  unfold System.owners at one
  rintro (free | ⟨packet, owned, home⟩ | ⟨other, sending, waiting⟩)
  · have present := List.count_pos_iff.mpr free
    omega
  · have present : 0 < system.live.countP (fun packet => packet.home = (pool, entry)) :=
      List.countP_pos_iff.mpr ⟨packet, owned, decide_eq_true home⟩
    omega
  · have own : other.pool = some pool :=
      (uses.transmit other sending).resolve_left
        (fun empty => by rw [empty] at waiting; cases waiting)
    have present : 0 < txShare pool entry other := by
      rw [txShare, if_pos own]
      exact List.count_pos_iff.mpr waiting
    have theirs : txShare pool entry other ≤
        (system.machine.dev.txQueues.map (txShare pool entry)).sum :=
      List.le_sum_of_mem (List.mem_map_of_mem sending)
    omega

/-- A store of the device that the ring admits goes to the entry the ring holds there. -/
theorem RxRing.stores_entry {view : RxView} (ring : RxRing qs queueId view trace)
    (power : qs.isPowerOfTwo) {index : Nat} {writeBack : WriteBack} {desc : AdvancedRxDescriptor}
    (stores : RxEnvironment.inOrder view index writeBack)
    (cell : view.queue.descriptors.cells[index]? = some desc) :
    RxArmed view.layout view.queue.bufsInUse index desc := by
  obtain ⟨bound, here, space⟩ := ring.owned power stores
  have few := view.unarmed_le
  have taken := ring.inCall
  subst here
  exact ring.armed.cell_of (Nat.le_refl _) (by omega) cell

/-- What the device finds in a receive ring. -/
structure RxPublished (qs : Nat) (pool : PoolRef) (system : System) (view : RxView) : Prop where
  tail : system.control = .idle →
    view.tail = BitVec.ofNat 32 ((view.queue.rxIndex + qs - 1) % qs)
  armed : ∀ slot, Ring.Between qs view.head.toNat view.tail.toNat slot →
    ∃ desc, view.queue.descriptors.cells[slot]? = some desc ∧ desc.done = false ∧
      ∃ entry address, view.queue.bufsInUse[slot]? = some entry ∧
        (system.machine.arcs.pool pool).getPhysAddr entry = .ok address ∧
        desc.packetBufferAddress = BitVec.ofNat 64 address

/-- No store of the device that the ring admits touches an entry outside the receive rings. -/
def RxConfined (queueId : Nat) (pool : PoolRef) (system : System) : Prop :=
  ∀ index writeBack profile events after,
    RxInOrder system (.rxStore queueId index writeBack) →
    next profile system (.rxStore queueId index writeBack) = some (.ok (events, after)) →
    ∃ frame, events = [.stored queueId frame] ∧
      ∀ id byte, system.OutsideRx pool id → frame.Covers byte →
        ¬ (system.machine.arcs.pool pool).InSlot id byte

theorem freshPool_located {entries id base : Nat} (few : entries ≤ 1099511627776)
    (located : (freshPool entries).getPhysAddr id = .ok base) : id < entries ∧
      base = 0x200000 + 2048 * id := by
  obtain ⟨word, found, rfl⟩ := MemPool.getPhysAddr_ok located
  obtain ⟨i, numbered, rfl⟩ := Option.map_eq_some_iff.mp (List.getElem?_map.symm.trans found)
  obtain ⟨inside, rfl⟩ := List.getElem?_eq_some_iff.mp numbered
  rw [List.length_range] at inside
  rw [List.getElem_range, BitVec.toNat_ofNat]
  exact ⟨inside, Nat.mod_eq_of_lt (by omega)⟩

theorem freshPool_slotsApart {entries : Nat} (few : entries ≤ 1099511627776) :
    (freshPool entries).SlotsApart := by
  refine ⟨Nat.le_refl _, ?_⟩
  rintro first second byte ⟨base, located, lower, upper⟩ ⟨base', located', lower', upper'⟩
  have here := (freshPool_located few located).2
  have there := (freshPool_located few located').2
  change byte < base + 2048 at upper
  change byte < base' + 2048 at upper'
  omega

/-- What is published is armed in every run; as long as `construct` is given only
entries that nobody has, the device stores into the buffers of the ring only. -/
theorem device_stores_into_ring {policy : Policy} (power : qs.isPowerOfTwo) (least : 2 ≤ qs)
    (bound : qs < usizeModulus) (few : numRx ≤ maxQueues)
    (law : ∀ reg, RingRegister reg → host.Holds reg)
    (booted : Booted host qs numRx numTx pool before system) (inside : queueId < numRx)
    (ordered : ∀ state action, policy state action → RxInOrder state action)
    (run : Run (next host.profile) policy system trace after) :
    ∃ view, after.rxView queueId = some view ∧ RxPublished qs pool after view ∧
      (system.Single pool → (before.pool pool).SlotsApart →
        (∀ state action, policy state action →
          SendsFrom pool state action ∧ ConstructsUnheld pool state action) →
        RxConfined queueId pool after) := by
  have positive : 0 < qs := by omega
  obtain ⟨view, seen, ring⟩ := RxRing.run power least bound law booted inside
    (by unfold maxQueues at few; omega) ordered run
  obtain ⟨queue, found, rfl⟩ := Option.map_eq_some_iff.mp seen
  obtain ⟨file, booting⟩ := booted.booting
  have own : queue.pool = pool := (RxShape.run positive bound booted run found).pool
  have layout : after.machine.arcs.layout pool = before.layout pool :=
    (layout_run run pool).trans (booting.layout pool)
  have place : (after.rxViewOf queueId queue).layout = after.machine.arcs.layout pool := by
    rw [← own]
    rfl
  refine ⟨_, seen, ⟨fun idle => ?_, fun slot between => ?_⟩, fun single slots kept => ?_⟩
  · exact ring.tail_eq positive (rxPhase_quiet idle)
  · obtain ⟨desc, cell, clear, entry, address, held, located, points⟩ :=
      ring.armed_of_between positive between
    rw [place] at located
    exact ⟨desc, cell, clear, entry, address, held, located, points⟩
  · obtain ⟨uses, alone⟩ := single.run (fun _ _ permitted => (kept _ _ permitted).2)
      (fun _ _ permitted => (kept _ _ permitted).1) run booted.onPool
    intro index writeBack profile events final admitted stepped
    obtain ⟨desc, cell, rfl⟩ := rxStore_ok stepped found
    obtain ⟨_, entry, address, held, located, points⟩ := ring.stores_entry power admitted cell
    rw [place, layout] at located
    refine ⟨_, rfl, fun id byte outside covered inSlot => ?_⟩
    have short : writeBack.length ≤ 2048 := admitted.2.2.2
    have fits : writeBack.length ≤ (before.pool pool).entrySize := Nat.le_trans short slots.wide
    have target := covers_inSlot located points fits covered
    have same := slots.apart entry id byte target (MemPool.inSlot_layout layout inSlot)
    subst same
    exact alone.not_outsideRx uses found held outside

/-- A frame delivered and its descriptor not yet re-armed, with a packet in flight. -/
theorem device_stores_into_ring_delivering :
    ∃ (trace : List Event) (after : System) (view : RxView), after.rxView 0 = some view ∧
      after.control = .delivering 0 1 0 0 0 ∧ (sentOn 0 trace).length = 1 ∧
      RxPublished 4 0 after view ∧ RxConfined 0 0 after := by
  obtain ⟨system, trace, after, booted, _, live, run, accepted⟩ := exists_replayPlatform .dev
    (fun state action => RxInOrder state action ∧ SendsFrom 0 state action ∧
      ConstructsUnheld 0 state action)
    4 1 1 12
    [.pool (.alloc 0 64), .send 0 0, .resume, .rxStore 0 0 (frameWriteBack 60),
      .receive 0 2, .resume]
    (fun trace after => after.control == .delivering 0 1 0 0 0 && (sentOn 0 trace).length == 1)
    (by decide +kernel)
  have whole : (freshArcs 12).Whole system.live 0 := by
    rw [live]
    exact freshArcs_whole 12 0
  obtain ⟨view, seen, published, confined⟩ :=
    device_stores_into_ring ⟨2, rfl⟩ (by decide) (by decide)
    (by decide) (platform_holds .dev) booted Nat.zero_lt_one (fun _ _ permitted => permitted.1) run
  rw [Bool.and_eq_true] at accepted
  exact ⟨trace, after, view, seen, eq_of_beq accepted.1, eq_of_beq accepted.2, published,
    confined (booted.accounted whole).owners_le (freshPool_slotsApart (by decide))
      (fun _ _ permitted => permitted.2)⟩

/-- A packet made by `construct` can hold an entry of the ring, which the device then
stores into. -/
theorem construct_exposes_ring :
    ∃ (system after final : System) (trace : List Event) (packet : Packet)
    (frame : Frame) (byte : Nat), Booted (platform .dev) 4 1 1 0 (freshArcs 8) system ∧
      system.live = [] ∧
      Run (next .dev) (fun state action => RxInOrder state action ∧ SendsFrom 0 state action)
        system trace after ∧
      RxInOrder after (.rxStore 0 0 (frameWriteBack 60)) ∧
      next .dev after (.rxStore 0 0 (frameWriteBack 60)) = some (.ok ([.stored 0 frame], final)) ∧
      packet ∈ after.live ∧ frame.Covers byte ∧ (freshPool 8).InSlot packet.poolEntry byte := by
  obtain ⟨system, trace, after, booted, _, live, run, accepted⟩ := exists_replayPlatform .dev
    (fun state action => RxInOrder state action ∧ SendsFrom 0 state action) 4 1 1 8
    [.pool (.construct 7 0 60)]
    (fun _ after => decide (RxInOrder after (.rxStore 0 0 (frameWriteBack 60))) &&
      after.live.any (fun packet => packet.poolEntry == 7) &&
      (after.rxQueue? 0).any (fun queue => queue.descriptors.cells[0]?.any
        (fun desc => desc.packetBufferAddress == 0x203800#64)))
    (by decide +kernel)
  simp only [Bool.and_eq_true, decide_eq_true_eq, List.any_eq_true, Option.any_eq_true, beq_iff_eq]
    at accepted
  obtain ⟨⟨ordered, packet, owned, entry⟩, queue, found, desc, cell, points⟩ := accepted
  obtain ⟨final, stepped⟩ := rxStore_steps (frameWriteBack 60) found cell
  refine ⟨system, after, final, trace, packet, _, 0x203800, booted, live, run, ordered,
    stepped, owned, ⟨?_, ?_⟩, ?_⟩
  · rw [points]
    decide
  · rw [points]
    decide
  · rw [entry]
    exact ⟨0x203800, by rfl, by decide, by decide⟩

end Run

end IgbDriver
