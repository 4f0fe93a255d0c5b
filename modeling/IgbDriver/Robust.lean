import IgbDriver.Returns
import IgbDriver.Card

namespace IgbDriver

open Foundation

/-! # What keeps a step from aborting

Every entry that is anywhere lies in its pool, every index lies in its ring, and the queues
share their pools with the handles that hold them: `Robust` is all that a step needs to
return, and no run loses it.
-/

section Pools

variable {σ : Type} {host : Host σ} {translate : Nat → Nat} {arcs : Arcs} {ref : PoolRef}
  {system : System}

/-- Every entry of an allocated pool has its two addresses. -/
theorem MemPool.Allocated.located {pool : MemPool} (allocated : pool.Allocated host) {id : Nat}
    (inside : id < pool.numEntries) :
    pool.getVirtAddr host.profile id = .ok (pool.virtAddress id) ∧
      pool.getPhysAddr id = .ok (pool.busAddress id).toNat :=
  ⟨allocated.getVirtAddr_apply inside, getPhysAddr_apply inside⟩

/-- `alloc_pkt` has nothing to give, or gives a packet. -/
theorem allocPkt_apply (laid : arcs.Laid host.profile translate)
    (allocated : (arcs.pool ref).Allocated host)
    (inside : ∀ id ∈ arcs.free ref, id < (arcs.pool ref).numEntries) (size : Nat) :
    (((arcs.pool ref).entrySize < size + packetHeadroom ∨ arcs.free ref = []) ∧
        allocPkt host.profile ref size arcs = .ok (none, arcs)) ∨
      ((size + packetHeadroom ≤ (arcs.pool ref).entrySize ∧ arcs.free ref ≠ []) ∧
        ∃ packet after, allocPkt host.profile ref size arcs = .ok (some packet, after)) := by
  have room := laid.headroom ref
  rw [allocPkt, usizeSub_of_le room, except_ok_bind]
  by_cases large : (arcs.pool ref).entrySize - packetHeadroom < size
  · exact .inl ⟨.inl (by omega), if_pos large⟩
  · rw [if_neg large]
    obtain ⟨found, popped, taken⟩ : ∃ found popped, (arcs.pool ref).allocBuf = (found, popped) :=
      ⟨_, _, rfl⟩
    rw [taken]
    cases found with
    | none => exact .inl ⟨.inr (MemPool.allocBuf_none taken), rfl⟩
    | some id =>
        obtain ⟨rest, stack, rfl⟩ := MemPool.allocBuf_some taken
        have free : id ∈ arcs.free ref := by
          rw [Arcs.free, stack]
          simp
        obtain ⟨virtually, physically⟩ := allocated.located (inside id free)
        have bound := (laid.backed ref id _ _ virtually physically).2
        have virtually' : ({ arcs.pool ref with freeStack := rest } : MemPool).getVirtAddr
            host.profile id = _ :=
          virtually
        have physically' : ({ arcs.pool ref with freeStack := rest } : MemPool).getPhysAddr id =
            _ := physically
        refine .inr ⟨⟨by omega, List.ne_nil_of_mem free⟩, ?_⟩
        simp only
        rw [virtually', except_ok_bind, physically', except_ok_bind, usizeAdd_of_lt (by omega)]
        exact ⟨_, _, rfl⟩

/-- No entry of the pool is in two places, and none is from outside of it. -/
def System.Within (system : System) (ref : PoolRef) : Prop :=
  ∀ id, system.owners ref id ≤ if id < (system.machine.arcs.pool ref).numEntries then 1 else 0

namespace System.Within

theorem of_accounted (accounted : system.Accounted ref) : system.Within ref :=
  fun id => (accounted id).le

variable (within : system.Within ref)
include within

theorem lt_of_owned {id : Nat} (owned : 0 < system.owners ref id) :
    id < (system.machine.arcs.pool ref).numEntries := by
  have most := within id
  by_contra outside
  rw [if_neg outside] at most
  omega

theorem free_lt {id : Nat} (free : id ∈ system.machine.arcs.free ref) :
    id < (system.machine.arcs.pool ref).numEntries := by
  apply within.lt_of_owned
  have present := List.count_pos_iff.mpr free
  unfold System.owners
  omega

/-- The entries of a receive ring are entries of its pool. -/
theorem rx_lt {queueId entry : Nat} {queue : IgbRxQueue}
    (found : system.rxQueue? queueId = some queue) (own : queue.pool = ref)
    (member : entry ∈ queue.bufsInUse) : entry < (system.machine.arcs.pool ref).numEntries := by
  apply within.lt_of_owned
  have share : 0 < rxShare ref entry queue := by
    rw [rxShare, if_pos own]
    exact List.count_pos_iff.mpr member
  have mine : rxShare ref entry queue ≤ (system.machine.dev.rxQueues.map (rxShare ref entry)).sum :=
    List.le_sum_of_mem (List.mem_map_of_mem (List.mem_of_getElem? found))
  unfold System.owners
  omega

omit within in
/-- A live packet can be dropped. -/
theorem drop_returns {packet : Packet} (within : system.Within packet.pool)
    (owned : packet ∈ system.live) : ∃ after, packet.drop system.machine.arcs = .ok after := by
  have held := System.Accounted.live_count owned
  have most := within packet.poolEntry
  have positive : 0 < system.owners packet.pool packet.poolEntry := by
    rw [Packet.home] at held
    unfold System.owners
    omega
  have inside := within.lt_of_owned positive
  refine Packet.drop_returns inside (fun free => ?_)
  have present := List.count_pos_iff.mpr free
  rw [if_pos inside] at most
  rw [Packet.home] at held
  unfold System.owners at most
  omega

end System.Within

/-- No buffer is to be had for a copy of the packet. -/
def System.Exhausted (system : System) (packet : Packet) : Prop :=
  (system.machine.arcs.pool packet.pool).entrySize < packet.len + packetHeadroom ∨
    system.machine.arcs.free packet.pool = []

variable (laid : system.machine.arcs.Laid host.profile translate)
  (allocated : ∀ ref, (system.machine.arcs.pool ref).Allocated host)
  (within : ∀ ref, system.Within ref)
include laid allocated within

theorem clone_aborts_iff {packet : Packet} {reason : Abort Panic} :
    packet.clone host.profile system.machine.arcs = .error reason ↔
      reason = .panic .noBufferAvailable ∧ system.Exhausted packet := by
  have inside : ∀ id ∈ system.machine.arcs.free packet.pool,
      id < (system.machine.arcs.pool packet.pool).numEntries :=
    fun id free => (within packet.pool).free_lt free
  rcases allocPkt_apply laid (allocated packet.pool) inside packet.len with
    ⟨exhausted, none⟩ | ⟨⟨fits, stocked⟩, copy, after, made⟩
  · rw [Packet.clone, none]
    exact ⟨fun aborted => ⟨(Except.error.inj aborted).symm, exhausted⟩,
      fun both => by rw [both.1]; rfl⟩
  · rw [Packet.clone, made]
    refine ⟨nofun, fun both => ?_⟩
    rcases both.2 with large | empty
    · omega
    · exact absurd empty stocked

/-- Of the operations on the pools only `clone` can abort. -/
theorem poolStep_aborts {action : PoolAction} {reason : Abort Panic}
    (honest : NoConstruct system (.pool action))
    (aborted : poolStep host.profile system action = some (.error reason)) :
    ∃ position packet, action = .clone position ∧ system.live[position]? = some packet ∧
      reason = .panic .noBufferAvailable ∧ system.Exhausted packet := by
  cases action with
  | alloc ref size =>
      simp only [poolStep] at aborted
      split at aborted
      · cases aborted
      · have inside : ∀ id ∈ system.machine.arcs.free ref,
            id < (system.machine.arcs.pool ref).numEntries :=
          fun id free => (within ref).free_lt free
        rw [IgbNetBuf.alloc] at aborted
        rcases allocPkt_apply laid (allocated ref) inside size with
          ⟨_, none⟩ | ⟨_, packet, after, made⟩
        · rw [none] at aborted
          cases aborted
        · rw [made] at aborted
          cases aborted
  | construct => exact honest.elim
  | clone position =>
      simp only [poolStep] at aborted
      split at aborted
      · cases aborted
      · rename_i packet owned
        cases cloned : packet.clone host.profile system.machine.arcs with
        | ok result =>
            rw [cloned] at aborted
            cases aborted
        | error other =>
            rw [cloned] at aborted
            cases aborted
            obtain ⟨why, exhausted⟩ := (clone_aborts_iff laid allocated within).mp cloned
            exact ⟨position, packet, rfl, owned, why, exhausted⟩
  | drop position =>
      simp only [poolStep] at aborted
      split at aborted
      · cases aborted
      · rename_i packet owned
        obtain ⟨arcs, dropped⟩ := (within packet.pool).drop_returns (List.mem_of_getElem? owned)
        rw [dropped] at aborted
        cases aborted
  | cloneHandle ref | dropHandle ref =>
      simp only [poolStep] at aborted
      split at aborted <;> cases aborted

end Pools

/-- The queue that the running call works on exists. -/
def System.Attached (system : System) : Prop :=
  match system.control with
  | .idle => True
  | .ringing queueId | .recycling queueId _ _ => queueId < system.machine.dev.txQueues.length
  | .receiving queueId _ _ _ _ | .delivering queueId _ _ _ _ | .publishing queueId _ _ _ =>
      queueId < system.machine.dev.rxQueues.length

section Attached

variable {profile : Profile} {policy : Policy} {system after : System} {action : Action}
  {events trace : List Event} {queueId : Nat}

theorem System.Attached.kept (attached : system.Attached) (control : after.control = system.control)
    (rx : after.machine.dev.rxQueues.length = system.machine.dev.rxQueues.length)
    (tx : after.machine.dev.txQueues.length = system.machine.dev.txQueues.length) :
    after.Attached := by
  simp only [System.Attached] at attached ⊢
  rw [control, rx, tx]
  exact attached

theorem Step.attached (step : Step profile system action events after)
    (attached : system.Attached) : after.Attached := by
  have lengths := step.lengths
  cases step with
  | report | allocate | construct | drop | cloneHandle | dropHandle | reject | rxStore | txDone =>
      exact attached.kept rfl lengths.1 lengths.2
  | send _ _ found | recycle _ found =>
      rw [System.Attached, System.withControl]
      have inside := (List.getElem?_eq_some_iff.mp found).1
      exact lengths.2 ▸ inside
  | ring | commit | publish | finish => trivial
  | round control | release control =>
      rw [System.Attached, control] at attached
      rw [System.Attached]
      exact lengths.2.symm ▸ attached
  | receive _ found =>
      have inside := (List.getElem?_eq_some_iff.mp found).1
      rw [System.Attached]
      exact lengths.1.symm ▸ inside
  | take control | halt control | rearm control =>
      rw [System.Attached, control] at attached
      rw [System.Attached]
      exact lengths.1.symm ▸ attached

/-- The indices of the running call lie in its ring. -/
def System.Positioned (size : Nat) (system : System) : Prop :=
  match system.control with
  | .idle | .ringing _ => True
  | .recycling _ curIndex cleanIndex => curIndex < size ∧ cleanIndex < size
  | .receiving _ _ rxIndex _ _ | .delivering _ _ rxIndex _ _ | .publishing _ rxIndex _ _ =>
      rxIndex < size

namespace System.Positioned

variable {size : Nat} (positioned : system.Positioned size)
include positioned

theorem recycling {curIndex cleanIndex : Nat}
    (control : system.control = .recycling queueId curIndex cleanIndex) :
    curIndex < size ∧ cleanIndex < size := by
  rw [System.Positioned, control] at positioned
  exact positioned

theorem receiving {position : Nat}
    (running : (system.control.rxPhase queueId).position = some position) : position < size := by
  unfold System.Positioned at positioned
  cases control : system.control with
  | idle | ringing | recycling =>
      rw [control] at running
      cases running
  | receiving queue todo rxIndex lastRxIndex recvNums
  | delivering queue todo rxIndex lastRxIndex recvNums
  | publishing queue rxIndex lastRxIndex recvNums =>
      rw [control] at running positioned
      simp only [Control.rxPhase] at running
      split at running
      · cases running
        exact positioned
      · cases running

end System.Positioned

/-- The rings are as long as they were made, every index lies in its ring, and the tail
registers lie in the window. -/
structure System.Shaped (profile : Profile) (size : Nat) (pool : PoolRef)
    (system : System) : Prop where
  attached : system.Attached
  positioned : system.Positioned size
  power : 0 < system.machine.dev.rxQueues.length + system.machine.dev.txQueues.length →
    size.isPowerOfTwo
  transmit : ∀ queueId queue, system.txQueue? queueId = some queue →
    TxShape size queue ∧ InWindow profile system.machine.dev.len (igbTdt queueId)
  receive : ∀ queueId queue, system.rxQueue? queueId = some queue →
    RxShape size pool queue ∧ InWindow profile system.machine.dev.len (igbRdt queueId)

section Shaped

variable {size : Nat} {pool : PoolRef}

theorem System.Shaped.powered_tx {queue : IgbTxQueue} (shaped : system.Shaped profile size pool)
    (found : system.txQueue? queueId = some queue) : size.isPowerOfTwo := by
  have inside : queueId < system.machine.dev.txQueues.length :=
    (List.getElem?_eq_some_iff.mp found).1
  exact shaped.power (by omega)

theorem System.Shaped.powered_rx {queue : IgbRxQueue} (shaped : system.Shaped profile size pool)
    (found : system.rxQueue? queueId = some queue) : size.isPowerOfTwo := by
  have inside : queueId < system.machine.dev.rxQueues.length :=
    (List.getElem?_eq_some_iff.mp found).1
  exact shaped.power (by omega)

theorem Step.positioned (step : Step profile system action events after)
    (bound : size < usizeModulus)
    (shaped : system.Shaped profile size pool) : after.Positioned size := by
  have positioned := shaped.positioned
  cases step with
  | report | allocate | construct | drop | cloneHandle | dropHandle | reject | rxStore | txDone =>
      exact positioned
  | send | ring | commit | publish | finish => trivial
  | recycle _ found =>
      obtain ⟨shape, _⟩ := shaped.transmit _ _ found
      exact ⟨shape.txIndex, shape.cleanIndex⟩
  | round control found sees | release control found sees =>
      obtain ⟨shape, _⟩ := shaped.transmit _ _ found
      exact ⟨(positioned.recycling control).1, shape.roundSees (shaped.powered_tx found) bound sees⟩
  | receive _ found => exact (shaped.receive _ _ found).1.rxIndex
  | take control | halt control =>
      rw [System.Positioned, control] at positioned
      exact positioned
  | @rearm _ _ _ _ _ _ _ _ _ _ control found rearms =>
      rw [System.Positioned, control] at positioned
      have wraps := rearms.wraps
      rw [(shaped.receive _ _ found).1.numDescriptors] at wraps
      exact wrapRing_lt (shaped.powered_rx found) bound positioned wraps

/-- Whatever the device and the caller do, this stays so. -/
theorem Step.shaped (step : Step profile system action events after) (bound : size < usizeModulus)
    (shaped : system.Shaped profile size pool) : after.Shaped profile size pool := by
  have lengths := step.lengths
  refine ⟨step.attached shaped.attached, step.positioned bound shaped, ?_, ?_, ?_⟩
  · rw [lengths.1, lengths.2]
    exact shaped.power
  · intro queueId queue' found'
    have inside : queueId < after.machine.dev.txQueues.length :=
      (List.getElem?_eq_some_iff.mp found').1
    rw [lengths.2] at inside
    have found : system.txQueue? queueId = some _ := List.getElem?_eq_getElem inside
    obtain ⟨shape, window⟩ := shaped.transmit queueId _ found
    obtain ⟨other, here, change⟩ := step.txChange found
    cases here.symm.trans found'
    rw [step.len]
    exact ⟨shape.change (shaped.powered_tx found) bound
      (fun _ _ control => (shaped.positioned.recycling control).2) change, window⟩
  · intro queueId queue' found'
    have inside : queueId < after.machine.dev.rxQueues.length :=
      (List.getElem?_eq_some_iff.mp found').1
    rw [lengths.1] at inside
    have found : system.rxQueue? queueId = some _ := List.getElem?_eq_getElem inside
    obtain ⟨shape, window⟩ := shaped.receive queueId _ found
    obtain ⟨other, here, change⟩ := step.rxChange found
    cases here.symm.trans found'
    rw [step.len]
    exact ⟨shape.change (fun _ running => shaped.positioned.receiving running) change, window⟩

end Shaped

end Attached

section Whole

variable {profile : Profile} {system : System} {action : Action} {events : List Event}
  {queueId : Nat} {queue queue' : IgbRxQueue}

/-- Every descriptor with a frame says that it ends there. -/
def IgbRxQueue.WholeFrames (queue : IgbRxQueue) : Prop :=
  ∀ desc ∈ queue.descriptors.cells, desc.done = true → desc.endOfPacket = true

theorem IgbRxQueue.WholeFrames.change (whole : queue.WholeFrames)
    (ordered : RxInOrder system action)
    (change : RxChange profile system queueId queue action events queue') : queue'.WholeFrames := by
  cases change with
  | same | take | publish => exact whole
  | rearm control rearms =>
      intro desc member done
      rcases List.mem_or_eq_of_mem_set member with old | rfl
      · exact whole desc old done
      · rw [AdvancedRxDescriptor.done_resetStatus] at done
        cases done
  | rxStore =>
      intro desc member done
      rcases List.mem_or_eq_of_mem_set member with old | rfl
      · exact whole desc old done
      · exact ordered.2.2.1

end Whole

/-- What lets every piece of a call return, whatever the device does. -/
structure Robust {σ : Type} (host : Host σ) (translate : Nat → Nat) (size : Nat) (pool : PoolRef)
    (system : System) : Prop where
  laid : system.machine.arcs.Laid host.profile translate
  allocated : ∀ ref, (system.machine.arcs.pool ref).Allocated host
  within : ∀ ref, system.Within ref
  shaped : system.Shaped host.profile size pool

/-- A device fresh from `init` is in shape. -/
theorem Booted.shaped {σ : Type} {host : Host σ} {qs numRx numTx : Nat} {pool : PoolRef}
    {before : Arcs} {system : System} (booted : Booted host qs numRx numTx pool before system)
    (positive : 0 < qs) : system.Shaped host.profile qs pool := by
  obtain ⟨file, booting⟩ := booted.booting
  refine ⟨?_, ?_, ?_, ?_, ?_⟩
  · rw [System.Attached, booted.control]
    trivial
  · rw [System.Positioned, booted.control]
    trivial
  · rw [booting.rxLength, booting.txLength]
    exact booted.power positive
  · intro queueId queue found
    have inside : queueId < system.machine.dev.txQueues.length :=
      (List.getElem?_eq_some_iff.mp found).1
    rw [booting.txLength] at inside
    have built := booting.txQueues queueId queue found
    refine ⟨⟨built.numDescriptors, built.cells, ?_, ?_⟩, booting.txWindow queueId inside⟩
    · rw [built.txIndex]
      exact positive
    · rw [built.cleanIndex]
      exact positive
  · intro queueId queue found
    have inside : queueId < system.machine.dev.rxQueues.length :=
      (List.getElem?_eq_some_iff.mp found).1
    rw [booting.rxLength] at inside
    obtain ⟨other, here, shape⟩ := booted.rxShape positive inside
    cases here.symm.trans found
    exact ⟨shape, booting.rxWindow queueId inside⟩

section Run

variable {σ : Type} {host : Host σ} {translate : Nat → Nat} {qs numRx numTx : Nat} {pool : PoolRef}
  {before : Arcs} {system after : System} {trace : List Event}

namespace Deployment

variable (deployed : Deployment host translate qs numRx numTx pool before system)
include deployed

theorem wholeFrames (run : Run (next host.profile) (Orderly pool) system trace after)
    {queueId : Nat} {queue : IgbRxQueue}
    (found : after.rxQueue? queueId = some queue) : queue.WholeFrames := by
  have inside := deployed.booted.rxQueue_inside run found
  obtain ⟨file, booting⟩ := deployed.booted.booting
  have initial : ∃ queue, system.rxQueue? queueId = some queue ∧ queue.WholeFrames := by
    obtain ⟨queue, found⟩ : ∃ queue, system.rxQueue? queueId = some queue :=
      ⟨_, List.getElem?_eq_getElem (by rw [booting.rxLength]; exact inside)⟩
    have built := booting.rxQueues queueId queue found
    have filled : Progress.armedIn ⟨numRx, numTx, numTx, numRx, 0, numTx⟩ qs queueId = qs :=
      if_pos inside
    rw [filled] at built
    refine ⟨queue, found, fun desc member done => ?_⟩
    obtain ⟨index, cell⟩ := List.getElem?_of_mem member
    have below := (List.getElem?_eq_some_iff.mp cell).1
    rw [built.cells] at below
    obtain ⟨other, here, clear, _⟩ := built.armed index below
    cases here.symm.trans cell
    rw [clear] at done
    cases done
  obtain ⟨other, here, whole⟩ := run.invariant
    (fun _ state => ∃ queue, state.rxQueue? queueId = some queue ∧ queue.WholeFrames) initial
    (by
      intro _ state action events final known permitted stepped
      obtain ⟨queue, found, whole⟩ := known
      obtain ⟨queue', found', change⟩ := (next_step stepped).rxChange found
      exact ⟨queue', found', whole.change permitted.1.1 change⟩)
  cases here.symm.trans found
  exact whole

theorem robust (allocated : ∀ ref, (before.pool ref).Allocated host)
    (run : Run (next host.profile) (OfPool pool) system trace after) :
    Robust host translate qs pool after := by
  have positive : 0 < qs := Nat.lt_of_lt_of_le Nat.zero_lt_two deployed.least
  have layout : ∀ ref, after.machine.arcs.layout ref = before.layout ref :=
    fun ref => (layout_run run ref).trans (deployed.layout ref)
  obtain ⟨_, accounted⟩ :=
    OnPool.run (fun _ _ permitted => permitted.1) (fun _ _ permitted => permitted.2) run
    deployed.booted.onPool (fun ref => deployed.booted.accounted (deployed.whole ref))
  exact {
    laid := deployed.laid.of_layout layout
    allocated := fun ref => (allocated ref).of_layout (layout ref)
    within := fun ref => .of_accounted (accounted ref)
    shaped := run.invariant (fun _ state => state.Shaped host.profile qs pool)
      (deployed.booted.shaped positive)
      (fun _ _ _ _ _ shaped _ stepped => (next_step stepped).shaped deployed.narrow shaped) }

end Deployment

end Run

end IgbDriver
