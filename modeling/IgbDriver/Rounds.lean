import IgbDriver.Batches
import IgbDriver.Allocation

namespace IgbDriver

open Foundation

/-! # The rounds of the receive loop

With a callback that only keeps its packets, a round delivers the buffer of the next ready
descriptor and arms the descriptor with the entry on top of the free stack. What is left
after `k` rounds is written down, and each round is shown to go from one to the next.
-/

/-- A callback that keeps each packet and leaves the pools alone. -/
def keepPackets : Callback (List Packet) := fun rxBuf kept arcs =>
  .ok (kept ++ [rxBuf.packet], arcs)

namespace IgbRxQueue

/-- The descriptor `k` places after the cursor carries a frame. -/
def readyAt (queue : IgbRxQueue) (size k : Nat) : Bool :=
  (queue.descriptors.cells[(queue.rxIndex + k) % size]?).any AdvancedRxDescriptor.done

/-- Frames waiting in a row from the cursor on, at most one lap. -/
def readyRun (queue : IgbRxQueue) (size : Nat) : Nat :=
  (List.range size).findIdx fun k => !queue.readyAt size k

end IgbRxQueue

/-- The entry that replaces the buffer of the `k`-th frame of a call. -/
def Arcs.nextFree (arcs : Arcs) (ref : PoolRef) (k : Nat) : Nat :=
  (arcs.free ref).getD ((arcs.free ref).length - 1 - k) 0

/-- The pools once `count` entries went into a ring and as many packets out of it. -/
def Arcs.exchanged (arcs : Arcs) (ref : PoolRef) (count : Nat) : Arcs := fun other =>
  if other = ref then
    { strong := arcs.strong ref + count
      data := { arcs.pool ref with
        freeStack := (arcs.free ref).take ((arcs.free ref).length - count) } }
  else arcs other

namespace IgbRxQueue

variable (queue : IgbRxQueue) (size : Nat) (arcs : Arcs)

/-- The packet that the `k`-th frame of a call is delivered in. -/
def packetAt (k : Nat) : Packet :=
  let slot := (queue.rxIndex + k) % size
  let entry := queue.bufsInUse.getD slot 0
  { addrVirt := (arcs.pool queue.pool).virtAddress entry
    addrPhys := ((arcs.pool queue.pool).busAddress entry).toNat
    len := (queue.descriptors.cells.getD slot .init).length
    pool := queue.pool
    poolEntry := entry }

/-- A descriptor armed with the entry that replaces its `k`-th frame. -/
def rearmedAt (k : Nat) (desc : AdvancedRxDescriptor) : AdvancedRxDescriptor :=
  (desc.setPacketAddress
    ((arcs.pool queue.pool).busAddress (arcs.nextFree queue.pool k)).toNat).resetStatus

/-- The queue once the first `count` frames are delivered and their descriptors armed
again, the cursor still where it was. -/
def refilled (count : Nat) : IgbRxQueue :=
  { queue with
    descriptors := { queue.descriptors with
      cells := Ring.updateFrom size queue.rxIndex count
        (queue.rearmedAt arcs) queue.descriptors.cells }
    bufsInUse := Ring.updateFrom size queue.rxIndex count (fun k _ => arcs.nextFree queue.pool k)
      queue.bufsInUse }

end IgbRxQueue

namespace Machine

variable (machine : Machine RegisterFile) (queueId size : Nat) (queue : IgbRxQueue) (count : Nat)

/-- Frames a call with this budget delivers. -/
def deliverable (packetNums : Nat) : Nat :=
  min packetNums (min (queue.readyRun size) (machine.arcs.free queue.pool).length)

/-- The machine inside a call, after `count` rounds. -/
def afterRounds : Machine RegisterFile :=
  { machine.setRxQueue queueId (queue.refilled size machine.arcs count) with
    arcs := machine.arcs.exchanged queue.pool count }

/-- The machine after a call that delivered `count` frames. -/
def received : Machine RegisterFile :=
  { machine.setRxQueue queueId
      { queue.refilled size machine.arcs count with rxIndex := (queue.rxIndex + count) % size } with
    arcs := machine.arcs.exchanged queue.pool count
    env := if count = 0 then machine.env
      else machine.env.write (igbRdt queueId)
        (BitVec.ofNat 32 ((queue.rxIndex + count - 1) % size)) }

end Machine

section ReadyRun

variable {queue : IgbRxQueue} {size k : Nat}

theorem readyRun_le (queue : IgbRxQueue) (size : Nat) : queue.readyRun size ≤ size := by
  have bound : (List.range size).findIdx (fun k => !queue.readyAt size k) ≤
      (List.range size).length :=
    List.findIdx_le_length
  rwa [List.length_range] at bound

theorem readyAt_of_lt (before : k < queue.readyRun size) : queue.readyAt size k = true := by
  have waits := List.not_of_lt_findIdx before
  simpa using waits

theorem not_readyAt_readyRun (short : queue.readyRun size < size) :
    queue.readyAt size (queue.readyRun size) = false := by
  have inside :
      (List.range size).findIdx (fun k => !queue.readyAt size k) < (List.range size).length := by
    rw [List.length_range]
    exact short
  have found := List.findIdx_getElem (w := inside)
  simpa [IgbRxQueue.readyRun] using found

end ReadyRun

section Exchanged

variable {arcs : Arcs} {ref : PoolRef} {count : Nat}

theorem exchanged_zero (arcs : Arcs) (ref : PoolRef) : arcs.exchanged ref 0 = arcs := by
  funext other
  simp only [Arcs.exchanged]
  split
  · rename_i same
    subst same
    simp only [Arcs.strong, Arcs.free, Arcs.pool, Nat.add_zero, Nat.sub_zero, List.take_length]
  · rfl

theorem free_exchanged :
    (arcs.exchanged ref count).free ref = (arcs.free ref).take ((arcs.free ref).length - count) := by
  simp only [Arcs.exchanged, Arcs.free, Arcs.pool, if_pos]

/-- Only the stack of the pool differs. -/
theorem pool_exchanged : (arcs.exchanged ref count).pool ref =
    { arcs.pool ref with freeStack := (arcs.free ref).take ((arcs.free ref).length - count) } := by
  simp only [Arcs.exchanged, Arcs.pool, if_pos]

/-- The stack in a call, its top split off. -/
theorem stack_exchanged (some : count < (arcs.free ref).length) :
    (arcs.exchanged ref count).free ref =
      (arcs.free ref).take ((arcs.free ref).length - (count + 1)) ++ [arcs.nextFree ref count] := by
  have inside : (arcs.free ref).length - 1 - count < (arcs.free ref).length := by omega
  rw [free_exchanged,
    show (arcs.free ref).length - count = (arcs.free ref).length - 1 - count + 1 by omega,
    List.take_add_one, List.getElem?_eq_getElem inside,
    show (arcs.free ref).length - (count + 1) = (arcs.free ref).length - 1 - count by omega]
  simp [Arcs.nextFree, List.getD_eq_getElem?_getD, List.getElem?_eq_getElem inside]

theorem exchanged_succ : ((arcs.exchanged ref count).setFree ref
      ((arcs.free ref).take ((arcs.free ref).length - (count + 1)))).clone ref =
    arcs.exchanged ref (count + 1) := by
  funext other
  by_cases same : other = ref
  · subst same
    simp [Arcs.clone, Arcs.setFree, Arcs.setPool, Arcs.exchanged, Arcs.pool, Arcs.strong,
      Nat.add_assoc]
  · simp [Arcs.clone, Arcs.setFree, Arcs.setPool, Arcs.exchanged, same]

end Exchanged

/-- What the exact effect of a call rests on: the shape of the queue, buffers of its own
pool in it, and whole frames only. -/
structure Deliverable (profile : Profile) (qs queueId : Nat) (machine : Machine RegisterFile)
    (queue : IgbRxQueue) : Prop extends Receivable profile qs queueId machine queue where
  bufs : queue.bufsInUse.length = qs
  entries : ∀ entry ∈ queue.bufsInUse, entry < (machine.arcs.pool queue.pool).numEntries
  virt : ∀ id, id < (machine.arcs.pool queue.pool).numEntries →
    (machine.arcs.pool queue.pool).getVirtAddr profile id =
      .ok ((machine.arcs.pool queue.pool).virtAddress id)
  whole : ∀ desc ∈ queue.descriptors.cells, desc.done = true → desc.endOfPacket = true

section Round

variable {profile : Profile} {qs queueId k : Nat} {machine : Machine RegisterFile}
  {queue : IgbRxQueue}

theorem readyAt_iff {size : Nat} {desc : AdvancedRxDescriptor}
    (cell : queue.descriptors.cells[(queue.rxIndex + k) % size]? = some desc) :
    queue.readyAt size k = desc.done := by
  rw [IgbRxQueue.readyAt, cell]
  rfl

theorem Deliverable.cell (ready : Deliverable profile qs queueId machine queue) (k : Nat) :
    ∃ desc, queue.descriptors.cells[(queue.rxIndex + k) % qs]? = some desc ∧
      desc ∈ queue.descriptors.cells :=
  have inside : (queue.rxIndex + k) % qs < queue.descriptors.cells.length := by
    rw [ready.cells]
    exact Nat.mod_lt _ (Nat.zero_lt_of_lt ready.rxIndex)
  ⟨_, List.getElem?_eq_getElem inside, List.getElem_mem inside⟩

theorem Deliverable.buf (ready : Deliverable profile qs queueId machine queue) (k : Nat) :
    ∃ entry, queue.bufsInUse[(queue.rxIndex + k) % qs]? = some entry ∧
      entry < (machine.arcs.pool queue.pool).numEntries :=
  have inside : (queue.rxIndex + k) % qs < queue.bufsInUse.length := by
    rw [ready.bufs]
    exact Nat.mod_lt _ (Nat.zero_lt_of_lt ready.rxIndex)
  ⟨_, List.getElem?_eq_getElem inside, ready.entries _ (List.getElem_mem inside)⟩

theorem rxQueues_afterRounds (ready : Deliverable profile qs queueId machine queue) (count : Nat) :
    (machine.afterRounds queueId qs queue count).dev.rxQueues[queueId]? =
      some (queue.refilled qs machine.arcs count) :=
  List.getElem?_set_self (List.getElem?_eq_some_iff.mp ready.found).1

theorem takeFrame_apply {rxIndex addrVirt addrPhys idx buf : Nat} {desc : AdvancedRxDescriptor}
    {rest : List Nat} (found : machine.dev.rxQueues[queueId]? = some queue)
    (cell : queue.descriptors.cells[rxIndex]? = some desc) (done : desc.done = true)
    (ends : desc.endOfPacket = true) (stack : machine.arcs.free queue.pool = rest ++ [buf])
    (held : queue.bufsInUse[rxIndex]? = some idx)
    (virt : (machine.arcs.pool queue.pool).getVirtAddr profile idx = .ok addrVirt)
    (phys : (machine.arcs.pool queue.pool).getPhysAddr idx = .ok addrPhys) :
    takeFrame (registerFile profile) queueId rxIndex machine =
      .ok (.ok (some { packet :=
        { addrVirt, addrPhys, len := desc.length, pool := queue.pool, poolEntry := idx } }),
        { machine.setRxQueue queueId
          { queue with bufsInUse := queue.bufsInUse.set rxIndex buf } with
          arcs := (machine.arcs.setFree queue.pool rest).clone queue.pool }) := by
  have popped : (machine.arcs.pool queue.pool).allocBuf =
      (some buf, { machine.arcs.pool queue.pool with freeStack := rest }) := by
    rw [Arcs.free] at stack
    simp [MemPool.allocBuf, stack]
  rw [takeFrame, Prog.bind_read_apply, indexSlice_of_some found,
    Prog.bind_of_ok (Prog.lift_ok_apply _ _),
    indexSlice_of_some cell, Prog.bind_of_ok (Prog.lift_ok_apply _ _), done, ends]
  simp only [Bool.not_true, Bool.false_eq_true, if_false, popped]
  rw [indexSlice_of_some held, Prog.bind_of_ok (Prog.lift_ok_apply _ _)]
  have virt' : ({ machine.arcs.pool queue.pool with freeStack := rest } : MemPool).getVirtAddr
      (registerFile profile).profile idx = .ok addrVirt := virt
  have phys' : ({ machine.arcs.pool queue.pool with freeStack := rest } : MemPool).getPhysAddr idx =
      .ok addrPhys := phys
  rw [virt', Prog.bind_of_ok (Prog.lift_ok_apply _ _), phys',
    Prog.bind_of_ok (Prog.lift_ok_apply _ _)]
  rfl

theorem takeFrame_stops {rxIndex : Nat} {desc : AdvancedRxDescriptor}
    (found : machine.dev.rxQueues[queueId]? = some queue)
    (cell : queue.descriptors.cells[rxIndex]? = some desc)
    (stops : desc.done = false ∨ (desc.done = true → desc.endOfPacket = true) ∧
      machine.arcs.free queue.pool = []) :
    takeFrame (registerFile profile) queueId rxIndex machine = .ok (.ok none, machine) := by
  rw [takeFrame, Prog.bind_read_apply, indexSlice_of_some found,
    Prog.bind_of_ok (Prog.lift_ok_apply _ _),
    indexSlice_of_some cell, Prog.bind_of_ok (Prog.lift_ok_apply _ _)]
  cases done : desc.done with
  | false => rfl
  | true =>
      obtain clear | ⟨whole, empty⟩ := stops
      · rw [done] at clear
        cases clear
      · rw [whole done]
        have popped : (machine.arcs.pool queue.pool).allocBuf =
            (none, { machine.arcs.pool queue.pool with freeStack := [] }) := by
          rw [Arcs.free] at empty
          simp [MemPool.allocBuf, empty]
        simp only [Bool.not_true, Bool.false_eq_true, if_false, popped]
        rfl

theorem rearmDescriptor_apply {rxIndex buf phys next : Nat} {desc : AdvancedRxDescriptor}
    (found : machine.dev.rxQueues[queueId]? = some queue)
    (cell : queue.descriptors.cells[rxIndex]? = some desc)
    (held : queue.bufsInUse[rxIndex]? = some buf)
    (located : (machine.arcs.pool queue.pool).getPhysAddr buf = .ok phys)
    (wraps : wrapRing profile rxIndex queue.numDescriptors = .ok next) :
    rearmDescriptor (registerFile profile) queueId rxIndex machine =
      .ok (.ok next, machine.setRxQueue queueId (queue.afterRearm rxIndex desc phys)) := by
  rw [rearmDescriptor, Prog.bind_read_apply, indexSlice_of_some found,
    Prog.bind_of_ok (Prog.lift_ok_apply _ _), indexSlice_of_some cell,
    Prog.bind_of_ok (Prog.lift_ok_apply _ _), indexSlice_of_some held,
    Prog.bind_of_ok (Prog.lift_ok_apply _ _), located, Prog.bind_of_ok (Prog.lift_ok_apply _ _),
    Prog.bind_update_apply, show wrapRing (registerFile profile).profile _ _ = _ from wraps]
  rfl

theorem rearmDescriptor_outside {rxIndex buf : Nat} {desc : AdvancedRxDescriptor}
    (found : machine.dev.rxQueues[queueId]? = some queue)
    (cell : queue.descriptors.cells[rxIndex]? = some desc)
    (held : queue.bufsInUse[rxIndex]? = some buf)
    (outside : (machine.arcs.pool queue.pool).numEntries ≤ buf) :
    rearmDescriptor (registerFile profile) queueId rxIndex machine =
      .error (.panic .indexOutOfBounds) := by
  rw [rearmDescriptor, Prog.bind_read_apply, indexSlice_of_some found,
    Prog.bind_of_ok (Prog.lift_ok_apply _ _), indexSlice_of_some cell,
    Prog.bind_of_ok (Prog.lift_ok_apply _ _), indexSlice_of_some held,
    Prog.bind_of_ok (Prog.lift_ok_apply _ _), MemPool.getPhysAddr_outside outside]
  rfl

/-- The machine in the callback of a round. -/
def Machine.inCallback (machine : Machine RegisterFile) (queueId size : Nat) (queue : IgbRxQueue)
    (k : Nat) : Machine RegisterFile :=
  { machine.setRxQueue queueId ((queue.refilled size machine.arcs k).afterTake
      ((queue.rxIndex + k) % size) (machine.arcs.nextFree queue.pool k)) with
    arcs := machine.arcs.exchanged queue.pool (k + 1) }

/-- The descriptor `j` places after the cursor, `k` rounds into a call. -/
theorem refilled_slot (ready : Deliverable profile qs queueId machine queue) (k : Nat) {j : Nat}
    (short : j < qs) {desc : AdvancedRxDescriptor}
    (cell : queue.descriptors.cells[(queue.rxIndex + j) % qs]? = some desc) :
    (queue.refilled qs machine.arcs k).descriptors.cells[(queue.rxIndex + j) % qs]? =
      some (if j < k then queue.rearmedAt machine.arcs j desc else desc) := by
  simp only [IgbRxQueue.refilled]
  rw [Ring.getElem?_updateFrom ready.rxIndex short, cell, Option.map_some]

section Half

variable (ready : Deliverable profile qs queueId machine queue) (waits : k < queue.readyRun qs)
include ready waits

theorem refilled_cell : ∃ desc, queue.descriptors.cells[(queue.rxIndex + k) % qs]? = some desc ∧
    (queue.refilled qs machine.arcs k).descriptors.cells[(queue.rxIndex + k) % qs]? = some desc ∧
    desc.done = true ∧ desc.endOfPacket = true := by
  have short : k < qs := Nat.lt_of_lt_of_le waits (readyRun_le queue qs)
  obtain ⟨desc, cell, member⟩ := ready.cell k
  have done : desc.done = true := (readyAt_iff cell).symm.trans (readyAt_of_lt waits)
  refine ⟨desc, cell, ?_, done, ready.whole desc member done⟩
  rw [refilled_slot ready k short cell, if_neg (Nat.lt_irrefl k)]

theorem takeFrame_round (stocked : k < (machine.arcs.free queue.pool).length) :
    takeFrame (registerFile profile) queueId ((queue.rxIndex + k) % qs)
        (machine.afterRounds queueId qs queue k) =
      .ok (.ok (some { packet := queue.packetAt qs machine.arcs k }),
        machine.inCallback queueId qs queue k) := by
  have short : k < qs := Nat.lt_of_lt_of_le waits (readyRun_le queue qs)
  obtain ⟨desc, cell, cell', done, ends⟩ := refilled_cell ready waits
  obtain ⟨entry, held, inside⟩ := ready.buf k
  have held' : (queue.refilled qs machine.arcs k).bufsInUse[(queue.rxIndex + k) % qs]? =
      some entry := by
    simp only [IgbRxQueue.refilled]
    rw [Ring.getElem?_updateFrom ready.rxIndex short, held, Option.map_some,
      if_neg (Nat.lt_irrefl k)]
  have virt : ((machine.afterRounds queueId qs queue k).arcs.pool queue.pool).getVirtAddr
    profile entry =
      .ok ((machine.arcs.pool queue.pool).virtAddress entry) := by
    rw [Machine.afterRounds, pool_exchanged]
    exact ready.virt entry inside
  have phys : ((machine.afterRounds queueId qs queue k).arcs.pool queue.pool).getPhysAddr entry =
      .ok ((machine.arcs.pool queue.pool).busAddress entry).toNat := by
    rw [Machine.afterRounds, pool_exchanged]
    exact MemPool.Allocated.getPhysAddr_apply inside
  have packet : queue.packetAt qs machine.arcs k =
      { addrVirt := (machine.arcs.pool queue.pool).virtAddress entry
        addrPhys := ((machine.arcs.pool queue.pool).busAddress entry).toNat
        len := desc.length, pool := queue.pool, poolEntry := entry } := by
    simp only [IgbRxQueue.packetAt, List.getD_eq_getElem?_getD, cell, held, Option.getD_some]
  rw [takeFrame_apply (rxQueues_afterRounds ready k) cell' done ends
    (stack_exchanged stocked) held' virt phys, packet, Machine.inCallback, ← exchanged_succ]
  simp only [Machine.afterRounds, Machine.setRxQueue, List.set_set]
  rfl

/-- In the callback the queue already holds the entry that replaces the frame's. -/
theorem inCallback_queue :
    (machine.inCallback queueId qs queue k).dev.rxQueues[queueId]? =
      some ((queue.refilled qs machine.arcs k).afterTake ((queue.rxIndex + k) % qs)
        (machine.arcs.nextFree queue.pool k)) ∧
    ((queue.refilled qs machine.arcs k).afterTake ((queue.rxIndex + k) % qs)
      (machine.arcs.nextFree queue.pool k)).bufsInUse[(queue.rxIndex + k) % qs]? =
        some (machine.arcs.nextFree queue.pool k) := by
  have short : k < qs := Nat.lt_of_lt_of_le waits (readyRun_le queue qs)
  refine ⟨List.getElem?_set_self (List.getElem?_eq_some_iff.mp ready.found).1,
    List.getElem?_set_self ?_⟩
  simp only [IgbRxQueue.refilled]
  rw [Ring.length_updateFrom, ready.bufs]
  exact Nat.mod_lt _ (Nat.zero_lt_of_lt short)

omit waits in
theorem refilled_succ (short : k < qs) {desc : AdvancedRxDescriptor} {entry : Nat}
    (cell : queue.descriptors.cells[(queue.rxIndex + k) % qs]? = some desc)
    (held : queue.bufsInUse[(queue.rxIndex + k) % qs]? = some entry) :
    ((queue.refilled qs machine.arcs k).afterTake ((queue.rxIndex + k) % qs)
      (machine.arcs.nextFree queue.pool k)).afterRearm ((queue.rxIndex + k) % qs) desc
        ((machine.arcs.pool queue.pool).busAddress (machine.arcs.nextFree queue.pool k)).toNat =
      queue.refilled qs machine.arcs (k + 1) := by
  have cells :
    (Ring.updateFrom qs queue.rxIndex k (queue.rearmedAt machine.arcs) queue.descriptors.cells).set
      ((queue.rxIndex + k) % qs) (queue.rearmedAt machine.arcs k desc) = _ :=
    Ring.set_updateFrom _ ready.rxIndex short ready.cells cell
  have bufs : (Ring.updateFrom qs queue.rxIndex k (fun k _ => machine.arcs.nextFree queue.pool k)
      queue.bufsInUse).set ((queue.rxIndex + k) % qs) (machine.arcs.nextFree queue.pool k) = _ :=
    Ring.set_updateFrom (fun k _ => machine.arcs.nextFree queue.pool k) ready.rxIndex short
      ready.bufs held
  simp only [IgbRxQueue.refilled]
  rw [← cells, ← bufs]
  rfl

theorem rearmDescriptor_round (power : qs.isPowerOfTwo) (bound : qs < usizeModulus)
    (inside : machine.arcs.nextFree queue.pool k < (machine.arcs.pool queue.pool).numEntries) :
    rearmDescriptor (registerFile profile) queueId ((queue.rxIndex + k) % qs)
        (machine.inCallback queueId qs queue k) =
      .ok (.ok ((queue.rxIndex + (k + 1)) % qs), machine.afterRounds queueId qs queue (k + 1)) := by
  have short : k < qs := Nat.lt_of_lt_of_le waits (readyRun_le queue qs)
  have positive : 0 < qs := Nat.zero_lt_of_lt short
  obtain ⟨desc, cell, cell', _⟩ := refilled_cell ready waits
  obtain ⟨entry, held, _⟩ := ready.buf k
  have slot := Nat.mod_lt (queue.rxIndex + k) positive
  obtain ⟨found, top⟩ := inCallback_queue ready waits
  have located : ((machine.inCallback queueId qs queue k).arcs.pool queue.pool).getPhysAddr
      (machine.arcs.nextFree queue.pool k) =
        .ok ((machine.arcs.pool queue.pool).busAddress
          (machine.arcs.nextFree queue.pool k)).toNat := by
    rw [Machine.inCallback, pool_exchanged]
    exact MemPool.Allocated.getPhysAddr_apply inside
  have wraps : wrapRing profile ((queue.rxIndex + k) % qs) queue.numDescriptors =
      .ok ((queue.rxIndex + (k + 1)) % qs) := by
    rw [ready.numDescriptors, wrapRing_of_lt power bound slot, Ring.succ_mod, Nat.add_assoc]
  rw [rearmDescriptor_apply found cell' top located wraps, refilled_succ ready short cell held]
  simp only [Machine.inCallback, Machine.afterRounds, Machine.setRxQueue, List.set_set]

/-- One round: the next entry of the stack goes into the ring if the pool has it. -/
theorem receiveLoop_round (power : qs.isPowerOfTwo) (bound : qs < usizeModulus)
    (stocked : k < (machine.arcs.free queue.pool).length) (todo last : Nat) (kept : List Packet) :
    receiveLoop (registerFile profile) keepPackets queueId (todo + 1)
      ((queue.rxIndex + k) % qs) last k kept (machine.afterRounds queueId qs queue k) =
      if machine.arcs.nextFree queue.pool k < (machine.arcs.pool queue.pool).numEntries then
        receiveLoop (registerFile profile) keepPackets queueId todo ((queue.rxIndex + (k + 1)) % qs)
          ((queue.rxIndex + k) % qs) (k + 1) (kept ++ [queue.packetAt qs machine.arcs k])
          (machine.afterRounds queueId qs queue (k + 1))
      else .error (.panic .indexOutOfBounds) := by
  have kept_apply : withArcs (keepPackets { packet := queue.packetAt qs machine.arcs k } kept)
      (machine.inCallback queueId qs queue k) =
        .ok (.ok (kept ++ [queue.packetAt qs machine.arcs k]),
          machine.inCallback queueId qs queue k) := rfl
  rw [receiveLoop]
  simp only [Prog.bind_of_ok (takeFrame_round ready waits stocked), Prog.bind_of_ok kept_apply]
  split
  · rename_i inside
    rw [Prog.bind_of_ok (rearmDescriptor_round ready waits power bound inside)]
  · rename_i outside
    obtain ⟨desc, _, cell, _⟩ := refilled_cell ready waits
    obtain ⟨found, top⟩ := inCallback_queue ready waits
    have panics : rearmDescriptor (registerFile profile) queueId ((queue.rxIndex + k) % qs)
        (machine.inCallback queueId qs queue k) = .error (.panic .indexOutOfBounds) := by
      apply rearmDescriptor_outside found cell top
      change ((machine.arcs.exchanged queue.pool (k + 1)).pool queue.pool).numEntries ≤ _
      rw [pool_exchanged]
      exact Nat.le_of_not_lt outside
    rw [Prog.bind_of_abort panics]

end Half

/-- The loop stops where the run ends or the stack is empty. -/
theorem takeFrame_last (ready : Deliverable profile qs queueId machine queue)
    (inside : k ≤ queue.readyRun qs)
    (ends : k = queue.readyRun qs ∨ k = (machine.arcs.free queue.pool).length) :
    takeFrame (registerFile profile) queueId ((queue.rxIndex + k) % qs)
        (machine.afterRounds queueId qs queue k) =
      .ok (.ok none, machine.afterRounds queueId qs queue k) := by
  have positive : 0 < qs := Nat.zero_lt_of_lt ready.rxIndex
  rcases Nat.lt_or_ge k qs with short | lap
  · obtain ⟨desc, cell, member⟩ := ready.cell k
    have cell' := refilled_slot ready k short cell
    rw [if_neg (Nat.lt_irrefl k)] at cell'
    apply takeFrame_stops (rxQueues_afterRounds ready k) cell'
    rcases ends with same | empty
    · left
      rw [← readyAt_iff cell, same]
      exact not_readyAt_readyRun (by omega)
    · right
      refine ⟨ready.whole desc member, ?_⟩
      change (machine.arcs.exchanged queue.pool k).free queue.pool = []
      rw [free_exchanged, empty, Nat.sub_self, List.take_zero]
  · -- After a whole lap the cursor is back at the first descriptor, armed again.
    obtain rfl : k = qs := Nat.le_antisymm (Nat.le_trans inside (readyRun_le queue qs)) lap
    obtain ⟨desc, cell, _⟩ := ready.cell 0
    have cell' := refilled_slot ready k positive cell
    rw [if_pos positive, Nat.add_zero, ← Nat.add_mod_right] at cell'
    apply takeFrame_stops (rxQueues_afterRounds ready k) cell'
    left
    exact AdvancedRxDescriptor.done_resetStatus _

end Round

end IgbDriver
