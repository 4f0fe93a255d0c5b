import IgbDriver.Custody
import IgbDriver.Delivery
import IgbDriver.Rejection

namespace IgbDriver

open Foundation

/-! # What lets the pieces of the operations return

Under the invariants of the rings each piece of a driver call comes to its end: no
index leaves its slice, no arithmetic overflows, no assertion fails.
-/

variable {profile : Profile} {machine : Machine RegisterFile} {size queueId : Nat}

/-- The result is not an abort. -/
def Returns {α : Type} (result : Except (Abort Panic) α) : Prop := ∃ value, result = .ok value

theorem Returns.bind {α β : Type} {first : Except (Abort Panic) α}
    {next : α → Except (Abort Panic) β} (returns : Returns first)
    (rest : ∀ value, first = .ok value → Returns (next value)) :
    Returns (first >>= next) := by
  obtain ⟨value, rfl⟩ := returns
  exact rest value rfl

theorem Returns.perform {α : Type} {program : Driver RegisterFile α} {system : System}
    (returns : Returns (program system.machine)) : Returns (system.perform program) :=
  Returns.bind returns fun _ _ => ⟨_, rfl⟩

section Transmit

theorem enqueuePacket_returns {queue : IgbTxQueue} (packet : Packet) (shape : TxShape size queue)
    (bound : size < usizeModulus) :
    Returns (enqueuePacket (registerFile profile) queueId queue packet machine) := by
  obtain ⟨desc, cell⟩ : ∃ desc, queue.descriptors.cells[queue.txIndex]? = some desc :=
    ⟨_, List.getElem?_eq_getElem (by rw [shape.cells]; exact shape.txIndex)⟩
  have wraps : wrapRing profile queue.txIndex queue.numDescriptors =
      .ok ((queue.txIndex + 1) &&& (size - 1)) := by
    rw [shape.numDescriptors]
    exact wrapRing_mask bound shape.txIndex
  have switched : withArcs (fun arcs => .ok (switchPool queue.pool packet.pool arcs)) machine =
      .ok (.ok (some packet.pool),
        { machine with arcs := (switchPool queue.pool packet.pool machine.arcs).2 }) := by
    rw [← switchPool_fst queue.pool packet.pool machine.arcs]
    rfl
  rw [enqueuePacket, Prog.bind_of_ok switched, if_neg (not_not_intro rfl),
    show wrapRing (registerFile profile).profile _ _ = _ from wraps,
    Prog.bind_of_ok (Prog.lift_ok_apply _ _),
    indexSlice_of_some cell, Prog.bind_of_ok (Prog.lift_ok_apply _ _)]
  exact ⟨_, rfl⟩

theorem sendEnqueue_returns {packet : Packet} {arcs : Arcs} (bound : size < usizeModulus)
    (dropped : packet.drop machine.arcs = .ok arcs)
    (shape : ∀ queue, machine.dev.txQueues[queueId]? = some queue → size.isPowerOfTwo ∧
      TxShape size queue) :
    Returns (sendEnqueue (registerFile profile) queueId { packet } machine) := by
  simp only [sendEnqueue, Prog.bind_apply, Prog.read_apply]
  cases found : machine.dev.txQueues[queueId]? with
  | none =>
      simp only
      rw [Prog.bind_of_ok (dropPacket_apply dropped)]
      exact ⟨_, rfl⟩
  | some queue =>
      simp only
      obtain ⟨power, shape⟩ := shape queue found
      rw [show queue.canSend (registerFile profile).profile =
        _ from shape.canSend_eq power bound profile, Prog.bind_of_ok (Prog.lift_ok_apply _ _)]
      split
      · exact enqueuePacket_returns packet shape bound
      · rw [Prog.bind_of_ok (dropPacket_apply dropped)]
        exact ⟨_, rfl⟩

theorem sendDoorbell_returns {queue : IgbTxQueue}
    (found : machine.dev.txQueues[queueId]? = some queue)
    (window : InWindow profile machine.dev.len (igbTdt queueId)) :
    Returns (sendDoorbell (registerFile profile) queueId machine) := by
  rw [sendDoorbell, Prog.bind_read_apply, indexSlice_of_some found,
    Prog.bind_of_ok (Prog.lift_ok_apply _ _), setReg32_apply _ window]
  exact ⟨_, rfl⟩

theorem recycleRound_returns {queue : IgbTxQueue} (shape : TxShape size queue)
    (power : size.isPowerOfTwo) (small : size < 2147483648)
    (found : machine.dev.txQueues[queueId]? = some queue) {curIndex cleanIndex : Nat}
    (insideCur : curIndex < size) (insideClean : cleanIndex < size) :
    Returns (recycleRound (registerFile profile) queueId curIndex cleanIndex machine) := by
  have positive := Ring.pos_of_isPowerOfTwo power
  have narrow : size < usizeModulus := by simp only [usizeModulus]; omega
  have far := Ring.distance_lt positive cleanIndex curIndex
  have counted : cleanable profile size curIndex cleanIndex =
      .ok (Ring.distance size cleanIndex curIndex : Int) :=
    cleanable_distance small insideCur insideClean
  by_cases few : Ring.distance size cleanIndex curIndex < txCleanBatch
  · rw [← shape.numDescriptors] at counted
    exact ⟨_, recycleRound_break found counted (by rw [shape.numDescriptors]; omega)⟩
  · obtain ⟨desc, cell⟩ : ∃ desc,
        queue.descriptors.cells[(cleanIndex + (txCleanBatch - 1)) % size]? = some desc :=
      ⟨_, List.getElem?_eq_getElem (by rw [shape.cells]; exact Nat.mod_lt _ positive)⟩
    exact ⟨_, recycleRound_at power narrow found shape.numDescriptors insideClean (by omega) counted
      (by omega) cell⟩

theorem recycleCommit_returns {queue : IgbTxQueue}
    (found : machine.dev.txQueues[queueId]? = some queue)
    (cleanIndex : Nat) : Returns (recycleCommit queueId cleanIndex machine) := by
  rw [recycleCommit, Prog.bind_read_apply, indexSlice_of_some found]
  exact ⟨_, rfl⟩

end Transmit

section Receive

variable {queue : IgbRxQueue} {pool : PoolRef} {rxIndex : Nat}

/-- What re-arming a descriptor needs of its queue and of the pool behind it. -/
structure Placed (profile : Profile) (size : Nat) (arcs : Arcs) (queue : IgbRxQueue) : Prop where
  numDescriptors : queue.numDescriptors = size
  cells : queue.descriptors.cells.length = size
  bufs : queue.bufsInUse.length = size
  located : ∀ entry ∈ queue.bufsInUse, ∃ virt phys,
    (arcs.pool queue.pool).getVirtAddr profile entry = .ok virt ∧
    (arcs.pool queue.pool).getPhysAddr entry = .ok phys

/-- What the receive loop needs besides: a device that ends each frame where it begins. -/
structure Servable (profile : Profile) (size : Nat) (arcs : Arcs) (queue : IgbRxQueue) : Prop
    extends Placed profile size arcs queue where
  whole : ∀ desc ∈ queue.descriptors.cells, desc.done = true → desc.endOfPacket = true

/-- The loop takes a frame, or stops, unless it meets a frame that goes on elsewhere. -/
theorem takeFrame_outcome {desc : AdvancedRxDescriptor}
    (placed : Placed profile size machine.arcs queue)
    (found : machine.dev.rxQueues[queueId]? = some queue)
    (cell : queue.descriptors.cells[rxIndex]? = some desc) :
    (desc.done = true ∧ desc.endOfPacket = false ∧
        takeFrame (registerFile profile) queueId rxIndex machine =
          .error (.panic .bufferTooSmall)) ∨
      (desc.done = true → desc.endOfPacket = true) ∧
      Returns (takeFrame (registerFile profile) queueId rxIndex machine) := by
  obtain ⟨entry, held⟩ : ∃ entry, queue.bufsInUse[rxIndex]? = some entry := by
    have inside := (List.getElem?_eq_some_iff.mp cell).1
    exact ⟨_, List.getElem?_eq_getElem (by rw [placed.bufs, ← placed.cells]; exact inside)⟩
  cases done : desc.done with
  | false => exact .inr ⟨nofun, _, takeFrame_stops found cell (.inl done)⟩
  | true =>
      cases ends : desc.endOfPacket with
      | false =>
          refine .inl ⟨rfl, rfl, ?_⟩
          rw [takeFrame, Prog.bind_read_apply, indexSlice_of_some found,
            Prog.bind_of_ok (Prog.lift_ok_apply _ _),
            indexSlice_of_some cell, Prog.bind_of_ok (Prog.lift_ok_apply _ _), done, ends]
          rfl
      | true =>
          refine .inr ⟨fun _ => rfl, ?_⟩
          rcases List.eq_nil_or_concat (machine.arcs.free queue.pool) with
            empty | ⟨rest, buf, stack⟩
          · exact ⟨_, takeFrame_stops found cell (.inr ⟨fun _ => ends, empty⟩)⟩
          · obtain ⟨virt, phys, virtually, physically⟩ :=
              placed.located entry (List.mem_of_getElem? held)
            rw [List.concat_eq_append] at stack
            exact ⟨_, takeFrame_apply found cell done ends stack held virtually physically⟩

theorem rearmDescriptor_returns (placed : Placed profile size machine.arcs queue)
    (bound : size < usizeModulus) (found : machine.dev.rxQueues[queueId]? = some queue)
    (inside : rxIndex < size) :
    Returns (rearmDescriptor (registerFile profile) queueId rxIndex machine) := by
  obtain ⟨desc, cell⟩ : ∃ desc, queue.descriptors.cells[rxIndex]? = some desc :=
    ⟨_, List.getElem?_eq_getElem (by rw [placed.cells]; exact inside)⟩
  obtain ⟨entry, held⟩ : ∃ entry, queue.bufsInUse[rxIndex]? = some entry :=
    ⟨_, List.getElem?_eq_getElem (by rw [placed.bufs]; exact inside)⟩
  obtain ⟨_, phys, _, physically⟩ := placed.located entry (List.mem_of_getElem? held)
  have wraps : wrapRing profile rxIndex queue.numDescriptors =
      .ok ((rxIndex + 1) &&& (size - 1)) := by
    rw [placed.numDescriptors]
    exact wrapRing_mask bound inside
  exact ⟨_, rearmDescriptor_apply found cell held physically wraps⟩

theorem receiveCommit_returns (found : machine.dev.rxQueues[queueId]? = some queue)
    (window : InWindow profile machine.dev.len (igbRdt queueId)) (rxIndex lastRxIndex : Nat) :
    Returns (receiveCommit (registerFile profile) queueId rxIndex lastRxIndex machine) := by
  unfold receiveCommit
  split
  · rw [Prog.bind_of_ok (setReg32_apply _ window), Prog.bind_read_apply, indexSlice_of_some found]
    exact ⟨_, rfl⟩
  · exact ⟨_, rfl⟩

end Receive

end IgbDriver
