import IgbDriver.Robust

namespace IgbDriver

open Foundation

/-! # When a step aborts

Where the platform keeps its promises and the pools are as they were allocated, two things
are left that can abort: `clone`, which has no other way to say that no buffer is to be
had, and the receive loop, which takes no frame that the device split. A device that
keeps its order splits none.
-/

/-- The caller copies a packet for which no buffer is to be had. -/
def System.OutOfBuffers (system : System) (action : Action) : Prop :=
  ∃ position packet, action = .pool (.clone position) ∧ system.control.admitsCaller = true ∧
    system.live[position]? = some packet ∧ system.Exhausted packet

/-- The receive loop has come to a frame that goes on in another descriptor. -/
def System.OnSplitFrame (system : System) (action : Action) : Prop :=
  ∃ queueId todo rxIndex lastRxIndex recvNums queue desc, action = .resume ∧
    system.control = .receiving queueId (todo + 1) rxIndex lastRxIndex recvNums ∧
    system.rxQueue? queueId = some queue ∧ queue.descriptors.cells[rxIndex]? = some desc ∧
    desc.done = true ∧ desc.endOfPacket = false

section Steps

variable {σ : Type} {host : Host σ} {translate : Nat → Nat} {size queueId : Nat} {pool : PoolRef}
  {system : System} {action : Action} {reason : Abort Panic}

section Pieces

variable (robust : Robust host translate size pool system)
include robust

theorem Robust.placed {queue : IgbRxQueue} (found : system.rxQueue? queueId = some queue) :
    Placed host.profile size system.machine.arcs queue := by
  obtain ⟨shape, _⟩ := robust.shaped.receive queueId queue found
  refine ⟨shape.numDescriptors, shape.cells, shape.bufs, fun entry member => ?_⟩
  have inside := (robust.within queue.pool).rx_lt found rfl member
  obtain ⟨virtually, physically⟩ := (robust.allocated queue.pool).located inside
  exact ⟨_, _, virtually, physically⟩

theorem Robust.receive_returns (packetNums : Nat) :
    Returns (receiveStep system queueId packetNums) := by
  unfold receiveStep
  split
  · exact ⟨_, rfl⟩
  · rename_i queue found
    obtain ⟨shape, _⟩ := robust.shaped.receive queueId queue found
    obtain ⟨desc, cell⟩ : ∃ desc, queue.descriptors.cells[queue.rxIndex]? = some desc :=
      ⟨_, List.getElem?_eq_getElem (by rw [shape.cells]; exact shape.rxIndex)⟩
    rw [IgbRxQueue.canRecv, indexSlice_of_some cell]
    cases done : desc.done <;> exact ⟨_, by rw [except_ok_bind, except_ok_bind, done]; rfl⟩

/-- A round of the receive loop returns, unless it meets a frame that is split. -/
theorem Robust.take_aborts_iff {todo rxIndex lastRxIndex recvNums : Nat}
    (control : system.control = .receiving queueId todo rxIndex lastRxIndex recvNums) :
    takeFrameStep host.profile system queueId todo rxIndex lastRxIndex recvNums = .error reason ↔
      reason = .panic .bufferTooSmall ∧ system.OnSplitFrame .resume := by
  cases todo with
  | zero =>
      refine ⟨nofun, fun both => ?_⟩
      obtain ⟨_, _, _, _, _, _, _, _, other, _⟩ := both.2
      cases control.symm.trans other
  | succ todo =>
      have attached := robust.shaped.attached
      have inside := robust.shaped.positioned
      rw [System.Attached, control] at attached
      rw [System.Positioned, control] at inside
      have found : system.rxQueue? queueId = some _ := List.getElem?_eq_getElem attached
      have placed := robust.placed found
      obtain ⟨desc, cell⟩ : ∃ desc,
          system.machine.dev.rxQueues[queueId].descriptors.cells[rxIndex]? = some desc :=
        ⟨_, List.getElem?_eq_getElem (by rw [placed.cells]; exact inside)⟩
      rw [takeFrameStep, System.perform]
      rcases takeFrame_outcome placed found cell with
        ⟨done, split, failed⟩ | ⟨whole, ⟨result, middle⟩, returned⟩
      · rw [failed]
        refine ⟨fun aborted => ⟨(Except.error.inj aborted).symm, ?_⟩,
          fun both => by rw [both.1]; rfl⟩
        exact ⟨queueId, todo, rxIndex, lastRxIndex, recvNums, _, desc, rfl, control, found,
          cell, done, split⟩
      · rw [returned]
        constructor
        · intro aborted
          rcases result with failure | _ | rxBuf <;> cases aborted
        · rintro ⟨_, _, _, _, _, _, _, _, _, other, here, at_, done, split⟩
          cases control.symm.trans other
          cases found.symm.trans here
          cases cell.symm.trans at_
          rw [whole done] at split
          cases split

variable (small : 16 * size < 4294967296)
include small

theorem Robust.send_returns {packet : Packet} {position : Nat}
    (owned : system.live[position]? = some packet) :
    Returns (sendStep host.profile system queueId packet position) := by
  have narrow : size < usizeModulus := by simp only [usizeModulus]; omega
  obtain ⟨arcs, dropped⟩ := (robust.within packet.pool).drop_returns (List.mem_of_getElem? owned)
  have shape : ∀ queue, system.machine.dev.txQueues[queueId]? = some queue → size.isPowerOfTwo ∧
      TxShape size queue := by
    intro queue found
    exact ⟨robust.shaped.powered_tx found, (robust.shaped.transmit queueId queue found).1⟩
  refine Returns.bind (Returns.perform (sendEnqueue_returns narrow dropped shape))
    (fun outcome _ => ?_)
  obtain ⟨result, final⟩ := outcome
  cases result <;> exact ⟨_, rfl⟩

theorem Robust.round_returns {curIndex cleanIndex : Nat}
    (control : system.control = .recycling queueId curIndex cleanIndex) :
    Returns (recycleRoundStep host.profile system queueId curIndex cleanIndex) := by
  have attached := robust.shaped.attached
  have inside := robust.shaped.positioned.recycling control
  rw [System.Attached, control] at attached
  have found : system.txQueue? queueId = some _ := List.getElem?_eq_getElem attached
  obtain ⟨shape, _⟩ := robust.shaped.transmit queueId _ found
  have returns : Returns
      (recycleRound (registerFile host.profile) queueId curIndex cleanIndex system.machine) :=
    recycleRound_returns shape (robust.shaped.powered_tx found) (by omega) found inside.1 inside.2
  refine Returns.bind (Returns.perform returns) (fun outcome ran => ?_)
  obtain ⟨result, middle⟩ := outcome
  cases result with
  | error failure => exact ⟨_, rfl⟩
  | ok next =>
      cases next with
      | some next => exact ⟨_, rfl⟩
      | none =>
          -- The last round only looks, so the queue is still there to be committed.
          obtain ⟨machine, round, state⟩ := perform_ok ran
          simp only at round state
          obtain ⟨queue, here, ⟨_, same⟩ | ⟨_, next, _, _, other, _⟩⟩ := recycleRound_ok round
          · subst state same
            exact Returns.bind (Returns.perform (recycleCommit_returns here _))
              (fun _ _ => ⟨_, rfl⟩)
          · cases other

theorem Robust.rearm_returns {todo rxIndex lastRxIndex recvNums : Nat}
    (control : system.control = .delivering queueId todo rxIndex lastRxIndex recvNums) :
    Returns (rearmStep host.profile system queueId todo rxIndex recvNums) := by
  have narrow : size < usizeModulus := by simp only [usizeModulus]; omega
  have attached := robust.shaped.attached
  have inside := robust.shaped.positioned
  rw [System.Attached, control] at attached
  rw [System.Positioned, control] at inside
  have found : system.rxQueue? queueId = some _ := List.getElem?_eq_getElem attached
  have placed := robust.placed found
  refine Returns.bind (Returns.perform (rearmDescriptor_returns placed narrow found inside))
    (fun outcome _ => ?_)
  obtain ⟨result, middle⟩ := outcome
  cases result <;> exact ⟨_, rfl⟩

/-- Whatever piece of a call comes next, it returns or meets a frame that is split. -/
theorem Robust.resume_aborts_iff :
    resumeStep host.profile system system.control = some (.error reason) ↔
      reason = .panic .bufferTooSmall ∧ system.OnSplitFrame .resume := by
  have attached := robust.shaped.attached
  unfold System.Attached at attached
  have elsewhere : ∀ {result : Except (Abort Panic) (List Event × System)}, Returns result →
      (∀ queueId todo rxIndex lastRxIndex recvNums,
        system.control ≠ .receiving queueId (todo + 1) rxIndex lastRxIndex recvNums) →
      (some result = some (.error reason) ↔ reason = .panic .bufferTooSmall ∧
        system.OnSplitFrame .resume) := by
    rintro result ⟨value, rfl⟩ other
    refine ⟨nofun, fun both => ?_⟩
    obtain ⟨queueId, todo, rxIndex, lastRxIndex, recvNums, _, _, _, control, _⟩ := both.2
    exact absurd control (other queueId todo rxIndex lastRxIndex recvNums)
  cases control : system.control with
  | idle =>
      refine ⟨nofun, fun both => ?_⟩
      obtain ⟨_, _, _, _, _, _, _, _, other, _⟩ := both.2
      cases control.symm.trans other
  | ringing queueId =>
      rw [control] at attached
      have found : system.txQueue? queueId = some _ := List.getElem?_eq_getElem attached
      obtain ⟨_, window⟩ := robust.shaped.transmit queueId _ found
      apply elsewhere
      · exact Returns.bind (Returns.perform (sendDoorbell_returns found window))
          (fun _ _ => ⟨_, rfl⟩)
      · intros
        simp [control]
  | recycling queueId curIndex cleanIndex =>
      apply elsewhere
      · exact robust.round_returns small control
      · intros
        simp [control]
  | receiving queueId todo rxIndex lastRxIndex recvNums =>
      rw [← robust.take_aborts_iff control]
      exact Option.some_inj
  | delivering queueId todo rxIndex lastRxIndex recvNums =>
      apply elsewhere
      · exact robust.rearm_returns small control
      · intros
        simp [control]
  | publishing queueId rxIndex lastRxIndex recvNums =>
      rw [control] at attached
      have found : system.rxQueue? queueId = some _ := List.getElem?_eq_getElem attached
      obtain ⟨_, window⟩ := robust.shaped.receive queueId _ found
      apply elsewhere
      · exact Returns.bind (Returns.perform (receiveCommit_returns found window _ _))
          (fun _ _ => ⟨_, rfl⟩)
      · intros
        simp [control]

end Pieces

/-- Of the operations on the pools only `clone` aborts, for want of a buffer. -/
theorem Robust.pool_aborts_iff (robust : Robust host translate size pool system)
    {operation : PoolAction} (honest : NoConstruct system (.pool operation)) :
    next host.profile system (.pool operation) = some (.error reason) ↔
      reason = .panic .noBufferAvailable ∧ system.OutOfBuffers (.pool operation) := by
  constructor
  · intro aborted
    simp only [next] at aborted
    split at aborted
    · rename_i admitted
      obtain ⟨result, stepped, same⟩ := Option.map_eq_some_iff.mp aborted
      cases result with
      | ok state => cases same
      | error other =>
          cases same
          obtain ⟨position, packet, rfl, owned, why, exhausted⟩ :=
            poolStep_aborts robust.laid robust.allocated robust.within honest stepped
          exact ⟨why, position, packet, rfl, admitted, owned, exhausted⟩
    · cases aborted
  · rintro ⟨rfl, position, packet, same, admitted, owned, exhausted⟩
    cases same
    have cloned := (clone_aborts_iff robust.laid robust.allocated robust.within).mpr
      ⟨rfl, exhausted⟩
    simp only [next, if_pos admitted, poolStep, owned]
    rw [cloned]
    rfl

theorem Robust.aborts_iff (robust : Robust host translate size pool system)
    (small : 16 * size < 4294967296)
    (honest : NoConstruct system action) : next host.profile system action = some (.error reason) ↔
      (reason = .panic .noBufferAvailable ∧ system.OutOfBuffers action) ∨
        reason = .panic .bufferTooSmall ∧ system.OnSplitFrame action := by
  -- The actions other than these two kinds return.
  have neither : (∀ operation, action ≠ .pool operation) → action ≠ .resume →
      ¬ ((reason = .panic .noBufferAvailable ∧ system.OutOfBuffers action) ∨
        reason = .panic .bufferTooSmall ∧ system.OnSplitFrame action) := by
    rintro notPool notResume (⟨_, position, _, same, _⟩ | ⟨_, _, _, _, _, _, _, _, same, _⟩)
    · exact notPool _ same
    · exact notResume same
  cases action with
  | pool operation =>
      rw [robust.pool_aborts_iff honest]
      refine ⟨.inl, fun either => ?_⟩
      rcases either with copies | ⟨_, _, _, _, _, _, _, _, same, _⟩
      · exact copies
      · cases same
  | resume =>
      rw [next, robust.resume_aborts_iff small]
      refine ⟨.inr, fun either => ?_⟩
      rcases either with ⟨_, _, _, same, _⟩ | split
      · cases same
      · exact split
  | send queueId position =>
      refine iff_of_false (fun aborted => ?_) (neither (by simp) (by simp))
      simp only [next] at aborted
      split at aborted
      · obtain ⟨packet, owned, same⟩ := Option.map_eq_some_iff.mp aborted
        obtain ⟨_, returned⟩ : Returns (sendStep host.profile system queueId packet position) :=
          robust.send_returns small owned
        cases same.symm.trans returned
      · cases aborted
  | recycle queueId =>
      refine iff_of_false (fun aborted => ?_) (neither (by simp) (by simp))
      simp only [next] at aborted
      split at aborted <;> cases aborted
  | receive queueId packetNums =>
      refine iff_of_false (fun aborted => ?_) (neither (by simp) (by simp))
      simp only [next] at aborted
      split at aborted
      · obtain ⟨_, returned⟩ : Returns (receiveStep system queueId packetNums) :=
          robust.receive_returns packetNums
        cases (Option.some.inj aborted).symm.trans returned
      · cases aborted
  | rxStore | txDone =>
      refine iff_of_false (fun aborted => ?_) (neither (by simp) (by simp))
      obtain ⟨_, _, other⟩ := Option.map_eq_some_iff.mp aborted
      cases other

end Steps

section Result

variable {σ : Type} {host : Host σ} {translate : Nat → Nat} {qs numRx numTx : Nat} {pool : PoolRef}
  {before : Arcs} {system after : System} {trace : List Event} {action : Action}
  {reason : Abort Panic}

theorem Deployment.outOfBuffers
    (deployed : Deployment host translate qs numRx numTx pool before system)
    (allocated : ∀ ref, (before.pool ref).Allocated host)
    (run : Run (next host.profile) (Orderly pool) system trace after)
    (permitted : Orderly pool after action) :
    next host.profile after action = some (.error reason) ↔
      reason = .panic .noBufferAvailable ∧ after.OutOfBuffers action := by
  have robust := deployed.robust allocated (run.weaken fun _ _ permitted => permitted.2)
  rw [robust.aborts_iff deployed.small permitted.2.1]
  refine ⟨fun either => either.resolve_right ?_, .inl⟩
  rintro ⟨_, queueId, todo, rxIndex, lastRxIndex, recvNums, queue, desc, _, _, found,
    cell, done, split⟩
  rw [deployed.wholeFrames run found desc (List.mem_of_getElem? cell) done] at split
  cases split

/-- In every state of every run the next step aborts exactly if it is a `clone` with no
buffer to be had, and then with that panic. -/
theorem next_aborts_iff (deployed : Deployment host translate qs numRx numTx pool before system)
    (allocated : ∀ ref, (before.pool ref).Allocated host)
    (run : Run (next host.profile) (Orderly pool) system trace after)
    (permitted : Orderly pool after action) :
    next host.profile after action = some (.error reason) ↔
      reason = .panic .noBufferAvailable ∧ after.OutOfBuffers action :=
  deployed.outOfBuffers allocated run permitted

/-- A ring and one packet took all entries of a pool; a copy of the packet is asked for. -/
theorem next_aborts_iff_exhausted : ∃ final : System,
    next .dev final (.pool (.clone 0)) = some (.error (.panic .noBufferAvailable)) := by
  obtain ⟨start, trace, final, deployed, run, accepted⟩ :=
    exists_replayOnePool .dev (Orderly 0) 4 1 1 5 [.pool (.alloc 0 64)]
    (fun final => final.control.admitsCaller && final.live[0]?.any fun packet =>
      decide (final.machine.arcs.free packet.pool = []))
    (by decide) (by decide) (by decide) (by decide) (by decide +kernel)
  simp only [Bool.and_eq_true, Option.any_eq_true, decide_eq_true_eq] at accepted
  obtain ⟨admitted, packet, owned, empty⟩ := accepted
  have permitted : Orderly 0 final (.pool (.clone 0)) := ⟨⟨trivial, trivial⟩, trivial, trivial⟩
  exact ⟨final, (next_aborts_iff deployed (onePool_allocated (by decide)) run permitted).mpr
    ⟨rfl, 0, packet, rfl, admitted, owned, .inr empty⟩⟩

end Result

end IgbDriver
