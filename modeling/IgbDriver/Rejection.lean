import IgbDriver.Conservation
import IgbDriver.Recycling

namespace IgbDriver

open Foundation

/-! # Operations that are refused

`send`, `receive_packets` and `recycle_tx_buffers` decide in their first lines whether
they go on. A refusal comes before anything is changed; `send` gives its packet back.
-/

variable {σ : Type} {host : Host σ} {machine after : Machine σ} {queueId : Nat} {failure : IgbError}

/-- The packet's entry is back on its free stack, once, and its handle is dropped. -/
structure GivesBack (before : Machine σ) (packet : Packet) (after : Machine σ) : Prop where
  device : after.dev = before.dev
  registers : after.env = before.env
  given : after.arcs = (before.arcs.setFree packet.pool
    (before.arcs.free packet.pool ++ [packet.poolEntry])).drop packet.pool
  once : (after.arcs.free packet.pool).count packet.poolEntry = 1

/-- Why `receive_packets` returned an error. -/
inductive RejectsReceive (dev : IgbDevice) (queueId : Nat) : IgbError → Prop where
  | invalidQueue : dev.rxQueues[queueId]? = none → RejectsReceive dev queueId .invalidQueue
  | notReady {queue : IgbRxQueue} : dev.rxQueues[queueId]? = some queue →
      queue.canRecv = .ok false → RejectsReceive dev queueId .notReady

section NeverFails

variable (host : Host σ)

theorem withArcs_neverFails {α : Type} (operation : Arcs → Except (Abort Panic) (α × Arcs)) :
    (withArcs operation : Driver σ α).NeverFails := by
  intro machine failure after ran
  obtain ⟨_, _, _, impossible, _⟩ := withArcs_ok ran
  cases impossible

theorem sendDoorbell_neverFails (queueId : Nat) : (sendDoorbell host queueId).NeverFails := by
  intro machine failure after ran
  obtain ⟨_, _, impossible, _⟩ := sendDoorbell_ok ran
  cases impossible

theorem recycleRound_neverFails (queueId curIndex cleanIndex : Nat) :
    (recycleRound host queueId curIndex cleanIndex).NeverFails := by
  intro machine failure after ran
  obtain ⟨_, _, ⟨impossible, _⟩ | ⟨_, _, _, _, impossible, _⟩⟩ :=
    recycleRound_ok ran <;> cases impossible

theorem recycleLoop_neverFails (queueId curIndex fuel cleanIndex : Nat) :
    (recycleLoop host queueId curIndex fuel cleanIndex).NeverFails := by
  induction fuel generalizing cleanIndex with
  | zero => exact .abort _
  | succ fuel ih =>
      apply Prog.NeverFails.bind (recycleRound_neverFails host queueId curIndex cleanIndex)
      intro next
      cases next with
      | none => exact .pure _
      | some next => exact ih next

theorem recycleCommit_neverFails (queueId cleanIndex : Nat) :
    (recycleCommit queueId cleanIndex : Driver σ Unit).NeverFails := by
  intro machine failure after ran
  obtain ⟨_, _, impossible, _⟩ := recycleCommit_ok ran
  cases impossible

theorem takeFrame_neverFails (queueId rxIndex : Nat) :
    (takeFrame host queueId rxIndex).NeverFails := by
  intro machine failure after ran
  obtain ⟨_, _, ⟨impossible, _⟩ | ⟨_, _, _, _, impossible, _⟩⟩ :=
    takeFrame_ok ran <;> cases impossible

theorem rearmDescriptor_neverFails (queueId rxIndex : Nat) :
    (rearmDescriptor host queueId rxIndex).NeverFails := by
  intro machine failure after ran
  obtain ⟨_, _, _, _, _, _, impossible, _⟩ := rearmDescriptor_ok ran
  cases impossible

theorem receiveLoop_neverFails {κ : Type} (callback : Callback κ)
    (queueId todo rxIndex lastRxIndex recvNums : Nat) (closure : κ) :
    (receiveLoop host callback queueId todo rxIndex lastRxIndex recvNums closure).NeverFails := by
  induction todo generalizing rxIndex lastRxIndex recvNums closure with
  | zero => exact .pure _
  | succ todo ih =>
      apply Prog.NeverFails.bind (takeFrame_neverFails host queueId rxIndex)
      intro taken
      cases taken with
      | none => exact .pure _
      | some rxBuf =>
          apply Prog.NeverFails.bind (withArcs_neverFails (callback rxBuf closure))
          intro closure
          exact .bind (rearmDescriptor_neverFails host queueId rxIndex)
            (fun next => ih next _ _ closure)

theorem receiveCommit_neverFails (queueId rxIndex lastRxIndex : Nat) :
    (receiveCommit host queueId rxIndex lastRxIndex).NeverFails := by
  intro machine failure after ran
  cases (receiveCommit_ok ran).1

end NeverFails

section Refusals

theorem send_error {txBuf : IgbNetBuf}
    (ran : send host queueId txBuf machine = .ok (.error failure, after)) :
    Rejects host.profile machine.dev queueId failure ∧
      ∃ arcs, Frees machine.arcs txBuf.packet arcs ∧ after = { machine with arcs } := by
  rcases Prog.bind_error ran with refused | ⟨_, middle, _, failed⟩
  · exact sendEnqueue_error refused
  · exact absurd failed (sendDoorbell_neverFails host queueId middle failure after)

theorem dropPacket_apply {packet : Packet} {arcs : Arcs}
    (returns : packet.drop machine.arcs = .ok arcs) :
    dropPacket packet machine = .ok (.ok (), { machine with arcs }) := by
  rw [dropPacket, withArcs, Prog.bind_read_apply, returns]
  rfl

/-- On a refusal the drop of the packet is the only thing that could go wrong. -/
theorem send_apply_of_rejects {txBuf : IgbNetBuf} {arcs : Arcs}
    (rejects : Rejects host.profile machine.dev queueId failure)
    (returns : txBuf.packet.drop machine.arcs = .ok arcs) :
    send host queueId txBuf machine = .ok (.error failure, { machine with arcs }) := by
  have dropped := dropPacket_apply returns
  rw [send, Prog.bind_apply, sendEnqueue, Prog.bind_read_apply]
  cases rejects with
  | invalidQueue found =>
      simp only [found]
      rw [Prog.bind_of_ok dropped]
      rfl
  | queueFull found full =>
      simp only [found, full]
      rw [Prog.bind_of_ok (Prog.lift_ok_apply _ _), if_neg (by decide), Prog.bind_of_ok dropped]
      rfl

theorem Frees.givesBack {packet : Packet} {arcs : Arcs} (frees : Frees machine.arcs packet arcs) :
    GivesBack machine packet { machine with arcs } where
  device := rfl
  registers := rfl
  given := frees.given
  once := by
    simp only [frees.given, Arcs.free_drop, Arcs.free_setFree, if_true, List.count_append,
      List.count_singleton_self]
    rw [List.count_eq_zero_of_not_mem frees.fresh]

theorem RejectsReceive.apply {κ : Type} (rejects : RejectsReceive machine.dev queueId failure)
    (callback : Callback κ) (packetNums : Nat) (closure : κ) :
    receivePackets host callback queueId packetNums closure machine =
      .ok (.error failure, machine) := by
  rw [receivePackets, Prog.bind_read_apply]
  cases rejects with
  | invalidQueue found =>
      simp only [found]
      rfl
  | notReady found clear =>
      simp only [found, clear]
      rfl

theorem receivePackets_error {κ : Type} {callback : Callback κ} {packetNums : Nat} {closure : κ}
    (ran : receivePackets host callback queueId packetNums closure machine =
      .ok (.error failure, after)) :
    RejectsReceive machine.dev queueId failure ∧ after = machine := by
  rw [receivePackets, Prog.bind_read_apply] at ran
  cases found : machine.dev.rxQueues[queueId]? with
  | none =>
      simp only [found] at ran
      cases ran
      exact ⟨.invalidQueue found, rfl⟩
  | some queue =>
      simp only [found] at ran
      obtain ⟨ready, asked, ran⟩ := Prog.bind_lift_ok ran
      cases ready with
      | false =>
          cases ran
          exact ⟨.notReady found asked, rfl⟩
      | true =>
          have never := Prog.NeverFails.bind
            (receiveLoop_neverFails host callback queueId packetNums queue.rxIndex
              queue.rxIndex 0 closure)
            (fun ended => .bind (receiveCommit_neverFails host queueId ended.1 ended.2.1)
              (fun _ => .pure (ended.2.2.1, ended.2.2.2)))
          exact absurd ran (never machine failure after)

theorem recycleTxBuffers_error {fuel : Nat}
    (ran : recycleTxBuffers host fuel queueId machine = .ok (.error failure, after)) :
    machine.dev.txQueues[queueId]? = none ∧ failure = .invalidQueue ∧ after = machine := by
  rw [recycleTxBuffers, Prog.bind_read_apply] at ran
  cases found : machine.dev.txQueues[queueId]? with
  | none =>
      simp only [found] at ran
      cases ran
      exact ⟨rfl, rfl, rfl⟩
  | some queue =>
      simp only [found] at ran
      have never := Prog.NeverFails.bind
        (recycleLoop_neverFails host queueId queue.txIndex fuel queue.cleanIndex)
        (fun cleanIndex => recycleCommit_neverFails queueId cleanIndex)
      exact absurd ran (never machine failure after)

end Refusals

section Recycle

variable {size cleanIndex : Nat} {queue : IgbTxQueue}

/-- Counting can only overflow, and only where the indices need not fit an `i32`. -/
theorem cleanable_error {profile : Profile} {reason : Abort Panic} {curIndex : Nat}
    (insideCur : curIndex < size) (insideClean : cleanIndex < size)
    (failed : cleanable profile size curIndex cleanIndex = .error reason) :
    reason = .overflow ∧ 2147483648 ≤ size := by
  have onlyOverflow : AbortsOnly (Eq .overflow) (cleanable profile size curIndex cleanIndex) := by
    apply AbortsOnly.bind (abortsOnly_i32Sub rfl)
    intro difference _
    split
    · exact abortsOnly_i32Add rfl
    · exact .ok _
  constructor
  · exact (onlyOverflow reason failed).symm
  · by_contra small
    rw [cleanable_distance (by omega) insideCur insideClean] at failed
    cases failed

/-- Whatever is done in the ring, the loop comes to an end. -/
theorem recycleLoop_ends (power : size.isPowerOfTwo) (bound : size < usizeModulus)
    (found : machine.dev.txQueues[queueId]? = some queue) (shape : TxShape size queue)
    (insideClean : cleanIndex < size) :
    ∃ fuel, (∃ last after queue', recycleLoop host queueId queue.txIndex fuel cleanIndex machine =
        .ok (.ok last, after) ∧ after.dev.txQueues[queueId]? = some queue') ∨
      2147483648 ≤ size ∧ recycleLoop host queueId queue.txIndex fuel cleanIndex machine =
        .error .overflow := by
  induction far : Ring.distance size cleanIndex queue.txIndex using Nat.strong_induction_on
    generalizing machine queue cleanIndex with
  | _ steps ih =>
      cases counted : cleanable host.profile size queue.txIndex cleanIndex with
      | error reason =>
          obtain ⟨rfl, large⟩ := cleanable_error shape.txIndex insideClean counted
          refine ⟨1, .inr ⟨large, ?_⟩⟩
          rw [← shape.numDescriptors] at counted
          have round : recycleRound host queueId queue.txIndex cleanIndex machine =
              .error .overflow := by
            rw [recycleRound, Prog.bind_read_apply, indexSlice_of_some found,
              Prog.bind_of_ok (Prog.lift_ok_apply _ _), counted]
            rfl
          rw [recycleLoop, Prog.bind_of_abort round]
      | ok count =>
          by_cases few : count < txCleanBatch
          · rw [← shape.numDescriptors] at counted
            exact ⟨1, .inl ⟨_, _, _, recycleLoop_stops (recycleRound_break found counted few) 0,
              found⟩⟩
          · have enough : (txCleanBatch : Int) ≤ count := by omega
            have short : txCleanBatch ≤ Ring.distance size cleanIndex queue.txIndex :=
              batch_le_of_count (cleanable_count power shape.txIndex insideClean counted ▸ enough)
            have inLap := Ring.distance_lt (show 0 < size by omega) cleanIndex queue.txIndex
            have inside : (cleanIndex + (txCleanBatch - 1)) % size <
                queue.descriptors.cells.length := by
              rw [shape.cells]
              exact Nat.mod_lt _ (by omega)
            have round := recycleRound_at power bound found shape.numDescriptors insideClean
              (by omega) counted enough (List.getElem?_eq_getElem inside)
            split at round
            · have closer := Ring.distance_advance insideClean shape.txIndex short
              obtain ⟨queue', found', same⟩ := releasedMachine_queue found
              obtain ⟨fuel, ended⟩ :=
                ih (steps - txCleanBatch) (by simp only [txCleanBatch] at *; omega) found'
                (shape.sameRing same) (Nat.mod_lt _ (by omega)) (by rw [same.txIndex, closer, far])
              rw [same.txIndex] at ended
              refine ⟨fuel + 1, ?_⟩
              rw [recycleLoop_continues round]
              exact ended
            · exact ⟨1, .inl ⟨_, _, _, recycleLoop_stops round 0, found⟩⟩

theorem recycleTxBuffers_ends (power : size.isPowerOfTwo) (bound : size < usizeModulus)
    (found : machine.dev.txQueues[queueId]? = some queue) (shape : TxShape size queue) :
    ∃ fuel, (∃ after, recycleTxBuffers host fuel queueId machine = .ok (.ok (), after)) ∨
      2147483648 ≤ size ∧ recycleTxBuffers host fuel queueId machine = .error .overflow := by
  obtain ⟨fuel, ⟨last, middle, queue', ran, final⟩ | ⟨large, ran⟩⟩ :=
    recycleLoop_ends power bound found shape shape.cleanIndex
  · exact ⟨fuel, .inl ⟨_, recycleTxBuffers_of_loop found ran final⟩⟩
  · refine ⟨fuel, .inr ⟨large, ?_⟩⟩
    rw [recycleTxBuffers, Prog.bind_read_apply]
    simp only [found]
    exact Prog.bind_of_abort ran

end Recycle

/-- An error of `send` gives the packet back and changes nothing else; it is InvalidQueue
beyond the queues and QueueFull on them. -/
structure SendRefuses (profile : Profile) (numTx : Nat) (machine : Machine RegisterFile)
    (live : List Packet) : Prop where
  returns : ∀ queueId, ∀ packet ∈ live, ∀ failure, Rejects profile machine.dev queueId failure →
    ∃ after, send (registerFile profile) queueId { packet } machine = .ok (.error failure, after)
  harmless : ∀ queueId, ∀ packet ∈ live, ∀ failure after,
    send (registerFile profile) queueId { packet } machine = .ok (.error failure, after) →
    GivesBack machine packet after ∧
      (numTx ≤ queueId ∧ failure = .invalidQueue ∨ queueId < numTx ∧ failure = .queueFull)

/-- An error of `receive_packets` changes nothing and is the same for every callback, also
for one that cannot be called. -/
structure ReceiveRefuses (profile : Profile) (numRx : Nat)
    (machine : Machine RegisterFile) : Prop where
  harmless : ∀ (κ : Type) (callback : Callback κ) queueId packetNums (closure : κ) failure after,
    receivePackets (registerFile profile) callback queueId packetNums closure machine =
      .ok (.error failure, after) →
    after = machine ∧
      (numRx ≤ queueId ∧ failure = .invalidQueue ∨ queueId < numRx ∧ failure = .notReady) ∧
      ∀ (κ' : Type) (other : Callback κ') (closure' : κ'),
        receivePackets (registerFile profile) other queueId packetNums closure' machine =
          .ok (.error failure, machine)

/-- An error of `recycle_tx_buffers` changes nothing and is InvalidQueue. On a queue there is
none: the call returns, or counting overflows on a ring of 2 ^ 31 descriptors or more. -/
structure RecycleRefuses (profile : Profile) (qs numTx : Nat)
    (machine : Machine RegisterFile) : Prop where
  harmless : ∀ fuel queueId failure after,
    recycleTxBuffers (registerFile profile) fuel queueId machine = .ok (.error failure, after) →
    after = machine ∧ numTx ≤ queueId ∧ failure = .invalidQueue
  ends : 0 < qs → qs < usizeModulus → ∀ queueId, queueId < numTx → ∃ fuel,
    (∃ after, recycleTxBuffers (registerFile profile) fuel queueId machine = .ok (.ok (), after)) ∨
      2147483648 ≤ qs ∧ recycleTxBuffers (registerFile profile) fuel queueId machine =
        .error .overflow

section Reachable

variable {qs numRx numTx : Nat} {pool : PoolRef} {before : Arcs} {system final : System}
  {trace : List Event}

/-- In every state reached between calls, a call that returns an error had no effect, but
that `send` puts the rejected packet's entry back. -/
theorem rejected_without_effect (booted : Booted host qs numRx numTx pool before system)
    (whole : ∀ ref, before.Whole system.live ref)
    (run : Run (next host.profile) (fun state action => NoConstruct state action ∧
      SendsFrom pool state action) system trace final) :
    SendRefuses host.profile numTx final.machine final.live ∧
      ReceiveRefuses host.profile numRx final.machine ∧
        RecycleRefuses host.profile qs numTx final.machine := by
  obtain ⟨_, accounted⟩ :=
    OnPool.run (fun _ _ permitted => permitted.1) (fun _ _ permitted => permitted.2) run
    booted.onPool (fun ref => booted.accounted (whole ref))
  obtain ⟨file, booting⟩ := booted.booting
  obtain ⟨rxSame, txSame⟩ := lengths_run run
  have rxLength : final.machine.dev.rxQueues.length = numRx := rxSame.trans booting.rxLength
  have txLength : final.machine.dev.txQueues.length = numTx := txSame.trans booting.txLength
  constructor
  · constructor
    · intro queueId packet owned failure rejects
      obtain ⟨bound, fresh⟩ := (accounted packet.pool).live_entry owned
      obtain ⟨arcs, returns⟩ := Packet.drop_returns bound fresh
      exact ⟨_, send_apply_of_rejects rejects returns⟩
    · intro queueId packet owned failure after ran
      obtain ⟨rejects, arcs, frees, rfl⟩ := send_error ran
      constructor
      · exact frees.givesBack
      · cases rejects with
        | invalidQueue found =>
            rw [List.getElem?_eq_none_iff, txLength] at found
            exact .inl ⟨found, rfl⟩
        | queueFull found _ =>
            rw [← txLength]
            exact .inr ⟨(List.getElem?_eq_some_iff.mp found).1, rfl⟩
  · constructor
    · constructor
      intro κ callback queueId packetNums closure failure after ran
      obtain ⟨rejects, rfl⟩ := receivePackets_error ran
      have why : numRx ≤ queueId ∧ failure = .invalidQueue ∨ queueId < numRx ∧
          failure = .notReady := by
        cases rejects with
        | invalidQueue found =>
            rw [List.getElem?_eq_none_iff, rxLength] at found
            exact .inl ⟨found, rfl⟩
        | notReady found _ =>
            rw [← rxLength]
            exact .inr ⟨(List.getElem?_eq_some_iff.mp found).1, rfl⟩
      exact ⟨rfl, why, fun κ' other closure' => rejects.apply other packetNums closure'⟩
    · constructor
      · intro fuel queueId failure after ran
        obtain ⟨found, same, unchanged⟩ := recycleTxBuffers_error ran
        rw [List.getElem?_eq_none_iff, txLength] at found
        exact ⟨unchanged, found, same⟩
      · intro positive bound queueId inside
        have power := booted.power positive (by omega)
        obtain ⟨queue, found, shape⟩ := TxShape.run positive bound booted inside run
        exact recycleTxBuffers_ends power bound found shape

/-- A ring of two with one packet in flight: the next packet is refused. -/
theorem rejected_without_effect_full :
    ∃ (final : System) (packet : Packet) (after : Machine RegisterFile),
    packet ∈ final.live ∧
      send (registerFile .dev) 0 { packet } final.machine = .ok (.error .queueFull, after) ∧
      GivesBack final.machine packet after := by
  obtain ⟨system, trace, final, booted, _, live, run, accepted⟩ := exists_replayPlatform .dev
    (fun state action => NoConstruct state action ∧ SendsFrom 0 state action) 2 1 1 8
    [.pool (.alloc 0 64), .send 0 0, .resume, .pool (.alloc 0 64)]
    (fun _ final => !final.live.isEmpty && (final.txQueue? 0).any fun (queue : IgbTxQueue) =>
      decide (queue.canSend .dev = .ok false))
    (by decide +kernel)
  simp only [Bool.and_eq_true, Option.any_eq_true, decide_eq_true_eq] at accepted
  obtain ⟨some_live, queue, found, full⟩ := accepted
  obtain ⟨sends, _⟩ := rejected_without_effect booted (by rw [live]; exact freshArcs_whole 8) run
  cases owned : final.live with
  | nil => rw [owned] at some_live; cases some_live
  | cons packet rest =>
      have member : packet ∈ final.live := by rw [owned]; exact List.mem_cons_self
      obtain ⟨after, refused⟩ := sends.returns 0 packet member _ (.queueFull found full)
      exact ⟨final, packet, after, member, refused, (sends.harmless 0 packet member _ _ refused).1⟩

end Reachable

end IgbDriver
