import IgbDriver.RxQueue

namespace IgbDriver

open Foundation

/-! # Receiving in batches

`receive_packets` commits its cursor and RDT once, at its end. Its loop does not see
either, so cutting a call in two changes only how often they are written.
-/

variable {κ : Type} {profile : Profile} {qs queueId : Nat} {pool : PoolRef}
  {machine after : Machine RegisterFile} {queue : IgbRxQueue} {callback : Callback κ} {closure : κ}

/-- What `receive_packets` publishes at its end. -/
def Machine.publishRx (machine : Machine RegisterFile) (queueId rxIndex lastRxIndex : Nat) :
    Machine RegisterFile :=
  { machine with
    env := machine.env.write (igbRdt queueId) (BitVec.ofNat 32 lastRxIndex)
    dev := { machine.dev with
      rxQueues := machine.dev.rxQueues.modify queueId fun queue => { queue with rxIndex } } }

/-- A call that took no frame publishes nothing. -/
def Machine.publishTaken (machine : Machine RegisterFile)
    (queueId rxIndex lastRxIndex recvNums : Nat) :
    Machine RegisterFile :=
  if recvNums = 0 then machine else machine.publishRx queueId rxIndex lastRxIndex

section Publish

variable (machine queueId) (rxIndex lastRxIndex : Nat)

theorem rxQueues_publishRx (found : machine.dev.rxQueues[queueId]? = some queue) :
    (machine.publishRx queueId rxIndex lastRxIndex).dev.rxQueues[queueId]? =
      some { queue with rxIndex } := by
  simp only [Machine.publishRx, List.getElem?_modify_eq, found]
  rfl

theorem rxQueues_publishRx_none (absent : machine.dev.rxQueues[queueId]? = none) :
    (machine.publishRx queueId rxIndex lastRxIndex).dev.rxQueues[queueId]? = none := by
  simp only [Machine.publishRx, List.getElem?_modify_eq, absent]
  rfl

/-- Setting a queue that is then published. -/
theorem setRxQueue_publishRx (queue : IgbRxQueue) :
    (machine.publishRx queueId rxIndex lastRxIndex).setRxQueue queueId { queue with rxIndex } =
      (machine.setRxQueue queueId queue).publishRx queueId rxIndex lastRxIndex := by
  have queues :
      (machine.dev.rxQueues.modify queueId fun queue => { queue with rxIndex }).set queueId
          { queue with rxIndex } =
        (machine.dev.rxQueues.set queueId queue).modify queueId fun queue =>
          { queue with rxIndex } := by
    apply List.ext_getElem?
    intro index
    simp only [List.getElem?_set, List.getElem?_modify, List.length_modify]
    split
    · split <;> simp [*]
    · rfl
  simp only [Machine.setRxQueue, Machine.publishRx, queues]

theorem publishRx_publishRx (earlier earlierLast : Nat) :
    (machine.publishRx queueId earlier earlierLast).publishRx queueId rxIndex lastRxIndex =
      machine.publishRx queueId rxIndex lastRxIndex := by
  have queues :
      (machine.dev.rxQueues.modify queueId fun queue => { queue with rxIndex := earlier }).modify
          queueId (fun queue => { queue with rxIndex }) =
        machine.dev.rxQueues.modify queueId fun queue => { queue with rxIndex } := by
    apply List.ext_getElem?
    intro index
    simp only [List.getElem?_modify]
    split <;> simp [Function.comp_def]
  have env : (machine.env.write (igbRdt queueId) (BitVec.ofNat 32 earlierLast)).write
    (igbRdt queueId) (BitVec.ofNat 32 lastRxIndex) = machine.env.write (igbRdt queueId)
        (BitVec.ofNat 32 lastRxIndex) := by
    funext reg
    simp only [RegisterFile.write]
    split <;> rfl
  simp only [Machine.publishRx, queues, env]

end Publish

section Commutes

variable (profile queueId) (rxIndex published lastRxIndex : Nat)

theorem takeFrame_commutes :
    Prog.Commutes (fun machine => machine.publishRx queueId published lastRxIndex)
      (takeFrame (registerFile profile) queueId rxIndex) := by
  intro machine
  rw [takeFrame, Prog.bind_read_apply, Prog.bind_read_apply]
  cases found : machine.dev.rxQueues[queueId]? with
  | none =>
      simp only [indexSlice, found,
        rxQueues_publishRx_none queueId machine published lastRxIndex found]
      rfl
  | some queue =>
      rw [indexSlice_of_some found,
        indexSlice_of_some (rxQueues_publishRx queueId machine published lastRxIndex found),
        Prog.bind_of_ok (Prog.lift_ok_apply _ _), Prog.bind_of_ok (Prog.lift_ok_apply _ _)]
      apply Prog.Commutes.bind_lift
      intro desc
      split
      · rfl
      · split
        · rfl
        · cases popped : (machine.arcs.pool queue.pool).allocBuf with
          | mk top pool =>
              have same : ((machine.publishRx queueId published lastRxIndex).arcs.pool
                queue.pool).allocBuf =
                  (top, pool) := popped
              simp only [same]
              cases top with
              | none => rfl
              | some buf =>
                  apply Prog.Commutes.bind_lift
                  intro idx
                  apply Prog.Commutes.bind_lift
                  intro addrVirt
                  apply Prog.Commutes.bind_lift
                  intro addrPhys
                  have taken := setRxQueue_publishRx queueId machine published lastRxIndex
                    { queue with bufsInUse := queue.bufsInUse.set rxIndex buf }
                  simp only [Prog.bind_update_apply, taken]
                  rfl

theorem rearmDescriptor_commutes :
    Prog.Commutes (fun machine => machine.publishRx queueId published lastRxIndex)
      (rearmDescriptor (registerFile profile) queueId rxIndex) := by
  intro machine
  rw [rearmDescriptor, Prog.bind_read_apply, Prog.bind_read_apply]
  cases found : machine.dev.rxQueues[queueId]? with
  | none =>
      simp only [indexSlice, found,
        rxQueues_publishRx_none queueId machine published lastRxIndex found]
      rfl
  | some queue =>
      rw [indexSlice_of_some found,
        indexSlice_of_some (rxQueues_publishRx queueId machine published lastRxIndex found),
        Prog.bind_of_ok (Prog.lift_ok_apply _ _), Prog.bind_of_ok (Prog.lift_ok_apply _ _)]
      apply Prog.Commutes.bind_lift
      intro desc
      apply Prog.Commutes.bind_lift
      intro buf
      apply Prog.Commutes.bind_lift
      intro phys
      have armed := setRxQueue_publishRx queueId machine published lastRxIndex
        { queue with
          descriptors := queue.descriptors.set rxIndex (desc.setPacketAddress phys).resetStatus }
      rw [Prog.bind_update_apply, Prog.bind_update_apply]
      cases wrapRing (registerFile profile).profile rxIndex queue.numDescriptors with
      | error reason => rfl
      | ok next => exact congrArg (fun machine => Except.ok (Except.ok next, machine)) armed

theorem withArcs_commutes {α : Type} (operation : Arcs → Except (Abort Panic) (α × Arcs)) :
    Prog.Commutes
      (fun machine : Machine RegisterFile => machine.publishRx queueId published lastRxIndex)
      (withArcs operation) := by
  intro machine
  rw [withArcs, Prog.bind_read_apply, Prog.bind_read_apply]
  apply Prog.Commutes.bind_lift
  intro result
  rfl

theorem receiveLoop_commutes (callback : Callback κ) (todo rxIndex last recvNums : Nat)
    (closure : κ) :
    Prog.Commutes (fun machine => machine.publishRx queueId published lastRxIndex)
      (receiveLoop (registerFile profile) callback queueId todo rxIndex last recvNums closure) := by
  induction todo generalizing rxIndex last recvNums closure with
  | zero => exact .pure _
  | succ todo ih =>
      apply (takeFrame_commutes profile queueId rxIndex published lastRxIndex).bind
      intro taken
      cases taken with
      | none => exact .pure _
      | some rxBuf =>
          apply (withArcs_commutes queueId published lastRxIndex _).bind
          intro closure
          apply (rearmDescriptor_commutes profile queueId rxIndex published lastRxIndex).bind
          intro next
          exact ih next rxIndex (recvNums + 1) closure

end Commutes

/-- A queue whose indices are inside its ring and whose tail register can be written. -/
structure Receivable (profile : Profile) (qs queueId : Nat) (machine : Machine RegisterFile)
    (queue : IgbRxQueue) : Prop where
  found : machine.dev.rxQueues[queueId]? = some queue
  numDescriptors : queue.numDescriptors = qs
  cells : queue.descriptors.cells.length = qs
  rxIndex : queue.rxIndex < qs
  window : InWindow profile machine.dev.len (igbRdt queueId)

theorem Receivable.set (ready : Receivable profile qs queueId machine queue) {new : IgbRxQueue}
    (arcs : Arcs) (numDescriptors : new.numDescriptors = queue.numDescriptors)
    (cells : new.descriptors.cells.length = queue.descriptors.cells.length)
    (rxIndex : new.rxIndex = queue.rxIndex) :
    Receivable profile qs queueId { machine.setRxQueue queueId new with arcs } new where
  found := List.getElem?_set_self (List.getElem?_eq_some_iff.mp ready.found).1
  numDescriptors := numDescriptors.trans ready.numDescriptors
  cells := cells.trans ready.cells
  rxIndex := by rw [rxIndex]; exact ready.rxIndex
  window := ready.window

/-- How a receive loop that took `taken` frames leaves its cursors. -/
structure LoopEnds (qs rxIndex lastRxIndex : Nat) (machine after : Machine RegisterFile)
    (rxIndex' lastRxIndex' taken : Nat) : Prop where
  inside : rxIndex' < qs
  still : taken = 0 → rxIndex' = rxIndex ∧ lastRxIndex' = lastRxIndex ∧ after = machine
  moved : taken ≠ 0 → rxIndex' ≠ lastRxIndex'

theorem succ_mod_ne {index : Nat} (least : 2 ≤ qs) (inside : index < qs) :
    (index + 1) % qs ≠ index := by
  rcases Nat.lt_or_ge (index + 1) qs with below | last
  · rw [Nat.mod_eq_of_lt below]
    omega
  · rw [show index + 1 = qs by omega, Nat.mod_self]
    omega

/-- One round of the loop that ran to its end. -/
theorem receiveLoop_succ_ok {todo rxIndex lastRxIndex recvNums : Nat}
    {outcome : Except IgbError (Nat × Nat × Nat × κ)}
    (ran : receiveLoop (registerFile profile) callback queueId
      (todo + 1) rxIndex lastRxIndex recvNums closure
      machine = .ok (outcome, after)) :
    (outcome = .ok (rxIndex, lastRxIndex, recvNums, closure) ∧ after = machine) ∨
      ∃ rxBuf taken arcs closure' armed next,
        takeFrame (registerFile profile) queueId rxIndex machine = .ok (.ok (some rxBuf), taken) ∧
        callback rxBuf closure taken.arcs = .ok (closure', arcs) ∧
        rearmDescriptor (registerFile profile) queueId rxIndex { taken with arcs } =
          .ok (.ok next, armed) ∧
        receiveLoop (registerFile profile) callback queueId todo next rxIndex
          (recvNums + 1) closure' armed =
          .ok (outcome, after) := by
  rw [receiveLoop, Prog.bind_apply] at ran
  cases first : takeFrame (registerFile profile) queueId rxIndex machine with
  | error reason =>
      rw [first] at ran
      cases ran
  | ok result =>
      obtain ⟨taking, taken⟩ := result
      rw [first] at ran
      obtain ⟨_, _, ⟨rfl, rfl⟩ | ⟨packet, _, _, _, rfl, _, _⟩⟩ := takeFrame_ok first
      · cases ran
        exact .inl ⟨rfl, rfl⟩
      · cases called : withArcs (callback { packet } closure) taken with
        | error reason =>
            simp only [Prog.bind_apply, called] at ran
            cases ran
        | ok result =>
            obtain ⟨returned, middle⟩ := result
            obtain ⟨closure', arcs, gave, rfl, rfl⟩ := withArcs_ok called
            simp only [Prog.bind_of_ok called] at ran
            cases last : rearmDescriptor (registerFile profile) queueId rxIndex
              { taken with arcs } with
            | error reason =>
                simp only [Prog.bind_apply, last] at ran
                cases ran
            | ok result =>
                obtain ⟨wrapped, armed⟩ := result
                obtain ⟨_, _, _, _, next, _, rfl, _, _⟩ := rearmDescriptor_ok last
                rw [Prog.bind_of_ok last] at ran
                exact .inr ⟨_, taken, arcs, closure', armed, next, rfl, gave, last, ran⟩

theorem receiveLoop_ends (power : qs.isPowerOfTwo) (least : 2 ≤ qs) (bound : qs < usizeModulus)
    {todo rxIndex lastRxIndex recvNums : Nat} {outcome : Except IgbError (Nat × Nat × Nat × κ)}
    (ready : Receivable profile qs queueId machine queue) (inside : rxIndex < qs)
    (ran : receiveLoop (registerFile profile) callback queueId todo rxIndex lastRxIndex
      recvNums closure machine = .ok (outcome, after)) :
    ∃ rxIndex' lastRxIndex' taken closure',
      outcome = .ok (rxIndex', lastRxIndex', recvNums + taken, closure') ∧
      LoopEnds qs rxIndex lastRxIndex machine after rxIndex' lastRxIndex' taken ∧
      ∃ queue', Receivable profile qs queueId after queue' ∧ queue'.rxIndex = queue.rxIndex := by
  induction todo generalizing machine queue rxIndex lastRxIndex recvNums closure with
  | zero =>
      cases ran
      exact ⟨_, _, 0, _, rfl, ⟨inside, fun _ => ⟨rfl, rfl, rfl⟩, absurd rfl⟩, queue, ready, rfl⟩
  | succ todo ih =>
      rcases receiveLoop_succ_ok ran with ⟨rfl, rfl⟩ | ⟨rxBuf, taken, arcs, closure', armed, next,
        took, _, rearmed, ran⟩
      · exact ⟨_, _, 0, _, rfl, ⟨inside, fun _ => ⟨rfl, rfl, rfl⟩, absurd rfl⟩, queue, ready, rfl⟩
      · obtain ⟨here, found, ⟨impossible, _⟩ | ⟨packet, desc, buf, rest, _, _, taking⟩⟩ :=
          takeFrame_ok took
        · cases impossible
        rw [ready.found] at found
        cases found
        have took : Receivable profile qs queueId { taken with arcs }
            (queue.afterTake rxIndex buf) := by
          rw [taking]
          exact ready.set arcs rfl rfl rfl
        obtain ⟨held, cell, entry, phys, next', found, same, rearms, arming⟩ :=
          rearmDescriptor_ok rearmed
        cases same
        obtain rfl := Option.some.inj (took.found.symm.trans found)
        have armedReady : Receivable profile qs queueId armed
            ((queue.afterTake rxIndex buf).afterRearm rxIndex cell phys) := by
          rw [arming]
          exact took.set arcs rfl List.length_set rfl
        have wraps := rearms.wraps
        rw [took.numDescriptors] at wraps
        have step := wrapRing_ok power bound inside wraps
        obtain ⟨rxIndex', lastRxIndex', taken, closure'', rfl, ends, queue', ready', same⟩ :=
          ih armedReady (by rw [step]; exact Nat.mod_lt _ (by omega)) ran
        refine ⟨rxIndex', lastRxIndex', taken + 1,
          closure'', by rw [Nat.add_comm taken, Nat.add_assoc],
          ⟨ends.inside, nofun, fun _ => ?_⟩, queue', ready', same⟩
        by_cases none : taken = 0
        · obtain ⟨rfl, rfl, _⟩ := ends.still none
          rw [step]
          exact succ_mod_ne least inside
        · exact ends.moved none

section Split

variable (profile queueId callback)

/-- The indices of the frame before and the count so far only pass through the loop. -/
theorem receiveLoop_from (todo rxIndex lastRxIndex recvNums : Nat) (closure : κ) :
    receiveLoop (registerFile profile) callback queueId todo rxIndex lastRxIndex recvNums closure =
      (do
        let (rxIndex', last, taken, closure) ←
          receiveLoop (registerFile profile) callback queueId todo rxIndex rxIndex 0 closure
        pure (rxIndex', if taken = 0 then lastRxIndex else last, recvNums + taken, closure)) := by
  induction todo generalizing rxIndex lastRxIndex recvNums closure with
  | zero => rfl
  | succ todo ih =>
      simp only [receiveLoop, bind_assoc]
      congr 1
      funext taken
      cases taken with
      | none => rfl
      | some rxBuf =>
          simp only [bind_assoc]
          congr 1
          funext closure
          congr 1
          funext next
          rw [ih next rxIndex (recvNums + 1) closure, ih next rxIndex (0 + 1) closure]
          simp only [bind_assoc, pure_bind]
          congr 1
          funext ⟨rxIndex', last, taken, closure⟩
          simp [Nat.add_assoc]

theorem receiveLoop_none {todo rxIndex lastRxIndex recvNums : Nat}
    (took : takeFrame (registerFile profile) queueId rxIndex machine = .ok (.ok none, machine)) :
    receiveLoop (registerFile profile) callback queueId todo rxIndex lastRxIndex recvNums
      closure machine =
      .ok (.ok (rxIndex, lastRxIndex, recvNums, closure), machine) := by
  cases todo with
  | zero => rfl
  | succ todo =>
      simp only [receiveLoop]
      rw [Prog.bind_of_ok took]
      rfl

/-- A loop that stopped early stops again at once. -/
theorem receiveLoop_add (first second rxIndex lastRxIndex recvNums : Nat) (closure : κ) :
    receiveLoop (registerFile profile) callback queueId (first + second) rxIndex lastRxIndex
      recvNums closure =
      (do
        let (rxIndex, lastRxIndex, recvNums, closure) ←
          receiveLoop (registerFile profile) callback queueId first rxIndex lastRxIndex
            recvNums closure
        receiveLoop (registerFile profile) callback queueId second rxIndex lastRxIndex recvNums
          closure) := by
  induction first generalizing rxIndex lastRxIndex recvNums closure with
  | zero => rw [Nat.zero_add]; rfl
  | succ first ih =>
      rw [Nat.succ_add]
      funext machine
      rw [receiveLoop, receiveLoop, bind_assoc, Prog.bind_apply, Prog.bind_apply]
      cases took : takeFrame (registerFile profile) queueId rxIndex machine with
      | error reason => rfl
      | ok result =>
          obtain ⟨taking, taken⟩ := result
          cases taking with
          | error failure => rfl
          | ok frame =>
              cases frame with
              | none =>
                  obtain ⟨_, _, ⟨_, rfl⟩ | ⟨_, _, _, _, impossible, _⟩⟩ := takeFrame_ok took
                  · exact (receiveLoop_none profile queueId callback took).symm
                  · cases impossible
              | some rxBuf =>
                  simp only [bind_assoc, ih]

end Split

section Call

theorem canRecv_apply (ready : Receivable profile qs queueId machine queue) :
    ∃ desc, queue.descriptors.cells[queue.rxIndex]? = some desc ∧ queue.canRecv =
      .ok desc.done := by
  obtain ⟨desc, cell⟩ : ∃ desc, queue.descriptors.cells[queue.rxIndex]? = some desc :=
    ⟨_, List.getElem?_eq_getElem (by rw [ready.cells]; exact ready.rxIndex)⟩
  exact ⟨desc, cell, by rw [IgbRxQueue.canRecv, indexSlice_of_some cell]; rfl⟩

theorem receiveCommit_apply (ready : Receivable profile qs queueId machine queue)
    (rxIndex lastRxIndex : Nat) :
    receiveCommit (registerFile profile) queueId rxIndex lastRxIndex machine =
      .ok (.ok (), if rxIndex ≠ lastRxIndex then machine.publishRx queueId rxIndex lastRxIndex else
        machine) := by
  simp only [receiveCommit]
  split
  · rw [Prog.bind_of_ok (setReg32_apply _ ready.window), Prog.bind_read_apply,
      indexSlice_of_some ready.found, Prog.bind_of_ok (Prog.lift_ok_apply _ _)]
    have published : machine.dev.rxQueues.set queueId { queue with rxIndex } =
        machine.dev.rxQueues.modify queueId fun queue => { queue with rxIndex } := by
      rw [List.modify_eq_set_getElem?, ready.found]
      rfl
    simp only [Prog.update_apply, Machine.setRxQueue, published]
    rfl
  · rfl

/-- The commit at the end of a loop. -/
theorem receiveCommit_ends (ready : Receivable profile qs queueId after queue)
    {rxIndex rxIndex' lastRxIndex' taken : Nat}
    (ends : LoopEnds qs rxIndex rxIndex machine after rxIndex' lastRxIndex' taken) :
    receiveCommit (registerFile profile) queueId rxIndex' lastRxIndex' after =
      .ok (.ok (), after.publishTaken queueId rxIndex' lastRxIndex' taken) := by
  rw [receiveCommit_apply ready, Machine.publishTaken]
  by_cases none : taken = 0
  · obtain ⟨rfl, rfl, _⟩ := ends.still none
    rw [if_pos none, if_neg (not_not_intro rfl)]
  · rw [if_neg none, if_pos (ends.moved none)]

theorem receivePackets_notReady (ready : Receivable profile qs queueId machine queue)
    (clear : queue.canRecv = .ok false) (callback : Callback κ) (packetNums : Nat) (closure : κ) :
    receivePackets (registerFile profile) callback queueId packetNums closure machine =
      .ok (.error .notReady, machine) := by
  rw [receivePackets, Prog.bind_read_apply, ready.found]
  simp only [clear]
  rfl

theorem receivePackets_ready (ready : Receivable profile qs queueId machine queue)
    (done : queue.canRecv = .ok true) (callback : Callback κ) (packetNums : Nat) (closure : κ) :
    receivePackets (registerFile profile) callback queueId packetNums closure machine =
      (do
        let (rxIndex, lastRxIndex, recvNums, closure) ← receiveLoop
          (registerFile profile) callback queueId packetNums queue.rxIndex queue.rxIndex 0 closure
        receiveCommit (registerFile profile) queueId rxIndex lastRxIndex
        pure (recvNums, closure)) machine := by
  rw [receivePackets, Prog.bind_read_apply, ready.found]
  simp only [done]
  rfl

end Call

/-- A call of `receive_packets` as its caller sees it: a call that fails has not run
the closure. -/
def attemptReceive {σ : Type} (host : Host σ) (callback : Callback κ) (queueId packetNums : Nat)
    (closure : κ) :
    Driver σ (Except IgbError Nat × κ) := fun machine =>
  match receivePackets host callback queueId packetNums closure machine with
  | .error reason => .error reason
  | .ok (.error failure, after) => .ok (.ok (.error failure, closure), after)
  | .ok (.ok (count, closure), after) => .ok (.ok (.ok count, closure), after)

/-- The counts of two calls together, a `NotReady` of the second counting as none. -/
def joinCounts : Except IgbError Nat → Except IgbError Nat → Except IgbError Nat
  | .ok first, .ok second => .ok (first + second)
  | .ok first, .error .notReady => .ok first
  | .ok _, .error failure => .error failure
  | .error failure, _ => .error failure

def receiveTwice {σ : Type} (host : Host σ) (callback : Callback κ) (queueId first second : Nat)
    (closure : κ) :
    Driver σ (Except IgbError Nat × κ) := do
  let (one, closure) ← attemptReceive host callback queueId first closure
  let (two, closure) ← attemptReceive host callback queueId second closure
  pure (joinCounts one two, closure)

/-- A closure that also keeps the packets it was given. -/
def Callback.logged (callback : Callback κ) : Callback (List Packet × κ) :=
  fun rxBuf closure arcs => do
  let (own, arcs) ← callback rxBuf closure.2 arcs
  .ok ((closure.1 ++ [rxBuf.packet], own), arcs)

section Attempt

variable {packetNums rxIndex' lastRxIndex' taken : Nat} {closure' : κ}

theorem attemptReceive_notReady (ready : Receivable profile qs queueId machine queue)
    (clear : queue.canRecv = .ok false) :
    attemptReceive (registerFile profile) callback queueId packetNums closure machine =
      .ok (.ok (.error .notReady, closure), machine) := by
  rw [attemptReceive, receivePackets_notReady ready clear]

theorem attemptReceive_abort (ready : Receivable profile qs queueId machine queue)
    (done : queue.canRecv = .ok true) {reason : Abort Panic}
    (ran : receiveLoop (registerFile profile) callback queueId packetNums queue.rxIndex
      queue.rxIndex 0 closure machine = .error reason) :
    attemptReceive (registerFile profile) callback queueId packetNums closure machine =
      .error reason := by
  rw [attemptReceive, receivePackets_ready ready done, Prog.bind_of_abort ran]

/-- What a call does whose loop ran to its end, and the queue as the next call finds it. -/
theorem attemptReceive_loop (power : qs.isPowerOfTwo) (least : 2 ≤ qs) (bound : qs < usizeModulus)
    (ready : Receivable profile qs queueId machine queue) (done : queue.canRecv = .ok true)
    (ran : receiveLoop (registerFile profile) callback queueId packetNums queue.rxIndex
      queue.rxIndex 0 closure
      machine = .ok (.ok (rxIndex', lastRxIndex', taken, closure'), after)) :
    attemptReceive (registerFile profile) callback queueId packetNums closure machine =
      .ok (.ok (.ok taken, closure'), after.publishTaken queueId rxIndex' lastRxIndex' taken) ∧
    (taken = 0 → rxIndex' = queue.rxIndex) ∧
    ∃ queue', after.dev.rxQueues[queueId]? = some queue' ∧
      Receivable profile qs queueId (after.publishTaken queueId rxIndex' lastRxIndex' taken)
        { queue' with rxIndex := rxIndex' } := by
  obtain ⟨_, _, _, _, same, ends, queue', settled, index⟩ :=
    receiveLoop_ends power least bound ready ready.rxIndex ran
  cases same
  rw [Nat.zero_add] at ran ⊢
  refine ⟨?_, fun none => (ends.still none).1, queue', settled.found, ?_⟩
  · simp only [attemptReceive, receivePackets_ready ready done, Prog.bind_of_ok ran,
      Prog.bind_of_ok (receiveCommit_ends settled ends), Prog.pure_apply]
  · simp only [Machine.publishTaken]
    split
    · rename_i none
      rw [(ends.still none).1, ← index]
      exact settled
    · exact ⟨rxQueues_publishRx queueId after rxIndex' lastRxIndex' settled.found,
        settled.numDescriptors, settled.cells, ends.inside, settled.window⟩

theorem receiveLoop_publishTaken (todo rxIndex : Nat) :
    receiveLoop (registerFile profile) callback queueId todo rxIndex rxIndex 0 closure
        (after.publishTaken queueId rxIndex' lastRxIndex' taken) =
      (receiveLoop (registerFile profile) callback queueId todo rxIndex rxIndex 0 closure after).map
        (Prod.map id fun machine => machine.publishTaken queueId rxIndex' lastRxIndex' taken) := by
  simp only [Machine.publishTaken]
  split
  · cases receiveLoop (registerFile profile) callback queueId todo rxIndex rxIndex 0
      closure after <;> rfl
  · exact receiveLoop_commutes profile queueId rxIndex' lastRxIndex' callback todo rxIndex rxIndex
      0 closure after

theorem publishTaken_publishTaken (machine : Machine RegisterFile)
    (rxIndex lastRxIndex recvNums : Nat) (still : recvNums = 0 → rxIndex = rxIndex') :
    (machine.publishTaken queueId rxIndex' lastRxIndex' taken).publishTaken queueId rxIndex
    lastRxIndex recvNums =
      machine.publishTaken queueId rxIndex (if recvNums = 0 then lastRxIndex' else lastRxIndex)
        (taken + recvNums) := by
  simp only [Machine.publishTaken]
  by_cases none : recvNums = 0
  · rw [if_pos none, if_pos none, none, Nat.add_zero, still none]
  · rw [if_neg none, if_neg none, if_neg (show taken + recvNums ≠ 0 by omega)]
    split
    · rfl
    · exact publishRx_publishRx _ _ _ _ _ _

end Attempt

/-- The second of two calls, against the rest of the one call. -/
theorem receiveTwice_second (power : qs.isPowerOfTwo) (least : 2 ≤ qs) (bound : qs < usizeModulus)
    (ready : Receivable profile qs queueId machine queue) (asked : queue.canRecv = .ok true)
    {first second rxIndex' lastRxIndex' taken : Nat} {closure' : κ} {middle : Machine RegisterFile}
    {queue' : IgbRxQueue}
    (rest : receiveLoop (registerFile profile) callback queueId (first + second) queue.rxIndex
      queue.rxIndex 0 closure machine =
        (do
          let (rxIndex, last, more, closure) ←
            receiveLoop (registerFile profile) callback queueId second rxIndex' rxIndex' 0 closure'
          pure (rxIndex, if more = 0 then lastRxIndex' else last, taken + more, closure)) middle)
    (settled : middle.dev.rxQueues[queueId]? = some queue')
    (next : Receivable profile qs queueId (middle.publishTaken queueId rxIndex' lastRxIndex' taken)
      { queue' with rxIndex := rxIndex' }) :
    (do
      let (two, closure) ← attemptReceive (registerFile profile) callback queueId second closure'
      pure (joinCounts (.ok taken) two, closure))
        (middle.publishTaken queueId rxIndex' lastRxIndex' taken) =
      attemptReceive (registerFile profile) callback queueId (first + second) closure machine := by
  obtain ⟨desc, cell, again⟩ := canRecv_apply next
  cases done : desc.done with
  | false =>
      rw [done] at again
      have idle : takeFrame (registerFile profile) queueId rxIndex' middle =
          .ok (.ok none, middle) := by
        rw [takeFrame, Prog.bind_read_apply, indexSlice_of_some settled,
          Prog.bind_of_ok (Prog.lift_ok_apply _ _), indexSlice_of_some cell,
          Prog.bind_of_ok (Prog.lift_ok_apply _ _), done]
        rfl
      rw [Prog.bind_of_ok (receiveLoop_none profile queueId callback idle)] at rest
      obtain ⟨single, _⟩ := attemptReceive_loop power least bound ready asked rest
      simp only [Prog.bind_of_ok (attemptReceive_notReady next again), single]
      rfl
  | true =>
      rw [done] at again
      have moved : receiveLoop (registerFile profile) callback queueId second rxIndex'
        rxIndex' 0 closure' (middle.publishTaken queueId rxIndex' lastRxIndex' taken) = _ :=
            receiveLoop_publishTaken second rxIndex'
      cases ran : receiveLoop (registerFile profile) callback queueId second rxIndex'
        rxIndex' 0 closure' middle with
      | error reason =>
          rw [ran] at moved
          rw [Prog.bind_of_abort ran] at rest
          rw [Prog.bind_of_abort (attemptReceive_abort next again moved),
            attemptReceive_abort ready asked rest]
      | ok result =>
          obtain ⟨outcome, last⟩ := result
          rw [ran] at moved
          obtain ⟨_, _, more, _, rfl, _⟩ :=
            receiveLoop_ends power least bound next next.rxIndex moved
          rw [Nat.zero_add] at ran moved
          rw [Prog.bind_of_ok ran] at rest
          obtain ⟨two, still, _⟩ := attemptReceive_loop power least bound next again moved
          obtain ⟨single, _⟩ := attemptReceive_loop power least bound ready asked rest
          simp only [Prog.bind_of_ok two, single, Prog.pure_apply, joinCounts]
          rw [publishTaken_publishTaken _ _ _ _ still]

/-- Two calls do what one call with the sum of their budgets does. -/
theorem receiveTwice_eq (power : qs.isPowerOfTwo) (least : 2 ≤ qs) (bound : qs < usizeModulus)
    (ready : Receivable profile qs queueId machine queue) (callback : Callback κ)
    (first second : Nat) (closure : κ) :
    receiveTwice (registerFile profile) callback queueId first second closure machine =
      attemptReceive (registerFile profile) callback queueId (first + second) closure machine := by
  obtain ⟨desc, cell, asked⟩ := canRecv_apply ready
  simp only [receiveTwice]
  cases done : desc.done with
  | false =>
      rw [done] at asked
      have refused : ∀ packetNums,
        attemptReceive (registerFile profile) callback queueId packetNums closure
          machine = .ok (.ok (.error .notReady, closure), machine) :=
        fun packetNums => attemptReceive_notReady ready asked
      simp only [Prog.bind_of_ok (refused first), Prog.bind_of_ok (refused second), refused]
      rfl
  | true =>
      rw [done] at asked
      have whole :=
        receiveLoop_add profile queueId callback first second queue.rxIndex queue.rxIndex 0 closure
      cases ran : receiveLoop (registerFile profile) callback queueId first queue.rxIndex
        queue.rxIndex 0 closure machine with
      | error reason =>
          have stops := (congrFun whole machine).trans (Prog.bind_of_abort ran)
          rw [Prog.bind_of_abort (attemptReceive_abort ready asked ran),
            attemptReceive_abort ready asked stops]
      | ok result =>
          obtain ⟨outcome, middle⟩ := result
          obtain ⟨rxIndex', lastRxIndex', taken, closure', rfl, _⟩ :=
            receiveLoop_ends power least bound ready ready.rxIndex ran
          rw [Nat.zero_add] at ran
          obtain ⟨one, _, queue', settled, next⟩ :=
            attemptReceive_loop power least bound ready asked ran
          have rest := (congrFun whole machine).trans (Prog.bind_of_ok ran)
          simp only at rest
          rw [receiveLoop_from _ _ _ second rxIndex' lastRxIndex' taken] at rest
          simp only [Prog.bind_of_ok one]
          exact receiveTwice_second power least bound ready asked rest settled next

section Run

variable {σ : Type} {host : Host σ} {numRx numTx : Nat} {before : Arcs} {system final : System}
  {policy : Policy} {trace : List Event}

theorem Booted.window (booted : Booted host qs numRx numTx pool before system)
    (run : Run (next host.profile) policy system trace final) (inside : queueId < numRx) :
    InWindow host.profile final.machine.dev.len (igbRdt queueId) := by
  obtain ⟨file, booting⟩ := booted.booting
  rw [len_run run]
  exact booting.rxWindow queueId inside

/-- In every reachable state each receive queue can be called. -/
theorem Booted.receivable (positive : 0 < qs) (bound : qs < usizeModulus)
    (booted : Booted host qs numRx numTx pool before system)
    (run : Run (next host.profile) policy system trace final)
    (found : final.rxQueue? queueId = some queue) :
    Receivable host.profile qs queueId final.machine queue := by
  have shape := RxShape.run positive bound booted run found
  exact ⟨found, shape.numDescriptors, shape.cells, shape.rxIndex,
    booted.window run (booted.rxQueue_inside run found)⟩

/-- Whatever the closure does, two calls give it the same packets, return as many and
leave the same machine as one call with the sum of their budgets. -/
theorem batch_size_irrelevant (least : 2 ≤ qs) (bound : qs < usizeModulus)
    (booted : Booted host qs numRx numTx pool before system)
    (run : Run (next host.profile) policy system trace final) (callback : Callback κ)
    (queueId first second : Nat) (closure : κ) :
    receiveTwice (registerFile host.profile) callback.logged queueId first second
      ([], closure) final.machine =
      attemptReceive (registerFile host.profile) callback.logged queueId (first + second)
        ([], closure) final.machine := by
  cases found : final.rxQueue? queueId with
  | none =>
      have refused : ∀ packetNums,
          attemptReceive (registerFile host.profile) callback.logged queueId packetNums
            ([], closure) final.machine =
          .ok (.ok (.error .invalidQueue, ([], closure)), final.machine) := by
        intro packetNums
        rw [attemptReceive, receivePackets, Prog.bind_read_apply,
          show final.machine.dev.rxQueues[queueId]? = none from found]
        rfl
      simp only [receiveTwice, Prog.bind_of_ok (refused first), Prog.bind_of_ok (refused second),
        refused]
      rfl
  | some queue =>
      have power := booted.power (by omega) (Nat.add_pos_left (by
        have inside := booted.rxQueue_inside run found
        omega) numTx)
      exact receiveTwice_eq power least bound (booted.receivable (by omega) bound run found)
        callback.logged
        first second ([], closure)

/-- A closure that counts its calls. -/
def countCalls : Callback Nat := fun _ count arcs => .ok (count + 1, arcs)

/-- Two frames waiting, taken one at a time or both at once. -/
theorem batch_size_irrelevant_pair :
    ∃ (final : System) (packets : List Packet) (after : Machine RegisterFile),
    packets.length = 2 ∧
      attemptReceive (registerFile .dev) countCalls.logged 0 2 ([], 0) final.machine =
        .ok (.ok (.ok 2, (packets, 2)), after) ∧
      receiveTwice (registerFile .dev) countCalls.logged 0 1 1 ([], 0) final.machine =
        .ok (.ok (.ok 2, (packets, 2)), after) := by
  obtain ⟨system, trace, final, booted, _, _, run, accepted⟩ :=
    exists_replayPlatform .dev RxInOrder 4 1 1 12
    [.rxStore 0 0 (frameWriteBack 60), .rxStore 0 1 (frameWriteBack 1500)]
    (fun _ final => Prog.returnsWith (fun (result : Except IgbError Nat × List Packet × Nat) =>
      decide (result.1 = .ok 2) && decide (result.2.1.length = 2) && decide (result.2.2 = 2))
        (attemptReceive (registerFile .dev) countCalls.logged 0 2 ([], 0) final.machine))
    (by decide +kernel)
  obtain ⟨⟨result, packets, count⟩, after, called, passed⟩ := Prog.exists_of_returnsWith accepted
  simp only [Bool.and_eq_true, decide_eq_true_eq] at passed
  obtain ⟨⟨rfl, two⟩, rfl⟩ := passed
  exact ⟨final, packets, after, two, called,
    (batch_size_irrelevant (by decide) (by decide) booted run countCalls 0 1 1 0).trans called⟩

end Run

end IgbDriver
