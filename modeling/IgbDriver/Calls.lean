import IgbDriver.Foundation.Plays
import IgbDriver.Foundation.Refine
import IgbDriver.Rejection

namespace IgbDriver

open Foundation

/-! # Whole calls

The system takes the functions of the driver apart, so that the device can come in
between. Here they are whole, as their callers see them, and each is what its pieces
come to when the device stays out.
-/

def Action.ofDevice : Action → Bool
  | .rxStore .. => true
  | .txDone .. => true
  | _ => false

def Action.onPools : Action → Bool
  | .pool _ => true
  | _ => false

/-- The device stays out. -/
def Undisturbed (policy : Policy) : Policy := fun system action => policy system action ∧
  action.ofDevice = false

/-- The driver is on its own. -/
def Driving (policy : Policy) : Policy := fun system action =>
  Undisturbed policy system action ∧ action.onPools = false

/-- The caller is at the pools. -/
def UsingPools (policy : Policy) : Policy := fun system action => policy system action ∧
  action.onPools = true

/-- What a call hands out or takes back on the way shows in the pools and the closure,
not in its result. -/
def Event.isInner : Event → Bool
  | .released .. => true
  | .delivered .. => true
  | _ => false

def outer (trace : List Event) : List Event := trace.filter fun event => !event.isInner

@[simp] theorem outer_nil : outer [] = [] := rfl

@[simp] theorem outer_append (trace events : List Event) : outer (trace ++ events) =
    outer trace ++ outer events := by
  simp [outer]

variable {profile : Profile} {policy : Policy} {system : System} {queueId : Nat}

theorem outer_releasedBy (system : System) (queueId : Nat) :
    outer (releasedBy system queueId) = [] := by
  unfold releasedBy
  split
  · rfl
  · simp [outer, Event.isInner]

/-- A closure that uses the pools as its caller may: `handles` and `live` are what the
caller holds, and a call of the closure is played by operations on the pools. -/
structure Client (profile : Profile) (policy : Policy) (κ : Type) where
  callback : Callback κ
  handles : κ → PoolRef → Nat
  live : κ → List Packet
  plays : ∀ (system : System) (packet : Packet) (closure : κ), system.control.admitsCaller = true →
    system.handles = handles closure → system.live = live closure ++ [packet] →
    Plays (next profile) (UsingPools policy) (fun _ => False) system
      (callback { packet } closure system.machine.arcs) fun result trace after => trace = [] ∧
        after = { system.withArcs result.2 with handles := handles result.1, live := live result.1 }

section Send

/-- How the outcome of `send` is told. -/
def sendEvent (queueId : Nat) (packet : Packet) : Except IgbError Unit → Event
  | .ok () => .sent queueId packet
  | .error failure => .rejected queueId packet failure

variable {position : Nat} {packet : Packet}

theorem sendEnqueue_plays
    (idle : system.control = .idle) (owned : system.live[position]? = some packet)
    (permitted : policy system (.send queueId position)) :
    Plays (next profile) (Driving policy) (fun _ => False) system
      (sendEnqueue (registerFile profile) queueId { packet } system.machine)
      fun outcome trace after => trace = [sendEvent queueId packet outcome.1] ∧
          after = { system with
            machine := outcome.2
            live := system.live.eraseIdx position
            control := if outcome.1.isOk then .ringing queueId else .idle } := by
  have stepped : next profile system (.send queueId position) =
      some (sendStep profile system queueId packet position) := by
    simp only [next, if_pos idle, owned, Option.map_some]
  have allowed : Driving policy system (.send queueId position) := ⟨⟨permitted, rfl⟩, rfl⟩
  cases ran : sendEnqueue (registerFile profile) queueId { packet } system.machine with
  | error reason =>
      apply Plays.fails allowed
      rw [stepped]
      simp only [sendStep, System.perform, ran]
      rfl
  | ok result =>
      obtain ⟨outcome, machine⟩ := result
      cases outcome with
      | error failure =>
          refine .one allowed ?_ ⟨rfl, rfl⟩
          rw [stepped]
          simp only [sendStep, System.perform, ran, ← idle]
          rfl
      | ok value =>
          refine .one allowed ?_ ⟨rfl, rfl⟩
          rw [stepped]
          simp only [sendStep, System.perform, ran]
          rfl

theorem sendDoorbell_plays
    (resumes : ∀ state, policy state .resume) (ringing : system.control = .ringing queueId) :
    Plays (next profile) (Driving policy) (fun _ => False) system
      (sendDoorbell (registerFile profile) queueId system.machine) fun outcome trace after =>
        outcome.1 = .ok () ∧ trace = [] ∧
          after = { system with machine := outcome.2, control := .idle } := by
  have allowed : Driving policy system .resume := ⟨⟨resumes system, rfl⟩, rfl⟩
  cases ran : sendDoorbell (registerFile profile) queueId system.machine with
  | error reason =>
      apply Plays.fails allowed
      simp only [next, ringing, resumeStep, System.perform, ran]
      rfl
  | ok result =>
      obtain ⟨outcome, machine⟩ := result
      obtain ⟨_, _, rfl, _⟩ := sendDoorbell_ok ran
      refine .one allowed ?_ ⟨rfl, rfl, rfl⟩
      simp only [next, ringing, resumeStep, System.perform, ran]
      rfl

theorem send_plays (resumes : ∀ state, policy state .resume) (idle : system.control = .idle)
    (owned : system.live[position]? = some packet)
    (permitted : policy system (.send queueId position)) :
    Plays (next profile) (Driving policy) (fun _ => False) system
      (send (registerFile profile) queueId { packet } system.machine) fun outcome trace after =>
        outer trace = [sendEvent queueId packet outcome.1] ∧
          after = { system with machine := outcome.2, live := system.live.eraseIdx position } := by
  apply (sendEnqueue_plays idle owned permitted).bind
  · intro value machine trace middle enqueued
    obtain ⟨rfl, rfl⟩ := enqueued
    apply (sendDoorbell_plays resumes rfl).consequence
    intro outcome more after rung
    obtain ⟨returned, rfl, rfl⟩ := rung
    rw [returned, idle]
    exact ⟨rfl, rfl⟩
  · intro failure machine trace after refused
    obtain ⟨rfl, rfl⟩ := refused
    rw [idle]
    exact ⟨rfl, rfl⟩

end Send

section Recycle

variable {curIndex : Nat}

/-- The loop and the commit after it, from a state inside the loop. -/
theorem recycleLoop_plays (resumes : ∀ state, policy state .resume) (fuel : Nat) {cleanIndex : Nat}
    (recycling : system.control = .recycling queueId curIndex cleanIndex) :
    Plays (next profile) (Driving policy) (fun reason => reason = .outOfFuel) system
      ((do
        let cleanIndex ← recycleLoop (registerFile profile) queueId curIndex fuel cleanIndex
        recycleCommit queueId cleanIndex) system.machine) fun outcome trace after =>
        outer trace = [.recycled queueId outcome.1] ∧
          after = { system with machine := outcome.2, control := .idle } := by
  induction fuel generalizing system cleanIndex with
  | zero => exact .excuse rfl
  | succ fuel ih =>
      have allowed : Driving policy system .resume := ⟨⟨resumes system, rfl⟩, rfl⟩
      have stepped : next profile system .resume =
          some (recycleRoundStep profile system queueId curIndex cleanIndex) := by
        simp only [next, recycling, resumeStep]
      rw [recycleLoop, bind_assoc]
      cases ran : recycleRound (registerFile profile) queueId curIndex cleanIndex
        system.machine with
      | error reason =>
          rw [Prog.bind_of_abort ran]
          apply Plays.fails allowed
          rw [stepped]
          simp only [recycleRoundStep, System.perform, ran]
          rfl
      | ok result =>
          obtain ⟨outcome, machine⟩ := result
          cases outcome with
          | error failure =>
              exact absurd ran
                (recycleRound_neverFails (registerFile profile) queueId curIndex cleanIndex _ _ _)
          | ok round =>
              rw [Prog.bind_of_ok ran]
              cases round with
              | some next =>
                  have goes_on : IgbDriver.next profile system .resume =
                    some (.ok (releasedBy system queueId,
                      { system with machine, control := .recycling queueId curIndex next })) := by
                    rw [stepped]
                    simp only [recycleRoundStep, System.perform, ran]
                    rfl
                  apply Plays.after_step allowed goes_on
                  apply (ih rfl).consequence
                  intro outcome more after recycled
                  obtain ⟨told, rfl⟩ := recycled
                  rw [outer_append, outer_releasedBy, told]
                  exact ⟨rfl, rfl⟩
              | none =>
                  rw [pure_bind]
                  cases committed : recycleCommit queueId cleanIndex machine with
                  | error reason =>
                      apply Plays.fails allowed
                      rw [stepped]
                      simp only [recycleRoundStep, System.perform, ran]
                      simp only [bind, Except.bind, committed]
                  | ok result =>
                      obtain ⟨outcome, final⟩ := result
                      obtain ⟨_, _, rfl, _⟩ := recycleCommit_ok committed
                      have ends : IgbDriver.next profile system .resume =
                        some (.ok ([.recycled queueId (.ok ())],
                          { system with machine := final, control := .idle })) := by
                        rw [stepped]
                        simp only [recycleRoundStep, System.perform, ran]
                        simp only [bind, Except.bind, committed]
                      exact .one allowed ends ⟨rfl, rfl⟩

theorem recycleTxBuffers_plays
    (resumes : ∀ state, policy state .resume) (idle : system.control = .idle)
    (permitted : policy system (.recycle queueId)) (fuel : Nat) :
    Plays (next profile) (Driving policy) (fun reason => reason = .outOfFuel) system
      (recycleTxBuffers (registerFile profile) fuel queueId system.machine)
      fun outcome trace after => outer trace = [.recycled queueId outcome.1] ∧
          after = { system with machine := outcome.2 } := by
  have allowed : Driving policy system (.recycle queueId) := ⟨⟨permitted, rfl⟩, rfl⟩
  have stepped : next profile system (.recycle queueId) =
      some (.ok (recycleStep system queueId)) := by
    simp only [next, if_pos idle]
  rw [recycleTxBuffers, Prog.bind_read_apply]
  cases found : system.machine.dev.txQueues[queueId]? with
  | none =>
      simp only [recycleStep, found] at stepped
      exact .one allowed stepped ⟨rfl, rfl⟩
  | some queue =>
      simp only [recycleStep, found] at stepped
      apply Plays.after_step allowed stepped
      apply (recycleLoop_plays resumes fuel rfl).consequence
      intro outcome more after recycled
      obtain ⟨told, rfl⟩ := recycled
      rw [idle]
      exact ⟨told, rfl⟩

end Recycle

section Receive

variable {κ : Type} (client : Client profile policy κ)

/-- The closure as a call of `receive_packets` leaves it; a refused call does not touch it. -/
def closureAfter (closure : κ) : Except IgbError (Nat × κ) → κ
  | .ok (_, closure) => closure
  | .error _ => closure

/-- The system after a call, with what the closure then holds in the caller's hands. -/
def Client.leaves (closure : κ) (machine : Machine RegisterFile) (control : Control) : System :=
  { machine, handles := client.handles closure, live := client.live closure, control }

variable {client} {todo rxIndex lastRxIndex recvNums : Nat} {closure : κ}

theorem callback_plays (system : System) {packet : Packet}
    (admitted : system.control.admitsCaller = true)
    (handles : system.handles = client.handles closure)
    (live : system.live = client.live closure ++ [packet]) :
    Plays (next profile) (Undisturbed policy) (fun _ => False) system
      (withArcs (client.callback { packet } closure) system.machine) fun outcome trace after =>
        trace = [] ∧ ∃ closure, outcome.1 = .ok closure ∧
          after = client.leaves closure outcome.2 system.control := by
  have weaker : ∀ state action, UsingPools policy state action →
      Undisturbed policy state action := by
    intro state action ⟨permitted, pools⟩
    cases action with
    | pool operation => exact ⟨permitted, rfl⟩
    | _ => cases pools
  have plays := (client.plays system packet closure admitted handles live).weaken weaker
  rw [withArcs, Prog.bind_read_apply]
  cases called : client.callback { packet } closure system.machine.arcs with
  | error reason =>
      rw [called] at plays
      exact plays
  | ok result =>
      rw [called] at plays
      obtain ⟨trace, after, run, silent, same⟩ := plays
      exact ⟨trace, after, run, silent, result.1, rfl, same⟩

theorem rearmDescriptor_plays (resumes : ∀ state, policy state .resume)
    (delivering : system.control = .delivering queueId todo rxIndex lastRxIndex recvNums) :
    Plays (next profile) (Undisturbed policy) (fun _ => False) system
      (rearmDescriptor (registerFile profile) queueId rxIndex system.machine)
      fun outcome trace after => trace = [] ∧ ∃ next, outcome.1 = .ok next ∧ after = { system with
          machine := outcome.2
          control := .receiving queueId todo next rxIndex (recvNums + 1) } := by
  have allowed : Undisturbed policy system .resume := ⟨resumes system, rfl⟩
  cases ran : rearmDescriptor (registerFile profile) queueId rxIndex system.machine with
  | error reason =>
      apply Plays.fails allowed
      simp only [next, delivering, resumeStep, rearmStep, System.perform, ran]
      rfl
  | ok result =>
      obtain ⟨outcome, machine⟩ := result
      obtain ⟨_, _, _, _, index, _, rfl, _⟩ := rearmDescriptor_ok ran
      refine .one allowed ?_ ⟨rfl, index, rfl, rfl⟩
      simp only [next, delivering, resumeStep, rearmStep, System.perform, ran]
      rfl

theorem receiveCommit_plays (resumes : ∀ state, policy state .resume)
    (publishing : system.control = .publishing queueId rxIndex lastRxIndex recvNums) :
    Plays (next profile) (Undisturbed policy) (fun _ => False) system
      (receiveCommit (registerFile profile) queueId rxIndex lastRxIndex system.machine)
      fun outcome trace after => outcome.1 = .ok () ∧ trace = [.received queueId (.ok recvNums)] ∧
          after = { system with machine := outcome.2, control := .idle } := by
  have allowed : Undisturbed policy system .resume := ⟨resumes system, rfl⟩
  cases ran : receiveCommit (registerFile profile) queueId rxIndex lastRxIndex system.machine with
  | error reason =>
      apply Plays.fails allowed
      simp only [next, publishing, resumeStep, publishStep, System.perform, ran]
      rfl
  | ok result =>
      obtain ⟨outcome, machine⟩ := result
      obtain ⟨rfl, _⟩ := receiveCommit_ok ran
      refine .one allowed ?_ ⟨rfl, rfl, rfl⟩
      simp only [next, publishing, resumeStep, publishStep, System.perform, ran]
      rfl

/-- The receive loop, from a state inside it. -/
theorem receiveLoop_plays (system : System) (resumes : ∀ state, policy state .resume)
    (handles : system.handles = client.handles closure) (live : system.live = client.live closure)
    (receiving : system.control = .receiving queueId todo rxIndex lastRxIndex recvNums) :
    Plays (next profile) (Undisturbed policy) (fun _ => False) system
      (receiveLoop (registerFile profile) client.callback queueId todo rxIndex lastRxIndex
        recvNums closure system.machine) fun outcome trace after =>
        outer trace = [] ∧ ∃ rxIndex lastRxIndex recvNums closure,
          outcome.1 = .ok (rxIndex, lastRxIndex, recvNums, closure) ∧
            after = client.leaves closure outcome.2
              (.publishing queueId rxIndex lastRxIndex recvNums) := by
  have allowed : Undisturbed policy system .resume := ⟨resumes system, rfl⟩
  have stepped : next profile system .resume =
      some (takeFrameStep profile system queueId todo rxIndex lastRxIndex recvNums) := by
    simp only [next, receiving, resumeStep]
  have halted : { system with control := .publishing queueId rxIndex lastRxIndex recvNums } =
      client.leaves closure system.machine (.publishing queueId rxIndex lastRxIndex recvNums) := by
    rw [Client.leaves, handles, live]
  induction todo generalizing system rxIndex lastRxIndex recvNums closure with
  | zero => exact .one allowed stepped ⟨rfl, _, _, _, _, rfl, halted⟩
  | succ todo ih =>
      rw [receiveLoop]
      cases ran : takeFrame (registerFile profile) queueId rxIndex system.machine with
      | error reason =>
          rw [Prog.bind_of_abort ran]
          apply Plays.fails allowed
          rw [stepped]
          simp only [takeFrameStep, System.perform, ran]
          rfl
      | ok result =>
          obtain ⟨outcome, machine⟩ := result
          cases outcome with
          | error failure =>
              exact absurd ran (takeFrame_neverFails (registerFile profile) queueId rxIndex _ _ _)
          | ok taken =>
              rw [Prog.bind_of_ok ran]
              cases taken with
              | none =>
                  obtain ⟨_, _, ⟨_, rfl⟩ | ⟨_, _, _, _, impossible, _⟩⟩ := takeFrame_ok ran
                  · have stops : next profile system .resume = some (.ok ([],
                        { system with
                          control := .publishing queueId rxIndex lastRxIndex recvNums })) := by
                      rw [stepped]
                      simp only [takeFrameStep, System.perform, ran]
                      rfl
                    exact .one allowed stops ⟨rfl, _, _, _, _, rfl, halted⟩
                  · cases impossible
              | some rxBuf =>
                  have delivers : next profile system .resume =
                    some (.ok ([.delivered queueId rxBuf.packet],
                      { system with
                        machine
                        live := system.live ++ [rxBuf.packet]
                        control := .delivering queueId todo rxIndex lastRxIndex recvNums })) := by
                    rw [stepped]
                    simp only [takeFrameStep, System.perform, ran]
                    rfl
                  apply Plays.after_step allowed delivers
                  apply (callback_plays { system with
                    machine
                    live := system.live ++ [rxBuf.packet]
                    control := .delivering queueId todo rxIndex lastRxIndex recvNums } rfl handles
                      (congrArg (· ++ [rxBuf.packet]) live)).bind
                  · intro closure machine trace middle called
                    obtain ⟨rfl, _, same, rfl⟩ := called
                    cases same
                    apply (rearmDescriptor_plays resumes rfl).bind
                    · intro index machine trace middle rearmed
                      obtain ⟨rfl, _, same, rfl⟩ := rearmed
                      cases same
                      exact (ih _ rfl rfl rfl ⟨resumes _, rfl⟩ rfl rfl).consequence
                        fun _ _ _ ends => ends
                    · intro failure machine trace after rearmed
                      obtain ⟨_, _, impossible, _⟩ := rearmed
                      cases impossible
                  · intro failure machine trace after called
                    obtain ⟨_, _, impossible, _⟩ := called
                    cases impossible

theorem receivePackets_plays
    (resumes : ∀ state, policy state .resume) (idle : system.control = .idle)
    (handles : system.handles = client.handles closure) (live : system.live = client.live closure)
    {packetNums : Nat} (permitted : policy system (.receive queueId packetNums)) :
    Plays (next profile) (Undisturbed policy) (fun _ => False) system
      (receivePackets (registerFile profile) client.callback queueId packetNums closure
        system.machine)
      fun outcome trace after => outer trace = [.received queueId (outcome.1.map Prod.fst)] ∧
        after = client.leaves (closureAfter closure outcome.1) outcome.2 .idle := by
  have allowed : Undisturbed policy system (.receive queueId packetNums) := ⟨permitted, rfl⟩
  have stepped : next profile system (.receive queueId packetNums) =
      some (receiveStep system queueId packetNums) := by
    simp only [next, if_pos idle]
  have refused : system = client.leaves closure system.machine .idle := by
    rw [Client.leaves, ← handles, ← live, ← idle]
  rw [receivePackets, Prog.bind_read_apply]
  cases found : system.machine.dev.rxQueues[queueId]? with
  | none =>
      simp only [receiveStep, found] at stepped
      exact .one allowed stepped ⟨rfl, refused⟩
  | some queue =>
      simp only [receiveStep, found] at stepped
      dsimp only
      cases asked : queue.canRecv with
      | error reason =>
          rw [asked] at stepped
          exact .fails allowed stepped
      | ok ready =>
          rw [asked] at stepped
          rw [Prog.bind_of_ok (Prog.lift_ok_apply _ _)]
          cases ready with
          | false => exact .one allowed stepped ⟨rfl, refused⟩
          | true =>
              rw [if_neg (by decide)]
              apply Plays.after_step allowed stepped
              apply (receiveLoop_plays { system with
                control := .receiving queueId packetNums queue.rxIndex queue.rxIndex 0 } resumes
                  handles live rfl).bind
              · intro ended machine trace middle looped
                obtain ⟨inner, _, _, _, _, same, rfl⟩ := looped
                cases same
                apply (receiveCommit_plays resumes rfl).bind
                · intro value machine trace middle committed
                  obtain ⟨_, rfl, rfl⟩ := committed
                  refine .done ⟨?_, rfl⟩
                  simp only [outer_append, inner]
                  rfl
                · intro failure machine trace after committed
                  cases committed.1
              · intro failure machine trace after looped
                obtain ⟨_, _, _, _, _, impossible, _⟩ := looped
                cases impossible

end Receive

end IgbDriver
