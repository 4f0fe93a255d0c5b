import IgbDriver.Calls
import IgbDriver.Aborts

namespace IgbDriver

open Foundation

/-! # Histories of whole calls

A caller that knows only the functions of the driver calls them one after another; in
between it uses the pools and the device works. Each such history is a run of the
system, so whatever holds of every run holds of it.
-/

section Clients

variable {profile : Profile} {policy : Policy}

/-- What a closure holds that has no state besides. -/
abbrev Holdings : Type := (PoolRef → Nat) × List Packet

/-- Put each frame in a list. -/
def keepFrame : Callback Holdings := fun rxBuf held arcs =>
  .ok ((held.1, held.2 ++ [rxBuf.packet]), arcs)

/-- Look at each frame and let it go. -/
def dropFrame : Callback Holdings := fun rxBuf held arcs => do
  let arcs ← rxBuf.packet.drop arcs
  .ok (held, arcs)

/-- Copy each frame and keep both. -/
def copyFrame (profile : Profile) : Callback Holdings := fun rxBuf held arcs => do
  let (copy, arcs) ← rxBuf.packet.clone profile arcs
  .ok ((held.1, held.2 ++ [rxBuf.packet] ++ [copy]), arcs)

def Client.keep (profile : Profile) (policy : Policy) : Client profile policy Holdings where
  callback := keepFrame
  handles := Prod.fst
  live := Prod.snd
  plays := by
    intro system packet held _ handles live
    refine .done ⟨rfl, ?_⟩
    rw [← handles, ← live]
    rfl

def Client.drop (drops : ∀ state position, policy state (.pool (.drop position))) :
    Client profile policy Holdings where
  callback := dropFrame
  handles := Prod.fst
  live := Prod.snd
  plays := by
    intro system packet held admitted handles live
    have allowed : UsingPools policy system (.pool (.drop held.2.length)) := ⟨drops _ _, rfl⟩
    have owned : system.live[held.2.length]? = some packet := by simp [live]
    have rest : system.live.eraseIdx held.2.length = held.2 := by
      simp [live, List.eraseIdx_append_of_length_le]
    cases dropped : packet.drop system.machine.arcs with
    | error reason =>
        simp only [dropFrame, dropped]
        apply Plays.fails allowed
        simp only [next, if_pos admitted, poolStep, owned, dropped]
        rfl
    | ok arcs =>
        simp only [dropFrame, dropped]
        refine .one allowed ?_ ⟨rfl, rfl⟩
        simp only [next, if_pos admitted, poolStep, owned, dropped, rest]
        rw [← handles]
        rfl

def Client.copy (clones : ∀ state position, policy state (.pool (.clone position))) :
    Client profile policy Holdings where
  callback := copyFrame profile
  handles := Prod.fst
  live := Prod.snd
  plays := by
    intro system packet held admitted handles live
    have allowed : UsingPools policy system (.pool (.clone held.2.length)) := ⟨clones _ _, rfl⟩
    have owned : system.live[held.2.length]? = some packet := by simp [live]
    cases cloned : packet.clone profile system.machine.arcs with
    | error reason =>
        simp only [copyFrame, cloned]
        apply Plays.fails allowed
        simp only [next, if_pos admitted, poolStep, owned, cloned]
        rfl
    | ok result =>
        simp only [copyFrame, cloned]
        refine .one allowed ?_ ⟨rfl, rfl⟩
        simp only [next, if_pos admitted, poolStep, owned, cloned]
        rw [← handles, ← live]
        rfl

end Clients

/-- A call that returned, or a move of the caller or the device between calls, with what
it shows. -/
inductive Calls (profile : Profile) (policy : Policy) (system : System) : List Event →
    System → Prop where
  | between {action : Action} {events : List Event} {after : System} :
      action.ofDevice = true ∨ action.onPools = true → policy system action →
      next profile system action = some (.ok (events, after)) →
      Calls profile policy system events after
  | send {queueId position : Nat} {packet : Packet} {result : Except IgbError Unit}
      {machine : Machine RegisterFile} :
      system.live[position]? = some packet → policy system (.send queueId position) →
      IgbDriver.send (registerFile profile) queueId { packet } system.machine =
        .ok (result, machine) →
      Calls profile policy system [sendEvent queueId packet result]
        { system with machine, live := system.live.eraseIdx position }
  | recycle {fuel queueId : Nat} {result : Except IgbError Unit} {machine : Machine RegisterFile} :
      policy system (.recycle queueId) →
      recycleTxBuffers (registerFile profile) fuel queueId system.machine = .ok (result, machine) →
      Calls profile policy system [.recycled queueId result] { system with machine }
  | receive {κ : Type} {closure : κ} {queueId packetNums : Nat} {result : Except IgbError (Nat × κ)}
      {machine : Machine RegisterFile} (client : Client profile policy κ) :
      system.handles = client.handles closure → system.live = client.live closure →
      policy system (.receive queueId packetNums) →
      receivePackets (registerFile profile) client.callback queueId packetNums closure
        system.machine =
        .ok (result, machine) →
      Calls profile policy system [.received queueId (result.map Prod.fst)]
        (client.leaves (closureAfter closure result) machine .idle)

section Runs

variable {profile : Profile} {policy : Policy} {system final : System} {labels : List (List Event)}

/-- Outside the driver a move shows all there is to see, and is over at once. -/
theorem next_between {action : Action} {events : List Event} {after : System}
    (own : action.ofDevice = true ∨ action.onPools = true)
    (stepped : next profile system action = some (.ok (events, after))) :
    outer events = events ∧ after.control = system.control := by
  cases action with
  | pool operation =>
      have moved := next_step stepped
      simp only [next] at stepped
      split at stepped
      · obtain ⟨result, _, same⟩ := Option.map_eq_some_iff.mp stepped
        cases result with
        | error reason => cases same
        | ok state =>
            cases same
            cases moved <;> exact ⟨rfl, rfl⟩
      · cases stepped
  | rxStore queueId index writeBack =>
      obtain ⟨result, stored, same⟩ := Option.map_eq_some_iff.mp stepped
      cases same
      simp only [rxStoreStep] at stored
      repeat' split at stored
      all_goals cases stored
      exact ⟨rfl, rfl⟩
  | txDone queueId index =>
      obtain ⟨result, fetched, same⟩ := Option.map_eq_some_iff.mp stepped
      cases same
      simp only [txDoneStep] at fetched
      repeat' split at fetched
      all_goals cases fetched
      exact ⟨rfl, rfl⟩
  | send | recycle | receive | resume =>
      rcases own with impossible | impossible <;> cases impossible

/-- A whole call is a run. -/
theorem Calls.run (resumes : ∀ state, policy state .resume) (idle : system.control = .idle)
    {events : List Event} {after : System} (call : Calls profile policy system events after) :
    after.control = .idle ∧ ∃ trace, Run (next profile) policy system trace after ∧
      outer trace = events := by
  cases call with
  | between own permitted stepped =>
      obtain ⟨shown, control⟩ := next_between own stepped
      exact ⟨control.trans idle, events, .one permitted stepped, shown⟩
  | send owned permitted ran =>
      have plays : Plays (next profile) (Driving policy) _ system _ _ :=
        send_plays resumes idle owned permitted
      rw [ran] at plays
      obtain ⟨trace, _, run, told, rfl⟩ := plays
      exact ⟨idle, trace, run.weaken fun _ _ driving => driving.1.1, told⟩
  | recycle permitted ran =>
      rename_i fuel queueId result machine
      have plays : Plays (next profile) (Driving policy) _ system _ _ :=
        recycleTxBuffers_plays resumes idle permitted fuel
      rw [ran] at plays
      obtain ⟨trace, _, run, told, rfl⟩ := plays
      exact ⟨idle, trace, run.weaken fun _ _ driving => driving.1.1, told⟩
  | receive client handles live permitted ran =>
      have plays := receivePackets_plays resumes idle handles live permitted
      rw [ran] at plays
      obtain ⟨trace, _, run, told, rfl⟩ := plays
      exact ⟨rfl, trace, run.weaken fun _ _ undisturbed => undisturbed.1, told⟩

theorem run_of_calls (resumes : ∀ state, policy state .resume) (idle : system.control = .idle)
    (path : Path (Calls profile policy) system labels final) :
    final.control = .idle ∧ ∃ trace, Run (next profile) policy system trace final ∧ outer trace =
      labels.flatten := by
  refine path.invariant (fun labels state => state.control = .idle ∧
    ∃ trace, Run (next profile) policy system trace state ∧ outer trace = labels.flatten)
      ⟨idle, [], .refl, rfl⟩ ?_
  intro labels state events after before call
  obtain ⟨quiet, trace, run, told⟩ := before
  obtain ⟨ended, more, rest, shown⟩ := call.run resumes quiet
  refine ⟨ended, trace ++ more, run.trans rest, ?_⟩
  rw [outer_append, told, shown]
  simp

/-- A call that aborts. -/
inductive CallAborts (profile : Profile) (policy : Policy) (system : System)
    (reason : Abort Panic) : Prop where
  | send {queueId position : Nat} {packet : Packet} :
      system.live[position]? = some packet → policy system (.send queueId position) →
      IgbDriver.send (registerFile profile) queueId { packet } system.machine = .error reason →
      CallAborts profile policy system reason
  | recycle {fuel queueId : Nat} : policy system (.recycle queueId) →
      recycleTxBuffers (registerFile profile) fuel queueId system.machine = .error reason →
      CallAborts profile policy system reason
  | receive {κ : Type} {closure : κ} {queueId packetNums : Nat} (client : Client profile policy κ) :
      system.handles = client.handles closure → system.live = client.live closure →
      policy system (.receive queueId packetNums) →
      receivePackets (registerFile profile) client.callback queueId packetNums closure
        system.machine =
        .error reason →
      CallAborts profile policy system reason

variable {reason : Abort Panic}

theorem send_aborting (resumes : ∀ state, policy state .resume) (idle : system.control = .idle)
    {queueId position : Nat} {packet : Packet} (owned : system.live[position]? = some packet)
    (permitted : policy system (.send queueId position))
    (aborted : send (registerFile profile) queueId { packet } system.machine = .error reason) :
    Aborting (next profile) (Driving policy) system reason := by
  have plays : Plays (next profile) (Driving policy) _ system _ _ :=
    send_plays resumes idle owned permitted
  rw [aborted] at plays
  exact plays.resolve_left id

theorem recycle_aborting (resumes : ∀ state, policy state .resume) (idle : system.control = .idle)
    {fuel queueId : Nat} (permitted : policy system (.recycle queueId))
    (aborted : recycleTxBuffers (registerFile profile) fuel queueId system.machine =
      .error reason) :
    reason = .outOfFuel ∨ Aborting (next profile) (Driving policy) system reason := by
  have plays : Plays (next profile) (Driving policy) _ system _ _ :=
    recycleTxBuffers_plays resumes idle permitted fuel
  rw [aborted] at plays
  exact plays

theorem receive_aborting (resumes : ∀ state, policy state .resume) (idle : system.control = .idle)
    {κ : Type} {closure : κ} {queueId packetNums : Nat} {client : Client profile policy κ}
    (handles : system.handles = client.handles closure) (live : system.live = client.live closure)
    (permitted : policy system (.receive queueId packetNums))
    (aborted : receivePackets (registerFile profile) client.callback queueId packetNums closure
      system.machine =
      .error reason) : Aborting (next profile) (Undisturbed policy) system reason := by
  have plays := receivePackets_plays resumes idle handles live permitted
  rw [aborted] at plays
  exact plays.resolve_left id

theorem CallAborts.aborting
    (resumes : ∀ state, policy state .resume) (idle : system.control = .idle)
    (aborts : CallAborts profile policy system reason) :
    reason = .outOfFuel ∨ Aborting (next profile) policy system reason := by
  cases aborts with
  | send owned permitted aborted =>
      exact .inr ((send_aborting resumes idle owned permitted aborted).weaken fun _ _ driving =>
        driving.1.1)
  | recycle permitted aborted =>
      exact (recycle_aborting resumes idle permitted aborted).imp id
        fun aborting => aborting.weaken fun _ _ driving => driving.1.1
  | receive client handles live permitted aborted =>
      exact .inr ((receive_aborting resumes idle handles live permitted aborted).weaken
        fun _ _ undisturbed => undisturbed.1)

/-- Every history of whole calls is a run that shows the same, and a call that aborts after
it is a run that aborts for the same reason, unless the recycle loop was not followed long
enough. -/
theorem calls_are_runs (resumes : ∀ state, policy state .resume) (idle : system.control = .idle)
    (path : Path (Calls profile policy) system labels final) :
    (∃ trace, Run (next profile) policy system trace final ∧ outer trace = labels.flatten) ∧
      ∀ reason, CallAborts profile policy final reason →
        reason = .outOfFuel ∨ Aborting (next profile) policy system reason := by
  obtain ⟨quiet, trace, run, told⟩ := run_of_calls resumes idle path
  exact ⟨⟨trace, run, told⟩, fun reason aborts =>
    (aborts.aborting resumes quiet).imp id run.aborting⟩

end Runs

/-- A packet sent and a frame received, in two calls. -/
theorem calls_are_runs_pair : ∃ (system final : System) (packet : Packet) (trace : List Event),
    Run (next .dev) (Orderly 0) system trace final ∧ outer trace =
      [.sent 0 packet, .received 0 (.ok 1)] := by
  obtain ⟨start, _, system, _, _, accepted⟩ := exists_replayOnePool .dev (Orderly 0) 4 1 1 12
    [.pool (.alloc 0 64), .rxStore 0 0 (frameWriteBack 60)]
    (fun system => decide (system.control = .idle) && system.live[0]?.any fun (packet : Packet) =>
      decide (packet.pool = 0) &&
      Prog.returnsWith (fun (result : Nat × Holdings) => decide (result.1 = 1))
        ((do
          send (registerFile .dev) 0 { packet }
          receivePackets (registerFile .dev) dropFrame 0 8
            (system.handles, system.live.eraseIdx 0) :
          Driver RegisterFile (Nat × Holdings)) system.machine))
    (by decide) (by decide) (by decide) (by decide) (by decide +kernel)
  simp only [Bool.and_eq_true, decide_eq_true_eq, Option.any_eq_true] at accepted
  obtain ⟨idle, packet, owned, ours, returned⟩ := accepted
  obtain ⟨⟨count, held⟩, machine, ran, one⟩ := Prog.exists_of_returnsWith returned
  obtain ⟨_, middle, sent, received⟩ := Prog.bind_ok ran
  have drops : ∀ state position, Orderly 0 state (.pool (.drop position)) :=
    fun _ _ => ⟨⟨trivial, trivial⟩, trivial, trivial⟩
  have sends : Orderly 0 system (.send 0 0) := by
    refine ⟨⟨trivial, trivial⟩, trivial, fun other found => ?_⟩
    cases owned.symm.trans found
    exact ours
  have receives : Calls .dev (Orderly 0)
    { system with machine := middle, live := system.live.eraseIdx 0 }
      [.received 0 ((Except.ok (count, held) : Except IgbError (Nat × Holdings)).map Prod.fst)] _ :=
    .receive (Client.drop drops) rfl rfl ⟨⟨trivial, trivial⟩, trivial, trivial⟩ received
  have path : Path (Calls .dev (Orderly 0)) system
      [[.sent 0 packet], [.received 0 (.ok count)]] _ :=
    .next (.next .refl (.send owned sends sent)) receives
  obtain ⟨⟨trace, run, told⟩, _⟩ :=
    calls_are_runs (fun _ => ⟨⟨trivial, trivial⟩, trivial, trivial⟩) idle path
  simp only [decide_eq_true_eq] at one
  exact ⟨system, _, packet, trace, run, by rw [told, one]; rfl⟩

/-- After any history of whole calls: `send` returns, `recycle_tx_buffers` returns when it
is followed long enough, and `receive_packets` returns unless its closure copies a packet
with no buffer to be had. -/
structure CallsReturn (profile : Profile) (policy : Policy) (system : System) : Prop where
  send : ∀ {queueId position packet}, system.live[position]? = some packet →
    policy system (.send queueId position) →
    Returns (IgbDriver.send (registerFile profile) queueId { packet } system.machine)
  recycle : ∀ queueId,
    (∃ fuel, Returns (recycleTxBuffers (registerFile profile) fuel queueId system.machine)) ∧
    ∀ fuel reason, recycleTxBuffers (registerFile profile) fuel queueId system.machine =
      .error reason →
      reason = .outOfFuel
  receive : ∀ {κ : Type} (client : Client profile policy κ) {closure : κ}
      {queueId packetNums reason},
    system.handles = client.handles closure → system.live = client.live closure →
    receivePackets (registerFile profile) client.callback queueId packetNums closure
      system.machine = .error reason →
    reason = .panic .noBufferAvailable ∧ ∃ trace inside action,
      Run (next profile) (Undisturbed policy) system trace inside ∧ policy inside action ∧
        inside.OutOfBuffers action

section Result

variable {σ : Type} {host : Host σ} {translate : Nat → Nat} {qs numRx numTx : Nat} {pool : PoolRef}
  {before : Arcs} {policy : Policy} {system middle final : System} {trace : List Event}
  {labels : List (List Event)}

/-- Following the recycle loop long enough. -/
theorem recycle_returns (deployed : Deployment host translate qs numRx numTx pool before system)
    (run : Run (next host.profile) policy system trace final) (queueId : Nat) :
    ∃ fuel, Returns (recycleTxBuffers (registerFile host.profile) fuel queueId final.machine) := by
  have least := deployed.least
  have small := deployed.small
  obtain ⟨file, booting⟩ := deployed.booted.booting
  rcases Nat.lt_or_ge queueId numTx with inside | outside
  · obtain ⟨queue, found, shape⟩ :=
      TxShape.run (by omega) deployed.narrow deployed.booted inside run
    have power := deployed.power_of (by omega)
    obtain ⟨fuel, ended⟩ : ∃ fuel,
      (∃ after, recycleTxBuffers (registerFile host.profile) fuel queueId final.machine =
        .ok (.ok (), after)) ∨ 2147483648 ≤ qs ∧
          _ := recycleTxBuffers_ends power deployed.narrow found shape
    rcases ended with ⟨after, ran⟩ | ⟨large, _⟩
    · exact ⟨fuel, _, ran⟩
    · omega
  · have absent : final.machine.dev.txQueues[queueId]? = none := by
      rw [List.getElem?_eq_none_iff, (lengths_run run).2, booting.txLength]
      exact outside
    refine ⟨0, (.error .invalidQueue, final.machine), ?_⟩
    rw [recycleTxBuffers, Prog.bind_read_apply, absent]
    rfl

/-- In every history after every run, on a platform and with surroundings that keep their
promises, the calls come to their ends. -/
theorem calls_return (deployed : Deployment host translate qs numRx numTx pool before system)
    (allocated : ∀ ref, (before.pool ref).Allocated host)
    (orderly : ∀ state action, policy state action → Orderly pool state action)
    (calling : ∀ state action, action.ofDevice = false → action.onPools = false →
      (∀ queueId position, action ≠ .send queueId position) → policy state action)
    (run : Run (next host.profile) policy system trace middle) (idle : middle.control = .idle)
    (path : Path (Calls host.profile policy) middle labels final) :
    CallsReturn host.profile policy final := by
  have resumes : ∀ state, policy state .resume := fun state => calling state _ rfl rfl nofun
  obtain ⟨quiet, more, rest, _⟩ := run_of_calls resumes idle path
  have reached := (run.trans rest).weaken orderly
  have exhausted : ∀ reason, Aborting (next host.profile) (Undisturbed policy) final reason →
      reason = .panic .noBufferAvailable ∧ ∃ trace inside action,
        Run (next host.profile) (Undisturbed policy) final trace inside ∧ policy inside action ∧
          inside.OutOfBuffers action := by
    intro reason aborting
    obtain ⟨trace', inside, action, inner, permitted, failed⟩ := aborting
    have whole := reached.trans (inner.weaken fun state action undisturbed =>
      orderly state action undisturbed.1)
    obtain ⟨why, copies⟩ :=
      (deployed.outOfBuffers allocated whole (orderly _ _ permitted.1)).mp failed
    exact ⟨why, trace', inside, action, inner, permitted.1, copies⟩
  have unhindered : ∀ reason, ¬ Aborting (next host.profile) (Driving policy) final reason := by
    intro reason aborting
    obtain ⟨trace', inside, action, inner, permitted, failed⟩ := aborting
    have whole :=
      reached.trans (inner.weaken fun state action driving => orderly state action driving.1.1)
    obtain ⟨_, position, packet, rfl, _⟩ :=
      (deployed.outOfBuffers allocated whole (orderly _ _ permitted.1.1)).mp failed
    cases permitted.2
  constructor
  · intro queueId position packet owned permitted
    cases ran : send (registerFile host.profile) queueId { packet } final.machine with
    | error reason =>
        exact absurd (send_aborting resumes quiet owned permitted ran) (unhindered reason)
    | ok result => exact ⟨result, rfl⟩
  · intro queueId
    have permitted : policy final (.recycle queueId) := calling _ _ rfl rfl nofun
    constructor
    · exact recycle_returns deployed reached queueId
    · intro fuel reason ran
      exact (recycle_aborting resumes quiet permitted ran).resolve_right (unhindered reason)
  · intro κ client closure queueId packetNums reason handles live ran
    exact exhausted reason
      (receive_aborting resumes quiet handles live (calling _ _ rfl rfl nofun) ran)

theorem orderly_calling (pool : PoolRef) (state : System) (action : Action)
    (stays : action.ofDevice = false) (leaves : action.onPools = false)
    (receives : ∀ queueId position, action ≠ .send queueId position) :
    Orderly pool state action := by
  cases action with
  | send queueId position => exact absurd rfl (receives queueId position)
  | pool => cases leaves
  | rxStore | txDone => cases stays
  | recycle | receive | resume => exact ⟨⟨trivial, trivial⟩, trivial, trivial⟩

/-- After a packet was sent and the transmit queue recycled. -/
theorem calls_return_recycled : ∃ (system : System) (machine : Machine RegisterFile),
    recycleTxBuffers (registerFile .dev) 1 0 system.machine = .ok (.ok (), machine) ∧
      CallsReturn .dev (Orderly 0) { system with machine } := by
  obtain ⟨start, trace, system, deployed, run, accepted⟩ :=
    exists_replayOnePool .dev (Orderly 0) 4 1 1 12
    [.pool (.alloc 0 64), .send 0 0, .resume]
    (fun system => decide (system.control = .idle) && Prog.returnsWith (fun _ => true)
      (recycleTxBuffers (registerFile .dev) 1 0 system.machine))
    (by decide) (by decide) (by decide) (by decide) (by decide +kernel)
  simp only [Bool.and_eq_true, decide_eq_true_eq] at accepted
  obtain ⟨idle, returned⟩ := accepted
  obtain ⟨_, machine, recycled, _⟩ := Prog.exists_of_returnsWith returned
  have path : Path (Calls .dev (Orderly 0)) system [[.recycled 0 (.ok ())]]
      { system with machine } :=
    .one (.recycle (orderly_calling 0 _ _ rfl rfl nofun) recycled)
  exact ⟨system, machine, recycled, calls_return deployed (onePool_allocated (by decide))
    (fun _ _ permitted => permitted) (orderly_calling 0) run idle path⟩

end Result

end IgbDriver
