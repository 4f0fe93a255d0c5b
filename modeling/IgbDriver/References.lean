import IgbDriver.Platform
import IgbDriver.TxQueue
import IgbDriver.Foundation.Tally

namespace IgbDriver

open Foundation

/-! # The reference counts of the pools

A pool is held by handles of the caller, by queues and by packets. `send` forgets the
packet it accepts, and with it the packet's hold on the pool.
-/

/-- Everything that will drop its hold on the pool some day. -/
def System.holders (system : System) (ref : PoolRef) : Nat :=
  system.handles ref + system.machine.dev.rxQueues.countP (fun queue => queue.pool = ref) +
    system.machine.dev.txQueues.countP (fun queue => queue.pool = some ref) +
    system.live.countP (fun packet => packet.pool = ref)

/-- A packet of the pool `ref` was accepted by `send`. -/
def Event.forgets (ref : PoolRef) : Event → Bool
  | .sent _ packet => packet.pool = ref
  | _ => false

/-- How many accepted packets of the pool the trace has. -/
def forgottenOf (ref : PoolRef) (trace : List Event) : Nat := trace.countP (Event.forgets ref)

@[simp] theorem forgottenOf_append (ref : PoolRef) (trace events : List Event) :
    forgottenOf ref (trace ++ events) = forgottenOf ref trace + forgottenOf ref events :=
  List.countP_append

theorem forgottenOf_reports {ref : PoolRef} {events : List Event}
    (reports : ∀ event ∈ events, event.isReport = true) : forgottenOf ref events = 0 := by
  refine List.countP_eq_zero.mpr (fun event member => ?_)
  have reported := reports event member
  cases event <;> simp_all [Event.isReport, Event.forgets]

/-- The count of a pool is that of its holders and of the packets forgotten so far. -/
def System.Counted (system : System) (forgotten : PoolRef → Nat) : Prop :=
  ∀ ref, system.machine.arcs.strong ref = system.holders ref + forgotten ref

section Holders

variable {system : System} {ref : PoolRef}

theorem holders_withLive_concat (packet : Packet) :
    (system.withLive (system.live ++ [packet])).holders ref =
      system.holders ref + if ref = packet.pool then 1 else 0 := by
  simp only [System.holders, System.withLive, List.countP_append, List.countP_singleton,
    decide_eq_true_eq]
  by_cases same : ref = packet.pool
  · rw [if_pos same, if_pos same.symm]
    omega
  · rw [if_neg same, if_neg (Ne.symm same)]
    omega

theorem holders_withLive_erase (ref : PoolRef) {position : Nat} {packet : Packet}
    (owned : system.live[position]? = some packet) :
    (system.withLive (system.live.eraseIdx position)).holders ref +
      (if ref = packet.pool then 1 else 0) = system.holders ref := by
  have left := countP_eraseIdx (fun packet : Packet => decide (packet.pool = ref)) owned
  simp only [decide_eq_true_eq] at left
  simp only [System.holders, System.withLive]
  split
  · rename_i same
    rw [if_pos same.symm] at left
    omega
  · rename_i other
    rw [if_neg (Ne.symm other)] at left
    omega

theorem holders_setTxQueue (ref : PoolRef) {queueId : Nat} {queue : IgbTxQueue} (new : IgbTxQueue)
    (found : system.txQueue? queueId = some queue) :
    (system.setTxQueue queueId new).holders ref + (if queue.pool = some ref then 1 else 0) =
      system.holders ref + (if new.pool = some ref then 1 else 0) := by
  have moved :=
    countP_set_of_some (fun queue : IgbTxQueue => decide (queue.pool = some ref)) new found
  simp only [decide_eq_true_eq] at moved
  simp only [System.holders, System.setTxQueue, Machine.setTxQueue]
  omega

theorem holders_setTxQueue_same (ref : PoolRef) {queueId : Nat} {queue new : IgbTxQueue}
    (found : system.txQueue? queueId = some queue) (own : new.pool = queue.pool) :
    (system.setTxQueue queueId new).holders ref = system.holders ref := by
  have moved := holders_setTxQueue ref new found
  rw [own] at moved
  omega

theorem holders_setRxQueue (ref : PoolRef) {queueId : Nat} {queue new : IgbRxQueue}
    (found : system.rxQueue? queueId = some queue) (own : new.pool = queue.pool) :
    (system.setRxQueue queueId new).holders ref = system.holders ref := by
  have moved := countP_set_of_some (fun queue : IgbRxQueue => decide (queue.pool = ref)) new found
  rw [own] at moved
  simp only [System.holders, System.setRxQueue, Machine.setRxQueue]
  omega

/-- A live packet holds its pool. -/
theorem System.Counted.strong_pos {forgotten : PoolRef → Nat} (counted : system.Counted forgotten)
    {position : Nat} {packet : Packet} (owned : system.live[position]? = some packet) :
    0 < system.machine.arcs.strong packet.pool := by
  have held := holders_withLive_erase packet.pool owned
  rw [if_pos rfl] at held
  rw [counted packet.pool]
  omega

/-- Replacing the pool of a queue moves one count from the old pool to the new one. -/
theorem strong_switchPool {current : Option PoolRef} {packetPool : PoolRef} {arcs : Arcs}
    (held : ∀ old, current = some old → 0 < arcs.strong old) :
    (switchPool current packetPool arcs).2.strong ref + (if current = some ref then 1 else 0) =
      arcs.strong ref + if some packetPool = some ref then 1 else 0 := by
  simp only [switchPool]
  cases current with
  | none =>
      simp only [Arcs.strong_clone, Option.some.injEq, reduceCtorEq, if_false]
      by_cases same : ref = packetPool
      · rw [if_pos same, if_pos same.symm, same]
      · rw [if_neg same, if_neg (Ne.symm same)]
  | some old =>
      have positive := held old rfl
      by_cases kept : old = packetPool
      · subst kept
        simp only [if_true]
      · simp only [if_neg kept, Arcs.strong_drop, Arcs.strong_clone, Option.some.injEq]
        by_cases here : ref = old
        · subst here
          simp only [if_true, if_neg kept, if_neg (Ne.symm kept)]
          omega
        · rw [if_neg here, if_neg (Ne.symm here)]
          by_cases same : ref = packetPool
          · rw [if_pos same, if_pos same.symm, same]
          · rw [if_neg same, if_neg (Ne.symm same)]

end Holders

section Steps

variable {profile : Profile} {system after : System} {action : Action} {events : List Event}
  {forgotten : PoolRef → Nat}

theorem strong_cloned (arcs : Arcs) (other ref : PoolRef) :
    (arcs.clone other).strong ref = arcs.strong ref + if ref = other then 1 else 0 := by
  rw [Arcs.strong_clone]
  split
  · rename_i same
    rw [same]
  · rfl

theorem strong_taken (arcs : Arcs) (other ref : PoolRef) (rest : List Nat) :
    ((arcs.setFree other rest).clone other).strong ref =
      arcs.strong ref + if ref = other then 1 else 0 := by
  rw [strong_cloned, Arcs.strong_setFree]

/-- Dropping a live packet lowers the count of its pool and its holders alike. -/
theorem System.Counted.freed (counted : system.Counted forgotten) {position : Nat} {packet : Packet}
    {arcs : Arcs} (owned : system.live[position]? = some packet)
    (frees : Frees system.machine.arcs packet arcs) (ref : PoolRef) :
    arcs.strong ref = (system.withLive (system.live.eraseIdx position)).holders ref +
      forgotten ref := by
  have here := counted ref
  have fewer := holders_withLive_erase ref owned
  have positive := counted.strong_pos owned
  rw [frees.given, Arcs.strong_drop, Arcs.strong_setFree, Arcs.strong_setFree]
  split
  · rename_i same
    subst same
    rw [if_pos rfl] at fewer
    omega
  · rename_i other
    rw [if_neg other] at fewer
    omega

/-- A packet that the caller gains raises the count of its pool and its holders alike. -/
theorem System.Counted.gained (counted : system.Counted forgotten) {packet : Packet} {arcs : Arcs}
    (raised : ∀ ref, arcs.strong ref =
      system.machine.arcs.strong ref + if ref = packet.pool then 1 else 0) (ref : PoolRef) :
    arcs.strong ref = (system.withLive (system.live ++ [packet])).holders ref + forgotten ref := by
  have here := counted ref
  rw [raised, holders_withLive_concat]
  omega

/-- `send` moves a hold of the queue from its old pool to the packet's, and the packet
keeps its own. -/
theorem System.Counted.sent (counted : system.Counted forgotten) {queueId position txIndex : Nat}
    {packet : Packet} {queue : IgbTxQueue} {desc : AdvancedTxDescriptor}
    (owned : system.live[position]? = some packet) (found : system.txQueue? queueId = some queue)
    (ref : PoolRef) :
    (switchPool queue.pool packet.pool system.machine.arcs).2.strong ref =
      ((system.withLive (system.live.eraseIdx position)).setTxQueue queueId
        (queue.afterSend packet txIndex desc)).holders ref +
          (forgotten ref + forgottenOf ref [.sent queueId packet]) := by
  have here := counted ref
  have fewer := holders_withLive_erase ref owned
  have found' : (system.withLive (system.live.eraseIdx position)).txQueue? queueId = some queue :=
    found
  have moved := holders_setTxQueue ref (queue.afterSend packet txIndex desc) found'
  have held : ∀ old, queue.pool = some old → 0 < system.machine.arcs.strong old := by
    intro old own
    have mine := holders_setTxQueue old { queue with pool := none } found
    rw [if_pos own, if_neg nofun] at mine
    have there := counted old
    omega
  have switched : (switchPool queue.pool packet.pool system.machine.arcs).2.strong ref + _ = _ :=
    strong_switchPool held
  have forgets : forgottenOf ref [.sent queueId packet] = if ref = packet.pool then 1 else 0 := by
    by_cases same : ref = packet.pool
    · simp [forgottenOf, Event.forgets, same]
    · simp [forgottenOf, Event.forgets, same, Ne.symm same]
  have own : (queue.afterSend packet txIndex desc).pool = some packet.pool := rfl
  rw [own] at moved
  rw [forgets]
  omega

theorem System.Counted.cloned (counted : system.Counted forgotten) (other ref : PoolRef) :
    (system.machine.arcs.clone other).strong ref =
      System.holders { system with
        handles := Function.update system.handles other (system.handles other + 1) } ref +
  forgotten ref := by
  have here := counted ref
  simp only [System.holders, Arcs.strong_clone, Function.update_apply] at here ⊢
  split
  · rename_i same
    subst same
    omega
  · omega

theorem System.Counted.dropped (counted : system.Counted forgotten) {other : PoolRef}
    (held : system.handles other ≠ 0) (ref : PoolRef) :
    (system.machine.arcs.drop other).strong ref =
      System.holders { system with
        handles := Function.update system.handles other (system.handles other - 1) } ref +
  forgotten ref := by
  have here := counted ref
  simp only [System.holders, Arcs.strong_drop, Function.update_apply] at here ⊢
  split
  · rename_i same
    subst same
    omega
  · omega

/-- Every step keeps the counts, up to the packets it forgets. -/
theorem Step.counted (step : Step profile system action events after)
    (counted : system.Counted forgotten) :
    after.Counted (fun ref => forgotten ref + forgottenOf ref events) := by
  intro ref
  have here := counted ref
  cases step with
  | report _ reports =>
      simp only [forgottenOf_reports reports]
      exact here
  | ring | recycle | round | receive | halt | finish => exact here
  | @allocate _ other packet arcs allocates =>
      obtain ⟨rest, _, rfl⟩ := allocates.taken
      exact counted.gained (fun ref => by rw [allocates.pool]; exact strong_taken _ _ _ _) ref
  | construct own => exact counted.gained (fun ref => by rw [own]; exact strong_cloned _ _ _) ref
  | drop owned frees => exact counted.freed owned frees ref
  | reject _ owned _ frees => exact counted.freed owned frees ref
  | cloneHandle => exact counted.cloned _ ref
  | dropHandle held => exact counted.dropped held ref
  | send _ owned found => exact counted.sent owned found ref
  | @release queueId curIndex cleanIndex last next queue desc count other control found =>
      have kept : (system.setTxQueue queueId queue.afterBatch).holders ref = system.holders ref :=
        holders_setTxQueue_same ref found rfl
      change (system.machine.arcs.setFree other _).strong ref =
        (system.setTxQueue queueId queue.afterBatch).holders ref + (forgotten ref + 0)
      rw [Arcs.strong_setFree, kept]
      exact here
  | @take queueId todo rxIndex lastRxIndex recvNums buf queue packet desc rest control
      found takes =>
      have found' : (system.withLive (system.live ++ [packet])).rxQueue? queueId = some queue :=
        found
      have kept : ((system.withLive (system.live ++ [packet])).setRxQueue queueId
          (queue.afterTake rxIndex buf)).holders ref = _ := holders_setRxQueue ref found' rfl
      have raised := counted.gained
        (fun ref => (strong_taken system.machine.arcs queue.pool ref rest).trans
          (by rw [takes.pool])) ref
      exact raised.trans (congrArg (· + forgotten ref) kept.symm)
  | @commit queueId curIndex cleanIndex queue control found =>
      have kept : (system.setTxQueue queueId { queue with cleanIndex }).holders ref =
          system.holders ref := holders_setTxQueue_same ref found rfl
      exact here.trans (congrArg (· + forgotten ref) kept.symm)
  | @rearm queueId todo rxIndex lastRxIndex recvNums buf phys next queue desc control found =>
      have kept : (system.setRxQueue queueId (queue.afterRearm rxIndex desc phys)).holders ref =
          system.holders ref := holders_setRxQueue ref found rfl
      exact here.trans (congrArg (· + forgotten ref) kept.symm)
  | @publish queueId rxIndex lastRxIndex recvNums queue control moved found =>
      have kept : (system.setRxQueue queueId { queue with rxIndex }).holders ref =
          system.holders ref := holders_setRxQueue ref found rfl
      exact here.trans (congrArg (· + forgotten ref) kept.symm)
  | @rxStore queueId index writeBack queue desc found =>
      have kept : (system.setRxQueue queueId { queue with
          descriptors := queue.descriptors.set index writeBack.descriptor }).holders ref =
          system.holders ref := holders_setRxQueue ref found rfl
      exact here.trans (congrArg (· + forgotten ref) kept.symm)
  | @txDone queueId index queue desc found =>
      have kept : (system.setTxQueue queueId { queue with
          descriptors := queue.descriptors.set index desc.complete }).holders ref =
          system.holders ref := holders_setTxQueue_same ref found rfl
      exact here.trans (congrArg (· + forgotten ref) kept.symm)

end Steps

/-- `send` accepts no packet of the pool: whenever it is called with one, the queue
does not exist or has no room. -/
def AcceptsNone (profile : Profile) (ref : PoolRef) : Policy := fun system action =>
  match action with
  | .send queueId position => ∀ packet queue, system.live[position]? = some packet →
      system.txQueue? queueId = some queue → packet.pool = ref → queue.canSend profile ≠ .ok true
  | _ => True

section Run

variable {σ : Type} {host : Host σ} {profile : Profile} {qs numRx numTx : Nat} {pool ref : PoolRef}
  {before : Arcs} {system after : System} {action : Action} {events trace : List Event}

theorem Step.forgets_none (step : Step profile system action events after)
    (refuses : AcceptsNone profile ref system action) : forgottenOf ref events = 0 := by
  cases step with
  | report _ reports => exact forgottenOf_reports reports
  | @send queueId position txIndex packet queue desc idle owned found room =>
      have other : packet.pool ≠ ref := fun same => refuses packet queue owned found same room
      simp [forgottenOf, Event.forgets, other]
  | _ => rfl

theorem Step.acceptsNone (step : Step profile system action events after)
    (none : forgottenOf ref events = 0) : AcceptsNone profile ref system action := by
  cases action with
  | send queueId position =>
      intro packet queue owned found own room
      obtain ⟨_, ⟨full, _, _⟩ | ⟨_, _, _, rfl, _⟩⟩ := step.send_cases found owned
      · rw [room] at full
        cases full
      · simp [forgottenOf, Event.forgets, own] at none
  | pool | recycle | receive | resume | rxStore | txDone => trivial

theorem Booted.counted (booted : Booted host qs numRx numTx pool before system)
    (balanced : ∀ ref, before.strong ref =
      system.handles ref + system.live.countP (fun packet => packet.pool = ref)) :
    system.Counted (fun _ => 0) := by
  obtain ⟨file, booting⟩ := booted.booting
  intro ref
  have transmit : system.machine.dev.txQueues.countP (fun queue => queue.pool = some ref) = 0 :=
    List.countP_eq_zero.mpr (fun queue queued => by simp [(booting.txBuilt queued).pool])
  change system.machine.arcs.strong ref = system.holders ref + 0
  simp only [System.holders]
  rw [transmit]
  by_cases same : ref = pool
  · subst same
    have receive : system.machine.dev.rxQueues.countP (fun queue => queue.pool = ref) = numRx := by
      have length : system.machine.dev.rxQueues.length = numRx := booting.rxLength
      rw [← length]
      exact List.countP_eq_length.mpr (fun queue queued => decide_eq_true (booting.rxPool queued))
    have strong := booting.strong
    have start := balanced ref
    change system.machine.arcs.strong ref = before.strong ref + numRx at strong
    omega
  · have receive : system.machine.dev.rxQueues.countP (fun queue => queue.pool = ref) = 0 :=
      List.countP_eq_zero.mpr (fun queue queued => by simp [booting.rxPool queued, Ne.symm same])
    have strong := (booting.elsewhere ref same).2
    have start := balanced ref
    omega

/-- In every run the count of a pool is that of its holders and of every packet of it
that `send` ever accepted. -/
theorem Counted.run {policy : Policy} {forgotten : PoolRef → Nat}
    (counted : system.Counted forgotten) (run : Run (next profile) policy system trace after) :
    after.Counted (fun ref => forgotten ref + forgottenOf ref trace) := by
  refine run.invariant
    (fun trace state => state.Counted (fun ref => forgotten ref + forgottenOf ref trace))
    counted ?_
  intro trace state action events final holds _ stepped ref
  have kept := (next_step stepped).counted holds ref
  simp only [forgottenOf_append] at kept ⊢
  omega

/-- The count of a pool is balanced exactly as long as no packet of it was accepted. -/
theorem pool_count_balanced_iff (booted : Booted host qs numRx numTx pool before system)
    (balanced : ∀ ref, before.strong ref =
      system.handles ref + system.live.countP (fun packet => packet.pool = ref))
    (run : Run (next host.profile) (fun _ _ => True) system trace after) (ref : PoolRef) :
    after.machine.arcs.strong ref = after.holders ref ↔
      Run (next host.profile) (AcceptsNone host.profile ref) system trace after := by
  have counted := Counted.run (booted.counted balanced) run ref
  constructor
  · intro same
    have none : forgottenOf ref trace = 0 := by
      simp only at counted
      omega
    clear counted same
    induction run with
    | refl => exact .refl
    | next _ _ stepped ih =>
        rw [forgottenOf_append] at none
        exact .next (ih (by omega)) ((next_step stepped).acceptsNone (by omega)) stepped
  · intro refusing
    have none : forgottenOf ref trace = 0 :=
      refusing.invariant (fun trace _ => forgottenOf ref trace = 0) rfl
        (fun _ _ _ _ _ none refuses stepped => by
          rw [forgottenOf_append, none, (next_step stepped).forgets_none refuses])
    simp only at counted
    omega

instance (profile : Profile) (ref : PoolRef) (system : System) : (action : Action) →
    Decidable (AcceptsNone profile ref system action)
  | .send queueId position =>
      match owned : system.live[position]?, found : system.txQueue? queueId with
      | some packet, some queue => decidable_of_iff
          (packet.pool = ref → queue.canSend profile ≠ .ok true)
          ⟨fun refuses _ _ owned' found' => by
            cases owned.symm.trans owned'
            cases found.symm.trans found'
            exact refuses, fun refuses => refuses packet queue owned found⟩
      | none, _ => isTrue fun _ _ same => absurd (owned.symm.trans same) nofun
      | some _, none => isTrue fun _ _ _ same => absurd (found.symm.trans same) nofun
  | .pool _ => isTrue trivial
  | .recycle _ => isTrue trivial
  | .receive .. => isTrue trivial
  | .resume => isTrue trivial
  | .rxStore .. => isTrue trivial
  | .txDone .. => isTrue trivial

/-- Packets of pool 1 come and go on the wire; the count of pool 0 stays balanced. -/
theorem pool_count_balanced_iff_other : ∃ (trace : List Event) (after : System),
    (sentOn 0 trace).length = 3 ∧ after.machine.arcs.strong 0 = after.holders 0 := by
  obtain ⟨system, trace, after, booted, handles, live, run, accepted⟩ := exists_replayPlatform .dev
    (AcceptsNone .dev 0) 4 1 1 8 ([.pool (.alloc 0 64)] ++ (sendActions 0 1 3).map (fun
      | .send queueId _ => .send queueId 1
      | action => action))
    (fun trace _ => (sentOn 0 trace).length == 3) (by decide +kernel)
  have free : Run (next (platform .dev).profile) (fun _ _ => True) system trace after :=
    run.weaken (fun _ _ _ => trivial)
  exact ⟨trace, after, eq_of_beq accepted, (pool_count_balanced_iff booted
    (fun _ => by rw [handles, live]; rfl) free 0).mpr run⟩

/-- After a batch was sent, released and is gone, its pool is counted 32 times more than
it is held. -/
theorem pool_count_leaks : ∃ (system after : System) (trace : List Event),
    Booted (platform .dev) 64 0 1 0 (freshArcs 40) system ∧ (system.handles = fun _ => 1) ∧
      system.live = [] ∧ Run (next .dev) TxInOrder system trace after ∧ after.live = [] ∧
      after.machine.arcs.strong 0 = after.holders 0 + 32 := by
  obtain ⟨system, trace, after, booted, handles, live, run, accepted⟩ := exists_replayPlatform .dev
    TxInOrder 64 0 1 40 (sendActions 0 0 32 ++ doneActions 0 32 ++ [.recycle 0, .resume, .resume])
    (fun _ after => after.live == [] && after.machine.arcs.strong 0 == after.holders 0 + 32)
    (by decide +kernel)
  rw [Bool.and_eq_true] at accepted
  exact ⟨system, after, trace, booted, handles, live, run, eq_of_beq accepted.1,
    eq_of_beq accepted.2⟩

end Run

end IgbDriver
