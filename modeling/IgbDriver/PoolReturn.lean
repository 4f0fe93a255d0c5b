import IgbDriver.Conservation
import IgbDriver.TxQueue

namespace IgbDriver

open Foundation

/-! # Back to the pool of origin

A transmit queue remembers one pool. As long as it accepts no packet of another pool
while entries are still in it, what it hands back goes where it came from.
-/

section Fifo

variable {profile : Profile} {system : System} {action : Action} {events trace : List Event}
  {queueId : Nat} {queue : IgbTxQueue} {gone pending : List Packet}

/-- Every step keeps the entries of a queue in the order of their packets. -/
theorem TxFifo.change {queue' : IgbTxQueue} (fifo : TxFifo queueId queue trace gone pending)
    (keeps : KeepsPool profile system action) (mine : system.txQueue? queueId = some queue)
    (change : TxChange profile system queueId queue action events queue') :
    ∃ gone' pending', TxFifo queueId queue' (trace ++ events) gone' pending' := by
  cases change with
  | same sent released => exact ⟨gone, pending, fifo.kept sent released rfl rfl⟩
  | send owned room => exact ⟨_, _, fifo.send (keeps _ queue owned mine room)⟩
  | release pool => exact ⟨_, _, fifo.release pool⟩
  | commit => exact ⟨gone, pending, fifo.kept rfl rfl rfl rfl⟩
  | txDone => exact ⟨gone, pending, fifo.kept rfl rfl rfl rfl⟩

end Fifo

section Run

variable {σ : Type} {host : Host σ} {qs numRx numTx : Nat} {pool : PoolRef} {before : Arcs}
  {system after : System} {trace : List Event}

theorem TxFifo.run {profile : Profile} {policy : Policy} {queueId : Nat}
    (booted : Booted host qs numRx numTx pool before system) (inside : queueId < numTx)
    (keeps : ∀ state action, policy state action → KeepsPool profile state action)
    (run : Run (next profile) policy system trace after) :
    ∃ queue gone pending, after.txQueue? queueId = some queue ∧
      TxFifo queueId queue trace gone pending := by
  obtain ⟨file, booting⟩ := booted.booting
  obtain ⟨queue, found⟩ : ∃ queue, system.txQueue? queueId = some queue :=
    ⟨_, List.getElem?_eq_getElem (by rw [booting.txLength]; exact inside)⟩
  refine run.invariant (fun trace state => ∃ queue gone pending,
    state.txQueue? queueId = some queue ∧ TxFifo queueId queue trace gone pending)
    ⟨queue, [], [], found, .initial (booting.txQueues queueId queue found).bufs⟩ ?_
  intro trace state action events final known permitted stepped
  obtain ⟨queue, gone, pending, found, fifo⟩ := known
  obtain ⟨queue', found', change⟩ := (next_step stepped).txChange found
  obtain ⟨gone', pending', fifo'⟩ := fifo.change (keeps _ _ permitted) found change
  exact ⟨queue', gone', pending', found', fifo'⟩

/-- Nothing is released to a foreign pool, stacks stay sound and packets apart, as long
as every accepted packet finds its queue empty or on its own pool. -/
theorem released_to_own_pool (booted : Booted host qs numRx numTx pool before system)
    (whole : ∀ ref, before.Whole system.live ref)
    (run : Run (next host.profile) (fun state action => NoConstruct state action ∧
      KeepsPool host.profile state action) system trace after) :
    (∀ queueId < numTx, releasedOn queueId trace <+: (sentOn queueId trace).map Packet.home) ∧
      (∀ ref, (after.machine.arcs.free ref).Nodup ∧
        ∀ id ∈ after.machine.arcs.free ref, id < (after.machine.arcs.pool ref).numEntries) ∧
      ∀ (i j : Nat) first second, after.live[i]? = some first → after.live[j]? = some second →
        i ≠ j → first.pool = second.pool → first.poolEntry ≠ second.poolEntry := by
  have accounted : ∀ ref, after.Accounted ref := fun ref =>
    Accounted.run (fun _ _ permitted => permitted.1) (fun _ _ permitted => permitted.2) run
      (booted.accounted (whole ref))
  refine ⟨fun queueId inside => ?_, fun ref => ?_, fun i j first second here there apart pools =>
    ?_⟩
  · obtain ⟨queue, gone, pending, found, fifo⟩ :=
      TxFifo.run booted inside (fun _ _ permitted => permitted.2) run
    exact fifo.released_prefix
  · exact ⟨(accounted ref).free_nodup, fun id => (accounted ref).free_lt⟩
  · exact (accounted first.pool).live_distinct here there apart rfl pools.symm

instance (profile : Profile) (system : System) : (action : Action) →
    Decidable (KeepsPool profile system action)
  | .send queueId position =>
      match owned : system.live[position]?, found : system.txQueue? queueId with
      | some packet, some queue => decidable_of_iff
          (queue.canSend profile = .ok true → queue.bufsInUse = [] ∨ queue.pool = some packet.pool)
          ⟨fun keeps _ _ owned' found' room => by
            cases owned.symm.trans owned'
            cases found.symm.trans found'
            exact keeps room, fun keeps room => keeps packet queue owned found room⟩
      | none, _ => isTrue fun _ _ same => absurd (owned.symm.trans same) nofun
      | some _, none => isTrue fun _ _ _ same => absurd (found.symm.trans same) nofun
  | .pool _ => isTrue trivial
  | .recycle _ => isTrue trivial
  | .receive .. => isTrue trivial
  | .resume => isTrue trivial
  | .rxStore .. => isTrue trivial
  | .txDone .. => isTrue trivial

/-- A batch of one pool goes home before a packet of another pool is accepted. -/
theorem released_to_own_pool_switch : ∃ (trace : List Event) (after : System),
    (after.txQueue? 0).map (·.pool) = some (some 0) ∧ (releasedOn 0 trace).length = 32 ∧
      releasedOn 0 trace <+: (sentOn 0 trace).map Packet.home := by
  obtain ⟨system, trace, after, booted, _, live, run, accepted⟩ := exists_replayPlatform .dev
    (fun state action => NoConstruct state action ∧ KeepsPool .dev state action) 64 0 1 40
    (sendActions 0 1 32 ++ doneActions 0 32 ++ [.recycle 0, .resume, .resume] ++ sendActions 0 0 1)
    (fun trace after => (after.txQueue? 0).map (·.pool) == some (some 0) &&
      (releasedOn 0 trace).length == 32)
    (by decide +kernel)
  obtain ⟨ahead, _⟩ := released_to_own_pool booted (by rw [live]; exact freshArcs_whole 40) run
  rw [Bool.and_eq_true] at accepted
  exact ⟨trace, after, eq_of_beq accepted.1, eq_of_beq accepted.2, ahead 0 Nat.zero_lt_one⟩

/-- With 31 entries of one pool in flight, one packet of another pool takes all of
them along: they are released to the wrong stack and handed out twice. -/
theorem released_to_foreign_pool : ∃ (system after : System) (trace : List Event),
    Booted (platform .dev) 64 0 1 0 (freshArcs 40) system ∧ system.live = [] ∧
      Run (next .dev) (fun state action => TxInOrder state action ∧ NoConstruct state action)
        system trace after ∧
      ¬ releasedOn 0 trace <+: (sentOn 0 trace).map Packet.home ∧
      ¬ (after.machine.arcs.free 0).Nodup ∧ after.live.map Packet.home = [(0, 39), (0, 39)] := by
  obtain ⟨system, trace, after, booted, _, live, run, accepted⟩ := exists_replayPlatform .dev
    (fun state action => TxInOrder state action ∧ NoConstruct state action) 64 0 1 40
    (List.replicate 31 (.pool (.alloc 1 64)) ++
      (List.range 31).reverse.flatMap (fun position => [.send 0 position, .resume]) ++
      sendActions 0 0 1 ++ doneActions 0 32 ++ [.recycle 0, .resume, .resume] ++
      [.pool (.alloc 0 64), .pool (.alloc 0 64)])
    (fun trace after => decide (¬ releasedOn 0 trace <+: (sentOn 0 trace).map Packet.home) &&
      decide (¬ (after.machine.arcs.free 0).Nodup) &&
      decide (after.live.map Packet.home = [(0, 39), (0, 39)]))
    (by decide +kernel)
  simp only [Bool.and_eq_true, decide_eq_true_eq] at accepted
  exact ⟨system, after, trace, booted, live, run, accepted.1.1, accepted.1.2, accepted.2⟩

end Run

end IgbDriver
