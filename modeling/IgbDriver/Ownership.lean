import IgbDriver.Platform
import IgbDriver.Foundation.Tally
import Mathlib.Data.List.Nodup

namespace IgbDriver

open Foundation

/-! # Who owns a buffer

An entry of a pool is free, in a live packet, in a receive ring or in a transmit
queue. No step changes how many of these an entry is in.
-/

def rxShare (ref : PoolRef) (id : Nat) (queue : IgbRxQueue) : Nat :=
  if queue.pool = ref then queue.bufsInUse.count id else 0

def txShare (ref : PoolRef) (id : Nat) (queue : IgbTxQueue) : Nat :=
  if queue.pool = some ref then queue.bufsInUse.count id else 0

/-- How many owners entry `id` of pool `ref` has. -/
def System.owners (system : System) (ref : PoolRef) (id : Nat) : Nat :=
  (system.machine.arcs.free ref).count id +
    system.live.countP (fun packet => packet.home = (ref, id)) +
    (system.machine.dev.rxQueues.map (rxShare ref id)).sum +
    (system.machine.dev.txQueues.map (txShare ref id)).sum

/-- A packet of another pool is accepted only on a queue that holds no entries. -/
def KeepsPool (profile : Profile) : Policy := fun system action =>
  match action with
  | .send queueId position => ∀ packet queue, system.live[position]? = some packet →
      system.txQueue? queueId = some queue → queue.canSend profile = .ok true →
      queue.bufsInUse = [] ∨ queue.pool = some packet.pool
  | _ => True

section Shares

variable {ref other : PoolRef} {id : Nat} {arcs : Arcs} {stack : List Nat}

theorem count_free_setFree :
    ((arcs.setFree other stack).free ref).count id =
      if ref = other then stack.count id else (arcs.free ref).count id := by
  rw [Arcs.free_setFree]
  split <;> rfl

theorem free_switchPool (current : Option PoolRef) (packetPool : PoolRef) :
    (switchPool current packetPool arcs).2.free ref = arcs.free ref := by
  simp only [switchPool]
  split
  · split
    · rfl
    · rw [Arcs.free_drop, Arcs.free_clone]
  · rw [Arcs.free_clone]

theorem home_eq_iff (packet : Packet) :
    packet.home = (ref, id) ↔ packet.pool = ref ∧ packet.poolEntry = id := by
  simp only [Packet.home, Prod.mk.injEq]

end Shares

/-- Dropping a live packet moves its entry to the free stack. -/
theorem owners_freed {system : System} {position : Nat} {packet : Packet} {arcs : Arcs}
    (owned : system.live[position]? = some packet) (frees : Frees system.machine.arcs packet arcs)
    (ref : PoolRef) (id : Nat) :
    ((system.withArcs arcs).withLive (system.live.eraseIdx position)).owners ref id =
      system.owners ref id := by
  have left := countP_eraseIdx (fun packet => decide (packet.home = (ref, id))) owned
  simp only [System.owners, System.withArcs, System.withLive, frees.given, Arcs.free_drop,
    count_free_setFree]
  simp only [home_eq_iff, decide_eq_true_eq] at left ⊢
  by_cases same : ref = packet.pool
  · subst same
    rw [if_pos rfl, List.count_append, List.count_singleton]
    simp only [true_and, beq_iff_eq] at left ⊢
    omega
  · rw [if_neg (fun both => same both.1.symm)] at left
    rw [if_neg same]
    omega

theorem owners_setTxQueue {system : System} {queueId : Nat} {old new : IgbTxQueue} {ref : PoolRef}
    {id : Nat} (found : system.txQueue? queueId = some old)
    (same : txShare ref id new = txShare ref id old) :
    (system.setTxQueue queueId new).owners ref id = system.owners ref id :=
  congrArg _ (sum_map_set_same (txShare ref id) found same)

theorem owners_setRxQueue {system : System} {queueId : Nat} {old new : IgbRxQueue} {ref : PoolRef}
    {id : Nat} (found : system.rxQueue? queueId = some old)
    (same : rxShare ref id new = rxShare ref id old) :
    (system.setRxQueue queueId new).owners ref id = system.owners ref id := by
  have kept := sum_map_set_same (rxShare ref id) found same
  simp only [System.owners, System.setRxQueue, Machine.setRxQueue]
  rw [kept]

/-- Allocating moves the entry on top of the free stack to the caller. -/
theorem owners_allocated {system : System} {other : PoolRef} {packet : Packet} {arcs : Arcs}
    (allocates : Allocates system.machine.arcs other packet arcs) (ref : PoolRef) (id : Nat) :
    ((system.withArcs arcs).withLive (system.live ++ [packet])).owners ref id =
      system.owners ref id := by
  obtain ⟨rest, stack, rfl⟩ := allocates.taken
  have own := allocates.pool
  simp only [System.owners, System.withArcs, System.withLive, Arcs.free_clone, count_free_setFree,
    List.countP_append, List.countP_singleton, home_eq_iff, decide_eq_true_eq, own]
  by_cases same : ref = other
  · subst same
    rw [if_pos rfl, stack, List.count_append, List.count_singleton]
    simp only [true_and, beq_iff_eq]
    omega
  · rw [if_neg same, if_neg (fun both => same both.1.symm)]
    omega

/-- The queue's entries keep their pool when it has none, or the packet's. -/
theorem txShare_afterSend {queue : IgbTxQueue} {packet : Packet} (txIndex : Nat)
    (desc : AdvancedTxDescriptor) (kept : queue.bufsInUse = [] ∨ queue.pool = some packet.pool)
    (ref : PoolRef) (id : Nat) :
    txShare ref id (queue.afterSend packet txIndex desc) =
      txShare ref id queue + if packet.home = (ref, id) then 1 else 0 := by
  simp only [txShare, IgbTxQueue.afterSend, Option.some.injEq, List.count_append,
    List.count_singleton, beq_iff_eq, home_eq_iff]
  by_cases same : packet.pool = ref
  · rcases kept with empty | own
    · simp only [empty, same, List.count_nil, true_and, if_true, ite_self]
    · simp only [own, same, true_and, if_true]
  · rcases kept with empty | own
    · simp only [empty, same, List.count_nil, false_and, if_false, ite_self]
    · simp only [own, same, false_and, if_false, Option.some.injEq]

/-- Sending moves the entry of the packet from the caller to the queue. -/
theorem owners_sent {system : System} {queueId position txIndex : Nat} {packet : Packet}
    {queue : IgbTxQueue} {desc : AdvancedTxDescriptor}
    (owned : system.live[position]? = some packet) (found : system.txQueue? queueId = some queue)
    (kept : queue.bufsInUse = [] ∨ queue.pool = some packet.pool) (ref : PoolRef) (id : Nat) :
    ((((system.withArcs (switchPool queue.pool packet.pool system.machine.arcs).2).setTxQueue
      queueId
      (queue.afterSend packet txIndex desc)).withLive (system.live.eraseIdx position)).withControl
        (.ringing queueId)).owners ref id = system.owners ref id := by
  have left := countP_eraseIdx (fun packet => decide (packet.home = (ref, id))) owned
  have moved := sum_map_set (txShare ref id) (queue.afterSend packet txIndex desc) found
  have share := txShare_afterSend txIndex desc kept ref id
  simp only [System.owners, System.withArcs, System.withLive, System.withControl, System.setTxQueue,
    Machine.setTxQueue, free_switchPool]
  simp only [decide_eq_true_eq] at left
  omega

/-- A round of recycling moves a batch from the queue to the free stack. -/
theorem owners_released {system : System} {queueId : Nat} {queue : IgbTxQueue} {other : PoolRef}
    (control : Control) (found : system.txQueue? queueId = some queue)
    (pool : queue.pool = some other) (ref : PoolRef) (id : Nat) :
    (((system.withArcs (system.machine.arcs.setFree other
      (system.machine.arcs.free other ++ queue.batch))).setTxQueue queueId
        queue.afterBatch).withControl control).owners ref id = system.owners ref id := by
  have moved := sum_map_set (txShare ref id) queue.afterBatch found
  have split : queue.bufsInUse.count id =
      queue.batch.count id + queue.afterBatch.bufsInUse.count id := by
    rw [queue.batch_eq, queue.bufsInUse_afterBatch, ← List.count_append, List.take_append_drop]
  have same_pool : queue.afterBatch.pool = some other := pool
  simp only [System.owners, System.withArcs, System.withControl, System.setTxQueue,
    Machine.setTxQueue, count_free_setFree, List.count_append]
  simp only [txShare, pool, same_pool, Option.some.injEq] at moved
  by_cases same : other = ref
  · subst same
    rw [if_pos rfl, if_pos rfl] at moved
    rw [if_pos rfl]
    omega
  · rw [if_neg same, if_neg same] at moved
    rw [if_neg (Ne.symm same)]
    omega

/-- A delivery moves the entry of the frame to the caller and one from the free stack
into the ring. -/
theorem owners_taken {system : System} {queueId rxIndex buf : Nat} {queue : IgbRxQueue}
    {packet : Packet} {desc : AdvancedRxDescriptor} {rest : List Nat} (control : Control)
    (found : system.rxQueue? queueId = some queue)
    (takes : TakesFrame system.machine.arcs queue rxIndex packet desc buf rest) (ref : PoolRef)
    (id : Nat) :
    ((((system.withArcs ((system.machine.arcs.setFree queue.pool rest).clone queue.pool)).setRxQueue
      queueId (queue.afterTake rxIndex buf)).withLive (system.live ++ [packet])).withControl
        control).owners ref id = system.owners ref id := by
  have moved := sum_map_set (rxShare ref id) (queue.afterTake rxIndex buf) found
  have swapped := count_set_of_some id buf takes.held
  have own := takes.pool
  simp only [System.owners, System.withArcs, System.withControl, System.withLive, System.setRxQueue,
    Machine.setRxQueue, Arcs.free_clone, count_free_setFree, List.countP_append,
    List.countP_singleton, home_eq_iff, decide_eq_true_eq, own]
  have share : rxShare ref id (queue.afterTake rxIndex buf) =
      if queue.pool = ref then (queue.bufsInUse.set rxIndex buf).count id else 0 := rfl
  rw [share, rxShare] at moved
  simp only [beq_iff_eq] at swapped
  by_cases same : queue.pool = ref
  · rw [if_pos same, if_pos same] at moved
    rw [if_pos same.symm, ← same, takes.stack, List.count_append, List.count_singleton]
    simp only [true_and, beq_iff_eq]
    rw [same]
    omega
  · rw [if_neg same, if_neg same] at moved
    rw [if_neg (Ne.symm same), if_neg (fun both => same both.1)]
    omega

/-- A step keeps the number of owners of every entry of every pool, unless it is a
`construct`: that makes one more of the entry it names. -/
theorem Step.owners_or_construct {profile : Profile} {system after : System} {action : Action}
    {events : List Event} (step : Step profile system action events after)
    (keeps : KeepsPool profile system action) (ref : PoolRef) (id : Nat) :
    after.owners ref id = system.owners ref id ∨
      ∃ poolEntry other len, action = .pool (.construct poolEntry other len) ∧
        after.owners ref id = system.owners ref id + if other = ref ∧ poolEntry = id then
          1 else 0 := by
  cases step with
  | report | recycle | round | receive | halt | finish | ring => exact .inl rfl
  | @construct poolEntry len other packet own entry =>
      refine .inr ⟨poolEntry, other, len, rfl, ?_⟩
      simp only [System.owners, System.withArcs, System.withLive, Arcs.free_clone,
        List.countP_append, List.countP_singleton, home_eq_iff, decide_eq_true_eq, own, entry]
      omega
  | allocate allocates => exact .inl (owners_allocated allocates ref id)
  | drop owned frees => exact .inl (owners_freed owned frees ref id)
  | reject _ owned _ frees => exact .inl (owners_freed owned frees ref id)
  | cloneHandle | dropHandle =>
      left
      simp only [System.owners, System.withArcs, Arcs.free_clone, Arcs.free_drop]
  | @send queueId position txIndex packet queue desc idle owned found room =>
      exact .inl (owners_sent owned found (keeps packet queue owned found room) ref id)
  | release _ found _ pool => exact .inl (owners_released _ found pool ref id)
  | take _ found takes => exact .inl (owners_taken _ found takes ref id)
  | commit _ found =>
      left
      change (system.setTxQueue _ _).owners ref id = _
      exact owners_setTxQueue found rfl
  | rearm _ found | publish _ _ found | rxStore found =>
      left
      change (system.setRxQueue _ _).owners ref id = _
      exact owners_setRxQueue found rfl
  | txDone found =>
      left
      change (system.setTxQueue _ _).owners ref id = _
      exact owners_setTxQueue found rfl

theorem Step.owners {profile : Profile} {system after : System} {action : Action}
    {events : List Event} (step : Step profile system action events after)
    (honest : NoConstruct system action) (keeps : KeepsPool profile system action)
    (ref : PoolRef) (id : Nat) : after.owners ref id = system.owners ref id := by
  rcases step.owners_or_construct keeps ref id with same | ⟨poolEntry, other, len, rfl, _⟩
  · exact same
  · exact honest.elim

/-- No entry of the pool has two owners. -/
def System.Single (system : System) (ref : PoolRef) : Prop := ∀ id, system.owners ref id ≤ 1

/-- `construct` is asked only for entries of `ref` that nobody has. -/
def ConstructsUnheld (ref : PoolRef) : Policy := fun system action =>
  match action with
  | .pool (.construct poolEntry other _) => other = ref → system.owners ref poolEntry = 0
  | _ => True

instance (ref : PoolRef) (system : System) :
    (action : Action) → Decidable (ConstructsUnheld ref system action)
  | .pool (.construct poolEntry other _) =>
      inferInstanceAs (Decidable (other = ref → system.owners ref poolEntry = 0))
  | .pool (.alloc ..) => isTrue trivial
  | .pool (.clone _) => isTrue trivial
  | .pool (.drop _) => isTrue trivial
  | .pool (.cloneHandle _) => isTrue trivial
  | .pool (.dropHandle _) => isTrue trivial
  | .send .. => isTrue trivial
  | .recycle _ => isTrue trivial
  | .receive .. => isTrue trivial
  | .resume => isTrue trivial
  | .rxStore .. => isTrue trivial
  | .txDone .. => isTrue trivial

theorem Step.single {profile : Profile} {system after : System} {action : Action}
    {events : List Event} {ref : PoolRef} (step : Step profile system action events after)
    (unheld : ConstructsUnheld ref system action) (keeps : KeepsPool profile system action)
    (single : system.Single ref) : after.Single ref := by
  intro id
  have before := single id
  rcases step.owners_or_construct keeps ref id with same | ⟨poolEntry, other, len, rfl, more⟩
  · omega
  · split at more
    · rename_i named
      obtain ⟨here, rfl⟩ := named
      have nobody := unheld here
      omega
    · omega

/-- Each entry of the pool is free or in one of the packets. -/
def Arcs.Whole (arcs : Arcs) (live : List Packet) (ref : PoolRef) : Prop :=
  (arcs.free ref ++ (live.filter fun packet => packet.pool = ref).map Packet.poolEntry).Perm
    (List.range (arcs.pool ref).numEntries)

/-- Each entry of the pool has exactly one owner, and nothing else has any. -/
def System.Accounted (system : System) (ref : PoolRef) : Prop :=
  ∀ id, system.owners ref id = if id < (system.machine.arcs.pool ref).numEntries then 1 else 0

theorem numEntries_of_layout {arcs arcs' : Arcs} {ref : PoolRef}
    (same : arcs.layout ref = arcs'.layout ref) :
    (arcs.pool ref).numEntries = (arcs'.pool ref).numEntries := by
  have entries := congrArg MemPool.numEntries same
  exact entries

theorem count_range_eq (bound id : Nat) : (List.range bound).count id =
    if id < bound then 1 else 0 :=
  List.count_range

theorem count_liveEntries (live : List Packet) (ref : PoolRef) (id : Nat) :
    ((live.filter fun packet => packet.pool = ref).map Packet.poolEntry).count id =
      live.countP (fun packet => packet.home = (ref, id)) := by
  rw [List.count, List.countP_map, List.countP_filter]
  refine List.countP_congr (fun packet _ => ?_)
  simp only [Function.comp_apply, Bool.and_eq_true, beq_iff_eq, decide_eq_true_eq, home_eq_iff]
  exact and_comm

theorem freshArcs_whole (entries : Nat) (ref : PoolRef) : (freshArcs entries).Whole [] ref := by
  rw [Arcs.Whole, List.filter_nil, List.map_nil, List.append_nil]
  rfl

section Accounted

variable {σ : Type} {host : Host σ} {profile : Profile} {qs numRx numTx : Nat} {pool ref : PoolRef}
  {before : Arcs} {system after : System} {action : Action} {trace events : List Event}

theorem Booted.owners (booted : Booted host qs numRx numTx pool before system) (ref : PoolRef)
    (id : Nat) : system.owners ref id =
      (before.free ref).count id + system.live.countP (fun packet => packet.home = (ref, id)) := by
  obtain ⟨file, booting⟩ := booted.booting
  have transmit : (system.machine.dev.txQueues.map (txShare ref id)).sum = 0 := by
    refine List.sum_eq_zero (fun share member => ?_)
    obtain ⟨queue, queued, rfl⟩ := List.mem_map.mp member
    exact if_neg (by rw [(booting.txBuilt queued).pool]; nofun)
  by_cases same : ref = pool
  · subst same
    have receive : (system.machine.dev.rxQueues.map (rxShare ref id)).sum =
        system.machine.dev.rxEntries id :=
      congrArg List.sum (List.map_congr_left (fun queue queued => if_pos (booting.rxPool queued)))
    rw [System.owners, transmit, receive, booting.entries id]
    omega
  · have receive : (system.machine.dev.rxQueues.map (rxShare ref id)).sum = 0 := by
      refine List.sum_eq_zero (fun share member => ?_)
      obtain ⟨queue, queued, rfl⟩ := List.mem_map.mp member
      exact if_neg (by rw [booting.rxPool queued]; exact Ne.symm same)
    rw [System.owners, transmit, receive, (booting.elsewhere ref same).1, Nat.add_zero]

theorem Booted.accounted (booted : Booted host qs numRx numTx pool before system)
    (whole : before.Whole system.live ref) : system.Accounted ref := by
  obtain ⟨file, booting⟩ := booted.booting
  intro id
  have counts := List.perm_iff_count.mp whole id
  rw [List.count_append, count_liveEntries, count_range_eq] at counts
  have entries := numEntries_of_layout (booting.layout ref)
  rw [booted.owners, counts, entries]

theorem Step.accounted (step : Step profile system action events after)
    (honest : NoConstruct system action) (keeps : KeepsPool profile system action)
    (accounted : system.Accounted ref) : after.Accounted ref := by
  have entries := numEntries_of_layout (step.layout ref)
  intro id
  rw [step.owners honest keeps, entries]
  exact accounted id

theorem Accounted.run {policy : Policy}
    (honest : ∀ state action, policy state action → NoConstruct state action)
    (keeps : ∀ state action, policy state action → KeepsPool profile state action)
    (run : Run (next profile) policy system trace after) (accounted : system.Accounted ref) :
    after.Accounted ref :=
  run.invariant (fun _ state => state.Accounted ref) accounted
    (fun _ _ _ _ _ holds permitted stepped =>
      (next_step stepped).accounted (honest _ _ permitted) (keeps _ _ permitted) holds)

namespace System.Accounted

theorem owners_le (accounted : system.Accounted ref) : system.Single ref := by
  intro id
  rw [accounted id]
  split <;> omega

theorem free_nodup (accounted : system.Accounted ref) : (system.machine.arcs.free ref).Nodup := by
  refine List.nodup_iff_count_le_one.mpr (fun id => ?_)
  have one := accounted.owners_le id
  unfold System.owners at one
  omega

theorem free_lt (accounted : system.Accounted ref) {id : Nat}
    (free : id ∈ system.machine.arcs.free ref) :
    id < (system.machine.arcs.pool ref).numEntries := by
  have count := accounted id
  have present := List.count_pos_iff.mpr free
  unfold System.owners at count
  split at count
  · assumption
  · omega

theorem live_count (owned : packet ∈ system.live) :
    0 < system.live.countP (fun other => other.home = packet.home) :=
  List.countP_pos_iff.mpr ⟨packet, owned, by simp⟩

/-- The entry of a live packet is in range and not free. -/
theorem live_entry (accounted : system.Accounted packet.pool) (owned : packet ∈ system.live) :
    packet.poolEntry < (system.machine.arcs.pool packet.pool).numEntries ∧
      packet.poolEntry ∉ system.machine.arcs.free packet.pool := by
  have held := live_count owned
  have count := accounted packet.poolEntry
  have one := accounted.owners_le packet.poolEntry
  unfold System.owners at count one
  rw [Packet.home] at held
  refine ⟨?_, fun free => ?_⟩
  · by_contra outside
    rw [if_neg outside] at count
    omega
  · have present := List.count_pos_iff.mpr free
    omega

/-- Two live packets of one pool hold different entries. -/
theorem live_distinct (accounted : system.Accounted ref) {i j : Nat} {first second : Packet}
    (here : system.live[i]? = some first) (there : system.live[j]? = some second) (apart : i ≠ j)
    (pool : first.pool = ref) (pool' : second.pool = ref) : first.poolEntry ≠ second.poolEntry := by
  intro same
  have left := countP_eraseIdx (fun packet => decide (packet.home = (ref, first.poolEntry))) here
  have still : second ∈ system.live.eraseIdx i :=
    List.mem_eraseIdx_iff_getElem?.mpr ⟨j, Ne.symm apart, there⟩
  have held : 0 < (system.live.eraseIdx i).countP
      (fun packet => decide (packet.home = (ref, first.poolEntry))) :=
    List.countP_pos_iff.mpr ⟨second, still, by simp [Packet.home, pool', same]⟩
  have mine : decide (first.home = (ref, first.poolEntry)) = true := by simp [Packet.home, pool]
  rw [if_pos mine] at left
  have one := accounted.owners_le first.poolEntry
  unfold System.owners at one
  omega

end System.Accounted

end Accounted

end IgbDriver
