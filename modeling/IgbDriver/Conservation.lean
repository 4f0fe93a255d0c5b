import IgbDriver.Ownership

namespace IgbDriver

open Foundation

/-! # No buffer is freed twice

With every entry accounted for, no step of the system ends in one of the panics of
`free_buf`, and the entries of the pool are at every moment shared out exactly.
-/

section Spares

variable {σ : Type} {host : Host σ}

/-- Whatever the program aborts with, it is not a panic of `free_buf`. -/
abbrev Spares {α : Type} (program : Driver σ α) : Prop :=
  Triple SparesFreeBuf (fun _ => True) program (fun _ _ => True) (fun _ _ => True)

namespace Spares

variable {α β : Type}

theorem bind {program : Driver σ α} {next : α → Driver σ β} (first : Spares program)
    (rest : ∀ value, Spares (next value)) : Spares (program >>= next) :=
  Triple.bind first (fun value => (rest value).strengthen (fun _ _ => trivial))

theorem read {body : Machine σ → Driver σ β} (rest : ∀ machine, Spares (body machine)) :
    Spares (Prog.read >>= body) :=
  Triple.read (fun machine _ => (rest machine).strengthen (fun _ _ => trivial))

theorem lift {result : Except (Abort Panic) α} (aborts : AbortsOnly SparesFreeBuf result) :
    Spares (Prog.lift result : Driver σ α) :=
  Triple.lift aborts (fun _ _ _ _ => trivial)

theorem pure (value : α) : Spares (Pure.pure value : Driver σ α) := Triple.pure (fun _ _ => trivial)

theorem fail (failure : IgbError) : Spares (Prog.fail failure : Driver σ α) :=
  Triple.fail (fun _ _ => trivial)

theorem update (change : Machine σ → Machine σ) : Spares (Prog.update change) :=
  Triple.update (fun _ _ => trivial)

theorem abort {reason : Panic} (spared : reason.fromFreeBuf = false) :
    Spares (Prog.abort (.panic reason) : Driver σ α) := Triple.abort spared

end Spares

theorem indexSlice_spares {α : Type} (values : List α) (position : Nat) :
    AbortsOnly SparesFreeBuf (indexSlice Panic.indexOutOfBounds values position) :=
  abortsOnly_indexSlice (by rfl)

theorem wrapRing_spares (profile : Profile) (index size : Nat) :
    AbortsOnly SparesFreeBuf (wrapRing profile index size) :=
  (abortsOnly_usizeAdd trivial).bind (fun _ _ =>
    (abortsOnly_usizeSub trivial).bind (fun _ _ => .ok _))

theorem cleanable_spares (profile : Profile) (size curIndex cleanIndex : Nat) :
    AbortsOnly SparesFreeBuf (cleanable profile size curIndex cleanIndex) := by
  refine (abortsOnly_i32Sub trivial).bind (fun difference _ => ?_)
  split
  · exact abortsOnly_i32Add trivial
  · exact .ok _

theorem cleanupTo_spares (profile : Profile) (size cleanIndex : Nat) :
    AbortsOnly SparesFreeBuf (cleanupTo profile size cleanIndex) := by
  refine (abortsOnly_usizeAdd trivial).bind (fun _ _ => (abortsOnly_usizeSub trivial).bind
    (fun last _ => ?_))
  split
  · exact abortsOnly_usizeSub trivial
  · exact .ok _

theorem setReg32_spares (reg : Nat) (value : BitVec 32) : Spares (setReg32 host reg value) := by
  refine Spares.bind (Spares.read (fun machine => ?_)) (fun _ => Spares.update _)
  refine Spares.bind (Spares.lift (abortsOnly_usizeSub trivial)) (fun limit => ?_)
  split
  · exact Spares.pure _
  · exact Spares.abort rfl

theorem sendDoorbell_spares (queueId : Nat) : Spares (sendDoorbell host queueId) :=
  Spares.read (fun _ => Spares.bind (Spares.lift (indexSlice_spares _ _))
    (fun _ => setReg32_spares _ _))

theorem enqueuePacket_spares (queueId : Nat) (queue : IgbTxQueue) (packet : Packet) :
    Spares (enqueuePacket host queueId queue packet) := by
  refine Spares.bind (Spares.read (fun _ => Spares.bind (Spares.lift (.ok _)) (fun result =>
    Spares.bind (Spares.update _) (fun _ => Spares.pure _)))) (fun pool => ?_)
  split
  · exact Spares.abort rfl
  · exact Spares.bind (Spares.lift (wrapRing_spares _ _ _)) (fun _ =>
      Spares.bind (Spares.lift (indexSlice_spares _ _)) (fun _ => Spares.update _))

theorem recycleRound_spares (queueId curIndex cleanIndex : Nat) :
    Spares (recycleRound host queueId curIndex cleanIndex) := by
  refine Spares.read (fun _ => Spares.bind (Spares.lift (indexSlice_spares _ _)) (fun queue =>
    Spares.bind (Spares.lift (cleanable_spares _ _ _ _)) (fun count => ?_)))
  split
  · exact Spares.pure _
  · refine Spares.bind (Spares.lift (cleanupTo_spares _ _ _)) (fun _ =>
      Spares.bind (Spares.lift (indexSlice_spares _ _)) (fun desc => ?_))
    split
    · refine Spares.bind ?_ (fun _ =>
        Spares.bind (Spares.lift (wrapRing_spares _ _ _)) (fun _ => Spares.pure _))
      simp only [releaseBatch]
      split
      · exact Spares.pure _
      · exact Spares.update _
    · exact Spares.pure _

theorem recycleCommit_spares (queueId cleanIndex : Nat) :
    Spares (recycleCommit queueId cleanIndex : Driver σ Unit) :=
  Spares.read (fun _ => Spares.bind (Spares.lift (indexSlice_spares _ _))
    (fun _ => Spares.update _))

theorem takeFrame_spares (queueId rxIndex : Nat) : Spares (takeFrame host queueId rxIndex) := by
  refine Spares.read (fun machine => Spares.bind (Spares.lift (indexSlice_spares _ _)) (fun queue =>
    Spares.bind (Spares.lift (indexSlice_spares _ _)) (fun desc => ?_)))
  split
  · exact Spares.pure _
  · split
    · exact Spares.abort rfl
    · obtain ⟨top, pool, popped⟩ : ∃ top pool,
          (machine.arcs.pool queue.pool).allocBuf = (top, pool) := ⟨_, _, rfl⟩
      rw [popped]
      cases top with
      | none => exact Spares.pure _
      | some buf =>
          exact Spares.bind (Spares.lift (indexSlice_spares _ _)) (fun _ =>
            Spares.bind (Spares.lift (MemPool.getVirtAddr_spares _ _)) (fun _ =>
            Spares.bind (Spares.lift (MemPool.getPhysAddr_spares _ _)) (fun _ =>
            Spares.bind (Spares.update _) (fun _ => Spares.pure _))))

theorem rearmDescriptor_spares (queueId rxIndex : Nat) :
    Spares (rearmDescriptor host queueId rxIndex) :=
  Spares.read (fun _ => Spares.bind (Spares.lift (indexSlice_spares _ _)) (fun _ =>
    Spares.bind (Spares.lift (indexSlice_spares _ _)) (fun _ =>
    Spares.bind (Spares.lift (indexSlice_spares _ _)) (fun _ =>
    Spares.bind (Spares.lift (MemPool.getPhysAddr_spares _ _)) (fun _ =>
    Spares.bind (Spares.update _) (fun _ => Spares.lift (wrapRing_spares _ _ _)))))))

theorem receiveCommit_spares (queueId rxIndex lastRxIndex : Nat) :
    Spares (receiveCommit host queueId rxIndex lastRxIndex) := by
  simp only [receiveCommit]
  split
  · exact Spares.bind (setReg32_spares _ _) (fun _ => Spares.read (fun _ =>
      Spares.bind (Spares.lift (indexSlice_spares _ _)) (fun _ => Spares.update _)))
  · exact Spares.pure _

end Spares

section Steps

variable {profile : Profile} {system : System}

theorem dropPacket_spares {σ : Type} {machine : Machine σ} {packet : Packet} {arcs : Arcs}
    (returns : packet.drop machine.arcs = .ok arcs) :
    Triple SparesFreeBuf (fun state => state = machine) (dropPacket packet) (fun _ _ => True)
      (fun _ _ => True) := by
  refine Triple.read (fun snapshot same => ?_)
  subst same
  refine Triple.strengthen (Spares.bind (Spares.lift ?_) (fun _ => Spares.bind (Spares.update _)
    (fun _ => Spares.pure _))) (fun _ _ => trivial)
  change AbortsOnly SparesFreeBuf (packet.drop snapshot.arcs >>= _)
  rw [returns]
  exact .ok _

theorem canSend_spares (queue : IgbTxQueue) : AbortsOnly SparesFreeBuf (queue.canSend profile) :=
  (wrapRing_spares _ _ _).bind (fun _ _ => .ok _)

theorem canRecv_spares (queue : IgbRxQueue) : AbortsOnly SparesFreeBuf queue.canRecv :=
  (indexSlice_spares _ _).bind (fun _ _ => .ok _)

theorem sendEnqueue_spares {σ : Type} {host : Host σ} {machine : Machine σ} {packet : Packet}
    {arcs : Arcs} (queueId : Nat) (returns : packet.drop machine.arcs = .ok arcs) :
    Triple SparesFreeBuf (fun state => state = machine) (sendEnqueue host queueId { packet })
      (fun _ _ => True) (fun _ _ => True) := by
  refine Triple.read (fun snapshot same => ?_)
  subst same
  split
  · exact Triple.bind (dropPacket_spares returns) (fun _ => Triple.fail (fun _ _ => trivial))
  · refine Triple.bind (Triple.lift (canSend_spares _) (fun ready _ _ same => same))
      (fun ready => ?_)
    split
    · exact (enqueuePacket_spares _ _ _).strengthen (fun _ _ => trivial)
    · exact Triple.bind (dropPacket_spares returns) (fun _ => Triple.fail (fun _ _ => trivial))

/-- Running a program that spares `free_buf` on the machine of the system. -/
theorem perform_spares {α : Type} {program : Driver RegisterFile α}
    (spares : Triple SparesFreeBuf (fun state => state = system.machine) program (fun _ _ => True)
      (fun _ _ => True)) : AbortsOnly SparesFreeBuf (system.perform program) := by
  refine AbortsOnly.bind (fun reason aborted => ?_) (fun _ _ => .ok _)
  have outcome := spares system.machine rfl
  rw [aborted] at outcome
  exact outcome

theorem Spares.perform {α : Type} {program : Driver RegisterFile α} (spares : Spares program) :
    AbortsOnly SparesFreeBuf (system.perform program) :=
  perform_spares (spares.strengthen (fun _ _ => trivial))

theorem resumeStep_spares {result : Except (Abort Panic) (List Event × System)}
    (stepped : resumeStep profile system system.control = some result) :
    AbortsOnly SparesFreeBuf result := by
  cases control : system.control with
  | idle => rw [control] at stepped; cases stepped
  | ringing queueId =>
      rw [control] at stepped
      cases stepped
      exact (sendDoorbell_spares _).perform.bind (fun _ _ => .ok _)
  | recycling queueId curIndex cleanIndex =>
      rw [control] at stepped
      cases stepped
      refine (recycleRound_spares _ _ _).perform.bind (fun ⟨outcome, middle⟩ _ => ?_)
      rcases outcome with failure | next | _
      · exact .ok _
      · exact (recycleCommit_spares _ _).perform.bind (fun _ _ => .ok _)
      · exact .ok _
  | receiving queueId todo rxIndex lastRxIndex recvNums =>
      rw [control] at stepped
      cases stepped
      cases todo with
      | zero => exact .ok _
      | succ todo =>
          refine (takeFrame_spares _ _).perform.bind (fun ⟨outcome, middle⟩ _ => ?_)
          rcases outcome with failure | taken | _ <;> exact .ok _
  | delivering queueId todo rxIndex lastRxIndex recvNums =>
      rw [control] at stepped
      cases stepped
      refine (rearmDescriptor_spares _ _).perform.bind (fun ⟨outcome, middle⟩ _ => ?_)
      cases outcome <;> exact .ok _
  | publishing queueId rxIndex lastRxIndex recvNums =>
      rw [control] at stepped
      cases stepped
      exact (receiveCommit_spares _ _ _).perform.bind (fun _ _ => .ok _)

variable (accounted : ∀ ref, system.Accounted ref)
include accounted

theorem drop_returns {packet : Packet} {position : Nat}
    (owned : system.live[position]? = some packet) :
    ∃ arcs, packet.drop system.machine.arcs = .ok arcs := by
  obtain ⟨bound, fresh⟩ := (accounted packet.pool).live_entry (List.mem_of_getElem? owned)
  exact Packet.drop_returns bound fresh

theorem poolStep_spares {action : PoolAction} {result : Except (Abort Panic) System}
    (stepped : poolStep profile system action = some result) : AbortsOnly SparesFreeBuf result := by
  cases action with
  | alloc ref size =>
      simp only [poolStep] at stepped
      split at stepped
      · cases stepped
      · cases stepped
        refine (IgbNetBuf.alloc_spares _).bind (fun outcome _ => ?_)
        split <;> exact .ok _
  | construct poolEntry ref len =>
      simp only [poolStep] at stepped
      split at stepped
      · cases stepped
      · cases stepped
        refine (IgbNetBuf.construct_spares _ _).bind (fun outcome _ => ?_)
        split <;> exact .ok _
  | clone position =>
      simp only [poolStep] at stepped
      split at stepped
      · cases stepped
      · cases stepped
        exact Packet.clone_spares.bind (fun _ _ => .ok _)
  | drop position =>
      simp only [poolStep] at stepped
      split at stepped
      · cases stepped
      · rename_i packet owned
        cases stepped
        obtain ⟨arcs, returns⟩ := drop_returns accounted owned
        rw [returns]
        exact .ok _
  | cloneHandle ref | dropHandle ref =>
      simp only [poolStep] at stepped
      split at stepped
      · cases stepped
      · cases stepped
        exact .ok _

/-- With every pool accounted for, no step panics in `free_buf`. -/
theorem next_spares {action : Action} {reason : Abort Panic}
    (stepped : next profile system action = some (.error reason)) : SparesFreeBuf reason := by
  cases action with
  | pool action =>
      simp only [next] at stepped
      split at stepped
      · obtain ⟨result, pooled, same⟩ := Option.map_eq_some_iff.mp stepped
        cases result with
        | error other => cases same; exact poolStep_spares accounted pooled _ rfl
        | ok state => cases same
      · cases stepped
  | send queueId position =>
      simp only [next] at stepped
      split at stepped
      · obtain ⟨packet, owned, sending⟩ := Option.map_eq_some_iff.mp stepped
        obtain ⟨arcs, returns⟩ := drop_returns accounted owned
        have spares : AbortsOnly SparesFreeBuf
            (sendStep profile system queueId packet position) := by
          refine AbortsOnly.bind (perform_spares (sendEnqueue_spares queueId returns))
            (fun ended _ => ?_)
          obtain ⟨outcome, middle⟩ := ended
          cases outcome <;> exact .ok _
        exact spares reason sending
      · cases stepped
  | recycle queueId =>
      simp only [next] at stepped
      split at stepped <;> cases stepped
  | receive queueId packetNums =>
      simp only [next] at stepped
      split at stepped
      · have receiving := Option.some.inj stepped
        unfold receiveStep at receiving
        split at receiving
        · cases receiving
        · refine (canRecv_spares _).bind (fun ready _ => ?_) reason receiving
          split <;> exact .ok _
      · cases stepped
  | resume => exact resumeStep_spares stepped _ rfl
  | rxStore queueId index writeBack =>
      obtain ⟨_, _, impossible⟩ := Option.map_eq_some_iff.mp stepped
      cases impossible
  | txDone queueId index =>
      obtain ⟨_, _, impossible⟩ := Option.map_eq_some_iff.mp stepped
      cases impossible

end Steps

/-- All that entries of the pool `ref` can be in, when every queue is on that pool. -/
def System.heldEntries (system : System) (ref : PoolRef) : List Nat :=
  system.machine.arcs.free ref ++
    (system.live.filter fun packet => packet.pool = ref).map Packet.poolEntry ++
    system.machine.dev.rxQueues.flatMap IgbRxQueue.bufsInUse ++
    system.machine.dev.txQueues.flatMap IgbTxQueue.bufsInUse

/-- The entries in the queues are entries of `ref`. -/
structure System.OnPool (system : System) (ref : PoolRef) : Prop where
  receive : ∀ queue ∈ system.machine.dev.rxQueues, queue.pool = ref
  transmit : ∀ queue ∈ system.machine.dev.txQueues, queue.bufsInUse = [] ∨ queue.pool = some ref

section OnPool

variable {σ : Type} {host : Host σ} {profile : Profile} {qs numRx numTx : Nat} {ref : PoolRef}
  {before : Arcs} {system after : System} {action : Action} {trace events : List Event}

theorem Booted.onPool (booted : Booted host qs numRx numTx ref before system) :
    system.OnPool ref := by
  obtain ⟨file, booting⟩ := booted.booting
  refine ⟨fun queue queued => ?_, fun queue queued => ?_⟩
  · exact booting.rxPool queued
  · exact .inl (booting.txBuilt queued).bufs

namespace System.OnPool

theorem setRxQueue (uses : system.OnPool ref) (queueId : Nat) {new : IgbRxQueue}
    (pool : new.pool = ref) : (system.setRxQueue queueId new).OnPool ref := by
  refine ⟨fun queue queued => ?_, uses.transmit⟩
  rcases List.mem_or_eq_of_mem_set queued with old | rfl
  · exact uses.receive queue old
  · exact pool

theorem setTxQueue (uses : system.OnPool ref) (queueId : Nat) {new : IgbTxQueue}
    (pool : new.bufsInUse = [] ∨ new.pool = some ref) :
    (system.setTxQueue queueId new).OnPool ref := by
  refine ⟨uses.receive, fun queue queued => ?_⟩
  rcases List.mem_or_eq_of_mem_set queued with old | rfl
  · exact uses.transmit queue old
  · exact pool

theorem receive_of (uses : system.OnPool ref) {queueId : Nat} {queue : IgbRxQueue}
    (found : system.rxQueue? queueId = some queue) : queue.pool = ref :=
  uses.receive queue (List.mem_of_getElem? found)

theorem transmit_of (uses : system.OnPool ref) {queueId : Nat} {queue : IgbTxQueue}
    (found : system.txQueue? queueId = some queue) :
    queue.bufsInUse = [] ∨ queue.pool = some ref :=
  uses.transmit queue (List.mem_of_getElem? found)

/-- On such a system, sending packets of `ref` only keeps the pool of every queue. -/
theorem keepsPool (uses : system.OnPool ref) (sends : SendsFrom ref system action) :
    KeepsPool profile system action := by
  cases action with
  | send queueId position =>
      intro packet queue owned found _
      rw [sends packet owned]
      exact uses.transmit_of found
  | pool | recycle | receive | resume | rxStore | txDone => trivial

end System.OnPool

theorem Step.onPool (step : Step profile system action events after)
    (sends : SendsFrom ref system action) (uses : system.OnPool ref) : after.OnPool ref := by
  cases step with
  | report | allocate | construct | drop | cloneHandle | dropHandle | reject | ring | recycle | round
  | receive | halt | finish => exact ⟨uses.receive, uses.transmit⟩
  | @send queueId position txIndex packet queue desc idle owned found room =>
      have own : (queue.afterSend packet txIndex desc).pool = some ref :=
        congrArg some (sends packet owned)
      exact ⟨uses.receive, (uses.setTxQueue _ (.inr own)).transmit⟩
  | @release queueId curIndex cleanIndex last next queue desc count other control found sees pool =>
      have emptied : queue.afterBatch.bufsInUse = [] ∨ queue.afterBatch.pool = some ref := by
        rcases uses.transmit_of found with empty | own
        · rw [queue.bufsInUse_afterBatch, empty]
          exact .inl List.drop_nil
        · exact .inr own
      exact ⟨uses.receive, (uses.setTxQueue _ emptied).transmit⟩
  | commit control found =>
      have own := uses.transmit_of found
      refine ⟨uses.receive, (uses.setTxQueue _ ?_).transmit⟩
      exact own
  | take control found takes =>
      have own := uses.receive_of found
      refine ⟨(uses.setRxQueue _ ?_).receive, uses.transmit⟩
      exact own
  | rearm control found rearms =>
      have own := uses.receive_of found
      refine ⟨(uses.setRxQueue _ ?_).receive, uses.transmit⟩
      exact own
  | publish control moved found =>
      have own := uses.receive_of found
      refine ⟨(uses.setRxQueue _ ?_).receive, uses.transmit⟩
      exact own
  | rxStore found cell =>
      have own := uses.receive_of found
      refine ⟨(uses.setRxQueue _ ?_).receive, uses.transmit⟩
      exact own
  | txDone found cell =>
      have own := uses.transmit_of found
      refine ⟨uses.receive, (uses.setTxQueue _ ?_).transmit⟩
      exact own

/-- A run that sends packets of one pool only keeps every pool accounted for. -/
theorem OnPool.run {policy : Policy}
    (honest : ∀ state action, policy state action → NoConstruct state action)
    (sends : ∀ state action, policy state action → SendsFrom ref state action)
    (run : Run (next profile) policy system trace after) (uses : system.OnPool ref)
    (accounted : ∀ other, system.Accounted other) :
    after.OnPool ref ∧ ∀ other, after.Accounted other := by
  refine run.invariant (fun _ state => state.OnPool ref ∧ ∀ other, state.Accounted other)
    ⟨uses, accounted⟩ (fun _ state action _ final holds permitted stepped => ?_)
  have step := next_step stepped
  have kept : KeepsPool profile state action := holds.1.keepsPool (sends _ _ permitted)
  exact ⟨step.onPool (sends _ _ permitted) holds.1,
    fun other => step.accounted (honest _ _ permitted) kept (holds.2 other)⟩

/-- The same with `construct` on entries that nobody has. -/
theorem System.Single.run {policy : Policy}
    (unheld : ∀ state action, policy state action → ConstructsUnheld ref state action)
    (sends : ∀ state action, policy state action → SendsFrom ref state action)
    (run : Run (next profile) policy system trace after) (uses : system.OnPool ref)
    (single : system.Single ref) : after.OnPool ref ∧ after.Single ref := by
  refine run.invariant (fun _ state => state.OnPool ref ∧ state.Single ref) ⟨uses, single⟩
    (fun _ state action _ final holds permitted stepped => ?_)
  have step := next_step stepped
  have kept : KeepsPool profile state action := holds.1.keepsPool (sends _ _ permitted)
  exact ⟨step.onPool (sends _ _ permitted) holds.1, step.single (unheld _ _ permitted) kept holds.2⟩

theorem count_flatMap_sum {α : Type} (entries : α → List Nat) (share : α → Nat) (id : Nat)
    (queues : List α) (each : ∀ queue ∈ queues, (entries queue).count id = share queue) :
    (queues.flatMap entries).count id = (queues.map share).sum := by
  rw [List.count_flatMap]
  exact congrArg List.sum (List.map_congr_left each)

/-- The owners of an entry are its occurrences among the held entries. -/
theorem System.OnPool.count_heldEntries (uses : system.OnPool ref) (id : Nat) :
    (system.heldEntries ref).count id = system.owners ref id := by
  have receive := count_flatMap_sum IgbRxQueue.bufsInUse (rxShare ref id) id
    system.machine.dev.rxQueues (fun queue queued => (if_pos (uses.receive queue queued)).symm)
  have transmit := count_flatMap_sum IgbTxQueue.bufsInUse (txShare ref id) id
    system.machine.dev.txQueues (fun queue queued => by
      simp only [txShare]
      split
      · rfl
      · rename_i other
        rcases uses.transmit queue queued with empty | own
        · rw [empty, List.count_nil]
        · exact absurd own other)
  rw [heldEntries, List.count_append, List.count_append, List.count_append, receive, transmit,
    count_liveEntries, owners]

/-- Every entry of the pool is in exactly one place, and `free_buf` never panics. -/
theorem buffers_conserved {pool : PoolRef} (booted : Booted host qs numRx numTx pool before system)
    (whole : ∀ ref, before.Whole system.live ref)
    (run : Run (next host.profile) (fun state action => NoConstruct state action ∧
      SendsFrom pool state action) system trace after) :
    (after.heldEntries pool).Perm (List.range (before.pool pool).numEntries) ∧
      ∀ action reason, next host.profile after action = some (.error (.panic reason)) →
        reason.fromFreeBuf = false := by
  obtain ⟨uses, accounted⟩ := OnPool.run (fun _ _ permitted => permitted.1)
    (fun _ _ permitted => permitted.2) run booted.onPool (fun ref => booted.accounted (whole ref))
  refine ⟨List.perm_iff_count.mpr (fun id => ?_), fun action reason stepped => ?_⟩
  · obtain ⟨file, booting⟩ := booted.booting
    have kept : after.machine.arcs.layout pool = before.layout pool :=
      (layout_run run pool).trans (booting.layout pool)
    rw [uses.count_heldEntries, accounted pool id, count_range_eq, numEntries_of_layout kept]
  · exact next_spares accounted stepped

/-- A run with a packet in flight and one delivered while the callback allocates a
third and drops the first. -/
theorem buffers_conserved_exchange : ∃ (trace : List Event) (after : System),
    (deliveredOn 0 trace).length = 1 ∧ after.live.length = 2 ∧
      (after.heldEntries 0).Perm (List.range 12) := by
  obtain ⟨system, trace, after, booted, _, live, run, accepted⟩ := exists_replayPlatform .dev
    (fun state action => NoConstruct state action ∧ SendsFrom 0 state action) 4 1 1 12
    [.pool (.alloc 0 64), .send 0 0, .resume, .pool (.alloc 0 64), .rxStore 0 0 (frameWriteBack 60),
      .receive 0 2, .resume, .pool (.drop 0), .pool (.alloc 0 64), .txDone 0 0, .resume, .resume,
      .resume, .recycle 0, .resume]
    (fun trace after => (deliveredOn 0 trace).length == 1 && after.live.length == 2)
    (by decide +kernel)
  obtain ⟨shared, _⟩ := buffers_conserved booted (by rw [live]; exact freshArcs_whole 12) run
  rw [Bool.and_eq_true] at accepted
  exact ⟨trace, after, eq_of_beq accepted.1, eq_of_beq accepted.2, shared⟩

end OnPool

end IgbDriver
