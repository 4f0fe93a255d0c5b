import IgbDriver.Aborts
import IgbDriver.Foundation.Builds

namespace IgbDriver

open Foundation

/-! # Debug and release builds

A debug build of the driver traps where a release build wraps. Function by function the
two agree until the first overflow; a driver that a debug build brought up has none, so
there the two are the same program.
-/

variable {σ : Type}

def Host.dev (host : Host σ) : Host σ := { host with profile := .dev }

def Host.release (host : Host σ) : Host σ := { host with profile := .release }

section Pools

theorem getVirtAddr_agrees (pool : MemPool) (id : Nat) :
    Agrees (pool.getVirtAddr .dev id) (pool.getVirtAddr .release id) := by
  unfold MemPool.getVirtAddr
  split
  · exact .refl _
  · exact (Agrees.usizeMul _ _).bind (fun _ => .refl _)

theorem allocPkt_agrees (ref : PoolRef) (size : Nat) (arcs : Arcs) :
    Agrees (allocPkt .dev ref size arcs) (allocPkt .release ref size arcs) := by
  apply (Agrees.usizeSub _ _).bind
  intro limit
  split
  · exact .refl _
  · split
    · exact .refl _
    · apply (getVirtAddr_agrees _ _).bind
      intro virt
      apply (Agrees.refl _).bind
      intro phys
      exact (Agrees.usizeAdd _ _).bind (fun _ => .refl _)

theorem Packet.clone_agrees (packet : Packet) (arcs : Arcs) :
    Agrees (packet.clone .dev arcs) (packet.clone .release arcs) :=
  (allocPkt_agrees _ _ _).bind fun _ => .refl _

theorem IgbNetBuf.alloc_agrees (ref : PoolRef) (size : Nat) (arcs : Arcs) :
    Agrees (IgbNetBuf.alloc .dev ref size arcs) (IgbNetBuf.alloc .release ref size arcs) :=
  (allocPkt_agrees _ _ _).bind fun _ => .refl _

theorem IgbNetBuf.construct_agrees (poolEntry : Nat) (ref : PoolRef) (len : Nat) (arcs : Arcs) :
    Agrees (IgbNetBuf.construct .dev poolEntry ref len arcs)
      (IgbNetBuf.construct .release poolEntry ref len arcs) := by
  apply (getVirtAddr_agrees _ _).bind
  intro virt
  apply (Agrees.refl _).bind
  intro phys
  exact (Agrees.usizeAdd _ _).bind (fun _ => .refl _)

theorem wrapRing_agrees (index ringSize : Nat) :
    Agrees (wrapRing .dev index ringSize) (wrapRing .release index ringSize) := by
  apply (Agrees.usizeAdd _ _).bind
  intro next
  exact (Agrees.usizeSub _ _).bind (fun _ => .refl _)

end Pools

section Registers

variable (host : Host σ)

theorem checkWindow_agrees (reg : Nat) :
    Prog.Agrees (checkWindow host.dev reg) (checkWindow host.release reg) := by
  apply (Prog.Agrees.refl _).bind
  intro machine
  exact (Prog.Agrees.lift (.usizeSub _ _)).bind (fun _ => .refl _)

theorem getReg32_agrees (reg : Nat) : Prog.Agrees (getReg32 host.dev reg)
    (getReg32 host.release reg) :=
  (checkWindow_agrees host reg).andThen (.refl _)

theorem setReg32_agrees (reg : Nat) (value : BitVec 32) :
    Prog.Agrees (setReg32 host.dev reg value) (setReg32 host.release reg value) :=
  (checkWindow_agrees host reg).andThen (.refl _)

theorem setFlags32_agrees (reg : Nat) (flags : BitVec 32) :
    Prog.Agrees (setFlags32 host.dev reg flags) (setFlags32 host.release reg flags) :=
  (getReg32_agrees host reg).bind fun _ => setReg32_agrees host reg _

theorem clearFlags32_agrees (reg : Nat) (flags : BitVec 32) :
    Prog.Agrees (clearFlags32 host.dev reg flags) (clearFlags32 host.release reg flags) :=
  (getReg32_agrees host reg).bind fun _ => setReg32_agrees host reg _

theorem waitClearReg32_agrees (reg : Nat) (value : BitVec 32) :
    Prog.Agrees (waitClearReg32 host.dev reg value) (waitClearReg32 host.release reg value) :=
  .pollUntil ((getReg32_agrees host reg).bind fun _ => .refl _) (.refl _) host.fuel

theorem waitSetReg32_agrees (reg : Nat) (value : BitVec 32) :
    Prog.Agrees (waitSetReg32 host.dev reg value) (waitSetReg32 host.release reg value) :=
  .pollUntil ((getReg32_agrees host reg).bind fun _ => .refl _) (.refl _) host.fuel

end Registers

section Init

variable (host : Host σ)

theorem clearInterrupts_agrees : Prog.Agrees (clearInterrupts host.dev)
    (clearInterrupts host.release) :=
  (setReg32_agrees host _ _).andThen ((getReg32_agrees host _).bind fun _ => .refl _)

theorem disableInterrupts_agrees : Prog.Agrees (disableInterrupts host.dev)
    (disableInterrupts host.release) :=
  (setReg32_agrees host _ _).andThen (clearInterrupts_agrees host)

theorem globalReset_agrees : Prog.Agrees (globalReset host.dev) (globalReset host.release) :=
  (setReg32_agrees host _ _).andThen (waitClearReg32_agrees host _ _)

theorem initLink_agrees : Prog.Agrees (initLink host.dev) (initLink host.release) := by
  apply (getReg32_agrees host _).andThen
  apply (setFlags32_agrees host _ _).andThen
  apply (waitSetReg32_agrees host _ _).andThen
  apply (getReg32_agrees host _).bind
  intro answer
  exact (setFlags32_agrees host _ _).andThen (waitSetReg32_agrees host _ _)

theorem resetStats_agrees : Prog.Agrees (resetStats host.dev) (resetStats host.release) := by
  apply (getReg32_agrees host _).andThen
  apply (getReg32_agrees host _).andThen
  apply (getReg32_agrees host _).andThen
  apply (getReg32_agrees host _).andThen
  apply (getReg32_agrees host _).andThen
  exact (getReg32_agrees host _).andThen (.refl _)

theorem allocateRing_agrees {δ : Type} (qs : Nat) (cleared : δ) :
    Prog.Agrees (allocateRing host.dev qs cleared) (allocateRing host.release qs cleared) :=
  (Prog.Agrees.lift (.usizeMul _ _)).bind fun _ => .refl _

theorem initRxQueue_agrees (qs : Nat) (pool : PoolRef) (i : Nat) :
    Prog.Agrees (initRxQueue host.dev qs pool i) (initRxQueue host.release qs pool i) := by
  apply (allocateRing_agrees host qs _).bind
  intro ring
  apply (setReg32_agrees host _ _).andThen
  apply (setReg32_agrees host _ _).andThen
  apply (setReg32_agrees host _ _).andThen
  apply (setReg32_agrees host _ _).andThen
  exact (setReg32_agrees host _ _).andThen (.refl _)

theorem initRx_agrees (qs : Nat) (pool : PoolRef) :
    Prog.Agrees (initRx host.dev qs pool) (initRx host.release qs pool) := by
  apply (clearFlags32_agrees host _ _).andThen
  apply (setReg32_agrees host _ _).andThen
  apply (Prog.Agrees.forRange (fun i => setReg32_agrees host _ _) 1 7).andThen
  apply (setFlags32_agrees host _ _).andThen
  apply (setFlags32_agrees host _ _).andThen
  apply (setFlags32_agrees host _ _).andThen
  apply (Prog.Agrees.refl _).bind
  intro machine
  exact (Prog.Agrees.forRange (initRxQueue_agrees host qs pool) 0 _).andThen
    (setFlags32_agrees host _ _)

theorem initTxQueue_agrees (qs i : Nat) :
    Prog.Agrees (initTxQueue host.dev qs i) (initTxQueue host.release qs i) := by
  apply (allocateRing_agrees host qs _).bind
  intro ring
  apply (setReg32_agrees host _ _).andThen
  apply (setReg32_agrees host _ _).andThen
  apply (setReg32_agrees host _ _).andThen
  apply (getReg32_agrees host _).bind
  intro txdctl
  exact (setReg32_agrees host _ _).andThen (.refl _)

theorem initTx_agrees (qs : Nat) : Prog.Agrees (initTx host.dev qs) (initTx host.release qs) := by
  apply (Prog.Agrees.refl _).bind
  intro machine
  exact (Prog.Agrees.forRange (initTxQueue_agrees host qs) 0 _).andThen (setReg32_agrees host _ _)

theorem checkAligned_agrees (numDescriptors : Nat) :
    Prog.Agrees (checkAligned host.dev numDescriptors) (checkAligned host.release numDescriptors) :=
  (Prog.Agrees.lift (.usizeSub _ _)).bind fun _ => .refl _

theorem startRxQueue_agrees (queueId : Nat) :
    Prog.Agrees (startRxQueue host.dev queueId) (startRxQueue host.release queueId) := by
  apply (Prog.Agrees.refl _).bind
  intro queue
  apply (checkAligned_agrees host _).andThen
  apply (Prog.Agrees.refl _).andThen
  apply (setFlags32_agrees host _ _).andThen
  apply (waitSetReg32_agrees host _ _).andThen
  apply (setReg32_agrees host _ _).andThen
  exact (Prog.Agrees.lift (.usizeSub _ _)).bind (fun last => setReg32_agrees host _ _)

theorem startTxQueue_agrees (queueId : Nat) :
    Prog.Agrees (startTxQueue host.dev queueId) (startTxQueue host.release queueId) := by
  apply (Prog.Agrees.refl _).bind
  intro queue
  apply (checkAligned_agrees host _).andThen
  apply (setReg32_agrees host _ _).andThen
  apply (setReg32_agrees host _ _).andThen
  exact (setFlags32_agrees host _ _).andThen (waitSetReg32_agrees host _ _)

theorem getLinkSpeed_agrees : Prog.Agrees (getLinkSpeed host.dev) (getLinkSpeed host.release) :=
  (getReg32_agrees host _).bind fun _ => .refl _

theorem pollLink_agrees (rounds speed : Nat) :
    Prog.Agrees (pollLink host.dev rounds speed) (pollLink host.release rounds speed) := by
  induction rounds generalizing speed with
  | zero => exact .refl _
  | succ rounds ih =>
      unfold pollLink
      split
      · exact (Prog.Agrees.refl _).andThen ((getLinkSpeed_agrees host).bind fun speed => ih speed)
      · exact .refl _

theorem waitForLink_agrees : Prog.Agrees (waitForLink host.dev) (waitForLink host.release) := by
  apply (getLinkSpeed_agrees host).bind
  intro speed
  exact (pollLink_agrees host 10 speed).andThen ((getLinkSpeed_agrees host).bind fun _ => .refl _)

theorem getMacAddr_agrees : Prog.Agrees (getMacAddr host.dev) (getMacAddr host.release) :=
  (getReg32_agrees host _).bind fun _ => (getReg32_agrees host _).bind fun _ => .refl _

theorem resetAndInit_agrees (qs : Nat) (pool : PoolRef) :
    Prog.Agrees (resetAndInit host.dev qs pool) (resetAndInit host.release qs pool) := by
  apply (disableInterrupts_agrees host).andThen
  apply (globalReset_agrees host).andThen
  apply (Prog.Agrees.refl _).andThen
  apply (disableInterrupts_agrees host).andThen
  apply (setFlags32_agrees host _ _).andThen
  apply (waitSetReg32_agrees host _ _).andThen
  apply (initLink_agrees host).andThen
  apply (resetStats_agrees host).andThen
  apply (initRx_agrees host qs pool).andThen
  apply (initTx_agrees host qs).andThen
  apply (Prog.Agrees.refl _).bind
  intro machine
  apply (Prog.Agrees.forRange (startRxQueue_agrees host) 0 _).andThen
  apply (Prog.Agrees.forRange (startTxQueue_agrees host) 0 _).andThen
  apply (clearInterrupts_agrees host).andThen
  apply (setFlags32_agrees host _ _).andThen
  apply (waitForLink_agrees host).andThen
  exact (getMacAddr_agrees host).bind (fun _ => .refl _)

theorem init_agrees (qs len numRx numTx : Nat) (pool : PoolRef) (env : σ) (arcs : Arcs) :
    Agrees (init host.dev qs len numRx numTx pool env arcs)
      (init host.release qs len numRx numTx pool env arcs) := by
  simp only [init]
  rcases resetAndInit_agrees host qs pool { env, arcs, dev := ⟨len, numRx, numTx, [], []⟩ } with
    overflowed | same
  · exact .inl (by rw [overflowed])
  · rw [same]
    exact .refl _

end Init

section Pieces

variable (queueId : Nat)

theorem canSend_agrees (queue : IgbTxQueue) :
    Agrees (queue.canSend .dev) (queue.canSend .release) :=
  (wrapRing_agrees _ _).bind fun _ => .refl _

theorem enqueuePacket_agrees (queue : IgbTxQueue) (packet : Packet) :
    Prog.Agrees (enqueuePacket (registerFile .dev) queueId queue packet)
      (enqueuePacket (registerFile .release) queueId queue packet) := by
  apply (Prog.Agrees.refl _).bind
  intro pool
  split
  · exact .refl _
  · exact (Prog.Agrees.lift (wrapRing_agrees _ _)).bind (fun _ => .refl _)

theorem sendEnqueue_agrees (txBuf : IgbNetBuf) :
    Prog.Agrees (sendEnqueue (registerFile .dev) queueId txBuf)
      (sendEnqueue (registerFile .release) queueId txBuf) := by
  apply (Prog.Agrees.refl _).bind
  intro machine
  split
  · exact .refl _
  · apply (Prog.Agrees.lift (canSend_agrees _)).bind
    intro ready
    split
    · exact enqueuePacket_agrees queueId _ _
    · exact .refl _

theorem setReg32_registerFile (reg : Nat) (value : BitVec 32) :
    Prog.Agrees (setReg32 (registerFile .dev) reg value)
      (setReg32 (registerFile .release) reg value) :=
  setReg32_agrees (registerFile .dev) reg value

theorem sendDoorbell_agrees :
    Prog.Agrees (sendDoorbell (registerFile .dev) queueId)
      (sendDoorbell (registerFile .release) queueId) := by
  apply (Prog.Agrees.refl _).bind
  intro machine
  exact (Prog.Agrees.refl _).bind (fun queue => setReg32_registerFile _ _)

theorem cleanable_agrees (numDescriptors curIndex cleanIndex : Nat) :
    Agrees (cleanable .dev numDescriptors curIndex cleanIndex)
      (cleanable .release numDescriptors curIndex cleanIndex) := by
  apply (Agrees.i32Sub _ _).bind
  intro difference
  split
  · exact .i32Add _ _
  · exact .refl _

theorem cleanupTo_agrees (numDescriptors cleanIndex : Nat) :
    Agrees (cleanupTo .dev numDescriptors cleanIndex)
      (cleanupTo .release numDescriptors cleanIndex) := by
  apply (Agrees.usizeAdd _ _).bind
  intro past
  apply (Agrees.usizeSub _ _).bind
  intro last
  split
  · exact .usizeSub _ _
  · exact .refl _

theorem recycleRound_agrees (curIndex cleanIndex : Nat) :
    Prog.Agrees (recycleRound (registerFile .dev) queueId curIndex cleanIndex)
      (recycleRound (registerFile .release) queueId curIndex cleanIndex) := by
  apply (Prog.Agrees.refl _).bind
  intro machine
  apply (Prog.Agrees.refl _).bind
  intro queue
  apply (Prog.Agrees.lift (cleanable_agrees _ _ _)).bind
  intro count
  split
  · exact .refl _
  · apply (Prog.Agrees.lift (cleanupTo_agrees _ _)).bind
    intro last
    apply (Prog.Agrees.refl _).bind
    intro desc
    split
    · exact (Prog.Agrees.refl _).andThen
        ((Prog.Agrees.lift (wrapRing_agrees _ _)).bind fun _ => .refl _)
    · exact .refl _

theorem takeFrame_agrees (rxIndex : Nat) :
    Prog.Agrees (takeFrame (registerFile .dev) queueId rxIndex)
      (takeFrame (registerFile .release) queueId rxIndex) := by
  apply (Prog.Agrees.refl _).bind
  intro machine
  apply (Prog.Agrees.refl _).bind
  intro queue
  apply (Prog.Agrees.refl _).bind
  intro desc
  split
  · exact .refl _
  · split
    · exact .refl _
    · split
      · exact .refl _
      · apply (Prog.Agrees.refl _).bind
        intro idx
        exact (Prog.Agrees.lift (getVirtAddr_agrees _ _)).bind (fun _ => .refl _)

theorem rearmDescriptor_agrees (rxIndex : Nat) :
    Prog.Agrees (rearmDescriptor (registerFile .dev) queueId rxIndex)
      (rearmDescriptor (registerFile .release) queueId rxIndex) := by
  apply (Prog.Agrees.refl _).bind
  intro machine
  apply (Prog.Agrees.refl _).bind
  intro queue
  apply (Prog.Agrees.refl _).bind
  intro desc
  apply (Prog.Agrees.refl _).bind
  intro buf
  apply (Prog.Agrees.refl _).bind
  intro phys
  exact (Prog.Agrees.refl _).andThen (.lift (wrapRing_agrees _ _))

theorem receiveCommit_agrees (rxIndex lastRxIndex : Nat) :
    Prog.Agrees (receiveCommit (registerFile .dev) queueId rxIndex lastRxIndex)
      (receiveCommit (registerFile .release) queueId rxIndex lastRxIndex) := by
  unfold receiveCommit
  split
  · exact (setReg32_registerFile _ _).andThen (.refl _)
  · exact .refl _

end Pieces

section Steps

variable (system : System)

theorem perform_agrees {α : Type} {trapping wrapping : Driver RegisterFile α}
    (agrees : Prog.Agrees trapping wrapping) :
    Agrees (system.perform trapping) (system.perform wrapping) :=
  (agrees system.machine).bind fun _ => .refl _

theorem poolStep_agrees (action : PoolAction) :
    StepAgrees (poolStep .dev system action) (poolStep .release system action) := by
  cases action with
  | alloc ref size =>
      simp only [poolStep]
      split
      · exact .inr rfl
      · exact ((IgbNetBuf.alloc_agrees _ _ _).bind fun _ => .refl _).some
  | construct poolEntry ref len =>
      simp only [poolStep]
      split
      · exact .inr rfl
      · exact ((IgbNetBuf.construct_agrees _ _ _ _).bind fun _ => .refl _).some
  | clone position =>
      simp only [poolStep]
      split
      · exact .inr rfl
      · exact ((Packet.clone_agrees _ _).bind fun _ => .refl _).some
  | drop | cloneHandle | dropHandle => exact .inr rfl

theorem sendStep_agrees (queueId position : Nat) (packet : Packet) :
    Agrees (sendStep .dev system queueId packet position)
      (sendStep .release system queueId packet position) :=
  (perform_agrees _ (sendEnqueue_agrees queueId _)).bind fun _ => .refl _

theorem resumeStep_agrees (control : Control) :
    StepAgrees (resumeStep .dev system control) (resumeStep .release system control) := by
  cases control with
  | idle => exact .inr rfl
  | ringing queueId =>
      exact ((perform_agrees _ (sendDoorbell_agrees queueId)).bind fun _ => .refl _).some
  | recycling queueId curIndex cleanIndex =>
      exact ((perform_agrees _ (recycleRound_agrees queueId _ _)).bind fun _ => .refl _).some
  | receiving queueId todo rxIndex lastRxIndex recvNums =>
      cases todo with
      | zero => exact .inr rfl
      | succ todo =>
          exact ((perform_agrees _ (takeFrame_agrees queueId _)).bind fun _ => .refl _).some
  | delivering queueId todo rxIndex lastRxIndex recvNums =>
      exact ((perform_agrees _ (rearmDescriptor_agrees queueId _)).bind fun _ => .refl _).some
  | publishing queueId rxIndex lastRxIndex recvNums =>
      exact ((perform_agrees _ (receiveCommit_agrees queueId _ _)).bind fun _ => .refl _).some

theorem next_agrees (action : Action) : StepAgrees (next .dev system action)
    (next .release system action) := by
  cases action with
  | pool action =>
      simp only [next]
      split
      · rcases poolStep_agrees system action with overflowed | same
        · exact .inl (by rw [overflowed]; rfl)
        · exact .inr (by rw [same])
      · exact .inr rfl
  | send queueId position =>
      simp only [next]
      split
      · cases owned : system.live[position]? with
        | none => exact .inr rfl
        | some packet => exact (sendStep_agrees system queueId position packet).some
      · exact .inr rfl
  | resume => exact resumeStep_agrees system system.control
  | recycle | receive | rxStore | txDone => exact .inr rfl

end Steps

section Results

variable {host : Host σ} {translate : Nat → Nat} {qs numRx numTx : Nat} {pool : PoolRef}
  {before : Arcs} {system final : System} {trace : List Event} {policy : Policy}

theorem booted_release (booted : Booted host.dev qs numRx numTx pool before system) :
    Booted host.release qs numRx numTx pool before system := by
  obtain ⟨len, env, env', returned, shown⟩ := booted.returned
  exact ⟨⟨len, env, env', (init_agrees host qs len numRx numTx pool env before).ok returned, shown⟩,
    booted.control⟩

/-- Whatever a debug build does, a release build can do: `init` and all that follows, with
any device and any caller. -/
theorem release_follows_debug (booted : Booted host.dev qs numRx numTx pool before system)
    (run : Run (next .dev) policy system trace final) :
    Booted host.release qs numRx numTx pool before system ∧
      Run (next .release) policy system trace final :=
  ⟨booted_release booted, run.wraps next_agrees⟩

/-- A device that sends and recycles out of order, in a debug build and so in a release build. -/
theorem release_follows_debug_disorder : ∃ start trace final, Booted (platform .release) 64 1 1 0
    (freshArcs 70) start ∧
    Run (next .release) (fun _ _ => True) start trace final ∧ (releasedOn 0 trace).length = 32 := by
  obtain ⟨start, trace, final, booted, _, _, run, accepted⟩ :=
    exists_replayPlatform .dev (fun _ _ => True) 64 1 1 70
    (sendActions 0 1 33 ++ [.txDone 0 31, .recycle 0, .resume, .resume])
    (fun trace _ => decide ((releasedOn 0 trace).length = 32)) (by decide +kernel)
  have follows :=
    release_follows_debug (show Booted (platform .release).dev 64 1 1 0 _ _ from booted) run
  exact ⟨start, trace, final, follows.1, follows.2, of_decide_eq_true accepted⟩

/-- A debug build that is in order never traps, so a release build never wraps: both take
the same steps and have the same runs. -/
theorem builds_same (deployed : Deployment host.dev translate qs numRx numTx pool before system)
    (allocated : ∀ ref, (before.pool ref).Allocated host.dev) :
    Booted host.release qs numRx numTx pool before system ∧
      (∀ trace final, Run (next .release) (Orderly pool) system trace final ↔
        Run (next .dev) (Orderly pool) system trace final) ∧
      ∀ trace final action, Run (next .release) (Orderly pool) system trace final →
        Orderly pool final action →
        next .release final action = next .dev final action := by
  have quiet : ∀ trace state action, Run (next .dev) (Orderly pool) system trace state →
    Orderly pool state action →
      next .dev state action ≠ some (.error .overflow) := by
    intro trace state action run permitted overflowed
    obtain ⟨panicked, _⟩ := (deployed.outOfBuffers allocated run permitted).mp overflowed
    cases panicked
  refine ⟨booted_release deployed.booted, fun trace final => ?_, ?_⟩
  · constructor
    · exact fun run => run.traps next_agrees quiet
    · exact fun run => run.wraps next_agrees
  · intro trace final action run permitted
    have reached := run.traps next_agrees quiet
    exact ((next_agrees final action).resolve_left
      (quiet trace final action reached permitted)).symm

/-- One round of traffic. -/
theorem builds_same_exchange : ∃ start trace final, Booted (platform .release) 4 1 1 0
    (onePool 12) start ∧
    Run (next .release) (Orderly 0) start trace final ∧ final.live.length = 1 := by
  obtain ⟨start, trace, final, deployed, run, accepted⟩ :=
    exists_replayOnePool .dev (Orderly 0) 4 1 1 12
    [.pool (.alloc 0 64), .send 0 0, .resume, .txDone 0 0, .rxStore 0 0 (frameWriteBack 60),
      .receive 0 8, .resume, .resume, .resume, .resume]
    (fun final => decide (final.live.length = 1))
    (by decide) (by decide) (by decide) (by decide) (by decide +kernel)
  obtain ⟨booted, runs, _⟩ := builds_same
    (show Deployment (platform .release).dev id 4 1 1 0 (onePool 12) start from deployed)
      (onePool_allocated (by decide))
  exact ⟨start, trace, final, booted, (runs trace final).mpr run, of_decide_eq_true accepted⟩

end Results

end IgbDriver
