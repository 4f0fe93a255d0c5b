import IgbDriver.Init
import IgbDriver.Operations

namespace IgbDriver

open Foundation

/-! # Walking through `init`

The triples here and in `Boot` follow `init` through its phases. A phase says what it
knows of the pools, the half-built device and the registers that are watched; which
these are is up to the caller, and so is whether an abort is let pass or has to be
excluded by what the surroundings promise.
-/

section Host

variable {σ : Type}

/-- What a register shows when it is read. -/
def Host.shows (host : Host σ) (env : σ) : RegisterFile := fun reg => (host.readVolatile reg env).1

/-- As long as the device is not reset, the register shows what was last written to it. -/
structure Host.Holds (host : Host σ) (reg : Nat) : Prop where
  written : ∀ value env, host.shows (host.writeVolatile reg value env) reg = value
  otherWritten : ∀ other value env, reg ≠ other → other ≠ igbCtrl →
    host.shows (host.writeVolatile other value env) reg = host.shows env reg
  flagged : ∀ flags env, flags &&& igbCtrlGlobalRst = 0 →
    host.shows (host.writeVolatile igbCtrl (host.shows env igbCtrl ||| flags)
      (host.readVolatile igbCtrl env).2) reg = host.shows env reg
  read : ∀ other env, host.shows (host.readVolatile other env).2 reg = host.shows env reg
  waited : ∀ milliseconds env, host.shows (host.waitUntil milliseconds env) reg = host.shows env reg
  allocated : ∀ size env, host.shows (host.dmaAlloc size env).2 reg = host.shows env reg

/-- The environment after some rounds of a wait on a register. -/
def Host.polled (host : Host σ) (reg : Nat) : Nat → σ → σ
  | 0, env => env
  | rounds + 1, env => host.polled reg rounds (host.waitUntil 100 (host.readVolatile reg env).2)

/-- The register shows what is waited for within the rounds that are followed. -/
def Host.Answers (host : Host σ) (reg : Nat) (ready : BitVec 32 → Bool) (env : σ) : Prop :=
  ∃ rounds, rounds < host.fuel ∧ ready (host.readVolatile reg (host.polled reg rounds env)).1 = true

def showsSet (flags value : BitVec 32) : Bool := value &&& flags = flags

def showsClear (flags value : BitVec 32) : Bool := value &&& flags = 0

/-- The device ends its reset, takes flags, carries out commands of the management
interface and enables queues; the platform maps no descriptor of a ring to address zero. -/
structure Host.Responsive (host : Host σ) (qs : Nat) : Prop where
  resets : ∀ env, host.Answers igbCtrl (showsClear igbCtrlGlobalRst)
    (host.writeVolatile igbCtrl igbCtrlGlobalRst env)
  loads : ∀ current env, host.Answers igbCtrlExt (showsSet (1 <<< 28))
    (host.writeVolatile igbCtrlExt (current ||| 1 <<< 28) env)
  manages : ∀ command env,
    host.Answers igbMdic (showsSet mdicReady) (host.writeVolatile igbMdic command env)
  receives : ∀ i current env, host.Answers (igbRxdctl i) (showsSet igbRxdctlEnable)
    (host.writeVolatile (igbRxdctl i) (current ||| igbRxdctlEnable) env)
  transmits : ∀ i current env, host.Answers (igbTxdctl i) (showsSet igbTxdctlEnable)
    (host.writeVolatile (igbTxdctl i) (current ||| igbTxdctlEnable) env)
  maps : ∀ env descId, descId < qs →
    (host.dmaAlloc (qs * 16) env).1.2 + BitVec.ofNat 64 (descId * 16) ≠ 0

/-- The register is one of the control registers or in a bank of one of the queues. -/
def Reached (numRx numTx reg : Nat) : Prop :=
  reg < 0xE02C ∨ reg < 0xC02C + 0x40 * numRx ∨ reg < 0xE02C + 0x40 * numTx

/-- What leaves `init` no reason to abort. -/
structure Host.Ready (host : Host σ) (len qs numRx numTx : Nat) (pool : PoolRef) (start : Arcs) :
    Prop where
  responsive : host.Responsive qs
  window : ∀ reg, Reached numRx numTx reg → InWindow host.profile len reg
  positive : 0 < qs
  narrow : qs * 16 < usizeModulus
  inside : ∀ id ∈ start.free pool, id < (start.pool pool).numEntries

end Host

/-- The registers of the rings: base, length, head and tail of every queue. -/
def RingRegister (reg : Nat) : Prop :=
  0xC000 ≤ reg ∧ (reg % 64 = 0 ∨ reg % 64 = 4 ∨ reg % 64 = 8 ∨ reg % 64 = 16 ∨ reg % 64 = 24)

/-- The other registers that `init` writes, without the one that resets the device. -/
inductive ControlRegister : Nat → Prop where
  | control {reg : Nat} : reg ∈ [igbIms, igbImc, igbCtrlExt, igbMdic, igbRxctrl, igbHlreg0,
      igbRdrxctl, igbFctrl, igbDmatxctl] → ControlRegister reg
  | packetBuffer {i : Nat} : i < 8 → ControlRegister (igbRxpbsize i)
  | rxdctl (i : Nat) : ControlRegister (igbRxdctl i)
  | txdctl (i : Nat) : ControlRegister (igbTxdctl i)

/-- Control registers lie below the banks of the queues or beside their rings. -/
theorem ControlRegister.place {reg : Nat} (control : ControlRegister reg) :
    (reg < 0xC000 ∧ reg ≠ igbCtrl) ∨ (0xC000 ≤ reg ∧ reg % 64 = 40) := by
  cases control with
  | control member =>
      simp only [List.mem_cons, List.not_mem_nil, or_false, igbIms, igbImc, igbCtrlExt, igbMdic,
        igbRxctrl, igbHlreg0, igbRdrxctl, igbFctrl, igbDmatxctl] at member
      unfold igbCtrl
      omega
  | packetBuffer below =>
      unfold igbRxpbsize igbCtrl
      omega
  | rxdctl i =>
      unfold igbRxdctl
      omega
  | txdctl i =>
      unfold igbTxdctl
      omega

theorem ControlRegister.not_ring {reg : Nat} (control : ControlRegister reg) :
    ¬ RingRegister reg := by
  have place := control.place
  unfold RingRegister
  omega

/-- The registers `init` writes, without the one that resets the device. -/
def WrittenByInit (reg : Nat) : Prop := ControlRegister reg ∨ RingRegister reg

theorem WrittenByInit.ne_ctrl {reg : Nat} (writes : WrittenByInit reg) : reg ≠ igbCtrl := by
  rcases writes with control | ring
  · have place := control.place
    unfold igbCtrl at *
    omega
  · unfold RingRegister at ring
    unfold igbCtrl
    omega

abbrev Facts := RegisterFile → Arcs → IgbDevice → Prop

/-- The facts are not about the registers outside the rings. -/
def Inert (facts : Facts) : Prop := ∀ file arcs dev reg value, ¬ RingRegister reg →
  facts file arcs dev → facts (file.write reg value) arcs dev

variable {σ α : Type} {host : Host σ}

/-- A relation between the environment and a register file that the accesses of `init`
keep, from the reset on. -/
structure Watch (host : Host σ) (watch : σ → RegisterFile → Prop) : Prop where
  written : ∀ reg value env file, WrittenByInit reg → watch env file →
    watch (host.writeVolatile reg value env) (file.write reg value)
  flagged : ∀ flags env file, flags &&& igbCtrlGlobalRst = 0 → watch env file →
    watch (host.writeVolatile igbCtrl (host.shows env igbCtrl ||| flags)
      (host.readVolatile igbCtrl env).2) file
  read : ∀ reg env file, watch env file → watch (host.readVolatile reg env).2 file
  waited : ∀ milliseconds env file, watch env file → watch (host.waitUntil milliseconds env) file
  allocated : ∀ size env file, watch env file → watch (host.dmaAlloc size env).2 file

/-- The tracked registers are memory, and the file has them. -/
def Host.Follows (host : Host σ) (tracked : Nat → Prop) (env : σ) (file : RegisterFile) : Prop :=
  ∀ reg, tracked reg → host.shows env reg = file reg

theorem Host.Follows.watch {tracked : Nat → Prop} (law : ∀ reg, tracked reg → host.Holds reg) :
    Watch host (host.Follows tracked) where
  written := by
    intro reg value env file writes follows other watched
    by_cases same : other = reg
    · subst same
      rw [RegisterFile.write_self]
      exact (law other watched).written value env
    · rw [RegisterFile.write_of_ne _ _ same, ← follows other watched]
      exact (law other watched).otherWritten reg value env same writes.ne_ctrl
  flagged := fun flags env _ quiet follows reg watched =>
    ((law reg watched).flagged flags env quiet).trans (follows reg watched)
  read := fun other env _ follows reg watched =>
    ((law reg watched).read other env).trans (follows reg watched)
  waited := fun milliseconds env _ follows reg watched =>
    ((law reg watched).waited milliseconds env).trans (follows reg watched)
  allocated := fun size env _ follows reg watched =>
    ((law reg watched).allocated size env).trans (follows reg watched)

/-- No register is watched. -/
def Unwatched (_ : σ) (_ : RegisterFile) : Prop := True

theorem unwatched (host : Host σ) : Watch host Unwatched where
  written := fun _ _ _ _ _ => id
  flagged := fun _ _ _ _ => id
  read := fun _ _ _ => id
  waited := fun _ _ _ => id
  allocated := fun _ _ _ => id

/-- The machine satisfies `facts` for some register file that the watch relates to it. -/
def Knows (watch : σ → RegisterFile → Prop) (len : Nat) (facts : Facts)
    (machine : Machine σ) : Prop :=
  machine.dev.len = len ∧ ∃ file, watch machine.env file ∧ facts file machine.arcs machine.dev

/-- A program leads from `before` to `after`, unless it fails or aborts as admitted. -/
abbrev Leads (watch : σ → RegisterFile → Prop) (allowed : Abort Panic → Prop) (len : Nat)
    (before : Facts) (program : Driver σ α) (after : α → Facts)
    (fails : IgbError → Machine σ → Prop) : Prop :=
  Triple allowed (Knows watch len before) program (fun value => Knows watch len (after value)) fails

section Knows

variable {watch : σ → RegisterFile → Prop} {allowed : Abort Panic → Prop} {len : Nat}
  {facts facts' : Facts} {fails : IgbError → Machine σ → Prop}

theorem Knows.weaken {machine : Machine σ} (knows : Knows watch len facts machine)
    (weaker : ∀ file arcs dev, facts file arcs dev → facts' file arcs dev) :
    Knows watch len facts' machine := by
  obtain ⟨sized, file, watched, holds⟩ := knows
  exact ⟨sized, file, watched, weaker _ _ _ holds⟩

theorem Knows.withEnv {machine : Machine σ} {env : σ} (knows : Knows watch len facts machine)
    (same : ∀ file, watch machine.env file → watch env file) :
    Knows watch len facts { machine with env } := by
  obtain ⟨sized, file, watched, holds⟩ := knows
  exact ⟨sized, file, same file watched, holds⟩

/-- A fact that says nothing of the machine may be assumed. -/
theorem Leads.assuming {premise : Prop} {before : Facts} {program : Driver σ α} {after : α → Facts}
    (holds : premise → Leads watch allowed len before program after fails) :
    Leads watch allowed len (fun file arcs dev => premise ∧ before file arcs dev) program
      after fails := by
  intro machine knows
  obtain ⟨sized, file, watched, premise_holds, facts⟩ := knows
  exact holds premise_holds machine ⟨sized, file, watched, facts⟩

end Knows

theorem getReg32_ok {reg : Nat} {machine after : Machine σ} {outcome : Except IgbError (BitVec 32)}
    (ran : getReg32 host reg machine = .ok (outcome, after)) :
    outcome = .ok (host.readVolatile reg machine.env).1 ∧
      after = { machine with env := (host.readVolatile reg machine.env).2 } := by
  unfold getReg32 at ran
  cases outcome with
  | ok value =>
      obtain ⟨_, middle, checked, reading⟩ := Prog.bind_ok ran
      obtain ⟨_, same⟩ := checkWindow_ok checked
      rw [same] at reading
      cases reading
      exact ⟨rfl, rfl⟩
  | error failure =>
      rcases Prog.bind_error ran with refused | ⟨_, _, _, reading⟩
      · cases (checkWindow_ok refused).1
      · cases reading

theorem setFlags32_apply {machine : Machine σ} {reg : Nat} (flags : BitVec 32)
    (window : InWindow host.profile machine.dev.len reg) :
    setFlags32 host reg flags machine = .ok (.ok (), { machine with
      env := host.writeVolatile reg (host.shows machine.env reg ||| flags)
        (host.readVolatile reg machine.env).2 }) :=
  (Prog.bind_of_ok (getReg32_apply window)).trans (setReg32_apply _ window)

theorem setFlags32_ok {reg : Nat} {flags : BitVec 32} {machine after : Machine σ}
    {outcome : Except IgbError Unit}
    (ran : setFlags32 host reg flags machine = .ok (outcome, after)) :
    outcome = .ok () ∧ after = { machine with
      env := host.writeVolatile reg (host.shows machine.env reg ||| flags)
        (host.readVolatile reg machine.env).2 } := by
  unfold setFlags32 at ran
  cases outcome with
  | ok value =>
      obtain ⟨current, middle, reading, writing⟩ := Prog.bind_ok ran
      obtain ⟨shown, rfl⟩ := getReg32_ok reading
      cases shown
      exact setReg32_ok writing
  | error failure =>
      rcases Prog.bind_error ran with refused | ⟨_, _, _, writing⟩
      · cases (getReg32_ok refused).1
      · cases (setReg32_ok writing).1

/-- A wait for an answer that comes in time returns, and keeps what reading and waiting keep. -/
theorem pollUntil_answered (kept : σ → Prop) {reg : Nat} (ready : BitVec 32 → Bool)
    (machine : Machine σ) (window : InWindow host.profile machine.dev.len reg)
    (reads : ∀ env, kept env → kept (host.readVolatile reg env).2)
    (waits : ∀ env, kept env → kept (host.waitUntil 100 env)) (holds : kept machine.env)
    {rounds fuel : Nat} (inTime : rounds < fuel)
    (answered : ready (host.readVolatile reg (host.polled reg rounds machine.env)).1 = true) :
    ∃ env, Prog.pollUntil (do let current ← getReg32 host reg; pure (ready current))
        (waitUntil host 100) fuel machine = .ok (.ok (), { machine with env }) ∧ kept env := by
  induction fuel generalizing rounds machine with
  | zero => omega
  | succ fuel ih =>
      rw [Prog.pollUntil, bind_assoc, Prog.bind_of_ok (getReg32_apply window), pure_bind]
      cases shown : ready (host.readVolatile reg machine.env).1 with
      | true => exact ⟨_, rfl, reads _ holds⟩
      | false =>
          cases rounds with
          | zero =>
              rw [Host.polled, shown] at answered
              cases answered
          | succ rounds =>
              obtain ⟨env, waited, still⟩ := ih
                { machine with env := host.waitUntil 100 (host.readVolatile reg machine.env).2 }
                  window
                (waits _ (reads _ holds)) (by omega) answered
              exact ⟨env, waited, still⟩

/-- The register has been asked for something, and shows it in time unless aborts may pass. -/
def Asked (host : Host σ) (watch : σ → RegisterFile → Prop) (allowed : Abort Panic → Prop)
    (len : Nat) (facts : Facts) (reg : Nat) (shown : BitVec 32 → Bool)
    (machine : Machine σ) : Prop :=
  Barred allowed (host.Answers reg shown machine.env) ∧ Knows watch len facts machine

/-- The watch that is kept, and why no abort has to be feared that is not let pass. -/
structure Walk (host : Host σ) (watch : σ → RegisterFile → Prop) (allowed : Abort Panic → Prop)
    (len qs numRx numTx : Nat) (pool : PoolRef) (start : Arcs) : Prop where
  watching : Watch host watch
  ready : Barred allowed (host.Ready len qs numRx numTx pool start)

namespace Walk

variable {watch : σ → RegisterFile → Prop} {allowed : Abort Panic → Prop} {len qs numRx numTx : Nat}
  {pool : PoolRef} {start : Arcs} {facts facts' : Facts} {fails : IgbError → Machine σ → Prop}
  {reg : Nat} {value flags : BitVec 32} {shown : BitVec 32 → Bool}
  (walk : Walk host watch allowed len qs numRx numTx pool start)
include walk

/-- An access to one of the registers of `init` passes its assertion. -/
theorem accesses {machine : Machine σ} {β : Type} {result : Except (Abort Panic) β}
    (reached : Reached numRx numTx reg) (sized : machine.dev.len = len)
    (returns : InWindow host.profile machine.dev.len reg → ∃ value, result = .ok value) :
    AbortsOnly allowed result :=
  walk.ready.abortsOnly (fun ready => returns (by rw [sized]; exact ready.window reg reached))

theorem read (reached : Reached numRx numTx reg) :
    Leads watch allowed len facts (getReg32 host reg) (fun _ => facts) fails := by
  refine Triple.of_results (fun machine reason knows => ?_)
    (fun machine outcome after knows ran => ?_)
  · exact walk.accesses reached knows.1 (fun window => ⟨_, getReg32_apply window⟩) reason
  · obtain ⟨rfl, rfl⟩ := getReg32_ok ran
    exact knows.withEnv (fun file => walk.watching.read reg machine.env file)

/-- Writing one of the registers: it was in the window, and the file takes the value. -/
theorem write (reached : Reached numRx numTx reg) (writes : WrittenByInit reg)
    (established : ∀ file arcs dev, InWindow host.profile dev.len reg → facts file arcs dev →
      facts' (file.write reg value) arcs dev) :
    Leads watch allowed len facts (setReg32 host reg value) (fun _ => facts') fails := by
  refine Triple.of_results (fun machine reason knows => ?_)
    (fun machine outcome after knows ran => ?_)
  · exact walk.accesses reached knows.1 (fun window => ⟨_, setReg32_apply value window⟩) reason
  · obtain ⟨rfl, same⟩ := setReg32_ok ran
    have window := setReg32_window ran
    obtain ⟨sized, file, watched, holds⟩ := knows
    rw [same]
    exact ⟨sized, _, walk.watching.written reg value machine.env file writes watched,
      established _ _ _ window holds⟩

theorem wrote (reached : Reached numRx numTx reg) (writes : WrittenByInit reg) :
    Leads watch allowed len facts (setReg32 host reg value)
      (fun _ file arcs dev => ∃ old : RegisterFile, facts old arcs dev ∧ file = old.write reg value)
      fails :=
  walk.write reached writes (fun file _ _ _ holds => ⟨file, holds, rfl⟩)

theorem control (inert : Inert facts) (reached : Reached numRx numTx reg)
    (control : ControlRegister reg) :
    Leads watch allowed len facts (setReg32 host reg value) (fun _ => facts) fails :=
  walk.write reached (.inl control) (fun _ _ _ _ => inert _ _ _ _ _ control.not_ring)

theorem setFlags (inert : Inert facts) (reached : Reached numRx numTx reg)
    (control : ControlRegister reg) :
    Leads watch allowed len facts (setFlags32 host reg flags) (fun _ => facts) fails :=
  (walk.read reached).bind (fun _ => walk.control inert reached control)

theorem clearFlags (inert : Inert facts) (reached : Reached numRx numTx reg)
    (control : ControlRegister reg) :
    Leads watch allowed len facts (clearFlags32 host reg flags) (fun _ => facts) fails :=
  (walk.read reached).bind (fun _ => walk.control inert reached control)

/-- Flags of the control register other than the reset. -/
theorem flag (quiet : flags &&& igbCtrlGlobalRst = 0) :
    Leads watch allowed len facts (setFlags32 host igbCtrl flags) (fun _ => facts) fails := by
  have reached : Reached numRx numTx igbCtrl := .inl (by decide)
  refine Triple.of_results (fun machine reason knows => ?_)
    (fun machine outcome after knows ran => ?_)
  · exact walk.accesses reached knows.1 (fun window => ⟨_, setFlags32_apply flags window⟩) reason
  · obtain ⟨rfl, rfl⟩ := setFlags32_ok ran
    exact knows.withEnv (fun file => walk.watching.flagged flags machine.env file quiet)

theorem pause (milliseconds : Nat) :
    Leads watch allowed len facts (waitUntil host milliseconds) (fun _ => facts) fails :=
  Triple.update (fun machine knows =>
    knows.withEnv (fun file => walk.watching.waited milliseconds machine.env file))

/-- Flags the register takes in time, unless aborts may pass. -/
theorem setFlagsAsks (inert : Inert facts) (reached : Reached numRx numTx reg)
    (control : ControlRegister reg)
    (answers : host.Responsive qs → ∀ current env,
      host.Answers reg shown (host.writeVolatile reg (current ||| flags) env)) :
    Triple allowed (Knows watch len facts) (setFlags32 host reg flags)
      (fun _ => Asked host watch allowed len facts reg shown) fails := by
  have kept : Leads watch allowed len facts (setFlags32 host reg flags) (fun _ => facts) fails :=
    walk.setFlags inert reached control
  refine Triple.of_results (fun machine reason knows => ?_)
    (fun machine outcome after knows ran => ?_)
  · exact walk.accesses reached knows.1 (fun window => ⟨_, setFlags32_apply flags window⟩) reason
  · obtain ⟨rfl, same⟩ := setFlags32_ok ran
    refine ⟨walk.ready.imp (fun ready => ?_), kept.of_ok knows ran⟩
    rw [same]
    exact answers ready.responsive _ _

theorem wait (reached : Reached numRx numTx reg) (shown : BitVec 32 → Bool) :
    Triple allowed (Asked host watch allowed len facts reg shown)
      (Prog.pollUntil (do let current ← getReg32 host reg; pure (shown current))
        (waitUntil host 100) host.fuel) (fun _ => Knows watch len facts) fails := by
  rintro machine ⟨answers, knows⟩
  have polls : (∀ reason, allowed reason) → Leads watch allowed len facts
      (Prog.pollUntil (do let current ← getReg32 host reg; pure (shown current))
        (waitUntil host 100) host.fuel) (fun _ => facts) fails := fun all =>
    Triple.pollUntil (all _) ((walk.read reached).bind (fun _ => .pure (fun _ => id)))
      (walk.pause 100)
  rcases answers with all | ⟨rounds, inTime, answered⟩
  · exact polls all machine knows
  · rcases walk.ready with all | ready
    · exact polls all machine knows
    · obtain ⟨sized, file, watched, holds⟩ := knows
      obtain ⟨env, waited, still⟩ := pollUntil_answered
        (fun env => watch env file) shown machine (by rw [sized]; exact ready.window reg reached)
        (fun env => walk.watching.read reg env file) (fun env => walk.watching.waited 100 env file)
        watched inTime answered
      rw [waited]
      exact ⟨sized, file, still, holds⟩

section Inert

variable (inert : Inert facts)
include inert

theorem clearInterrupts :
    Leads watch allowed len facts (clearInterrupts host) (fun _ => facts) fails :=
  (walk.control inert (.inl (by decide)) (.control (by decide))).andThen
    ((walk.read (.inl (by decide))).bind (fun _ => .pure (fun _ => id)))

theorem disableInterrupts :
    Leads watch allowed len facts (disableInterrupts host) (fun _ => facts) fails :=
  (walk.control inert (.inl (by decide)) (.control (by decide))).andThen
    (walk.clearInterrupts inert)

theorem initLink : Leads watch allowed len facts (initLink host) (fun _ => facts) fails := by
  have commands : ∀ flags, Triple allowed (Knows watch len facts) (setFlags32 host igbMdic flags)
      (fun _ => Asked host watch allowed len facts igbMdic (showsSet mdicReady)) fails :=
        fun flags =>
    walk.setFlagsAsks inert (.inl (by decide)) (.control (by decide))
      (fun responsive current env => responsive.manages (current ||| flags) env)
  apply (walk.read (.inl (by decide))).bind
  intro _
  apply (commands _).andThen
  apply (walk.wait (.inl (by decide)) _).andThen
  apply (walk.read (.inl (by decide))).bind
  intro answer
  exact (commands _).andThen (walk.wait (.inl (by decide)) _)

end Inert

theorem resetStats : Leads watch allowed len facts (resetStats host) (fun _ => facts) fails := by
  apply (walk.read (.inl (by decide))).bind
  intro _
  apply (walk.read (.inl (by decide))).bind
  intro _
  apply (walk.read (.inl (by decide))).bind
  intro _
  apply (walk.read (.inl (by decide))).bind
  intro _
  apply (walk.read (.inl (by decide))).bind
  intro _
  exact (walk.read (.inl (by decide))).bind (fun _ => .pure (fun _ => id))

theorem getLinkSpeed : Leads watch allowed len facts (getLinkSpeed host)
    (fun _ => facts) fails := by
  apply (walk.read (.inl (by decide))).bind
  intro speed
  split
  · exact Triple.pure (fun _ => id)
  · split <;> exact Triple.pure (fun _ => id)

/-- The link may stay down: the loop ends after the rounds it is given. -/
theorem pollLink (rounds speed : Nat) :
    Leads watch allowed len facts (pollLink host rounds speed) (fun _ => facts) fails := by
  induction rounds generalizing speed with
  | zero => exact Triple.pure (fun _ => id)
  | succ rounds ih =>
      simp only [IgbDriver.pollLink]
      split
      · exact (walk.pause 1000).andThen (walk.getLinkSpeed.bind (fun _ => ih _))
      · exact Triple.pure (fun _ => id)

theorem waitForLink : Leads watch allowed len facts (waitForLink host) (fun _ => facts) fails :=
  walk.getLinkSpeed.bind (fun _ => (walk.pollLink 10 _).andThen
    (walk.getLinkSpeed.bind (fun _ => Triple.pure (fun _ => id))))

theorem getMacAddr : Leads watch allowed len facts (getMacAddr host) (fun _ => facts) fails :=
  (walk.read (.inl (by decide))).bind (fun _ =>
    (walk.read (.inl (by decide))).bind (fun _ => Triple.pure (fun _ => id)))

/-- The reset: a watch begins with what it leaves. -/
theorem globalReset {facts : Arcs → IgbDevice → Prop}
    (begins : ∀ env, ∃ file, watch (host.writeVolatile igbCtrl igbCtrlGlobalRst env) file) :
    Triple allowed (Knows Unwatched len (fun _ => facts)) (globalReset host)
      (fun _ => Knows watch len (fun _ => facts)) fails := by
  have reached : Reached numRx numTx igbCtrl := .inl (by decide)
  have starts : Triple allowed (Knows Unwatched len (fun _ => facts))
      (setReg32 host igbCtrl igbCtrlGlobalRst)
      (fun _ => Asked host watch allowed len (fun _ => facts) igbCtrl (showsClear igbCtrlGlobalRst))
      fails := by
    refine Triple.of_results (fun machine reason knows => ?_)
      (fun machine outcome after knows ran => ?_)
    · exact walk.accesses reached knows.1 (fun window => ⟨_, setReg32_apply _ window⟩) reason
    · obtain ⟨rfl, rfl⟩ := setReg32_ok ran
      obtain ⟨sized, _, _, holds⟩ := knows
      obtain ⟨file, watched⟩ := begins machine.env
      exact ⟨walk.ready.imp (fun ready => ready.responsive.resets machine.env), sized, file,
        watched, holds⟩
  exact starts.andThen (walk.wait reached _)

end Walk

end IgbDriver
