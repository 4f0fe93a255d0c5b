import IgbDriver.Platform

namespace IgbDriver

open Foundation

/-! # Powering up the PHY

`init_link` talks to the PHY through the command register MDIC. `Phy` is the reference
version kept with the documentation, which writes whole commands; the driver sets bits
in whatever the register shows.
-/

def mdicData : BitVec 32 := 0xFFFF
def mdicRegadd : BitVec 32 := 0b11111 <<< 16
def mdicPhyadd : BitVec 32 := 0b11111 <<< 21
def mdicE : BitVec 32 := 1 <<< 30

namespace Phy

/-- The error of the reference version. -/
inductive Error where
  | unknown

variable {σ : Type} (host : Host σ)

def writeReg (value : BitVec 32) : Prog Panic σ Error Unit :=
  Prog.update (host.writeVolatile igbMdic value)

def readReg : Prog Panic σ Error (BitVec 32) := do
  let env ← Prog.read
  let (value, env) := host.readVolatile igbMdic env
  Prog.update fun _ => env
  pure value

/-- The loop both commands end with, followed for `fuel` rounds. -/
def awaitReady : Nat → Prog Panic σ Error (BitVec 32)
  | 0 => Prog.abort .outOfFuel
  | fuel + 1 => do
      let mdic ← readReg host
      if mdic &&& mdicReady = mdicReady then pure mdic
      else if mdic &&& mdicE = mdicE then Prog.fail .unknown
      else awaitReady fuel

def addr : BitVec 32 := 1

def readMdic (offset : BitVec 32) : Prog Panic σ Error (BitVec 16) := do
  writeReg host (offset <<< 16 ||| addr <<< 21 ||| opRead)
  let mdic ← awaitReady host host.fuel
  pure (mdic.setWidth 16)

def writeMdic (offset : BitVec 32) (data : BitVec 16) : Prog Panic σ Error Unit := do
  writeReg host (offset <<< 16 ||| addr <<< 21 ||| data.setWidth 32 ||| opWrite)
  let _ ← awaitReady host host.fuel

def phyControl : BitVec 32 := 0
def miiCrPowerDown : BitVec 16 := 0x0800

def powerUp : Prog Panic σ Error Unit := do
  let miiReg ← readMdic host phyControl
  writeMdic host phyControl (miiReg &&& ~~~miiCrPowerDown)

end Phy

/-- What MDIC shows once a command is done. Only a read command replaces the data. -/
def mdicAnswer (phy : BitVec 16) (command : BitVec 32) : BitVec 32 :=
  if command &&& (opWrite ||| opRead) = opRead then
    command &&& ~~~mdicData ||| phy.setWidth 32 ||| mdicReady
  else command ||| mdicReady

section Mdic

variable {σ : Type} {host : Host σ} {phy : BitVec 16} {commands : σ → List (BitVec 32)}

/-- `commands` records the writes to MDIC, and each is answered at once; nothing but a
write changes what the register shows. -/
structure AnswersMdic (host : Host σ) (phy : BitVec 16)
    (commands : σ → List (BitVec 32)) : Prop where
  written : ∀ value env, commands (host.writeVolatile igbMdic value env) = commands env ++ [value]
  answered : ∀ value env, host.shows (host.writeVolatile igbMdic value env) igbMdic =
    mdicAnswer phy value
  read : ∀ env, commands (host.readVolatile igbMdic env).2 = commands env
  kept : ∀ env, host.shows (host.readVolatile igbMdic env).2 igbMdic = host.shows env igbMdic

/-- Two commands that power the PHY up: a read of its control register, and a write of
the same value with the power-down bit clear. -/
structure PowersUp (phy : BitVec 16) (first second : BitVec 32) : Prop where
  reads : first &&& (opWrite ||| opRead) = opRead
  readRegister : first &&& mdicRegadd = 0
  readAddress : first &&& mdicPhyadd = 1 <<< 21
  writes : second &&& (opWrite ||| opRead) = opWrite
  writeRegister : second &&& mdicRegadd = 0
  writeAddress : second &&& mdicPhyadd = 1 <<< 21
  data : second.setWidth 16 = phy &&& ~~~0x0800

theorem or_and_flag {width : Nat} (word flag : BitVec width) : (word ||| flag) &&& flag = flag := by
  ext position inside
  simp only [BitVec.getElem_and, BitVec.getElem_or]
  cases word[position] <;> simp

theorem mdicAnswer_ready (phy : BitVec 16) (command : BitVec 32) :
    mdicAnswer phy command &&& mdicReady = mdicReady := by
  simp only [mdicAnswer]
  split <;> exact or_and_flag _ _

/-- The driver's view of the register between its commands. -/
structure MdicAt (host : Host σ) (commands : σ → List (BitVec 32)) (issued : List (BitVec 32))
    (value : BitVec 32) (machine : Machine σ) : Prop where
  window : InWindow host.profile machine.dev.len igbMdic
  issued : commands machine.env = issued
  shows : host.shows machine.env igbMdic = value

/-- A program that always returns. -/
abbrev Total {state ε α : Type} (before : state → Prop) (program : Prog Panic state ε α)
    (after : α → state → Prop) : Prop :=
  Triple (fun _ => False) before program after (fun _ _ => False)

variable {issued : List (BitVec 32)} {value flags : BitVec 32}

theorem getReg32_mdic (answers : AnswersMdic host phy commands) :
    Total (MdicAt host commands issued value) (getReg32 host igbMdic)
      (fun read machine => read = value ∧ MdicAt host commands issued value machine) := by
  intro machine here
  rw [getReg32_apply here.window]
  exact ⟨here.shows, here.window, (answers.read _).trans here.issued,
    (answers.kept _).trans here.shows⟩

theorem setReg32_mdic (answers : AnswersMdic host phy commands) (command : BitVec 32) :
    Total (MdicAt host commands issued value) (setReg32 host igbMdic command)
      (fun _ => MdicAt host commands (issued ++ [command]) (mdicAnswer phy command)) := by
  intro machine here
  rw [setReg32_apply command here.window]
  exact ⟨here.window, (answers.written _ _).trans (by rw [here.issued]), answers.answered _ _⟩

/-- Setting flags issues the command that the register showed, with the flags added. -/
theorem setFlags32_mdic (answers : AnswersMdic host phy commands) :
    Total (MdicAt host commands issued value) (setFlags32 host igbMdic flags)
      (fun _ => MdicAt host commands (issued ++ [value ||| flags])
        (mdicAnswer phy (value ||| flags))) := by
  apply Triple.bind (getReg32_mdic answers)
  intro read
  apply Triple.assuming
  intro same
  rw [same]
  exact setReg32_mdic answers _

theorem waitSetReg32_mdic (answers : AnswersMdic host phy commands) (fuel : 0 < host.fuel)
    (ready : value &&& mdicReady = mdicReady) :
    Total (MdicAt host commands issued value) (waitSetReg32 host igbMdic mdicReady)
      (fun _ => MdicAt host commands issued value) := by
  apply Triple.pollUntil_of_ready fuel
  apply Triple.bind (getReg32_mdic answers)
  intro read
  apply Triple.pure
  intro machine here
  exact ⟨decide_eq_true (by rw [here.1, ready]), here.2⟩

/-- The read command of the driver, when the register showed `value`. -/
def firstCommand (value : BitVec 32) : BitVec 32 := value ||| (0 <<< 16 ||| 1 <<< 21 ||| opRead)

/-- The write command, when the register showed `answer`. -/
def secondCommand (answer : BitVec 32) : BitVec 32 :=
  answer ||| (0 <<< 16 ||| 1 <<< 21 ||| (answer.setWidth 16 &&& ~~~(0x0800 : BitVec 16)).setWidth
    32 ||| opWrite)

theorem initLink_commands (answers : AnswersMdic host phy commands) (fuel : 0 < host.fuel) :
    Total (MdicAt host commands issued value) (initLink host) (fun _ =>
      MdicAt host commands
        (issued ++ [firstCommand value] ++ [secondCommand (mdicAnswer phy (firstCommand value))])
        (mdicAnswer phy (secondCommand (mdicAnswer phy (firstCommand value))))) := by
  apply Triple.bind (getReg32_mdic answers)
  intro seen
  apply Triple.assuming
  intro _
  apply Triple.andThen (setFlags32_mdic answers)
  apply Triple.andThen (waitSetReg32_mdic answers fuel (mdicAnswer_ready _ _))
  apply Triple.bind (getReg32_mdic answers)
  intro answer
  apply Triple.assuming
  intro same
  subst same
  apply Triple.andThen (setFlags32_mdic answers)
  exact waitSetReg32_mdic answers fuel (mdicAnswer_ready _ _)

/-- The reference version's view of the register. -/
structure PhyAt (host : Host σ) (commands : σ → List (BitVec 32)) (issued : List (BitVec 32))
    (value : BitVec 32) (env : σ) : Prop where
  issued : commands env = issued
  shows : host.shows env igbMdic = value

theorem writeReg_mdic (answers : AnswersMdic host phy commands) (command : BitVec 32) :
    Total (PhyAt host commands issued value) (Phy.writeReg host command)
      (fun _ => PhyAt host commands (issued ++ [command]) (mdicAnswer phy command)) := by
  apply Triple.update
  intro env here
  exact ⟨(answers.written _ _).trans (by rw [here.issued]), answers.answered _ _⟩

theorem awaitReady_mdic (answers : AnswersMdic host phy commands) {fuel : Nat} (positive : 0 < fuel)
    (ready : value &&& mdicReady = mdicReady) :
    Total (PhyAt host commands issued value) (Phy.awaitReady host fuel)
      (fun read env => read = value ∧ PhyAt host commands issued value env) := by
  cases fuel with
  | zero => cases positive
  | succ fuel =>
      intro env here
      have shown : (host.readVolatile igbMdic env).1 = value := here.shows
      have read : Phy.readReg host env = .ok (.ok value, (host.readVolatile igbMdic env).2) := by
        rw [← shown]
        rfl
      rw [Phy.awaitReady, Prog.bind_of_ok read, if_pos ready]
      exact ⟨rfl, (answers.read _).trans here.issued, (answers.kept _).trans here.shows⟩

def Phy.firstCommand : BitVec 32 := Phy.phyControl <<< 16 ||| Phy.addr <<< 21 ||| opRead

def Phy.secondCommand (data : BitVec 16) : BitVec 32 :=
  Phy.phyControl <<< 16 ||| Phy.addr <<< 21 ||| data.setWidth 32 ||| opWrite

theorem setWidth_mdicAnswer {phy : BitVec 16} {command : BitVec 32}
    (reads : command &&& (opWrite ||| opRead) = opRead) :
    (mdicAnswer phy command).setWidth 16 = phy := by
  rw [mdicAnswer, if_pos reads]
  have ready : mdicReady.setWidth 16 = 0 := rfl
  have masked : (~~~mdicData).setWidth 16 = 0 := rfl
  simp [BitVec.setWidth_or, BitVec.setWidth_and, ready, masked]

theorem readMdic_mdic (answers : AnswersMdic host phy commands) (fuel : 0 < host.fuel) :
    Total (PhyAt host commands issued value) (Phy.readMdic host Phy.phyControl) (fun data env =>
      data = phy ∧ PhyAt host commands (issued ++ [Phy.firstCommand])
        (mdicAnswer phy Phy.firstCommand) env) := by
  apply Triple.andThen (writeReg_mdic answers Phy.firstCommand)
  apply Triple.bind (awaitReady_mdic answers fuel (mdicAnswer_ready _ _))
  intro read
  apply Triple.pure
  intro env here
  exact ⟨by rw [here.1]; exact setWidth_mdicAnswer (by decide), here.2⟩

theorem writeMdic_mdic (answers : AnswersMdic host phy commands) (fuel : 0 < host.fuel)
    (data : BitVec 16) :
    Total (PhyAt host commands issued value) (Phy.writeMdic host Phy.phyControl data) (fun _ =>
      PhyAt host commands (issued ++ [Phy.secondCommand data])
        (mdicAnswer phy (Phy.secondCommand data))) := by
  apply Triple.andThen (writeReg_mdic answers (Phy.secondCommand data))
  apply Triple.bind (awaitReady_mdic answers fuel (mdicAnswer_ready _ _))
  intro read
  apply Triple.pure
  intro env here
  exact here.2

theorem powerUp_commands (answers : AnswersMdic host phy commands) (fuel : 0 < host.fuel) :
    Total (PhyAt host commands issued value) (Phy.powerUp host) (fun _ env => commands env =
      issued ++ [Phy.firstCommand] ++ [Phy.secondCommand (phy &&& ~~~Phy.miiCrPowerDown)]) := by
  apply Triple.bind (readMdic_mdic answers fuel)
  intro data
  apply Triple.assuming
  intro same
  subst same
  apply Triple.weaken (writeMdic_mdic answers fuel _)
  intro _ env here
  exact here.issued

/-- Data of 16 bits stay clear of the fields above. -/
theorem data_and_field (data : BitVec 16) {field : BitVec 32} (high : field.setWidth 16 = 0#16) :
    data.setWidth 32 &&& field = 0#32 := by
  apply BitVec.eq_of_getLsbD_eq
  intro position inside
  by_cases low : position < 16
  · have clear := congrArg (fun word => word.getLsbD position) high
    simp only [BitVec.getLsbD_setWidth, low, decide_true, Bool.true_and,
      BitVec.getLsbD_zero] at clear
    simp only [BitVec.getLsbD_and, clear, Bool.and_false, BitVec.getLsbD_zero]
  · simp only [BitVec.getLsbD_and, BitVec.getLsbD_setWidth,
      BitVec.getLsbD_of_ge data position (by omega),
      Bool.and_false, Bool.false_and, BitVec.getLsbD_zero]

/-- The reference version powers the PHY up. -/
theorem phy_powersUp (phy : BitVec 16) :
    PowersUp phy Phy.firstCommand (Phy.secondCommand (phy &&& ~~~Phy.miiCrPowerDown)) where
  reads := by decide
  readRegister := by decide
  readAddress := by decide
  writes := by
    simp only [Phy.secondCommand, BitVec.and_or_distrib_right,
      data_and_field _ (show (opWrite ||| opRead).setWidth 16 = 0#16 by rfl)]
    decide
  writeRegister := by
    simp only [Phy.secondCommand, BitVec.and_or_distrib_right,
      data_and_field _ (show mdicRegadd.setWidth 16 = 0#16 by rfl)]
    decide
  writeAddress := by
    simp only [Phy.secondCommand, BitVec.and_or_distrib_right,
      data_and_field _ (show mdicPhyadd.setWidth 16 = 0#16 by rfl)]
    decide
  data := by
    have front : (Phy.phyControl <<< 16 ||| Phy.addr <<< 21).setWidth 16 = 0 := rfl
    have kind : opWrite.setWidth 16 = 0 := rfl
    simp only [Phy.secondCommand, BitVec.setWidth_or, front, kind]
    simp [Phy.miiCrPowerDown]

/-- The read command stays in the register, and with it the opcode. -/
theorem mdicAnswer_read {phy : BitVec 16} {value : BitVec 32} :
    (mdicAnswer phy (firstCommand value))[27] = true := by
  have set : (firstCommand value)[27] = true := by
    simp [firstCommand, opRead]
  simp only [mdicAnswer]
  split
  · simp [set, mdicData]
  · simp [set]

theorem not_powersUp (phy : BitVec 16) (value : BitVec 32) :
    ¬ PowersUp phy (firstCommand value) (secondCommand (mdicAnswer phy (firstCommand value))) := by
  intro powers
  have bit := congrArg (fun word => word[27]) powers.writes
  simp [secondCommand, mdicAnswer_read, opWrite, opRead] at bit

/-- Whatever MDIC showed and the PHY holds, `init_link` issues two commands that are not
those of `Phy::power_up` and do not power the PHY up. -/
theorem init_link_never_powers_up (machine : Machine σ) (answers : AnswersMdic host phy commands)
    (fuel : 0 < host.fuel) (window : InWindow host.profile machine.dev.len igbMdic) :
    ∃ after env first second first' second', initLink host machine = .ok (.ok (), after) ∧
      commands after.env = commands machine.env ++ [first, second] ∧ ¬ PowersUp phy first second ∧
      Phy.powerUp host machine.env = .ok (.ok (), env) ∧
      commands env = commands machine.env ++ [first', second'] ∧ PowersUp phy first' second' := by
  have here : MdicAt host commands (commands machine.env)
      (host.shows machine.env igbMdic) machine :=
    ⟨window, rfl, rfl⟩
  have there : PhyAt host commands (commands machine.env)
      (host.shows machine.env igbMdic) machine.env :=
    ⟨rfl, rfl⟩
  obtain ⟨_, after, ran, final⟩ := (initLink_commands answers fuel).returns here
  obtain ⟨_, env, powered, issued⟩ := (powerUp_commands answers fuel).returns there
  exact ⟨after, env, _, _, _, _, ran, final.issued.trans (List.append_assoc _ _ _),
    not_powersUp _ _, powered, issued.trans (List.append_assoc _ _ _), phy_powersUp phy⟩

end Mdic

/-- A device that is nothing but MDIC: what the register shows, and the commands so far. -/
def mdicHost (phy : BitVec 16) : Host (BitVec 32 × List (BitVec 32)) where
  dmaAlloc := fun _ env => ((0, 0), env)
  mmioVirtToPhys := fun address _ => address
  waitUntil := fun _ env => env
  profile := .dev
  readVolatile := fun reg env => (if reg = igbMdic then env.1 else 0, env)
  writeVolatile := fun reg value env =>
    if reg = igbMdic then (mdicAnswer phy value, env.2 ++ [value]) else env
  fuel := 1

theorem mdicHost_answers (phy : BitVec 16) : AnswersMdic (mdicHost phy) phy Prod.snd :=
  ⟨fun _ _ => rfl, fun _ _ => rfl, fun _ => rfl, fun _ => rfl⟩

/-- A machine before its queues are built. -/
def bareMachine (mdic : BitVec 32) : Machine (BitVec 32 × List (BitVec 32)) where
  env := (mdic, [])
  arcs := freshArcs 0
  dev := { len := 0x40000, numRxQueues := 0, numTxQueues := 0, rxQueues := [], txQueues := [] }

theorem init_link_never_powers_up_idle : ∃ after first second,
    initLink (mdicHost 0x1140) (bareMachine 0x18200000) = .ok (.ok (), after) ∧
      after.env.2 = [first, second] ∧ ¬ PowersUp 0x1140 first second := by
  obtain ⟨after, _, first, second, _, _, ran, issued, powerless, _⟩ :=
    init_link_never_powers_up (bareMachine 0x18200000) (mdicHost_answers 0x1140)
      (by decide) ⟨0x3FFFC, by rfl, by decide⟩
  exact ⟨after, first, second, ran, issued, powerless⟩

/-- With the power-down bit set, the second command still has it, and both opcodes. -/
theorem init_link_keeps_power_down : ∃ after,
    initLink (mdicHost 0x0800) (bareMachine 0) = .ok (.ok (), after) ∧
      after.env.2 = [0x08200000, 0x1C200800] ∧ ¬ PowersUp 0x0800 0x08200000 0x1C200800 := by
  refine ⟨_, rfl, by decide, ?_⟩
  intro powers
  exact absurd powers.data (by decide)

end IgbDriver
