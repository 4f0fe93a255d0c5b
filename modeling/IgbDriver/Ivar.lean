import IgbDriver.Foundation.Fields
import IgbDriver.TxView

namespace IgbDriver

open Foundation

/-! # The interrupt vector registers

An IVAR register holds four causes, a byte each: receive and transmit of an even queue
and of the odd one after it. `set_ivar` changes one byte by reading the register,
clearing the byte and setting the bits of the vector.
-/

variable {σ : Type}

def setIvar (host : Host σ) (direction : Nat) (queue : BitVec 16) (msixVector : BitVec 32) :
    Driver σ Unit := do
  let msixVector := msixVector ||| igbIvarAllocVal
  let ofQueue ← Prog.lift (u32Mul host.profile 16 (queue.toNat &&& 1))
  let ofDirection ← Prog.lift (u32Mul host.profile 8 direction)
  let index ← Prog.lift (u32Add host.profile ofQueue ofDirection)
  let ivar ← getReg32 host (igbIvar (queue.toNat >>> 1))
  let mask ← Prog.lift (u32Shl host.profile 0xFF index)
  let ivar := ivar &&& ~~~mask
  let entry ← Prog.lift (u32Shl host.profile msixVector index)
  let ivar := ivar ||| entry
  setReg32 host (igbIvar (queue.toNat >>> 1)) ivar

/-- An interrupt cause: direction 0 is receive, 1 is transmit. -/
@[ext] structure IvarCause where
  direction : Fin 2
  queue : BitVec 16
deriving DecidableEq

structure IvarCall where
  cause : IvarCause
  msixVector : BitVec 32

/-- The vectors that `enable_msi_interrupt` and `enable_msix_interrupt` pass. -/
def IvarCall.FromCaller (call : IvarCall) : Prop :=
  call.msixVector = 0 ∨ call.msixVector = call.cause.queue.setWidth 32

/-- What the byte of the cause is to hold. -/
def IvarCall.entry (call : IvarCall) : BitVec 32 := igbIvarAllocVal ||| call.msixVector

def setIvars (host : Host σ) : List IvarCall → Driver σ Unit
  | [] => pure ()
  | call :: rest => do
      setIvar host call.cause.direction call.cause.queue call.msixVector
      setIvars host rest

namespace IvarCause

variable (cause : IvarCause)

def register : Nat := igbIvar (cause.queue.toNat >>> 1)

/-- The bit of the register at which the byte begins. -/
def index : Nat := 16 * (cause.queue.toNat &&& 1) + 8 * cause.direction

end IvarCause

def RegisterFile.ivarByte (file : RegisterFile) (cause : IvarCause) : BitVec 32 :=
  fieldAt 8 cause.index (file cause.register)

/-- After the calls each cause is mapped to the vector of its last call, and the causes
without a call as before. -/
structure IvarMap (before after : RegisterFile) (calls : List IvarCall) : Prop where
  last : ∀ cause entry, lastWrite IvarCall.cause IvarCall.entry calls cause = some entry →
    after.ivarByte cause = entry
  others : ∀ cause, lastWrite IvarCall.cause IvarCall.entry calls cause = none →
    after.ivarByte cause = before.ivarByte cause

def IvarCall.apply (file : RegisterFile) (call : IvarCall) : RegisterFile :=
  file.write call.cause.register
    (replaceField 8 call.cause.index call.entry (file call.cause.register))

section Cause

variable (cause other : IvarCause)

theorem IvarCause.index_lt : cause.index + 8 ≤ 32 := by
  have parity : cause.queue.toNat &&& 1 = cause.queue.toNat % 2 := Nat.and_one_is_mod _
  have direction := cause.direction.isLt
  rw [IvarCause.index, parity]
  omega

/-- Two causes of one register have bytes apart. -/
theorem IvarCause.apart {cause other : IvarCause} (differ : cause ≠ other)
    (shared : cause.register = other.register) :
    other.index + 8 ≤ cause.index ∨ cause.index + 8 ≤ other.index := by
  have bytes : ¬ (cause.direction.val = other.direction.val ∧ cause.queue.toNat =
      other.queue.toNat) := by
    intro same
    exact differ (IvarCause.ext (Fin.ext same.1) (BitVec.eq_of_toNat_eq same.2))
  simp only [IvarCause.register, igbIvar, Nat.shiftRight_eq_div_pow] at shared
  simp only [IvarCause.index, Nat.and_one_is_mod]
  have direction := cause.direction.isLt
  have otherDirection := other.direction.isLt
  omega

end Cause

/-- A call writes the byte of its cause and no other, provided the vector fits it. -/
theorem IvarCall.ivarByte_apply {call : IvarCall} (fits : call.msixVector.toNat < 256)
    (file : RegisterFile) (cause : IvarCause) :
    (call.apply file).ivarByte cause = if call.cause = cause then call.entry else
    file.ivarByte cause := by
  have small : call.entry.toNat < 2 ^ 8 := by
    rw [IvarCall.entry, BitVec.toNat_or]
    exact Nat.or_lt_two_pow (by decide) fits
  split
  · rename_i own
    subst own
    rw [RegisterFile.ivarByte, IvarCall.apply, RegisterFile.write_self]
    exact fieldAt_replaceField_self small (IvarCause.index_lt _)
  · rename_i differ
    by_cases shared : call.cause.register = cause.register
    · rw [RegisterFile.ivarByte, RegisterFile.ivarByte, IvarCall.apply, ← shared,
        RegisterFile.write_self]
      exact fieldAt_replaceField_of_apart small (IvarCause.apart differ shared)
    · rw [RegisterFile.ivarByte, RegisterFile.ivarByte, IvarCall.apply, RegisterFile.write_of_ne _ _
        (Ne.symm shared)]

section SetIvar

variable {profile : Profile} {machine after : Machine RegisterFile} {call : IvarCall}
  {calls : List IvarCall}

theorem setIvar_apply (window : InWindow profile machine.dev.len call.cause.register) :
    setIvar (registerFile profile) call.cause.direction call.cause.queue call.msixVector machine =
      .ok (.ok (), { machine with env := call.apply machine.env }) := by
  have inside := call.cause.index_lt
  have direction := call.cause.direction.isLt
  have parity : call.cause.queue.toNat &&& 1 = call.cause.queue.toNat % 2 := Nat.and_one_is_mod _
  have place : call.cause.index = 16 * (call.cause.queue.toNat &&& 1) + 8 * call.cause.direction :=
    rfl
  have small : 32 < u32Modulus := by decide
  have ofQueue : 16 * (call.cause.queue.toNat &&& 1) < u32Modulus := by omega
  have ofDirection : 8 * call.cause.direction.val < u32Modulus := by omega
  have whole : 16 * (call.cause.queue.toNat &&& 1) + 8 * call.cause.direction.val < u32Modulus := by
    omega
  have shifted : call.cause.index < 32 := by omega
  have entry : call.msixVector ||| igbIvarAllocVal = call.entry := BitVec.or_comm _ _
  simp only [setIvar]
  rw [u32Mul_of_lt ofQueue, Prog.bind_of_ok (Prog.lift_ok_apply _ _), u32Mul_of_lt ofDirection,
    Prog.bind_of_ok (Prog.lift_ok_apply _ _), u32Add_of_lt whole,
    Prog.bind_of_ok (Prog.lift_ok_apply _ _),
    ← place, Prog.bind_of_ok (getReg32_apply window), u32Shl_of_lt shifted,
    Prog.bind_of_ok (Prog.lift_ok_apply _ _), u32Shl_of_lt shifted,
    Prog.bind_of_ok (Prog.lift_ok_apply _ _), setReg32_apply _ window, entry]
  rfl

/-- A call that returned had its register inside the window. -/
theorem setIvar_window
    (ran : setIvar (registerFile profile) call.cause.direction call.cause.queue
      call.msixVector machine =
      .ok (.ok (), after)) : InWindow profile machine.dev.len call.cause.register := by
  obtain ⟨_, _, ran⟩ := Prog.bind_lift_ok ran
  obtain ⟨_, _, ran⟩ := Prog.bind_lift_ok ran
  obtain ⟨_, _, ran⟩ := Prog.bind_lift_ok ran
  obtain ⟨_, _, accessed, _⟩ := Prog.bind_ok ran
  obtain ⟨_, _, checked, _⟩ := Prog.bind_ok accessed
  exact checkWindow_window checked

theorem setIvars_apply
    (windows : ∀ call ∈ calls, InWindow profile machine.dev.len call.cause.register) :
    setIvars (registerFile profile) calls machine =
      .ok (.ok (), { machine with env := calls.foldl IvarCall.apply machine.env }) := by
  induction calls generalizing machine with
  | nil => rfl
  | cons call rest ih =>
      rw [setIvars, Prog.bind_of_ok (setIvar_apply (windows call List.mem_cons_self))]
      exact ih (fun call member => windows call (List.mem_cons_of_mem _ member))

theorem setIvars_windows
    (ran : setIvars (registerFile profile) calls machine = .ok (.ok (), after)) :
    ∀ call ∈ calls, InWindow profile machine.dev.len call.cause.register := by
  induction calls generalizing machine with
  | nil => exact List.forall_mem_nil _
  | cons call rest ih =>
      obtain ⟨_, middle, first, later⟩ := Prog.bind_ok ran
      have window := setIvar_window first
      rw [setIvar_apply window] at first
      cases first
      have windows := ih later
      exact List.forall_mem_cons.mpr ⟨window, windows⟩

/-- With vectors that fit a byte the registers are a map. -/
theorem ivarMap_foldl (fits : ∀ call ∈ calls, call.msixVector.toNat < 256) (file : RegisterFile) :
    IvarMap file (calls.foldl IvarCall.apply file) calls := by
  have bytes : ∀ cause, (calls.foldl IvarCall.apply file).ivarByte cause =
      (lastWrite IvarCall.cause IvarCall.entry calls cause).getD (file.ivarByte cause) :=
    read_foldl (fun call member => IvarCall.ivarByte_apply (fits call member)) file
  constructor
  · intro cause entry found
    rw [bytes, found, Option.getD_some]
  · intro cause absent
    rw [bytes, absent, Option.getD_none]

/-- After a call whose vector does not fit a byte they are none. -/
theorem IvarMap.fits {before after : RegisterFile} (map : IvarMap before after (calls ++ [call])) :
    call.msixVector.toNat < 256 := by
  have held := map.last call.cause call.entry (lastWrite_concat calls call)
  have bound : call.entry.toNat < 2 ^ 8 := by
    rw [← held]
    exact fieldAt_lt _
  rw [IvarCall.entry, BitVec.toNat_or] at bound
  exact Nat.lt_of_le_of_lt Nat.right_le_or bound

/-- Calls return exactly if their registers lie inside the window. At every point of a
sequence the registers are the map of the calls so far exactly if, besides, every vector
fits a byte. -/
theorem ivarMap_iff :
    ((∃ after, setIvars (registerFile profile) calls machine = .ok (.ok (), after)) ↔
      ∀ call ∈ calls, InWindow profile machine.dev.len call.cause.register) ∧
    ((∀ done, done <+: calls →
        ∃ after, setIvars (registerFile profile) done machine = .ok (.ok (), after) ∧
          IvarMap machine.env after.env done) ↔
      ∀ call ∈ calls, InWindow profile machine.dev.len call.cause.register ∧
        call.msixVector.toNat < 256) := by
  constructor
  · constructor
    · intro returns
      obtain ⟨after, ran⟩ := returns
      exact setIvars_windows ran
    · intro windows
      exact ⟨_, setIvars_apply windows⟩
  · constructor
    · intro maps call member
      constructor
      · obtain ⟨after, ran, _⟩ := maps calls (List.prefix_refl calls)
        exact setIvars_windows ran call member
      · obtain ⟨done, rest, same⟩ := List.append_of_mem member
        have upTo : done ++ [call] <+: calls :=
          ⟨rest, by rw [same, List.append_assoc, List.singleton_append]⟩
        obtain ⟨after, _, map⟩ := maps _ upTo
        exact map.fits
    · intro fine done upTo
      have inCalls : ∀ call ∈ done, call ∈ calls := fun _ member => upTo.subset member
      exact ⟨_, setIvars_apply (fun call member => (fine call (inCalls call member)).1),
        ivarMap_foldl (fun call member => (fine call (inCalls call member)).2) _⟩

/-- The call that `enable_msix_interrupt` makes for queue 256 leaves 0x80 in the byte of
its cause, where 0x180 is asked for, and sets a bit in the byte of the transmit cause. -/
theorem not_ivarMap_queue256 :
    let call : IvarCall := ⟨⟨0, 256⟩, 256⟩
    let machine : Machine RegisterFile :=
      ⟨fun _ => 0, fun _ => ⟨0, ⟨0, 0, 0, [], [], rfl⟩⟩, ⟨0x20000, 0, 0, [], []⟩⟩
    call.FromCaller ∧ ∃ after, setIvars (registerFile .dev) [call] machine = .ok (.ok (), after) ∧
      after.env.ivarByte call.cause = 0x80 ∧ call.entry = 0x180 ∧
      machine.env.ivarByte ⟨1, 256⟩ = 0 ∧ after.env.ivarByte ⟨1, 256⟩ = 1 ∧
      ¬ IvarMap machine.env after.env [call] := by
  intro call machine
  have windows : ∀ call' ∈ [call], InWindow .dev machine.dev.len call'.cause.register := by
    intro call' member
    cases List.mem_singleton.mp member
    exact ⟨0x1FFFC, rfl, by decide⟩
  have own : (call.apply machine.env).ivarByte call.cause = 0x80 := by decide +kernel
  have neighbour : (call.apply machine.env).ivarByte ⟨1, 256⟩ = 1 := by decide +kernel
  have notMap : ¬ IvarMap machine.env (call.apply machine.env) [call] := by
    intro map
    have held := map.last call.cause call.entry rfl
    exact absurd (own.symm.trans held) (by decide)
  exact ⟨.inr rfl, _, setIvars_apply windows, own, by decide, by decide +kernel, neighbour, notMap⟩

end SetIvar

end IgbDriver
