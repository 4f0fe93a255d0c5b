namespace IgbDriver.Foundation

/-! # Machine integers

Programs under study use 64-bit `usize`, 32-bit `u32` and 32-bit `i32` values. A `usize`
is a natural number kept below `usizeModulus`, a `u32` that is calculated with one below
`u32Modulus`, an `i32` an integer in `FitsI32`; what an operation does past these bounds
depends on the build profile.
-/

/-- How integer overflow is compiled: `dev` builds trap, `release` builds wrap. -/
inductive Profile where
  | dev
  | release
deriving DecidableEq, Repr

/-- Why a program stopped without returning. `outOfFuel` is not an event of the
program: a bounded evaluation of one of its loops was cut off. -/
inductive Abort (Reason : Type) where
  | panic (reason : Reason)
  | overflow
  | outOfFuel
deriving DecidableEq, Repr

variable {Reason α : Type}

def Profile.onOverflow (wrapped : α) : Profile → Except (Abort Reason) α
  | .dev => .error .overflow
  | .release => .ok wrapped

/-- Index a slice; out of range is the panic `outside`. -/
def indexSlice (outside : Reason) (values : List α) (position : Nat) : Except (Abort Reason) α :=
  match values[position]? with
  | some value => .ok value
  | none => .error (.panic outside)

def usizeModulus : Nat := 18446744073709551616

def usizeAdd (profile : Profile) (left right : Nat) : Except (Abort Reason) Nat :=
  if left + right < usizeModulus then .ok (left + right)
  else profile.onOverflow ((left + right) % usizeModulus)

def usizeSub (profile : Profile) (left right : Nat) : Except (Abort Reason) Nat :=
  if right ≤ left then .ok (left - right)
  else profile.onOverflow (usizeModulus + left - right)

def usizeMul (profile : Profile) (left right : Nat) : Except (Abort Reason) Nat :=
  if left * right < usizeModulus then .ok (left * right)
  else profile.onOverflow ((left * right) % usizeModulus)

def u32Modulus : Nat := 4294967296

def u32Add (profile : Profile) (left right : Nat) : Except (Abort Reason) Nat :=
  if left + right < u32Modulus then .ok (left + right)
  else profile.onOverflow ((left + right) % u32Modulus)

def u32Mul (profile : Profile) (left right : Nat) : Except (Abort Reason) Nat :=
  if left * right < u32Modulus then .ok (left * right)
  else profile.onOverflow ((left * right) % u32Modulus)

/-- A shift by 32 or more overflows; a wrapping one takes the amount modulo 32. -/
def u32Shl (profile : Profile) (value : BitVec 32) (amount : Nat) : Except (Abort Reason)
    (BitVec 32) :=
  if amount < 32 then .ok (value <<< amount) else profile.onOverflow (value <<< (amount % 32))

def FitsI32 (value : Int) : Prop := -2147483648 ≤ value ∧ value < 2147483648

instance (value : Int) : Decidable (FitsI32 value) := inferInstanceAs (Decidable (_ ∧ _))

/-- The representative of `value` modulo `2 ^ 32` that an `i32` holds. -/
@[irreducible] def wrapI32 (value : Int) : Int := value.bmod 4294967296

/-- The cast `value as i32` of a `usize`. -/
def asI32 (value : Nat) : Int := wrapI32 value

def i32Add (profile : Profile) (left right : Int) : Except (Abort Reason) Int :=
  if FitsI32 (left + right) then .ok (left + right)
  else profile.onOverflow (wrapI32 (left + right))

def i32Sub (profile : Profile) (left right : Int) : Except (Abort Reason) Int :=
  if FitsI32 (left - right) then .ok (left - right)
  else profile.onOverflow (wrapI32 (left - right))

@[simp] theorem usizeAdd_of_lt {profile : Profile} {left right : Nat}
    (bound : left + right < usizeModulus) :
    (usizeAdd profile left right : Except (Abort Reason) Nat) = .ok (left + right) := if_pos bound

@[simp] theorem usizeSub_of_le {profile : Profile} {left right : Nat} (bound : right ≤ left) :
    (usizeSub profile left right : Except (Abort Reason) Nat) = .ok (left - right) := if_pos bound

@[simp] theorem usizeMul_of_lt {profile : Profile} {left right : Nat}
    (bound : left * right < usizeModulus) :
    (usizeMul profile left right : Except (Abort Reason) Nat) = .ok (left * right) := if_pos bound

@[simp] theorem u32Add_of_lt {profile : Profile} {left right : Nat}
    (bound : left + right < u32Modulus) :
    (u32Add profile left right : Except (Abort Reason) Nat) = .ok (left + right) := if_pos bound

@[simp] theorem u32Mul_of_lt {profile : Profile} {left right : Nat}
    (bound : left * right < u32Modulus) :
    (u32Mul profile left right : Except (Abort Reason) Nat) = .ok (left * right) := if_pos bound

@[simp] theorem u32Shl_of_lt {profile : Profile} {value : BitVec 32} {amount : Nat}
    (bound : amount < 32) :
    (u32Shl profile value amount : Except (Abort Reason) (BitVec 32)) = .ok (value <<< amount) :=
  if_pos bound

theorem except_ok_bind {ε β : Type} (value : α) (next : α → Except ε β) :
    ((.ok value : Except ε α) >>= next) = next value := rfl

theorem except_bind_ok {ε β : Type} {first : Except ε α} {next : α → Except ε β} {result : β}
    (ran : (first >>= next) = .ok result) :
    ∃ value, first = .ok value ∧ next value = .ok result := by
  cases first with
  | error failure => cases ran
  | ok value => exact ⟨value, rfl, ran⟩

/-- Every abort of `result` is one that `allowed` admits. -/
def AbortsOnly (allowed : Abort Reason → Prop) (result : Except (Abort Reason) α) : Prop :=
  ∀ reason, result = .error reason → allowed reason

namespace AbortsOnly

variable {β : Type} {allowed : Abort Reason → Prop} {first : Except (Abort Reason) α}
  {next : α → Except (Abort Reason) β}

theorem ok (value : α) : AbortsOnly allowed (.ok value : Except (Abort Reason) α) := nofun

theorem error {reason : Abort Reason} (admitted : allowed reason) :
    AbortsOnly allowed (.error reason : Except (Abort Reason) α) := by
  intro _ same
  cases same
  exact admitted

theorem bind (one : AbortsOnly allowed first)
    (two : ∀ value, first = .ok value → AbortsOnly allowed (next value)) :
    AbortsOnly allowed (first >>= next) := by
  intro reason failed
  cases ran : first with
  | error abort => rw [ran] at failed; cases failed; exact one _ ran
  | ok value => rw [ran] at failed; exact two value ran reason failed

end AbortsOnly

@[simp] theorem indexSlice_of_some {outside : Reason} {values : List α} {position : Nat}
    {value : α} (found : values[position]? = some value) :
    indexSlice outside values position = .ok value := by
  simp only [indexSlice, found]

theorem indexSlice_ok {outside : Reason} {values : List α} {position : Nat} {value : α}
    (indexed : indexSlice outside values position = .ok value) :
    values[position]? = some value := by
  unfold indexSlice at indexed
  split at indexed
  · rename_i found
    cases indexed
    exact found
  · cases indexed

section AbortsOnly

variable {allowed : Abort Reason → Prop} {profile : Profile} {left right : Nat}

theorem abortsOnly_indexSlice {outside : Reason} {values : List α} {position : Nat}
    (admitted : allowed (.panic outside)) :
    AbortsOnly allowed (indexSlice outside values position) := by
  simp only [indexSlice]
  split
  · exact .ok _
  · exact .error admitted

theorem abortsOnly_onOverflow (admitted : allowed .overflow) (wrapped : α) :
    AbortsOnly allowed (profile.onOverflow wrapped) := by
  cases profile with
  | dev => exact .error admitted
  | release => exact .ok _

theorem abortsOnly_usizeAdd (admitted : allowed .overflow) :
    AbortsOnly allowed (usizeAdd profile left right) := by
  simp only [usizeAdd]
  split
  · exact .ok _
  · exact abortsOnly_onOverflow admitted _

theorem abortsOnly_usizeSub (admitted : allowed .overflow) :
    AbortsOnly allowed (usizeSub profile left right) := by
  simp only [usizeSub]
  split
  · exact .ok _
  · exact abortsOnly_onOverflow admitted _

theorem abortsOnly_usizeMul (admitted : allowed .overflow) :
    AbortsOnly allowed (usizeMul profile left right) := by
  simp only [usizeMul]
  split
  · exact .ok _
  · exact abortsOnly_onOverflow admitted _

theorem abortsOnly_i32Add {left right : Int} (admitted : allowed .overflow) :
    AbortsOnly allowed (i32Add profile left right) := by
  simp only [i32Add]
  split
  · exact .ok _
  · exact abortsOnly_onOverflow admitted _

theorem abortsOnly_i32Sub {left right : Int} (admitted : allowed .overflow) :
    AbortsOnly allowed (i32Sub profile left right) := by
  simp only [i32Sub]
  split
  · exact .ok _
  · exact abortsOnly_onOverflow admitted _

end AbortsOnly

theorem fitsI32_wrapI32 (value : Int) : FitsI32 (wrapI32 value) := by
  simp only [wrapI32]
  exact ⟨Int.le_bmod (by decide), Int.bmod_lt (by decide)⟩

theorem wrapI32_of_fits {value : Int} (fits : FitsI32 value) : wrapI32 value = value := by
  unfold FitsI32 at fits
  simp only [wrapI32]
  rw [Int.bmod_eq_of_le] <;> omega

theorem asI32_of_lt {value : Nat} (bound : value < 2147483648) : asI32 value = value :=
  wrapI32_of_fits ⟨by omega, by omega⟩

/-- A result of an `i32` addition always fits and is right modulo `2 ^ 32`. -/
theorem i32Add_ok {profile : Profile} {left right result : Int}
    (added : (i32Add profile left right : Except (Abort Reason) Int) = .ok result) :
    FitsI32 result ∧ result = wrapI32 (left + right) := by
  unfold i32Add at added
  split at added
  · rename_i fits
    cases added
    exact ⟨fits, (wrapI32_of_fits fits).symm⟩
  · cases profile with
    | dev => cases added
    | release => cases added; exact ⟨fitsI32_wrapI32 _, rfl⟩

theorem i32Sub_ok {profile : Profile} {left right result : Int}
    (subtracted : (i32Sub profile left right : Except (Abort Reason) Int) = .ok result) :
    FitsI32 result ∧ result = wrapI32 (left - right) := by
  have added : (i32Add profile left (-right) : Except (Abort Reason) Int) = .ok result := by
    simpa only [i32Add, i32Sub, Int.sub_eq_add_neg] using subtracted
  exact i32Add_ok added

theorem wrapI32_emod (value : Int) : wrapI32 value % 4294967296 = value % 4294967296 := by
  simp only [wrapI32]
  exact Int.bmod_emod

/-- Two `i32` values that agree modulo `2 ^ 32` are equal. -/
theorem eq_wrapI32 {result value : Int} (fits : FitsI32 result)
    (same : result % 4294967296 = value % 4294967296) : result = wrapI32 value := by
  have fitsWrap := fitsI32_wrapI32 value
  have wrapped := wrapI32_emod value
  unfold FitsI32 at fits fitsWrap
  omega

end IgbDriver.Foundation
