import IgbDriver.Foundation.Prog
import IgbDriver.Foundation.Run

namespace IgbDriver.Foundation

/-! # The two builds of a program

A build that traps on overflow and one that wraps are the same program as long as
nothing overflows. `Agrees` says this of one computation; it holds of the arithmetic and
is kept by everything that programs are put together with.
-/

variable {Reason σ ε α β : Type}

/-- The trapping build overflows, or does what the wrapping one does. -/
def Agrees (trapping wrapping : Except (Abort Reason) α) : Prop :=
  trapping = .error .overflow ∨ trapping = wrapping

namespace Agrees

variable {trapping wrapping : Except (Abort Reason) α} {first second : α → Except (Abort Reason) β}

theorem refl (result : Except (Abort Reason) α) : Agrees result result := .inr rfl

theorem bind (agrees : Agrees trapping wrapping)
    (rest : ∀ value, Agrees (first value) (second value)) :
    Agrees (trapping >>= first) (wrapping >>= second) := by
  rcases agrees with overflowed | rfl
  · exact .inl (by rw [overflowed]; rfl)
  · cases trapping with
    | error reason => exact .refl _
    | ok value => exact rest value

theorem map (agrees : Agrees trapping wrapping) (change : α → β) :
    Agrees (trapping.map change) (wrapping.map change) := by
  rcases agrees with overflowed | rfl
  · exact .inl (by rw [overflowed]; rfl)
  · exact .refl _

/-- What the trapping build returns, the wrapping one returns too. -/
theorem ok (agrees : Agrees trapping wrapping) {value : α} (ran : trapping = .ok value) :
    wrapping = .ok value := by
  rcases agrees with overflowed | same
  · rw [overflowed] at ran
    cases ran
  · rw [← same, ran]

theorem checked {fits : Prop} [Decidable fits] (exact wrapped : α) :
    Agrees (if fits then .ok exact else (Profile.dev.onOverflow wrapped : Except (Abort Reason) α))
      (if fits then .ok exact else Profile.release.onOverflow wrapped) := by
  by_cases bound : fits
  · rw [if_pos bound, if_pos bound]
    exact .refl _
  · rw [if_neg bound]
    exact .inl rfl

variable (left right : Nat)

theorem usizeAdd : Agrees (usizeAdd .dev left right : Except (Abort Reason) Nat)
    (Foundation.usizeAdd .release left right) :=
  checked _ _

theorem usizeSub : Agrees (usizeSub .dev left right : Except (Abort Reason) Nat)
    (Foundation.usizeSub .release left right) :=
  checked _ _

theorem usizeMul : Agrees (usizeMul .dev left right : Except (Abort Reason) Nat)
    (Foundation.usizeMul .release left right) :=
  checked _ _

theorem i32Add (left right : Int) :
    Agrees (i32Add .dev left right : Except (Abort Reason) Int)
      (Foundation.i32Add .release left right) :=
  checked _ _

theorem i32Sub (left right : Int) :
    Agrees (i32Sub .dev left right : Except (Abort Reason) Int)
      (Foundation.i32Sub .release left right) :=
  checked _ _

end Agrees

namespace Prog

/-- The builds agree from every state. -/
def Agrees (trapping wrapping : Prog Reason σ ε α) : Prop :=
  ∀ state, Foundation.Agrees (trapping state) (wrapping state)

namespace Agrees

variable {trapping wrapping : Prog Reason σ ε α} {first second : α → Prog Reason σ ε β}

theorem refl (program : Prog Reason σ ε α) : Agrees program program := fun _ => .refl _

theorem bind (agrees : Agrees trapping wrapping)
    (rest : ∀ value, Agrees (first value) (second value)) :
    Agrees (trapping >>= first) (wrapping >>= second) := by
  intro state
  rw [bind_apply, bind_apply]
  rcases agrees state with overflowed | same
  · exact .inl (by rw [overflowed])
  · rw [same]
    split
    · exact .refl _
    · exact .refl _
    · exact rest _ _

theorem andThen {next other : Prog Reason σ ε β} (agrees : Agrees trapping wrapping)
    (rest : Agrees next other) :
    Agrees (trapping >>= fun _ => next) (wrapping >>= fun _ => other) := agrees.bind fun _ => rest

theorem lift {left right : Except (Abort Reason) α} (agrees : Foundation.Agrees left right) :
    Agrees (Prog.lift left : Prog Reason σ ε α) (Prog.lift right) := by
  intro state
  rcases agrees with overflowed | rfl
  · exact .inl (by rw [overflowed]; rfl)
  · exact .refl _

theorem forRange {body other : Nat → Prog Reason σ ε Unit} (agrees : ∀ i, Agrees (body i) (other i))
    (start count : Nat) : Agrees (Prog.forRange body start count)
      (Prog.forRange other start count) := by
  induction count generalizing start with
  | zero => exact .refl _
  | succ count ih => exact (agrees start).andThen (ih (start + 1))

theorem pollUntil {ready ready' : Prog Reason σ ε Bool} {idle idle' : Prog Reason σ ε Unit}
    (asks : Agrees ready ready') (waits : Agrees idle idle') (fuel : Nat) :
    Agrees (Prog.pollUntil ready idle fuel) (Prog.pollUntil ready' idle' fuel) := by
  induction fuel with
  | zero => exact .refl _
  | succ fuel ih =>
      apply asks.bind
      intro value
      cases value with
      | false => exact waits.andThen ih
      | true => exact .refl _

end Agrees

end Prog

section Runs

variable {State Action Event : Type}
  {trapping wrapping : State → Action → Option (Except (Abort Reason) (List Event × State))}
  {allowed : State → Action → Prop} {start final : State} {trace : List Event}

/-- Two results of a step, of which the first may be an overflow. -/
def StepAgrees (left right : Option (Except (Abort Reason) α)) : Prop :=
  left = some (.error .overflow) ∨ left = right

theorem Agrees.some {left right : Except (Abort Reason) α} (agrees : Agrees left right) :
    StepAgrees (some left) (some right) := agrees.imp (congrArg _) (congrArg _)

/-- A run of the trapping build is one of the wrapping build. -/
theorem Run.wraps (run : Run trapping allowed start trace final)
    (agrees : ∀ state action, StepAgrees (trapping state action) (wrapping state action)) :
    Run wrapping allowed start trace final := by
  induction run with
  | refl => exact .refl
  | @next trace events state final action run permitted stepped ih =>
      rcases agrees state action with overflowed | same
      · rw [stepped] at overflowed
        cases overflowed
      · exact .next ih permitted (same ▸ stepped)

/-- A run of the wrapping build is one of the trapping build, if that overflows nowhere on its
way. -/
theorem Run.traps (run : Run wrapping allowed start trace final)
    (agrees : ∀ state action, StepAgrees (trapping state action) (wrapping state action))
    (quiet : ∀ trace state action, Run trapping allowed start trace state → allowed state action →
      trapping state action ≠ some (.error .overflow)) :
        Run trapping allowed start trace final := by
  induction run with
  | refl => exact .refl
  | @next trace events state final action run permitted stepped ih =>
      have same := (agrees state action).resolve_left (quiet _ _ _ ih permitted)
      exact .next ih permitted (same ▸ stepped)

end Runs

end IgbDriver.Foundation
