import IgbDriver.Foundation.Run

namespace IgbDriver.Foundation

/-! # Refinement of a specification

A specification is a relation that moves from state to state under labels. A machine
refines it when its labels are a path of the specification; a forward simulation shows
this step by step.
-/

variable {Spec Label : Type} {move : Spec → Label → Spec → Prop} {start middle state after : Spec}
  {label : Label} {labels more : List Label}

inductive Path (move : Spec → Label → Spec → Prop) (start : Spec) : List Label → Spec → Prop where
  | refl : Path move start [] start
  | next {labels : List Label} {label : Label} {state after : Spec} :
      Path move start labels state → move state label after →
        Path move start (labels ++ [label]) after

namespace Path

theorem one (moved : move start label after) : Path move start [label] after := .next .refl moved

theorem trans (first : Path move start labels middle) (second : Path move middle more after) :
    Path move start (labels ++ more) after := by
  induction second with
  | refl => simpa only [List.append_nil] using first
  | next _ moved ih =>
      rw [← List.append_assoc]
      exact .next ih moved

/-- What holds at the start and survives every move holds along every path. -/
theorem invariant (holds : List Label → Spec → Prop) (path : Path move start labels state)
    (initially : holds [] start)
    (kept : ∀ labels state label after, holds labels state → move state label after →
      holds (labels ++ [label]) after) : holds labels state := by
  induction path with
  | refl => exact initially
  | next _ moved ih => exact kept _ _ _ _ ih moved

end Path

section Simulation

variable {State Action Failure : Type}
  {step : State → Action → Option (Except Failure (List Label × State))}
  {allowed : State → Action → Prop} {concrete initial : State}

/-- Forward simulation: when every step of the machine is matched by a path of the
specification with its labels, so is every run. -/
theorem Run.refines (related : State → Spec → Prop) (run : Run step allowed initial labels concrete)
    (initially : related initial start)
    (matched : ∀ state spec action emitted after, related state spec → allowed state action →
      step state action = some (.ok (emitted, after)) →
        ∃ spec', Path move spec emitted spec' ∧ related after spec') :
    ∃ spec, Path move start labels spec ∧ related concrete spec := by
  induction run with
  | refl => exact ⟨start, .refl, initially⟩
  | next _ permitted stepped ih =>
      obtain ⟨spec, path, holds⟩ := ih
      obtain ⟨spec', moves, holds'⟩ := matched _ _ _ _ _ holds permitted stepped
      exact ⟨spec', path.trans moves, holds'⟩

end Simulation

end IgbDriver.Foundation
