import Mathlib.Init

namespace IgbDriver.Foundation

/-! # Runs of a labelled machine

A machine in state `state` offered `action` may refuse it (`none`), fail, or
emit events and move on. A run is restricted by `allowed`, the environment's side
of the bargain; statements about every run are statements about every
interleaving the environment can produce.
-/

variable {State Action Event Failure : Type}
  {step : State → Action → Option (Except Failure (List Event × State))}
  {allowed allowed' : State → Action → Prop} {start state after : State}
  {trace events : List Event}

inductive Run (step : State → Action → Option (Except Failure (List Event × State)))
    (allowed : State → Action → Prop) (start : State) : List Event → State → Prop where
  | refl : Run step allowed start [] start
  | next {trace events : List Event} {state after : State} {action : Action} :
      Run step allowed start trace state → allowed state action →
      step state action = some (.ok (events, after)) →
      Run step allowed start (trace ++ events) after

namespace Run

/-- What holds at the start and survives every allowed step holds of every run. -/
theorem invariant (holds : List Event → State → Prop)
    (run : Run step allowed start trace state) (initially : holds [] start)
    (kept : ∀ trace state action events after, holds trace state → allowed state action →
      step state action = some (.ok (events, after)) → holds (trace ++ events) after) :
    holds trace state := by
  induction run with
  | refl => exact initially
  | next _ permitted stepped ih => exact kept _ _ _ _ _ ih permitted stepped

theorem weaken (run : Run step allowed start trace state)
    (weaker : ∀ state action, allowed state action → allowed' state action) :
    Run step allowed' start trace state := by
  induction run with
  | refl => exact .refl
  | next _ permitted stepped ih => exact .next ih (weaker _ _ permitted) stepped

theorem trans {trace' : List Event} {final : State} (first : Run step allowed start trace state)
    (second : Run step allowed state trace' final) :
    Run step allowed start (trace ++ trace') final := by
  induction second with
  | refl => simpa only [List.append_nil] using first
  | next _ permitted stepped ih =>
      rw [← List.append_assoc]
      exact .next ih permitted stepped

end Run

/-- Follow a list of actions, each of which must be allowed and must succeed. -/
def replay (step : State → Action → Option (Except Failure (List Event × State)))
    (allowed : State → Action → Prop) [∀ state action, Decidable (allowed state action)] :
    List Action → State → Option (List Event × State)
  | [], state => some ([], state)
  | action :: rest, state =>
      if allowed state action then
        match step state action with
        | some (.ok (events, after)) =>
            (replay step allowed rest after).map fun result => (events ++ result.1, result.2)
        | _ => none
      else none

theorem run_of_replay [∀ state action, Decidable (allowed state action)] {actions : List Action}
    (replayed : replay step allowed actions start = some (trace, state)) :
    Run step allowed start trace state := by
  induction actions generalizing start trace with
  | nil => cases replayed; exact .refl
  | cons action rest ih =>
      simp only [replay] at replayed
      split at replayed
      · rename_i permitted
        split at replayed
        · rename_i events middle stepped
          obtain ⟨result, continued, same⟩ := Option.map_eq_some_iff.mp replayed
          cases same
          exact (Run.next .refl permitted stepped).trans (ih continued)
        · cases replayed
      · cases replayed

end IgbDriver.Foundation
