import IgbDriver.Foundation.Prog
import IgbDriver.Foundation.Run

namespace IgbDriver.Foundation

/-! # Big steps played by a machine

A program does in one go what a machine does step by step. The machine plays the
program when, left to itself, it runs to where the program ends, or into the failure
the program ends with.
-/

variable {State Action Event Failure β γ : Type}
  {step : State → Action → Option (Except Failure (List Event × State))}
  {allowed allowed' : State → Action → Prop} {excused : Failure → Prop} {start middle after : State}
  {action : Action} {trace events : List Event} {failure : Failure}

theorem Run.one (permitted : allowed start action)
    (stepped : step start action = some (.ok (events, after))) :
    Run step allowed start events after := by
  simpa only [List.nil_append] using Run.next .refl permitted stepped

/-- A run whose last step fails. -/
def Aborting (step : State → Action → Option (Except Failure (List Event × State)))
    (allowed : State → Action → Prop) (start : State) (failure : Failure) : Prop :=
  ∃ trace state action, Run step allowed start trace state ∧ allowed state action ∧
    step state action = some (.error failure)

theorem Run.aborting (run : Run step allowed start trace middle)
    (aborting : Aborting step allowed middle failure) : Aborting step allowed start failure := by
  obtain ⟨more, state, action, rest, permitted, failed⟩ := aborting
  exact ⟨trace ++ more, state, action, run.trans rest, permitted, failed⟩

theorem Aborting.weaken (aborting : Aborting step allowed start failure)
    (weaker : ∀ state action, allowed state action → allowed' state action) :
    Aborting step allowed' start failure := by
  obtain ⟨trace, state, action, run, permitted, failed⟩ := aborting
  exact ⟨trace, state, action, run.weaken weaker, weaker _ _ permitted, failed⟩

/-- `ended` relates the value of the program to the trace and the last state of the run;
failures that are `excused` need not be met. -/
def Plays (step : State → Action → Option (Except Failure (List Event × State)))
    (allowed : State → Action → Prop) (excused : Failure → Prop) (start : State)
    (result : Except Failure β) (ended : β → List Event → State → Prop) : Prop :=
  match result with
  | .ok value => ∃ trace after, Run step allowed start trace after ∧ ended value trace after
  | .error failure => excused failure ∨ Aborting step allowed start failure

namespace Plays

variable {result : Except Failure β} {ended ended' : β → List Event → State → Prop}

theorem done {value : β} (holds : ended value [] start) :
    Plays step allowed excused start (.ok value) ended := ⟨[], start, .refl, holds⟩

theorem fails (permitted : allowed start action)
    (stepped : step start action = some (.error failure)) :
    Plays step allowed excused start (.error failure : Except Failure β) ended :=
  .inr ⟨[], start, action, .refl, permitted, stepped⟩

theorem excuse (holds : excused failure) :
    Plays step allowed excused start (.error failure : Except Failure β) ended := .inl holds

/-- What was run before is put in front. -/
theorem after_run (run : Run step allowed start trace middle)
    (plays : Plays step allowed excused middle result fun value more => ended value
      (trace ++ more)) :
    Plays step allowed excused start result ended := by
  cases result with
  | ok value =>
      obtain ⟨more, after, rest, holds⟩ := plays
      exact ⟨trace ++ more, after, run.trans rest, holds⟩
  | error failure => exact plays.imp id run.aborting

theorem after_step (permitted : allowed start action)
    (stepped : step start action = some (.ok (events, middle)))
    (plays : Plays step allowed excused middle result fun value more => ended value
      (events ++ more)) :
    Plays step allowed excused start result ended :=
  after_run (.one permitted stepped) plays

/-- A single step plays a single piece. -/
theorem one {value : β} (permitted : allowed start action)
    (stepped : step start action = some (.ok (events, after))) (holds : ended value events after) :
    Plays step allowed excused start (.ok value) ended :=
  ⟨events, after, .one permitted stepped, holds⟩

theorem weaken (plays : Plays step allowed excused start result ended)
    (weaker : ∀ state action, allowed state action → allowed' state action) :
    Plays step allowed' excused start result ended := by
  cases result with
  | ok value =>
      obtain ⟨trace, after, run, holds⟩ := plays
      exact ⟨trace, after, run.weaken weaker, holds⟩
  | error failure => exact plays.imp id fun aborting => aborting.weaken weaker

theorem consequence (plays : Plays step allowed excused start result ended)
    (weaker : ∀ value trace after, ended value trace after → ended' value trace after) :
    Plays step allowed excused start result ended' := by
  cases result with
  | ok value =>
      obtain ⟨trace, after, run, holds⟩ := plays
      exact ⟨trace, after, run, weaker _ _ _ holds⟩
  | error failure => exact plays

end Plays

/-- Sequencing: the machine plays the second program from where the first one left it. -/
theorem Plays.bind {Reason σ ε α α' : Type}
    {step : State → Action → Option (Except (Abort Reason) (List Event × State))}
    {excused : Abort Reason → Prop} {program : Prog Reason σ ε α} {next : α → Prog Reason σ ε α'}
    {state : σ} {ended : Except ε α × σ → List Event → State → Prop}
    {ended' : Except ε α' × σ → List Event → State → Prop}
    (first : Plays step allowed excused start (program state) ended)
    (returns : ∀ value state trace middle, ended (.ok value, state) trace middle →
      Plays step allowed excused middle (next value state) fun outcome more =>
        ended' outcome (trace ++ more))
    (throws : ∀ failure state trace middle, ended (.error failure, state) trace middle →
      ended' (.error failure, state) trace middle) :
    Plays step allowed excused start ((program >>= next) state) ended' := by
  rw [Prog.bind_apply]
  cases ran : program state with
  | error reason =>
      rw [ran] at first
      exact first
  | ok result =>
      obtain ⟨outcome, after⟩ := result
      rw [ran] at first
      obtain ⟨trace, middle, run, holds⟩ := first
      cases outcome with
      | error failure => exact ⟨trace, middle, run, throws _ _ _ _ holds⟩
      | ok value => exact .after_run run (returns _ _ _ _ holds)

end IgbDriver.Foundation
