import IgbDriver.Foundation.Machine

namespace IgbDriver.Foundation

/-! # Stateful programs with recoverable errors

A program reads and updates a state and ends in one of three ways: it returns a
value, it returns an error (the state reached so far is kept), or it aborts and
leaves nothing. `Triple` is the logic of partial and total correctness at once:
its first argument says which aborts the reader is willing to accept.
-/

def Prog (Reason σ ε α : Type) : Type := σ → Except (Abort Reason) (Except ε α × σ)

variable {Reason σ ε α β : Type}

namespace Prog

/-- Run the rest on what a program returned; errors and aborts skip it. -/
protected def bind (program : Prog Reason σ ε α) (next : α → Prog Reason σ ε β) :
    Prog Reason σ ε β := fun state =>
  match program state with
  | .error abort => .error abort
  | .ok (.error failure, after) => .ok (.error failure, after)
  | .ok (.ok value, after) => next value after

instance : Monad (Prog Reason σ ε) where
  pure value := fun state => .ok (.ok value, state)
  bind := Prog.bind

/-- Return the error of a fallible function to the caller. -/
def fail (failure : ε) : Prog Reason σ ε α := fun state => .ok (.error failure, state)

def abort (reason : Abort Reason) : Prog Reason σ ε α := fun _ => .error reason

def read : Prog Reason σ ε σ := fun state => .ok (.ok state, state)

def update (change : σ → σ) : Prog Reason σ ε Unit := fun state => .ok (.ok (), change state)

/-- Run a computation that can abort but touches no state. -/
def lift (result : Except (Abort Reason) α) : Prog Reason σ ε α := fun state =>
  match result with
  | .error reason => .error reason
  | .ok value => .ok (.ok value, state)

/-- The loop `for i in start..start + count`. -/
def forRange (body : Nat → Prog Reason σ ε Unit) : Nat → Nat → Prog Reason σ ε Unit
  | _, 0 => pure ()
  | start, count + 1 => do
      body start
      forRange body (start + 1) count

/-- The loop `loop { if ready { break }; idle }`, followed for `fuel` rounds. -/
def pollUntil (ready : Prog Reason σ ε Bool) (idle : Prog Reason σ ε Unit) :
    Nat → Prog Reason σ ε Unit
  | 0 => abort .outOfFuel
  | fuel + 1 => do
      if ← ready then pure ()
      else do
        idle
        pollUntil ready idle fuel

@[simp] theorem pure_apply (value : α) (state : σ) :
    (pure value : Prog Reason σ ε α) state = .ok (.ok value, state) := rfl

theorem bind_apply (program : Prog Reason σ ε α) (next : α → Prog Reason σ ε β) (state : σ) :
    (program >>= next) state =
      match program state with
      | .error abort => .error abort
      | .ok (.error failure, after) => .ok (.error failure, after)
      | .ok (.ok value, after) => next value after := rfl

theorem bind_of_ok {program : Prog Reason σ ε α} {next : α → Prog Reason σ ε β}
    {state after : σ} {value : α} (ran : program state = .ok (.ok value, after)) :
    (program >>= next) state = next value after := by
  rw [bind_apply, ran]

theorem bind_of_abort {program : Prog Reason σ ε α} {next : α → Prog Reason σ ε β}
    {state : σ} {reason : Abort Reason} (ran : program state = .error reason) :
    (program >>= next) state = .error reason := by
  rw [bind_apply, ran]

/-- Inversion of a sequence that returned a value. -/
theorem bind_ok {program : Prog Reason σ ε α} {next : α → Prog Reason σ ε β}
    {state after : σ} {result : β} (ran : (program >>= next) state = .ok (.ok result, after)) :
    ∃ value middle, program state = .ok (.ok value, middle) ∧
      next value middle = .ok (.ok result, after) := by
  rw [bind_apply] at ran
  split at ran
  · cases ran
  · cases ran
  · rename_i value middle first
    exact ⟨value, middle, first, ran⟩

/-- Inversion of a sequence that returned an error. -/
theorem bind_error {program : Prog Reason σ ε α} {next : α → Prog Reason σ ε β}
    {state after : σ} {failure : ε} (ran : (program >>= next) state = .ok (.error failure, after)) :
    program state = .ok (.error failure, after) ∨
      ∃ value middle, program state = .ok (.ok value, middle) ∧
        next value middle = .ok (.error failure, after) := by
  rw [bind_apply] at ran
  split at ran
  · cases ran
  · rename_i first
    cases ran
    exact .inl first
  · rename_i value middle first
    exact .inr ⟨value, middle, first, ran⟩

@[simp] theorem fail_apply (failure : ε) (state : σ) :
    (fail failure : Prog Reason σ ε α) state = .ok (.error failure, state) := rfl

@[simp] theorem abort_apply (reason : Abort Reason) (state : σ) :
    (abort reason : Prog Reason σ ε α) state = .error reason := rfl

@[simp] theorem read_apply (state : σ) :
    (read : Prog Reason σ ε σ) state = .ok (.ok state, state) := rfl

@[simp] theorem update_apply (change : σ → σ) (state : σ) :
    (update change : Prog Reason σ ε Unit) state = .ok (.ok (), change state) := rfl

@[simp] theorem lift_ok_apply (value : α) (state : σ) :
    (lift (.ok value) : Prog Reason σ ε α) state = .ok (.ok value, state) := rfl

@[simp] theorem lift_error_apply (reason : Abort Reason) (state : σ) :
    (lift (.error reason) : Prog Reason σ ε α) state = .error reason := rfl

theorem lift_ok {result : Except (Abort Reason) α} {state after : σ} {outcome : Except ε α}
    (ran : (lift result : Prog Reason σ ε α) state = .ok (outcome, after)) :
    ∃ value, result = .ok value ∧ outcome = .ok value ∧ after = state := by
  cases result with
  | error reason => cases ran
  | ok value => cases ran; exact ⟨value, rfl, rfl, rfl⟩

/-- Inversion of a lifted computation followed by the rest, whatever the outcome. -/
theorem bind_lift_ok {result : Except (Abort Reason) α} {next : α → Prog Reason σ ε β} {state : σ}
    {outcome : Except ε β × σ} (ran : (lift result >>= next) state = .ok outcome) :
    ∃ value, result = .ok value ∧ next value state = .ok outcome := by
  cases result with
  | error reason => cases ran
  | ok value => exact ⟨value, rfl, ran⟩

@[simp] theorem bind_read_apply (next : σ → Prog Reason σ ε β) (state : σ) :
    (read >>= next) state = next state state := rfl

@[simp] theorem bind_update_apply (change : σ → σ) (next : Unit → Prog Reason σ ε β) (state : σ) :
    (update change >>= next) state = next () (change state) := rfl

instance : LawfulMonad (Prog Reason σ ε) := LawfulMonad.mk' _
  (by
    intro α program
    funext state
    change Prog.bind program (fun value => pure value) state = _
    simp only [Prog.bind]
    split <;> simp [*])
  (fun _ _ => rfl)
  (by
    intro α β γ program next last
    funext state
    simp only [bind_apply]
    cases program state with
    | error reason => rfl
    | ok result =>
        obtain ⟨outcome, after⟩ := result
        cases outcome <;> rfl)

/-! A result is tested by its value or by its abort, as far as these can be compared. -/

def returnsWith (test : α → Bool) : Except (Abort Reason) (Except ε α × σ) → Bool
  | .ok (.ok value, _) => test value
  | _ => false

def abortsWith [DecidableEq Reason] (reason : Abort Reason) : Except (Abort Reason) β → Bool
  | .error other => decide (other = reason)
  | .ok _ => false

theorem exists_of_returnsWith {test : α → Bool} {result : Except (Abort Reason) (Except ε α × σ)}
    (tested : returnsWith test result = true) :
    ∃ value after, result = .ok (.ok value, after) ∧ test value = true := by
  unfold returnsWith at tested
  split at tested
  · exact ⟨_, _, rfl, tested⟩
  · cases tested

theorem eq_of_abortsWith [DecidableEq Reason] {reason : Abort Reason}
    {result : Except (Abort Reason) β}
    (tested : abortsWith reason result = true) : result = .error reason := by
  cases result with
  | error other => rw [of_decide_eq_true tested]
  | ok value => cases tested

/-- The program returns no error, from any state. -/
def NeverFails (program : Prog Reason σ ε α) : Prop :=
  ∀ state failure after, program state ≠ .ok (.error failure, after)

namespace NeverFails

variable {program : Prog Reason σ ε α} {next : α → Prog Reason σ ε β}

theorem pure (value : α) : NeverFails (Pure.pure value : Prog Reason σ ε α) := nofun

theorem abort (reason : Abort Reason) : NeverFails (abort reason : Prog Reason σ ε α) := nofun

theorem bind (first : NeverFails program) (rest : ∀ value, NeverFails (next value)) :
    NeverFails (program >>= next) := by
  intro state failure after ran
  rcases bind_error ran with failed | ⟨value, middle, _, failed⟩
  · exact first state failure after failed
  · exact rest value middle failure after failed

end NeverFails

/-- The program does not see the change, and leaves it in place. -/
def Commutes (change : σ → σ) (program : Prog Reason σ ε α) : Prop :=
  ∀ state, program (change state) = (program state).map (Prod.map id change)

namespace Commutes

variable {change : σ → σ} {program : Prog Reason σ ε α} {next : α → Prog Reason σ ε β}

theorem pure (value : α) : Commutes change (Pure.pure value : Prog Reason σ ε α) := fun _ => rfl

theorem bind (first : Commutes change program) (rest : ∀ value, Commutes change (next value)) :
    Commutes change (program >>= next) := by
  intro state
  rw [bind_apply, bind_apply, first state]
  cases program state with
  | error reason => rfl
  | ok result =>
      obtain ⟨outcome, after⟩ := result
      cases outcome with
      | error failure => rfl
      | ok value => exact rest value after

/-- Both sides look up the same thing and go on. -/
theorem bind_lift {result : Except (Abort Reason) α} {left right : α → Prog Reason σ ε β}
    {state after : σ}
    (rest : ∀ value, left value after = (right value state).map (Prod.map id change)) :
    (lift result >>= left) after = ((lift result >>= right) state).map (Prod.map id change) := by
  cases result with
  | error reason => rfl
  | ok value => exact rest value

end Commutes

end Prog

/-- Either every abort is admitted, or the condition leaves none. -/
def Barred (allowed : Abort Reason → Prop) (condition : Prop) : Prop :=
  (∀ reason, allowed reason) ∨ condition

namespace Barred

variable {allowed : Abort Reason → Prop} {condition weaker : Prop}
  {result : Except (Abort Reason) α}

theorem imp (barred : Barred allowed condition) (implies : condition → weaker) :
    Barred allowed weaker :=
  Or.imp_right implies barred

theorem abortsOnly (barred : Barred allowed condition)
    (returns : condition → ∃ value, result = .ok value) :
    AbortsOnly allowed result := by
  intro reason failed
  rcases barred with all | holds
  · exact all reason
  · obtain ⟨value, returned⟩ := returns holds
    cases failed.symm.trans returned

end Barred

/-- From a state satisfying `pre`, `program` either returns a value and a state
related by `post`, or an error and a state related by `fails`, or aborts for a
reason that `allowed` admits. -/
def Triple (allowed : Abort Reason → Prop) (pre : σ → Prop) (program : Prog Reason σ ε α)
    (post : α → σ → Prop) (fails : ε → σ → Prop) : Prop :=
  ∀ state, pre state →
    match program state with
    | .error reason => allowed reason
    | .ok (.error failure, after) => fails failure after
    | .ok (.ok value, after) => post value after

namespace Triple

variable {allowed : Abort Reason → Prop} {pre pre' middle : σ → Prop}
  {program : Prog Reason σ ε α} {next : α → Prog Reason σ ε β}
  {post post' : α → σ → Prop} {final : β → σ → Prop} {fails fails' : ε → σ → Prop}

theorem of_ok (triple : Triple allowed pre program post fails) {state after : σ} {value : α}
    (holds : pre state) (ran : program state = .ok (.ok value, after)) : post value after := by
  have outcome := triple state holds
  rw [ran] at outcome
  exact outcome

theorem of_fail (triple : Triple allowed pre program post fails) {state after : σ} {failure : ε}
    (holds : pre state) (ran : program state = .ok (.error failure, after)) :
    fails failure after := by
  have outcome := triple state holds
  rw [ran] at outcome
  exact outcome

/-- A triple that admits no abort and no error is total correctness. -/
theorem returns {pre : σ → Prop} {program : Prog Reason σ ε α} {post : α → σ → Prop}
    (triple : Triple (fun _ => False) pre program post (fun _ _ => False)) {state : σ}
    (holds : pre state) :
    ∃ value after, program state = .ok (.ok value, after) ∧ post value after := by
  have outcome := triple state holds
  cases ran : program state with
  | error reason =>
      rw [ran] at outcome
      exact outcome.elim
  | ok result =>
      obtain ⟨ended, after⟩ := result
      rw [ran] at outcome
      cases ended with
      | error failure => exact outcome.elim
      | ok value => exact ⟨value, after, rfl, outcome⟩

/-- A triple from what the program aborts with and an inversion of its results. -/
theorem of_results (aborts : ∀ state reason, pre state → program state = .error reason →
      allowed reason)
    (holds : ∀ state outcome after, pre state → program state = .ok (outcome, after) →
      match outcome with
      | .error failure => fails failure after
      | .ok value => post value after) :
    Triple allowed pre program post fails := by
  intro state before
  cases ran : program state with
  | error reason => exact aborts state reason before ran
  | ok result =>
      obtain ⟨outcome, after⟩ := result
      have outcome_holds := holds state outcome after before ran
      cases outcome <;> exact outcome_holds

theorem consequence (triple : Triple allowed pre program post fails)
    (stronger : ∀ state, pre' state → pre state)
    (weaker : ∀ value state, post value state → post' value state)
    (weakerFails : ∀ failure state, fails failure state → fails' failure state) :
    Triple allowed pre' program post' fails' := by
  intro state holds
  have outcome := triple state (stronger state holds)
  split at outcome
  · exact outcome
  · exact weakerFails _ _ outcome
  · exact weaker _ _ outcome

theorem strengthen (triple : Triple allowed pre program post fails)
    (stronger : ∀ state, pre' state → pre state) : Triple allowed pre' program post fails :=
  triple.consequence stronger (fun _ _ => id) (fun _ _ => id)

theorem weaken (triple : Triple allowed pre program post fails)
    (weaker : ∀ value state, post value state → post' value state) :
    Triple allowed pre program post' fails :=
  triple.consequence (fun _ => id) weaker (fun _ _ => id)

theorem pure {value : α} (holds : ∀ state, pre state → post value state) :
    Triple allowed pre (pure value : Prog Reason σ ε α) post fails :=
  fun state before => holds state before

theorem fail {failure : ε} (holds : ∀ state, pre state → fails failure state) :
    Triple allowed pre (Prog.fail failure : Prog Reason σ ε α) post fails :=
  fun state before => holds state before

theorem abort {reason : Abort Reason} (admitted : allowed reason) :
    Triple allowed pre (Prog.abort reason : Prog Reason σ ε α) post fails :=
  fun _ _ => admitted

theorem bind (first : Triple allowed pre program post fails)
    (rest : ∀ value, Triple allowed (post value) (next value) final fails) :
    Triple allowed pre (program >>= next) final fails := by
  intro state holds
  have outcome := first state holds
  rw [Prog.bind_apply]
  split at outcome
  · exact outcome
  · exact outcome
  · exact rest _ _ outcome

/-- A fact that says nothing of the state may be assumed. -/
theorem assuming {premise : Prop} (holds : premise → Triple allowed pre program post fails) :
    Triple allowed (fun state => premise ∧ pre state) program post fails :=
  fun state before => holds before.1 state before.2

/-- Sequencing where the first program's value is not used. -/
theorem andThen {first : Prog Reason σ ε Unit} {second : Prog Reason σ ε β}
    (one : Triple allowed pre first (fun _ => middle) fails)
    (two : Triple allowed middle second final fails) :
    Triple allowed pre (do first; second) final fails :=
  bind one (fun _ => two)

theorem read {body : σ → Prog Reason σ ε β}
    (holds : ∀ snapshot, pre snapshot →
      Triple allowed (fun state => state = snapshot) (body snapshot) final fails) :
    Triple allowed pre (Prog.read >>= body) final fails :=
  fun state before => holds state before state rfl

theorem update {change : σ → σ} {after : Unit → σ → Prop}
    (holds : ∀ state, pre state → after () (change state)) :
    Triple allowed pre (Prog.update change : Prog Reason σ ε Unit) after fails :=
  fun state before => holds state before

theorem lift {result : Except (Abort Reason) α}
    (aborts : ∀ reason, result = .error reason → allowed reason)
    (holds : ∀ value state, result = .ok value → pre state → post value state) :
    Triple allowed pre (Prog.lift result : Prog Reason σ ε α) post fails := by
  intro state before
  cases result with
  | error reason => exact aborts reason rfl
  | ok value => exact holds value state rfl before

/-- The loop rule: `invariant i` holds before round `i`. -/
theorem forRange {body : Nat → Prog Reason σ ε Unit} {invariant : Nat → σ → Prop}
    {start count : Nat}
    (round : ∀ i, start ≤ i → i < start + count →
      Triple allowed (invariant i) (body i) (fun _ => invariant (i + 1)) fails) :
    Triple allowed (invariant start) (Prog.forRange body start count)
      (fun _ => invariant (start + count)) fails := by
  induction count generalizing start with
  | zero => exact pure (fun _ => id)
  | succ count ih =>
      have rest : Triple allowed (invariant (start + 1)) (Prog.forRange body (start + 1) count)
          (fun _ => invariant (start + 1 + count)) fails :=
        ih (fun i lower upper => round i (by omega) (by omega))
      rw [show start + 1 + count = start + (count + 1) by omega] at rest
      exact andThen (round start (Nat.le_refl _) (by omega)) rest

/-- The loop rule for an invariant that does not depend on the round. -/
theorem forRange_const {body : Nat → Prog Reason σ ε Unit} {start count : Nat}
    (round : ∀ i, start ≤ i → i < start + count →
      Triple allowed pre (body i) (fun _ => pre) fails) :
    Triple allowed pre (Prog.forRange body start count) (fun _ => pre) fails := by
  induction count generalizing start with
  | zero => exact pure (fun _ => id)
  | succ count ih =>
      exact andThen (round start (Nat.le_refl _) (by omega))
        (ih (fun i lower upper => round i (by omega) (by omega)))

/-- A wait for something that holds already takes one check. -/
theorem pollUntil_of_ready {ready : Prog Reason σ ε Bool} {idle : Prog Reason σ ε Unit} {fuel : Nat}
    (positive : 0 < fuel)
    (checks : Triple allowed pre ready (fun done state => done = true ∧ pre state) fails) :
    Triple allowed pre (Prog.pollUntil ready idle fuel) (fun _ => pre) fails := by
  cases fuel with
  | zero => cases positive
  | succ fuel =>
      apply bind checks
      intro done
      apply assuming
      intro same
      rw [same]
      exact pure (fun _ => id)

theorem pollUntil {ready : Prog Reason σ ε Bool} {idle : Prog Reason σ ε Unit} {fuel : Nat}
    (admitted : allowed .outOfFuel)
    (checks : Triple allowed pre ready (fun _ => pre) fails)
    (waits : Triple allowed pre idle (fun _ => pre) fails) :
    Triple allowed pre (Prog.pollUntil ready idle fuel) (fun _ => pre) fails := by
  induction fuel with
  | zero => exact abort admitted
  | succ fuel ih =>
      refine bind checks (fun done => ?_)
      cases done with
      | true => exact pure (fun _ => id)
      | false => exact andThen waits ih

end Triple

end IgbDriver.Foundation
