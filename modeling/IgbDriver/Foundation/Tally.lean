import Mathlib.Algebra.BigOperators.Group.List.Basic
import Mathlib.Algebra.GroupWithZero.Nat

namespace IgbDriver.Foundation

/-! # Sums over an indexed family when one member changes -/

variable {α β : Type} {values : List α} {position : Nat} {old new : α}

/-- Replacing one member moves the total by the change of that member. -/
theorem sum_map_set (weight : α → Nat) (new : α) (found : values[position]? = some old) :
    ((values.set position new).map weight).sum + weight old =
      (values.map weight).sum + weight new := by
  induction values generalizing position with
  | nil => simp at found
  | cons head tail ih =>
      cases position with
      | zero =>
          simp only [List.getElem?_cons_zero, Option.some.injEq] at found
          subst head
          simp only [List.set_cons_zero, List.map_cons, List.sum_cons]
          omega
      | succ position =>
          simp only [List.getElem?_cons_succ] at found
          have rest := ih found
          simp only [List.set_cons_succ, List.map_cons, List.sum_cons]
          omega

theorem sum_map_set_same (weight : α → Nat) (found : values[position]? = some old)
    (same : weight new = weight old) :
    ((values.set position new).map weight).sum = (values.map weight).sum := by
  have moved := sum_map_set weight new found
  omega

theorem sum_map_eraseIdx (weight : α → Nat) (found : values[position]? = some old) :
    ((values.eraseIdx position).map weight).sum + weight old = (values.map weight).sum := by
  induction values generalizing position with
  | nil => simp at found
  | cons head tail ih =>
      cases position with
      | zero =>
          simp only [List.getElem?_cons_zero, Option.some.injEq] at found
          subst head
          simp only [List.eraseIdx_cons_zero, List.map_cons, List.sum_cons]
          omega
      | succ position =>
          simp only [List.getElem?_cons_succ] at found
          have rest := ih found
          simp only [List.eraseIdx_cons_succ, List.map_cons, List.sum_cons]
          omega

/-- Taking one member out of a list lowers every count by that member's share. -/
theorem countP_eraseIdx (selected : α → Bool) (found : values[position]? = some old) :
    (values.eraseIdx position).countP selected + (if selected old then 1 else 0) =
      values.countP selected := by
  induction values generalizing position with
  | nil => simp at found
  | cons head tail ih =>
      cases position with
      | zero =>
          simp only [List.getElem?_cons_zero, Option.some.injEq] at found
          subst head
          simp only [List.eraseIdx_cons_zero, List.countP_cons]
      | succ position =>
          simp only [List.getElem?_cons_succ] at found
          have rest := ih found
          simp only [List.eraseIdx_cons_succ, List.countP_cons]
          omega

/-- The same for the number of times a value occurs. -/
theorem count_set_of_some [BEq α] [LawfulBEq α] (value new : α)
    (found : values[position]? = some old) :
    (values.set position new).count value + (if old == value then 1 else 0) =
      values.count value + (if new == value then 1 else 0) := by
  obtain ⟨inside, here⟩ := List.getElem?_eq_some_iff.mp found
  have counted := List.count_set (a := new) (b := value) inside
  have present : (if old == value then 1 else 0) ≤ values.count value := by
    split
    · rename_i same
      rw [eq_of_beq same] at found
      exact List.count_pos_iff.mpr (List.mem_of_getElem? found)
    · exact Nat.zero_le _
  rw [here] at counted
  omega

theorem countP_set_of_some (selected : α → Bool) (new : α) (found : values[position]? = some old) :
    (values.set position new).countP selected + (if selected old then 1 else 0) =
      values.countP selected + (if selected new then 1 else 0) := by
  induction values generalizing position with
  | nil => simp at found
  | cons head tail ih =>
      cases position with
      | zero =>
          simp only [List.getElem?_cons_zero, Option.some.injEq] at found
          subst head
          simp only [List.set_cons_zero, List.countP_cons]
          omega
      | succ position =>
          simp only [List.getElem?_cons_succ] at found
          have rest := ih found
          simp only [List.set_cons_succ, List.countP_cons]
          omega

theorem set_of_some (found : values[position]? = some old) :
    (values.set position new)[position]? = some new := by
  rw [List.getElem?_set_self (List.getElem?_eq_some_iff.mp found).1]

/-- What a list holds after one of its cells was set. -/
theorem getElem?_set_cases {slot : Nat} {value : α}
    (found : (values.set position new)[slot]? = some value) :
    (position = slot ∧ value = new) ∨ (position ≠ slot ∧ values[slot]? = some value) := by
  by_cases same : position = slot
  · subst same
    have inside := (List.getElem?_eq_some_iff.mp found).1
    rw [List.length_set] at inside
    exact .inl ⟨rfl, Option.some.inj (found.symm.trans (List.getElem?_set_self inside))⟩
  · rw [List.getElem?_set_ne same] at found
    exact .inr ⟨same, found⟩

end IgbDriver.Foundation
