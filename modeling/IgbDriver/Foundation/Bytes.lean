import Mathlib.Logic.Function.Basic

namespace IgbDriver.Foundation

/-! # Bytes of memory

Memory holds one byte at each address. A party reaches it through a placement, which
says where its own addresses lie: the translation of an address space, or the identity
for one that uses memory addresses directly.
-/

abbrev Memory (β : Type) := Nat → β

variable {β : Type} {place : Nat → Nat} {start base count other : Nat} {memory memory' : Memory β}
  {bytes : List β} {byte : β}

namespace Memory

/-- The `count` bytes from `start` on. -/
def load (place : Nat → Nat) (memory : Memory β) : (start count : Nat) → List β
  | _, 0 => []
  | start, count + 1 => memory (place start) :: load place memory (start + 1) count

/-- Write bytes one after the other from `start` on. -/
def store (place : Nat → Nat) (memory : Memory β) : (start : Nat) → List β → Memory β
  | _, [] => memory
  | start, byte :: rest => store place (Function.update memory (place start) byte) (start + 1) rest

/-- The placement keeps the range from `start` in one piece, from `base` on. -/
def Places (place : Nat → Nat) (start base count : Nat) : Prop :=
  ∀ i, i < count → place (start + i) = base + i

theorem Places.identity (start count : Nat) : Places id start start count := fun _ _ => rfl

theorem Places.fewer {fewer : Nat} (places : Places place start base count)
    (short : fewer ≤ count) :
    Places place start base fewer := fun i inside => places i (by omega)

/-- The range without its first `offset` bytes. -/
theorem Places.drop (places : Places place start base count) (offset : Nat) :
    Places place (start + offset) (base + offset) (count - offset) := by
  intro i inside
  rw [Nat.add_assoc, Nat.add_assoc, places (offset + i) (by omega)]

@[simp] theorem length_load : (load place memory start count).length = count := by
  induction count generalizing start with
  | zero => rfl
  | succ count ih => simp [load, ih]

theorem load_congr (same : ∀ i, i < count → memory (place (start + i)) = memory' (id (other + i))) :
    load place memory start count = load id memory' other count := by
  induction count generalizing start other with
  | zero => rfl
  | succ count ih =>
      have first := same 0 (by omega)
      simp only [Nat.add_zero] at first
      have rest : load place memory (start + 1) count = load id memory' (other + 1) count := by
        apply ih
        intro i inside
        have next := same (i + 1) (by omega)
        simpa only [Nat.add_comm i 1, ← Nat.add_assoc] using next
      simp only [load, first, rest]

/-- A range in one piece is read as the memory there. -/
theorem Places.load (places : Places place start base count) :
    Memory.load place memory start count = Memory.load id memory base count :=
  load_congr fun i inside => congrArg memory (places i inside)

theorem load_eq_of_agree (agree : ∀ address, start ≤ address → address < start + count →
    memory' address = memory address) : load id memory' start count = load id memory start count :=
  load_congr fun i inside => agree (start + i) (by omega) (by omega)

theorem getElem?_load {i : Nat} (inside : i < count) :
    (load id memory start count)[i]? = some (memory (start + i)) := by
  induction count generalizing start i with
  | zero => omega
  | succ count ih =>
      cases i with
      | zero => rfl
      | succ i =>
          simp only [load, List.getElem?_cons_succ]
          rw [ih (by omega), Nat.add_assoc, Nat.add_comm 1]

theorem take_load {fewer : Nat} (short : fewer ≤ count) :
    (load id memory start count).take fewer = load id memory start fewer := by
  apply List.ext_getElem?
  intro i
  rcases Nat.lt_or_ge i fewer with inside | outside
  · rw [List.getElem?_take_of_lt inside, getElem?_load (by omega), getElem?_load inside]
  · rw [List.getElem?_take_eq_none outside, List.getElem?_eq_none (by simp [outside])]

/-- A store writes its own range only. -/
theorem store_outside (places : Places place start base bytes.length) {address : Nat}
    (outside : address < base ∨ base + bytes.length ≤ address) :
    store place memory start bytes address = memory address := by
  induction bytes generalizing start base memory with
  | nil => rfl
  | cons byte rest ih =>
      simp only [List.length_cons] at places outside
      have first : place start = base := by simpa using places 0 (by omega)
      have tail : Places place (start + 1) (base + 1) rest.length := by
        simpa using places.drop 1
      rw [store, ih tail (by omega), first, Function.update_of_ne (by omega)]

/-- A store leaves its bytes in memory. -/
theorem load_store (places : Places place start base bytes.length) :
    load id (store place memory start bytes) base bytes.length = bytes := by
  induction bytes generalizing start base memory with
  | nil => rfl
  | cons byte rest ih =>
      simp only [List.length_cons] at places
      have first : place start = base := by simpa using places 0 (by omega)
      have tail : Places place (start + 1) (base + 1) rest.length := by
        simpa using places.drop 1
      have head : store place memory start (byte :: rest) base = byte := by
        rw [store, store_outside tail (by omega), first, Function.update_self]
      rw [List.length_cons, load, id, head, store, ih tail]

/-- Storing one byte changes one byte of what is read. -/
theorem load_store_byte (place_eq : place start = base) {offset : Nat}
    (here : base = other + offset) (inside : offset < count) :
    load id (store place memory start [byte]) other count =
      (load id memory other count).set offset byte := by
  apply List.ext_getElem?
  intro i
  rcases Nat.lt_or_ge i count with short | long
  · rw [getElem?_load short, List.getElem?_set, getElem?_load short]
    simp only [store, place_eq, here, length_load, inside, if_true]
    by_cases same : offset = i
    · subst same
      simp
    · rw [if_neg same, Function.update_of_ne (by omega)]
  · rw [List.getElem?_eq_none (by simp [long]), List.getElem?_eq_none (by simp [long])]

end Memory

end IgbDriver.Foundation
