import Mathlib.Data.Nat.ModEq

namespace IgbDriver.Foundation.Ring

/-! # Circular buffers and their unbounded cursors

A ring of `size` slots is walked by cursors that wrap. Each cursor is read as the
residue of a counter that never wraps; two counters less than one lap apart are
told apart by their residues, which is all the arithmetic a ring invariant needs.
-/

variable {size base left right : Nat}

/-- Masking the successor is wrapping it, for the sizes a mask fits. -/
theorem succ_and_mask (power : size.isPowerOfTwo) (index : Nat) :
    (index + 1) &&& (size - 1) = (index + 1) % size := by
  obtain ⟨exponent, rfl⟩ := power
  exact Nat.and_two_pow_sub_one_eq_mod _ _

theorem pos_of_isPowerOfTwo (power : size.isPowerOfTwo) : 0 < size :=
  Nat.pos_of_isPowerOfTwo power

theorem eq_of_mod_eq (lowerLeft : base ≤ left) (upperLeft : left < base + size)
    (lowerRight : base ≤ right) (upperRight : right < base + size)
    (same : left % size = right % size) : left = right := by
  have congruent : left ≡ right [MOD size] := same
  apply congruent.eq_of_abs_lt
  rw [abs_lt]
  omega

/-- Slots from `origin` forward to `target`. -/
def distance (size origin target : Nat) : Nat := (target + size - origin) % size

theorem distance_of_le {origin target : Nat} (ordered : origin ≤ target) (inside : target < size) :
    distance size origin target = target - origin := by
  rw [distance, show target + size - origin = target - origin + size by omega, Nat.add_mod_right,
    Nat.mod_eq_of_lt (by omega)]

theorem distance_of_lt {origin target : Nat} (wrapped : target < origin) (inside : origin < size) :
    distance size origin target = target + size - origin := by
  rw [distance, Nat.mod_eq_of_lt (by omega)]

theorem distance_lt (positive : 0 < size) (origin target : Nat) :
    distance size origin target < size :=
  Nat.mod_lt _ positive

theorem distance_mod (ordered : left ≤ right) (lap : right < left + size) :
    distance size (left % size) (right % size) = right - left := by
  have positive : 0 < size := by omega
  have below := Nat.mod_lt left positive
  have equivalent : (right % size + size - left % size) % size = (right - left) % size := by
    have shifted : (right % size + size - left % size) + left ≡ (right - left) + left
        [MOD size] := by
      have expanded : right % size + size - left % size + left =
          right % size + (1 + left / size) * size := by
        have parts := Nat.div_add_mod left size
        rw [Nat.add_mul, Nat.mul_comm (left / size)]
        omega
      rw [expanded, Nat.sub_add_cancel ordered]
      simp only [Nat.ModEq, Nat.add_mul_mod_self_right, Nat.mod_mod]
    exact Nat.ModEq.add_right_cancel' left shifted
  rw [distance, equivalent, Nat.mod_eq_of_lt (by omega)]

/-- The slots from `origin` up to but not including `target`. -/
def Between (size origin target slot : Nat) : Prop :=
  slot < size ∧ distance size origin slot < distance size origin target

/-- Going `distance` slots on from `origin` ends at `target`. -/
theorem add_distance_mod (origin : Nat) {slot : Nat} (inside : slot < size) :
    (origin + distance size (origin % size) slot) % size = slot := by
  have below := Nat.mod_lt origin (show 0 < size by omega)
  rw [distance, Nat.add_mod_mod, ← Nat.mod_add_mod,
    show origin % size + (slot + size - origin % size) = slot + size by omega, Nat.add_mod_right,
    Nat.mod_eq_of_lt inside]

/-- Every slot is that of a counter of any given lap. -/
theorem exists_counter_of_slot (base : Nat) {slot : Nat} (inside : slot < size) :
    ∃ counter, base ≤ counter ∧ counter < base + size ∧ counter % size = slot := by
  have short : distance size (base % size) slot < size := Nat.mod_lt _ (by omega)
  exact ⟨base + distance size (base % size) slot, Nat.le_add_right _ _, by omega,
    add_distance_mod base inside⟩

/-- Every slot of such a range is that of a counter of the range. -/
theorem exists_counter_of_between (ordered : left ≤ right) (lap : right < left + size) {slot : Nat}
    (between : Between size (left % size) (right % size) slot) :
    ∃ counter, left ≤ counter ∧ counter < right ∧ counter % size = slot := by
  obtain ⟨inside, closer⟩ := between
  rw [distance_mod ordered lap] at closer
  exact ⟨left + distance size (left % size) slot, Nat.le_add_right _ _, by omega,
    add_distance_mod left inside⟩

theorem between_of_counter {counter : Nat} (lower : left ≤ counter) (upper : counter < right)
    (lap : right < left + size) : Between size (left % size) (right % size) (counter % size) := by
  refine ⟨Nat.mod_lt _ (by omega), ?_⟩
  rw [distance_mod lower (by omega), distance_mod (by omega) lap]
  omega

/-- Moving the origin `count` slots towards the target brings it `count` slots closer. -/
theorem distance_advance {origin target count : Nat} (insideOrigin : origin < size)
    (insideTarget : target < size) (short : count ≤ distance size origin target) :
    distance size ((origin + count) % size) target = distance size origin target - count := by
  have far := distance_lt (show 0 < size by omega) origin target
  rcases Nat.lt_or_ge target origin with wrapped | ordered
  · rw [distance_of_lt wrapped insideOrigin] at short far ⊢
    rcases Nat.lt_or_ge (origin + count) size with inside | past
    · rw [Nat.mod_eq_of_lt inside, distance_of_lt (by omega) inside]
      omega
    · rw [Nat.mod_eq_sub_mod past, Nat.mod_eq_of_lt (by omega),
        distance_of_le (by omega) insideTarget]
      omega
  · rw [distance_of_le ordered insideTarget] at short far ⊢
    rw [Nat.mod_eq_of_lt (by omega), distance_of_le (by omega) insideTarget]
    omega

/-- A ring with a slot between two others has more than one. -/
theorem Between.two_le {origin target slot : Nat} (between : Between size origin target slot) :
    2 ≤ size := by
  obtain ⟨inside, closer⟩ := between
  have far := distance_lt (show 0 < size by omega) origin target
  omega

theorem Between.of_advance {origin target slot count : Nat} (insideOrigin : origin < size)
    (insideTarget : target < size) (short : count ≤ distance size origin target)
    (between : Between size ((origin + count) % size) target slot) :
    Between size origin target slot := by
  obtain ⟨inside, closer⟩ := between
  rw [distance_advance insideOrigin insideTarget short] at closer
  refine ⟨inside, ?_⟩
  -- The slot is `count` slots farther from the old origin than from the new one.
  have back : (origin + (count + distance size ((origin + count) % size) slot)) % size = slot := by
    rw [← Nat.add_assoc, add_distance_mod _ inside]
  have far := distance_lt (show 0 < size by omega) origin target
  have exact_ : distance size (origin % size)
      ((origin + (count + distance size ((origin + count) % size) slot)) % size) =
        origin + (count + distance size ((origin + count) % size) slot) - origin :=
    distance_mod (Nat.le_add_right _ _) (by omega)
  rw [back, Nat.mod_eq_of_lt insideOrigin] at exact_
  omega

theorem succ_mod (index : Nat) : (index % size + 1) % size = (index + 1) % size :=
  Nat.mod_add_mod index size 1

/-- A lap of steps from any slot meets every slot once. -/
theorem existsUnique_step (origin : Nat) {slot : Nat} (inside : slot < size) :
    ∃! count, 0 < count ∧ count ≤ size ∧ (origin + count) % size = slot := by
  obtain ⟨counter, lower, upper, here⟩ := exists_counter_of_slot (origin + 1) inside
  refine ⟨counter - origin, ⟨by omega, by omega, ?_⟩, ?_⟩
  · rw [Nat.add_sub_cancel' (by omega), here]
  · intro count step
    obtain ⟨some_steps, lap, there⟩ := step
    have same : origin + count = counter :=
      eq_of_mod_eq (show origin + 1 ≤ origin + count by omega) (by omega) lower upper
        (there.trans here.symm)
    omega

/-- Residues of two counters less than a lap apart differ. -/
theorem mod_ne (base : Nat) (lowerLeft : base ≤ left) (upperLeft : left < base + size)
    (lowerRight : base ≤ right) (upperRight : right < base + size) (different : left ≠ right) :
    left % size ≠ right % size :=
  fun same => different (eq_of_mod_eq lowerLeft upperLeft lowerRight upperRight same)

section Window

variable {δ : Type} {shows shows' : Nat → δ → Prop} {low low' high counter : Nat} {cells : List δ}
  {cell : δ}

/-- The slot of every counter in `[low, high)` holds a cell that `shows` accepts. One lap is
the widest a window can be before two of its counters share a slot. -/
def Window (size low high : Nat) (shows : Nat → δ → Prop) (cells : List δ) : Prop :=
  ∀ counter, low ≤ counter → counter < high →
    ∃ cell, cells[counter % size]? = some cell ∧ shows counter cell

namespace Window

theorem empty : Window size low low shows cells := by
  intro counter lower upper
  omega

theorem cell_of (window : Window size low high shows cells) (lower : low ≤ counter)
    (upper : counter < high) (found : cells[counter % size]? = some cell) : shows counter cell := by
  obtain ⟨other, here, shown⟩ := window counter lower upper
  rw [found] at here
  cases here
  exact shown

theorem raise (window : Window size low high shows cells) (later : low ≤ low') :
    Window size low' high shows cells :=
  fun counter lower upper => window counter (by omega) upper

theorem mono (window : Window size low high shows cells)
    (weaker : ∀ counter cell, low ≤ counter → counter < high → shows counter cell →
      shows' counter cell) :
    Window size low high shows' cells := by
  intro counter lower upper
  obtain ⟨cell, found, shown⟩ := window counter lower upper
  exact ⟨cell, found, weaker counter cell lower upper shown⟩

/-- Writing the slot of a counter outside the window, yet less than a lap away from
all of it, leaves the window alone. -/
theorem set_outside (window : Window size low high shows cells) (base : Nat)
    (lowerBase : base ≤ low) (upperBase : high ≤ base + size)
    (inLap : base ≤ counter ∧ counter < base + size) (outside : counter < low ∨ high ≤ counter)
    (cell : δ) : Window size low high shows (cells.set (counter % size) cell) := by
  intro other lower upper
  obtain ⟨kept, found, shown⟩ := window other lower upper
  have apart : counter % size ≠ other % size :=
    mod_ne base inLap.1 inLap.2 (by omega) (by omega) (by omega)
  exact ⟨kept, by rwa [List.getElem?_set_ne apart], shown⟩

/-- Writing the slot just past the window extends it. -/
theorem push (window : Window size low high shows cells) (room : high < low + size)
    (length : cells.length = size) (fits : shows high cell) :
    Window size low (high + 1) shows (cells.set (high % size) cell) := by
  intro other lower upper
  have positive : 0 < size := by omega
  by_cases last : other = high
  · subst last
    exact ⟨cell, List.getElem?_set_self (by rw [length]; exact Nat.mod_lt _ positive), fits⟩
  · have before : other < high := by omega
    obtain ⟨kept, found, shown⟩ := window other lower before
    have apart : high % size ≠ other % size :=
      mod_ne low (by omega) (by omega) (by omega) (by omega) (by omega)
    exact ⟨kept, by rwa [List.getElem?_set_ne apart], shown⟩

/-- Writing a slot inside the window changes what is shown there and nowhere else. -/
theorem set_inside (window : Window size low high shows cells) (lap : high ≤ low + size)
    (lower : low ≤ counter) (upper : counter < high) (fits : shows' counter cell)
    (weaker : ∀ other kept, low ≤ other → other < high → other ≠ counter → shows other kept →
      shows' other kept) :
    Window size low high shows' (cells.set (counter % size) cell) := by
  intro other lowerOther upperOther
  obtain ⟨kept, found, shown⟩ := window other lowerOther upperOther
  by_cases same : other = counter
  · subst same
    exact ⟨cell, List.getElem?_set_self (List.getElem?_eq_some_iff.mp found).1, fits⟩
  · have apart : counter % size ≠ other % size :=
      mod_ne low (by omega) (by omega) (by omega) (by omega) (by omega)
    exact ⟨kept, by rwa [List.getElem?_set_ne apart],
      weaker other kept lowerOther upperOther same shown⟩

end Window

end Window

section Read

variable {β : Type} {look : Nat → Option β} {items : List β}

/-- What the slots from `origin` up to `target` show, in turn. -/
def read (size origin target : Nat) (look : Nat → Option β) : List β :=
  (List.range (distance size origin target)).filterMap fun k => look ((origin + k) % size)

theorem filterMap_range {count : Nat} {get : Nat → Option β} (length : items.length = count)
    (agree : ∀ k item, items[k]? = some item → get k = some item) :
    (List.range count).filterMap get = items := by
  have same : (List.range count).map get = items.map some := by
    apply List.ext_getElem (by simp [length])
    intro k inside inside'
    rw [List.length_map] at inside'
    simp only [List.getElem_map, List.getElem_range]
    exact agree k _ (List.getElem?_eq_getElem inside')
  calc (List.range count).filterMap get
      = ((List.range count).map get).filterMap (fun item => item) := by rw [List.filterMap_map]; rfl
    _ = items := by rw [same, List.filterMap_map]; exact List.filterMap_some

/-- Reading from one counter up to another gives what each counter's slot shows. -/
theorem read_eq (ordered : left ≤ right) (lap : right < left + size)
    (length : items.length = right - left)
    (agree : ∀ k item, items[k]? = some item → look ((left + k) % size) = some item) :
    read size (left % size) (right % size) look = items := by
  rw [read, distance_mod ordered lap]
  refine filterMap_range length (fun k item here => ?_)
  rw [Nat.mod_add_mod]
  exact agree k item here

end Read

section Walk

variable {δ : Type} {origin count k : Nat} {change : Nat → δ → δ} {cells : List δ} {cell : δ}

/-- A walk from `origin` over `count` slots, each changed by a change of its own. -/
def updateFrom (size origin count : Nat) (change : Nat → δ → δ) (cells : List δ) : List δ :=
  cells.mapIdx fun slot cell =>
    if distance size origin slot < count then change (distance size origin slot) cell else cell

@[simp] theorem length_updateFrom : (updateFrom size origin count change cells).length =
    cells.length :=
  List.length_mapIdx

theorem updateFrom_zero : updateFrom size origin 0 change cells = cells := by
  simp only [updateFrom, Nat.not_lt_zero, if_false]
  exact List.ext_getElem? fun slot => by simp

theorem distance_slot (inside : origin < size) (short : k < size) :
    distance size origin ((origin + k) % size) = k := by
  have walked : distance size (origin % size) ((origin + k) % size) = origin + k - origin :=
    distance_mod (Nat.le_add_right _ _) (by omega)
  rw [Nat.mod_eq_of_lt inside] at walked
  omega

theorem getElem?_updateFrom (inside : origin < size) (short : k < size) :
    (updateFrom size origin count change cells)[(origin + k) % size]? =
      (cells[(origin + k) % size]?).map fun cell => if k < count then change k cell else cell := by
  rw [updateFrom, List.getElem?_mapIdx, distance_slot inside short]

/-- One more slot of the walk. -/
theorem set_updateFrom (change : Nat → δ → δ) (inside : origin < size) (short : count < size)
    (length : cells.length = size) (found : cells[(origin + count) % size]? = some cell) :
    (updateFrom size origin count change cells).set ((origin + count) % size) (change count cell) =
      updateFrom size origin (count + 1) change cells := by
  apply List.ext_getElem?
  intro slot
  rcases Nat.lt_or_ge slot size with within | beyond
  · have back := add_distance_mod origin within
    rw [Nat.mod_eq_of_lt inside] at back
    have far : distance size origin slot < size := distance_lt (by omega) origin slot
    by_cases here : (origin + count) % size = slot
    · subst here
      rw [List.getElem?_set_self (by rw [length_updateFrom, length]; exact within),
        getElem?_updateFrom inside short, found, Option.map_some, if_pos (Nat.lt_succ_self _)]
    · have elsewhere : distance size origin slot ≠ count := by
        intro same
        rw [same] at back
        exact here back
      rw [List.getElem?_set_ne here, updateFrom, updateFrom, List.getElem?_mapIdx,
        List.getElem?_mapIdx]
      have same : distance size origin slot < count ↔ distance size origin slot < count + 1 := by
        omega
      simp only [same]
  · rw [List.getElem?_eq_none (by simp [length, beyond]),
      List.getElem?_eq_none (by simp [length, beyond])]

end Walk

end IgbDriver.Foundation.Ring
