import Mathlib.Data.Nat.Bitwise

namespace IgbDriver.Foundation

/-! # Words made of fields

A word is the list of its fields from the low end up. The bytes of a little-endian
number are such a list too, so the same laws serve register fields and byte order. Where
the fields are written one at a time, each holds what was last written to it.
-/

/-- A value in a number of bits. -/
structure BitField where
  width : Nat
  value : Nat

def BitField.Fits (field : BitField) : Prop := field.value < 2 ^ field.width

/-- The number the fields make up. -/
def pack : List BitField → Nat
  | [] => 0
  | field :: rest => field.value + 2 ^ field.width * pack rest

def totalWidth : List BitField → Nat
  | [] => 0
  | field :: rest => field.width + totalWidth rest

variable {left right fields : List BitField} {field : BitField}
  {word value shift width narrow : Nat}

theorem pack_append : pack (left ++ right) = pack left + 2 ^ totalWidth left * pack right := by
  induction left with
  | nil => simp [pack, totalWidth]
  | cons first rest ih =>
      simp only [List.cons_append, pack, totalWidth, ih, Nat.pow_add, Nat.mul_add, Nat.mul_assoc,
        Nat.add_assoc]

theorem pack_lt (fits : ∀ field ∈ fields, field.Fits) : pack fields < 2 ^ totalWidth fields := by
  induction fields with
  | nil => simp [pack, totalWidth]
  | cons first rest ih =>
      have inner := ih (fun field member => fits field (by simp [member]))
      have outer : first.value < 2 ^ first.width := fits first (by simp)
      simp only [pack, totalWidth, Nat.pow_add]
      have lap : 2 ^ first.width * (pack rest + 1) ≤ 2 ^ first.width * 2 ^ totalWidth rest :=
        Nat.mul_le_mul_left _ inner
      rw [Nat.mul_add, Nat.mul_one] at lap
      omega

/-- Reading a word at the place of a field gives the field, cut to what is read. -/
theorem pack_extract (fits : ∀ field ∈ left, field.Fits) (inside : narrow ≤ field.width) :
    pack (left ++ field :: right) / 2 ^ totalWidth left % 2 ^ narrow =
      field.value % 2 ^ narrow := by
  have positive : 0 < 2 ^ totalWidth left := Nat.pow_pos (by decide)
  have above : pack (left ++ field :: right) / 2 ^ totalWidth left =
      field.value + 2 ^ field.width * pack right := by
    rw [pack_append, Nat.add_mul_div_left _ _ positive, Nat.div_eq_of_lt (pack_lt fits),
      Nat.zero_add, pack]
  obtain ⟨extra, same⟩ := Nat.exists_eq_add_of_le inside
  rw [above, same, Nat.pow_add, Nat.mul_assoc, Nat.add_mul_mod_self_left]

theorem BitField.fits_toNat (value : BitVec width) : (BitField.mk width value.toNat).Fits :=
  value.isLt

/-- A field packed between others is found at its place. -/
theorem ofNat_pack_extract (left : List BitField) (value : BitVec width) (right : List BitField)
    (fits : ∀ field ∈ left ++ ⟨width, value.toNat⟩ :: right, field.Fits)
    (whole : totalWidth (left ++ ⟨width, value.toNat⟩ :: right) = 64) :
    (BitVec.ofNat 64 (pack (left ++ ⟨width, value.toNat⟩ :: right))).toNat / 2 ^ totalWidth
    left % 2 ^ width =
      value.toNat := by
  have bound := pack_lt fits
  rw [whole] at bound
  rw [BitVec.toNat_ofNat, Nat.mod_eq_of_lt bound,
    pack_extract (fun field member => fits field (by simp [member])) (Nat.le_refl _)]
  exact Nat.mod_eq_of_lt value.isLt

/-- A mask of contiguous bits selects them in place. -/
theorem and_mask : word &&& (2 ^ width - 1) * 2 ^ shift =
    word / 2 ^ shift % 2 ^ width * 2 ^ shift := by
  apply Nat.eq_of_testBit_eq
  intro position
  simp only [Nat.testBit_and, Nat.testBit_mul_two_pow, Nat.testBit_mod_two_pow,
    Nat.testBit_two_pow_sub_one, Nat.testBit_div_two_pow]
  by_cases low : shift ≤ position
  · simp [low, Nat.sub_add_cancel low, Bool.and_comm]
  · simp [low]

/-- Reading fewer bits than a field has is right exactly if the rest are clear. -/
theorem narrow_iff (held : word / 2 ^ shift % 2 ^ width = value) (inside : narrow ≤ width) :
    word / 2 ^ shift % 2 ^ narrow = value ↔ value < 2 ^ narrow := by
  have cut : word / 2 ^ shift % 2 ^ narrow = value % 2 ^ narrow := by
    rw [← held, Nat.mod_mod_of_dvd _ (Nat.pow_dvd_pow 2 inside)]
  rw [cut]
  constructor
  · intro same
    rw [← same]
    exact Nat.mod_lt _ (Nat.pow_pos (by decide))
  · exact Nat.mod_eq_of_lt

section Replace

variable {size other i : Nat} {target entry : BitVec size}

def fieldAt (width shift : Nat) (target : BitVec size) : BitVec size :=
  target >>> shift &&& BitVec.ofNat size (2 ^ width - 1)

/-- The bits of the field are cleared and those of the new value set. -/
def replaceField (width shift : Nat) (entry target : BitVec size) : BitVec size :=
  target &&& ~~~(BitVec.ofNat size (2 ^ width - 1) <<< shift) ||| entry <<< shift

theorem getLsbD_ofNat_mask : (BitVec.ofNat size (2 ^ width - 1)).getLsbD i =
    (decide (i < size) && decide (i < width)) := by
  rw [BitVec.getLsbD_ofNat, Nat.testBit_two_pow_sub_one]

theorem getLsbD_fieldAt :
    (fieldAt width shift target).getLsbD i =
      (decide (i < width) && target.getLsbD (shift + i)) := by
  simp only [fieldAt, BitVec.getLsbD_and, BitVec.getLsbD_ushiftRight, getLsbD_ofNat_mask]
  by_cases inside : i < size
  · simp [inside, Bool.and_comm]
  · simp [BitVec.getLsbD_of_ge target (shift + i) (by omega)]

theorem getLsbD_of_fits (fits : entry.toNat < 2 ^ width) (outside : width ≤ i) :
    entry.getLsbD i = false := by
  apply Nat.testBit_lt_two_pow
  exact Nat.lt_of_lt_of_le fits (Nat.pow_le_pow_right (by decide) outside)

theorem getLsbD_replaceField (fits : entry.toNat < 2 ^ width) (inside : i < size) :
    (replaceField width shift entry target).getLsbD i =
      if shift ≤ i ∧ i < shift + width then entry.getLsbD (i - shift) else target.getLsbD i := by
  simp only [replaceField, BitVec.getLsbD_or, BitVec.getLsbD_and, BitVec.getLsbD_not,
    BitVec.getLsbD_shiftLeft, getLsbD_ofNat_mask]
  by_cases below : i < shift
  · simp [inside, below, Nat.not_le.mpr below]
  · by_cases field : i - shift < width
    · have before : i < shift + width := by omega
      have narrow : i - shift < size := by omega
      simp [inside, below, Nat.not_lt.mp below, field, before, narrow]
    · have past : ¬ i < shift + width := by omega
      have clear := getLsbD_of_fits fits (Nat.not_lt.mp field)
      simp [inside, below, field, past, clear]

/-- The field then holds the new value. -/
theorem fieldAt_replaceField_self (fits : entry.toNat < 2 ^ width) (room : shift + width ≤ size) :
    fieldAt width shift (replaceField width shift entry target) = entry := by
  apply BitVec.eq_of_getLsbD_eq
  intro i inside
  rw [getLsbD_fieldAt]
  by_cases low : i < width
  · rw [getLsbD_replaceField fits (by omega), if_pos ⟨by omega, by omega⟩, Nat.add_sub_cancel_left]
    simp [low]
  · simp [low, getLsbD_of_fits fits (Nat.not_lt.mp low)]

/-- The fields that do not overlap it keep theirs. -/
theorem fieldAt_replaceField_of_apart (fits : entry.toNat < 2 ^ width)
    (apart : other + width ≤ shift ∨ shift + width ≤ other) :
    fieldAt width other (replaceField width shift entry target) = fieldAt width other target := by
  apply BitVec.eq_of_getLsbD_eq
  intro i _
  simp only [getLsbD_fieldAt]
  by_cases low : i < width
  · by_cases inside : other + i < size
    · rw [getLsbD_replaceField fits inside, if_neg (by omega)]
    · rw [BitVec.getLsbD_of_ge _ _ (Nat.not_lt.mp inside),
        BitVec.getLsbD_of_ge _ _ (Nat.not_lt.mp inside)]
  · simp [low]

/-- What is read from a field fits it. -/
theorem fieldAt_lt (target : BitVec size) : (fieldAt width shift target).toNat < 2 ^ width := by
  have positive : 0 < 2 ^ width := Nat.pow_pos (by decide)
  rw [fieldAt, BitVec.toNat_and, BitVec.toNat_ofNat]
  have bound := Nat.and_le_right (n := (target >>> shift).toNat) (m := (2 ^ width - 1) % 2 ^ size)
  have cut := Nat.mod_le (2 ^ width - 1) (2 ^ size)
  omega

end Replace

def bytesOf : Nat → Nat → List (BitVec 8)
  | 0, _ => []
  | count + 1, value => BitVec.ofNat 8 value :: bytesOf count (value / 256)

def byteFields (bytes : List (BitVec 8)) : List BitField := bytes.map fun byte => ⟨8, byte.toNat⟩

def valueOf (bytes : List (BitVec 8)) : Nat := pack (byteFields bytes)

@[simp] theorem length_bytesOf (count value : Nat) : (bytesOf count value).length = count := by
  induction count generalizing value with
  | zero => rfl
  | succ count ih => simp [bytesOf, ih]

theorem totalWidth_byteFields (bytes : List (BitVec 8)) :
    totalWidth (byteFields bytes) = 8 * bytes.length := by
  induction bytes with
  | nil => rfl
  | cons byte rest ih =>
      simp only [byteFields, List.map_cons, totalWidth, List.length_cons] at ih ⊢
      omega

theorem valueOf_append (front back : List (BitVec 8)) :
    valueOf (front ++ back) = valueOf front + 2 ^ (8 * front.length) * valueOf back := by
  rw [valueOf, byteFields, List.map_append, pack_append, ← byteFields, ← byteFields,
    totalWidth_byteFields]
  rfl

theorem valueOf_bytesOf (count value : Nat) : valueOf (bytesOf count value) = value % 2 ^
    (8 * count) := by
  induction count generalizing value with
  | zero => simp [valueOf, byteFields, bytesOf, pack, Nat.mod_one]
  | succ count ih =>
      have rest := ih (value / 256)
      simp only [valueOf, byteFields] at rest
      have split : value % (256 * 2 ^ (8 * count)) =
          value % 256 + 256 * (value / 256 % 2 ^ (8 * count)) :=
        Nat.mod_mul
      simp only [bytesOf, valueOf, byteFields, List.map_cons, pack, BitVec.toNat_ofNat, rest]
      rw [Nat.mul_add, Nat.mul_one, Nat.add_comm (8 * count), Nat.pow_add]
      exact split.symm

section LastWrite

variable {κ ω α σ : Type} [DecidableEq κ] {key : ω → κ} {value : ω → α}

/-- The value of the last operation under the key, if there is one. -/
def lastWrite (key : ω → κ) (value : ω → α) : List ω → κ → Option α
  | [], _ => none
  | op :: rest, cell =>
      (lastWrite key value rest cell).or (if key op = cell then some (value op) else none)

theorem lastWrite_append (front back : List ω) (cell : κ) :
    lastWrite key value (front ++ back) cell =
      (lastWrite key value back cell).or (lastWrite key value front cell) := by
  induction front with
  | nil => simp only [List.nil_append, lastWrite, Option.or_none]
  | cons op rest ih => simp only [List.cons_append, lastWrite, ih, Option.or_assoc]

theorem lastWrite_concat (ops : List ω) (op : ω) :
    lastWrite key value (ops ++ [op]) (key op) = some (value op) := by
  rw [lastWrite_append, lastWrite, if_pos rfl, lastWrite, Option.none_or, Option.some_or]

/-- If every operation writes its own cell and no other, a run does what its last writes do. -/
theorem read_foldl {cellOf : σ → κ → α} {apply : σ → ω → σ} {ops : List ω}
    (writes : ∀ op ∈ ops, ∀ state cell,
      cellOf (apply state op) cell = if key op = cell then value op else cellOf state cell)
    (state : σ) (cell : κ) :
    cellOf (ops.foldl apply state) cell = (lastWrite key value ops cell).getD
      (cellOf state cell) := by
  induction ops generalizing state with
  | nil => rfl
  | cons op rest ih =>
      have later := ih (fun op member => writes op (List.mem_cons_of_mem _ member)) (apply state op)
      rw [List.foldl_cons, later, writes op List.mem_cons_self, lastWrite]
      cases lastWrite key value rest cell with
      | some last => rfl
      | none =>
          rw [Option.none_or]
          split <;> rfl

end LastWrite

end IgbDriver.Foundation
