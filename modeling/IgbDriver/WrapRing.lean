import IgbDriver.Platform

namespace IgbDriver

open Foundation

/-! # The test of the ring size

`start_rx_queue` and `start_tx_queue` refuse a ring size that is not a power of two.
These are exactly the sizes for which the mask of `wrap_ring` is a remainder.
-/

/-- Calls of `wrap_ring`, each on the result of the one before. -/
def wrapRingTimes (profile : Profile) (ringSize : Nat) : (count index : Nat) →
    Except (Abort Panic) Nat
  | 0, index => .ok index
  | count + 1, index => do
      let next ← wrapRing profile index ringSize
      wrapRingTimes profile ringSize count next

/-- From this index `wrap_ring` goes round the ring. -/
structure GoesRound (profile : Profile) (ringSize index : Nat) : Prop where
  steps : ∀ count, wrapRingTimes profile ringSize count index = .ok ((index + count) % ringSize)
  visits : ∀ slot, slot < ringSize →
    ∃! count, 0 < count ∧ count ≤ ringSize ∧ wrapRingTimes profile ringSize count index = .ok slot
  returns : wrapRingTimes profile ringSize ringSize index = .ok index

section WrapRing

variable {σ : Type} {profile : Profile} {ringSize index : Nat}

theorem checkAligned_apply (host : Host σ) (positive : 0 < ringSize) (machine : Machine σ) :
    checkAligned host ringSize machine = .ok (.ok (), machine) ↔ ringSize.isPowerOfTwo := by
  rw [← Nat.and_sub_one_eq_zero_iff_isPowerOfTwo (by omega), checkAligned, usizeSub_of_le positive,
    Prog.bind_of_ok (Prog.lift_ok_apply _ _)]
  split
  · rename_i unaligned
    constructor
    · intro passes
      cases passes
    · intro aligned
      exact absurd aligned unaligned
  · rename_i aligned
    simp only [Prog.pure_apply, true_iff]
    exact not_not.mp aligned

/-- The last index of the ring tells whether its size is a power of two. -/
theorem isPowerOfTwo_of_wraps (positive : 0 < ringSize) (bound : ringSize < usizeModulus)
    (wraps : ∀ index, index < ringSize → wrapRing profile index ringSize =
      .ok ((index + 1) % ringSize)) :
    ringSize.isPowerOfTwo := by
  have last := wraps (ringSize - 1) (by omega)
  rw [wrapRing_mask bound (by omega), Nat.sub_add_cancel positive, Nat.mod_self] at last
  rw [← Nat.and_sub_one_eq_zero_iff_isPowerOfTwo (by omega)]
  exact Except.ok.inj last

theorem wrapRingTimes_apply (power : ringSize.isPowerOfTwo) (bound : ringSize < usizeModulus)
    (count : Nat) (inside : index < ringSize) :
    wrapRingTimes profile ringSize count index = .ok ((index + count) % ringSize) := by
  induction count generalizing index with
  | zero => rw [wrapRingTimes, Nat.add_zero, Nat.mod_eq_of_lt inside]
  | succ count ih =>
      have next : (index + 1) % ringSize < ringSize := Nat.mod_lt _ (by omega)
      rw [wrapRingTimes, wrapRing_of_lt power bound inside, except_ok_bind, ih next,
        Nat.mod_add_mod]
      congr 2
      omega

theorem goesRound (power : ringSize.isPowerOfTwo) (bound : ringSize < usizeModulus)
    (inside : index < ringSize) : GoesRound profile ringSize index := by
  have steps : ∀ count, wrapRingTimes profile ringSize count index =
      .ok ((index + count) % ringSize) :=
    fun count => wrapRingTimes_apply power bound count inside
  constructor
  · exact steps
  · intro slot below
    simp only [steps, Except.ok.injEq]
    exact Ring.existsUnique_step index below
  · rw [steps, Nat.add_mod_right, Nat.mod_eq_of_lt inside]

/-- The test of `start_rx_queue` and `start_tx_queue` passes exactly if `wrap_ring` is the
successor modulo the ring size, and then it goes round the ring from every index. -/
theorem aligned_iff_wraps (host : Host σ) (positive : 0 < ringSize)
    (bound : ringSize < usizeModulus) (machine : Machine σ) :
    (checkAligned host ringSize machine = .ok (.ok (), machine) ↔
      ∀ index, index < ringSize →
        wrapRing host.profile index ringSize = .ok ((index + 1) % ringSize)) ∧
    (checkAligned host ringSize machine = .ok (.ok (), machine) →
      ∀ index, index < ringSize → GoesRound host.profile ringSize index) := by
  rw [checkAligned_apply host positive]
  constructor
  · constructor
    · intro power index inside
      exact wrapRing_of_lt power bound inside
    · exact isPowerOfTwo_of_wraps positive bound
  · intro power index inside
    exact goesRound power bound inside

/-- A ring of eight passes, one of six does not. -/
theorem aligned_iff_wraps_eight : GoesRound .dev 8 5 ∧
    ¬ ∀ index, index < 6 → wrapRing .dev index 6 = .ok ((index + 1) % 6) := by
  let machine : Machine RegisterFile := ⟨fun _ => 0, freshArcs 1, ⟨0, 0, 0, [], []⟩⟩
  constructor
  · exact (aligned_iff_wraps (registerFile .dev) (by decide) (by decide) machine).2
      ((checkAligned_apply _ (by decide) machine).mpr ⟨3, rfl⟩) 5 (by decide)
  · intro wraps
    have passes :=
      (aligned_iff_wraps (registerFile .dev) (by decide) (by decide) machine).1.mpr wraps
    cases passes

end WrapRing

end IgbDriver
