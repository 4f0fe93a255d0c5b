import IgbDriver.Platform

namespace IgbDriver

open Foundation

/-! # A failed `init`

The entries a half-built receive ring took are plain numbers; nothing returns them
when the device is dropped.
-/

/-- `init` run to a failure that `accepts` wants. -/
def failsWith {σ : Type} (host : Host σ) (qs len numRx numTx : Nat) (pool : PoolRef) (env : σ)
    (arcs : Arcs) (accepts : IgbError → Arcs → Bool) : Bool :=
  match init host qs len numRx numTx pool env arcs with
  | .ok (.error failure, _, after) => accepts failure after
  | _ => false

section FailedInit

variable {σ : Type} {host : Host σ} {qs len numRx numTx : Nat} {pool : PoolRef} {env : σ}
  {before : Arcs}

theorem exists_of_failsWith {accepts : IgbError → Arcs → Bool}
    (fails : failsWith host qs len numRx numTx pool env before accepts = true) :
    ∃ failure env' after, init host qs len numRx numTx pool env before =
      .ok (.error failure, env', after) ∧ accepts failure after = true := by
  unfold failsWith at fails
  split at fails
  · rename_i failure env' after returned
    exact ⟨failure, env', after, returned, fails⟩
  · cases fails

/-- A failed `init` gives the pool back intact exactly if it never got to arming a
descriptor: the ring size is no power of two, or the pool was empty. -/
theorem failed_init_keeps_pool_iff {env' : σ} {after : Arcs} {failure : IgbError}
    (returned : init host qs len numRx numTx pool env before = .ok (.error failure, env', after)) :
    (∀ id, id ∈ after.free pool ↔ id ∈ before.free pool) ↔
      qs &&& (qs - 1) ≠ 0 ∨ before.free pool = [] := by
  rcases init_error returned with ⟨_, unaligned, counts⟩ | ⟨_, aligned, empty⟩
  · refine iff_of_true (fun id => ?_) (.inl unaligned)
    rw [← List.count_pos_iff, ← List.count_pos_iff, counts pool id]
  · constructor
    · intro same
      exact .inr (List.eq_nil_iff_forall_not_mem.mpr (fun id free => by
        have left := (same id).mpr free
        rw [empty] at left
        cases left))
    · rintro (unaligned | none)
      · exact absurd aligned unaligned
      · rw [empty, none]
        exact fun _ => Iff.rfl

/-- A ring of three is refused with the pool untouched. -/
theorem failed_init_keeps_pool_iff_three : ∃ env' after,
    init (platform .dev) 3 0x40000 1 1 0 (fun _ => 0) (freshArcs 8) =
      .ok (.error .queueNotAligned, env', after) ∧
    ∀ id, id ∈ after.free 0 ↔ id ∈ (freshArcs 8).free 0 := by
  obtain ⟨failure, env', after, returned, accepted⟩ := exists_of_failsWith
    (show failsWith (platform .dev) 3 0x40000 1 1 0 (fun _ => 0) (freshArcs 8)
      (fun failure _ => failure == .queueNotAligned) = true by decide +kernel)
  have same : failure = .queueNotAligned := eq_of_beq accepted
  subst same
  exact ⟨env', after, returned, (failed_init_keeps_pool_iff returned).mpr (.inl (by decide))⟩

/-- One entry for a ring of two: `init` takes it, fails, and it is gone. -/
theorem failed_init_loses_entry : ∃ env' after,
    init (platform .dev) 2 0x40000 1 0 0 (fun _ => 0) (freshArcs 1) =
      .ok (.error .noMemory, env', after) ∧
    ¬ ∀ id, id ∈ after.free 0 ↔ id ∈ (freshArcs 1).free 0 := by
  obtain ⟨failure, env', after, returned, accepted⟩ := exists_of_failsWith
    (show failsWith (platform .dev) 2 0x40000 1 0 0 (fun _ => 0) (freshArcs 1)
      (fun failure after => failure == .noMemory && after.free 0 == []) = true by decide +kernel)
  rw [Bool.and_eq_true] at accepted
  have same : failure = .noMemory := eq_of_beq accepted.1
  have empty : after.free 0 = [] := eq_of_beq accepted.2
  subst same
  refine ⟨env', after, returned, fun intact => ?_⟩
  have kept := (intact 0).mpr (by decide)
  rw [empty] at kept
  cases kept

end FailedInit

end IgbDriver
