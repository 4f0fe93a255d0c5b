import IgbDriver.Platform

namespace IgbDriver

open Foundation

/-! # Pools as `allocate` makes them

`allocate` computes the offset of every entry once, so no later computation of the
same offset can trap.
-/

variable {σ : Type} {host : Host σ}

/-- The virtual address of an entry, as release builds wrap the offset. -/
def MemPool.virtAddress (pool : MemPool) (id : Nat) : Nat :=
  pool.baseAddr.toNat + id * pool.entrySize % usizeModulus

/-- The physical address of an entry. -/
def MemPool.busAddress (pool : MemPool) (id : Nat) : BitVec 64 := pool.physAddr.getD id 0

/-- The layout of a pool that `allocate` returned. -/
structure MemPool.Allocated (host : Host σ) (pool : MemPool) : Prop where
  divides : hugePageSize % pool.entrySize = 0
  offset : ∀ id, id < pool.numEntries →
    (usizeMul host.profile id pool.entrySize : Except (Abort Panic) Nat) =
      .ok (id * pool.entrySize % usizeModulus)

theorem usizeMul_mod {profile : Profile} {left right product : Nat}
    (multiplied : (usizeMul profile left right : Except (Abort Panic) Nat) = .ok product) :
    product = left * right % usizeModulus := by
  unfold usizeMul at multiplied
  split at multiplied
  · rename_i bound
    cases multiplied
    exact (Nat.mod_eq_of_lt bound).symm
  · cases profile with
    | dev => cases multiplied
    | release =>
        cases multiplied
        rfl

namespace MemPool

theorem mapEntries_offset {virt : BitVec 64} {entrySize start count : Nat} {env env' : σ}
    {addresses : { addresses : List (BitVec 64) // addresses.length = count }}
    (mapped : mapEntries host virt entrySize start count env = .ok (.ok addresses, env')) :
    ∀ id, start ≤ id → id < start + count →
      (usizeMul host.profile id entrySize : Except (Abort Panic) Nat) =
        .ok (id * entrySize % usizeModulus) := by
  induction count generalizing start env with
  | zero => omega
  | succ count ih =>
      obtain ⟨offset, multiplied, mapped⟩ := Prog.bind_lift_ok mapped
      dsimp only at mapped
      split at mapped
      · cases mapped
      · obtain ⟨rest, middle, mapped, returned⟩ := Prog.bind_ok mapped
        cases returned
        intro id lower upper
        rcases Nat.eq_or_lt_of_le lower with rfl | later
        · rw [multiplied, usizeMul_mod multiplied]
        · exact ih mapped id later (by omega)

theorem allocated_of_allocate {entries size : Nat} {env env' : σ} {pool : MemPool}
    (made : allocate host entries size env = .ok (.ok pool, env')) :
    pool.Allocated host ∧ pool.freeStack = List.range pool.numEntries := by
  simp only [allocate] at made
  generalize (if size = 0 then 2048 else size) = entrySize at made
  split at made
  · cases made
  · rename_i divides
    obtain ⟨bytes, _, made⟩ := Prog.bind_lift_ok made
    obtain ⟨dma, middle, _, made⟩ := Prog.bind_ok made
    obtain ⟨addresses, last, mapped, made⟩ := Prog.bind_ok made
    cases made
    refine ⟨⟨Decidable.not_not.mp divides, fun id inside => ?_⟩, rfl⟩
    exact mapEntries_offset mapped id (Nat.zero_le id) (by rw [Nat.zero_add]; exact inside)

namespace Allocated

variable {pool : MemPool} (allocated : pool.Allocated host)
include allocated

theorem getVirtAddr_apply {id : Nat} (inside : id < pool.numEntries) :
    pool.getVirtAddr host.profile id = .ok (pool.virtAddress id) := by
  rw [getVirtAddr, if_neg (by omega), allocated.offset id inside]
  rfl

omit allocated in
theorem getPhysAddr_apply {id : Nat} (inside : id < pool.numEntries) :
    pool.getPhysAddr id = .ok (pool.busAddress id).toNat := by
  have found : pool.physAddr[id]? = some (pool.busAddress id) := by
    rw [busAddress, List.getD_eq_getElem?_getD]
    rw [List.getElem?_eq_getElem (by rw [pool.physAddr_length]; exact inside)]
    rfl
  rw [getPhysAddr, indexSlice_of_some found]
  rfl

end Allocated

/-- What lies outside the pool has no address. -/
theorem getPhysAddr_outside {pool : MemPool} {id : Nat} (outside : pool.numEntries ≤ id) :
    pool.getPhysAddr id = .error (.panic .indexOutOfBounds) := by
  have absent : pool.physAddr[id]? = none :=
    List.getElem?_eq_none (by rw [pool.physAddr_length]; exact outside)
  rw [getPhysAddr, indexSlice, absent]
  rfl

/-- The layout alone decides all of this. -/
theorem Allocated.of_layout {pool pool' : MemPool} (allocated : pool.Allocated host)
    (same : pool'.layout = pool.layout) : pool'.Allocated host := by
  have entries : pool'.numEntries = pool.numEntries := congrArg (fun pool => pool.numEntries) same
  have size : pool'.entrySize = pool.entrySize := congrArg (fun pool => pool.entrySize) same
  refine ⟨by rw [size]; exact allocated.divides, fun id inside => ?_⟩
  rw [size]
  exact allocated.offset id (by rw [← entries]; exact inside)

end MemPool

/-- A pool as the platform allocates it. -/
def allocatedPool (profile : Profile) (entries size : Nat) : MemPool :=
  match MemPool.allocate (platform profile) entries size (fun _ => 0) with
  | .ok (.ok pool, _) => pool
  | _ => freshPool 0

theorem allocatedPool_made {profile : Profile} {entries size : Nat}
    (checked : (allocatedPool profile entries size).numEntries ≠ 0) :
    ∃ env', MemPool.allocate (platform profile) entries size (fun _ => 0) =
      .ok (.ok (allocatedPool profile entries size), env') := by
  simp only [allocatedPool] at checked ⊢
  split
  · rename_i pool env' made
    exact ⟨env', made⟩
  · rename_i other
    split at checked
    · rename_i pool env' made
      exact absurd made (other pool env')
    · exact absurd rfl checked

/-- Pool `ref` has the given number of entries of the given size, and one handle. -/
def allocatedArcs (profile : Profile) (entries size : PoolRef → Nat) : Arcs := fun ref =>
  { strong := 1, data := allocatedPool profile (entries ref) (size ref) }

/-- Boot the platform on such pools and follow a list of actions. -/
def replayAllocated (profile : Profile) (policy : Policy)
    [∀ state action, Decidable (policy state action)] (qs numRx numTx : Nat)
    (entries size : PoolRef → Nat)
    (actions : List Action) : Option (System × List Event × System) :=
  (boot (platform profile) qs 0x40000 numRx numTx 0 (fun _ => 0)
    (allocatedArcs profile entries size) (fun _ => 1) []).bind fun system =>
      (replay (next profile) policy actions system).map fun result => (system, result)

/-- As for fresh pools: a replay checked by evaluation. -/
theorem exists_replayAllocated (profile : Profile) (policy : Policy)
    [∀ state action, Decidable (policy state action)] (qs numRx numTx : Nat)
    (entries size : PoolRef → Nat) (actions : List Action) (accepts : List Event → System → Bool)
    (checked : (replayAllocated profile policy qs numRx numTx entries size actions).any
      (fun result => accepts result.2.1 result.2.2) = true) :
    ∃ system trace after, Booted (platform profile) qs numRx numTx 0
      (allocatedArcs profile entries size) system ∧
      (system.handles = fun _ => 1) ∧ system.live = [] ∧
      Run (next (platform profile).profile) policy system trace after ∧
      accepts trace after = true := by
  obtain ⟨⟨system, trace, after⟩, replayed, accepted⟩ := (Option.any_eq_true _ _).mp checked
  obtain ⟨_, booted, followed⟩ := Option.bind_eq_some_iff.mp replayed
  obtain ⟨_, ran, same⟩ := Option.map_eq_some_iff.mp followed
  cases same
  obtain ⟨boots, handles, live⟩ := booted_of_boot booted
  exact ⟨system, trace, after, boots, handles, live, run_of_replay ran, accepted⟩

end IgbDriver
