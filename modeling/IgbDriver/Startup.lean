import IgbDriver.Platform

namespace IgbDriver

open Foundation

/-! # What `init` comes to

On a device that answers each wait, behind a window wide enough, `init` always returns,
and the ring size and the free entries of the pool decide with what.
-/

section Result

variable {σ : Type} {host : Host σ} {len qs numRx numTx : Nat} {pool : PoolRef} {start : Arcs}
  {env : σ}

/-- Why `init` can fail. -/
def StartFails (qs numRx numTx : Nat) (pool : PoolRef) (start : Arcs) (failure : IgbError) : Prop :=
  (failure = .queueNotAligned ∧ qs &&& (qs - 1) ≠ 0 ∧ 0 < numRx + numTx) ∨
    (failure = .noMemory ∧ qs &&& (qs - 1) = 0 ∧ (start.free pool).length < numRx * qs)

theorem BootFails.startFails {profile : Profile} {failure : IgbError} {machine : Machine σ}
    (fails : BootFails profile qs numRx numTx pool start failure machine) :
    StartFails qs numRx numTx pool start failure := by
  obtain ⟨progress, file, booting, unaligned | ⟨missing, aligned, empty, short⟩⟩ := fails
  · exact .inl unaligned
  · have taken := booting.taken
    rw [empty, List.length_nil] at taken
    exact .inr ⟨missing, aligned, by omega⟩

/-- A window that holds the register banks of all queues. -/
theorem window_of_wide {reg : Nat} (wide : 0xE030 + 0x40 * max numRx numTx ≤ len)
    (reached : Reached numRx numTx reg) : InWindow host.profile len reg := by
  have rx := Nat.le_max_left numRx numTx
  have tx := Nat.le_max_right numRx numTx
  unfold Reached at reached
  exact ⟨len - 4, usizeSub_of_le (by omega), by omega⟩

/-- The outcomes exclude each other, so that each has its condition. -/
theorem outcome_iff {result : Except IgbError IgbDevice} (positive : 0 < qs)
    (success : ∀ dev, result = .ok dev → (numRx + numTx = 0 ∨ qs &&& (qs - 1) = 0) ∧ numRx * qs ≤
      (start.free pool).length)
    (failed : ∀ failure, result = .error failure → StartFails qs numRx numTx pool start failure) :
    ((∃ dev, result = .ok dev) ↔
      (numRx + numTx = 0 ∨ qs.isPowerOfTwo) ∧ numRx * qs ≤ (start.free pool).length) ∧
    (result = .error .queueNotAligned ↔ 0 < numRx + numTx ∧ ¬ qs.isPowerOfTwo) ∧
    (result = .error .noMemory ↔ qs.isPowerOfTwo ∧ (start.free pool).length < numRx * qs) := by
  have power := Nat.and_sub_one_eq_zero_iff_isPowerOfTwo (show qs ≠ 0 by omega)
  rw [← power]
  have few : numRx = 0 → numRx * qs = 0 := fun none => by rw [none, Nat.zero_mul]
  cases result with
  | ok dev =>
      obtain ⟨aligned, enough⟩ := success dev rfl
      refine ⟨⟨fun _ => ⟨aligned, enough⟩, fun _ => ⟨dev, rfl⟩⟩, ⟨nofun, fun other => ?_⟩,
        ⟨nofun, fun other => ?_⟩⟩
      · exact absurd (aligned.resolve_left (by omega)) other.2
      · omega
  | error failure =>
      have impossible : ¬ ∃ dev, (Except.error failure : Except IgbError IgbDevice) = .ok dev :=
        fun ⟨dev, same⟩ => by cases same
      rcases failed failure rfl with ⟨rfl, unaligned, queues⟩ | ⟨rfl, aligned, short⟩
      · refine ⟨⟨fun other => absurd other impossible, fun other => ?_⟩,
          ⟨fun _ => ⟨queues, unaligned⟩, fun _ => rfl⟩,
          ⟨nofun, fun other => absurd other.1 unaligned⟩⟩
        exact absurd (other.1.resolve_left (by omega)) unaligned
      · refine ⟨⟨fun other => absurd other impossible, fun other => ?_⟩,
          ⟨nofun, fun other => absurd aligned other.2⟩, ⟨fun _ => ⟨aligned, short⟩, fun _ => rfl⟩⟩
        omega

/-- Before a device that answers, `init` returns: with the device exactly if the ring size is
a power of two (or there is no ring) and the pool fills the receive rings, else with the
error that says what is amiss. -/
theorem init_outcome (responsive : host.Responsive qs)
    (wide : 0xE030 + 0x40 * max numRx numTx ≤ len) (positive : 0 < qs)
    (narrow : qs * 16 < usizeModulus)
    (inside : ∀ id ∈ start.free pool, id < (start.pool pool).numEntries) :
    ∃ result env' arcs, init host qs len numRx numTx pool env start = .ok (result, env', arcs) ∧
      ((∃ dev, result = .ok dev) ↔
        (numRx + numTx = 0 ∨ qs.isPowerOfTwo) ∧ numRx * qs ≤ (start.free pool).length) ∧
      (result = .error .queueNotAligned ↔ 0 < numRx + numTx ∧ ¬ qs.isPowerOfTwo) ∧
      (result = .error .noMemory ↔ qs.isPowerOfTwo ∧ (start.free pool).length < numRx * qs) := by
  have walk : Walk host Unwatched (fun _ => False) len qs numRx numTx pool start :=
    ⟨unwatched host, .inr ⟨responsive, fun _ => window_of_wide wide, positive, narrow, inside⟩⟩
  have outcome := walk.resetAndInit (fun _ => ⟨fun _ => 0, trivial⟩)
    { env, arcs := start, dev := ⟨len, numRx, numTx, [], []⟩ } knows_fresh
  simp only [init]
  split at outcome
  · exact outcome.elim
  · rename_i failure after ran
    rw [ran]
    refine ⟨.error failure, _, _, rfl, outcome_iff positive nofun (fun other same => ?_)⟩
    cases same
    exact BootFails.startFails outcome
  · rename_i value after ran
    rw [ran]
    obtain ⟨_, file, _, booting⟩ := outcome
    refine ⟨.ok after.dev, _, _, rfl, outcome_iff positive (fun _ _ => ⟨?_, ?_⟩) nofun⟩
    · rcases Nat.eq_zero_or_pos (numRx + numTx) with none | some
      · exact .inl none
      · exact .inr (booting.aligned some)
    · have taken := booting.taken
      change (after.arcs.free pool).length + (numRx * qs + 0) = (start.free pool).length at taken
      omega

theorem platform_responsive (profile : Profile) (small : qs ≤ 1099511627776) :
    (platform profile).Responsive qs := by
  have ready : ∀ {reg shows env}, shows ((platform profile).readVolatile reg env).1 = true →
      (platform profile).Answers reg shows env := fun shown => ⟨0, Nat.one_pos, shown⟩
  have enabled : ∀ current flags : BitVec 32, showsSet flags (current ||| flags) = true := by
    intro current flags
    have kept : (current ||| flags) &&& flags = flags := by
      ext i inside
      rw [BitVec.getElem_and, BitVec.getElem_or]
      cases current[i] <;> cases flags[i] <;> rfl
    exact decide_eq_true kept
  have reset : ∀ file : RegisterFile, ((platform profile).readVolatile igbCtrl file).1 = 0 := by
    intro file
    change (if igbCtrl = igbCtrl then 0 else if igbCtrl < 0xC000 then 0xFFFFFFFF else
      file igbCtrl) = (0 : BitVec 32)
    rw [if_pos rfl]
  have low : ∀ reg (file : RegisterFile), reg ≠ igbCtrl → reg < 0xC000 →
      ((platform profile).readVolatile reg file).1 = 0xFFFFFFFF :=
    fun reg file other below => (if_neg other).trans (if_pos below)
  have ring : ∀ reg (file : RegisterFile), 0xC000 ≤ reg →
      ((platform profile).readVolatile reg file).1 = file reg := by
    intro reg file high
    exact (if_neg (show ¬ reg = igbCtrl by simp only [igbCtrl]; omega)).trans (if_neg (by omega))
  have written : ∀ (reg : Nat) (value : BitVec 32) (file : RegisterFile),
      file.write reg value reg = value :=
    fun reg value file => RegisterFile.write_self file reg value
  constructor
  · exact fun env => ready (by rw [reset]; decide)
  · exact fun current env => ready (by rw [low _ _ (by decide) (by decide)]; decide)
  · exact fun command env => ready (by rw [low _ _ (by decide) (by decide)]; decide)
  · intro i current env
    apply ready
    rw [ring _ _ (by simp only [igbRxdctl]; omega)]
    exact (congrArg _ (written _ _ _)).trans (enabled current igbRxdctlEnable)
  · intro i current env
    apply ready
    rw [ring _ _ (by simp only [igbTxdctl]; omega)]
    exact (congrArg _ (written _ _ _)).trans (enabled current igbTxdctlEnable)
  · intro env descId below
    change BitVec.ofNat 64 0x100000 + BitVec.ofNat 64 (descId * 16) ≠ 0
    rw [← BitVec.ofNat_add]
    intro zero
    have value := congrArg BitVec.toNat zero
    rw [BitVec.toNat_ofNat, Nat.mod_eq_of_lt (by omega)] at value
    change 0x100000 + descId * 16 = 0 at value
    omega

/-- Two receive rings of four cannot be filled from a pool of five. -/
theorem init_outcome_short : ∃ env' arcs,
    init (platform .dev) 4 0x40000 2 1 0 (fun _ => 0)
      (freshArcs 5) = .ok (.error .noMemory, env', arcs) := by
  have responsive : (platform .dev).Responsive 4 := platform_responsive .dev (by decide)
  have inside : ∀ id ∈ (freshArcs 5).free 0, id < ((freshArcs 5).pool 0).numEntries :=
    fun id free => List.mem_range.mp free
  have outcome : ∃ result env' arcs, init (platform .dev) 4 0x40000 2 1 0 (fun _ => 0)
    (freshArcs 5) =
      .ok (result, env', arcs) ∧ _ := init_outcome responsive (by decide) (by decide)
        (by decide) inside
  obtain ⟨result, env', arcs, returned, _, _, short⟩ := outcome
  rw [short.mpr ⟨⟨2, rfl⟩, by decide⟩] at returned
  exact ⟨env', arcs, returned⟩

end Result

end IgbDriver
