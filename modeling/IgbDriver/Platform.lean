import IgbDriver.Boot

namespace IgbDriver

open Foundation

/-! # Running the model

`boot` runs `init` and builds the system around its result. `platform` is a host on
which `init` succeeds: the ring registers are memory, the others answer as a device
does that is ready at once and has its link up.
-/

variable {σ : Type}

def boot (host : Host σ) (qs len numRx numTx : Nat) (pool : PoolRef) (env : σ) (arcs : Arcs)
    (handles : PoolRef → Nat) (live : List Packet) : Option System :=
  match init host qs len numRx numTx pool env arcs with
  | .ok (.ok dev, env', arcs') =>
      some { machine := { env := host.shows env', arcs := arcs', dev }, handles, live,
             control := .idle }
  | _ => none

theorem booted_of_boot {host : Host σ} {qs len numRx numTx : Nat} {pool : PoolRef} {env : σ}
    {arcs : Arcs} {handles : PoolRef → Nat} {live : List Packet} {system : System}
    (booted : boot host qs len numRx numTx pool env arcs handles live = some system) :
    Booted host qs numRx numTx pool arcs system ∧
      system.handles = handles ∧ system.live = live := by
  unfold boot at booted
  split at booted
  · rename_i dev env' arcs' returned
    cases booted
    exact ⟨⟨⟨len, env, env', returned, rfl⟩, rfl⟩, rfl, rfl⟩
  · cases booted

def platform (profile : Profile) : Host RegisterFile where
  dmaAlloc := fun _ file => ((0x100000, 0x100000), file)
  mmioVirtToPhys := fun address _ => address
  waitUntil := fun _ file => file
  profile
  readVolatile := fun reg file =>
    (if reg = igbCtrl then 0 else if reg < 0xC000 then 0xFFFFFFFF else file reg, file)
  writeVolatile := fun reg value file => file.write reg value
  fuel := 1

theorem platform_holds (profile : Profile) (reg : Nat) (register : RingRegister reg) :
    (platform profile).Holds reg := by
  have bounds : ¬ reg = igbCtrl ∧ ¬ reg < 0xC000 := by
    unfold RingRegister at register
    simp only [igbCtrl]
    omega
  have shown : ∀ file, (platform profile).shows file reg = file reg := by
    intro file
    change (if reg = igbCtrl then 0 else if reg < 0xC000 then 0xFFFFFFFF else file reg) = file reg
    rw [if_neg bounds.1, if_neg bounds.2]
  constructor <;> intros <;> simp only [shown]
  · exact RegisterFile.write_self _ _ _
  · exact RegisterFile.write_of_ne _ _ ‹_›
  · exact RegisterFile.write_of_ne _ _ bounds.1
  all_goals rfl

/-- A pool of 2048-byte entries laid out one after the other, all free. -/
def freshPool (entries : Nat) : MemPool where
  baseAddr := 0x200000
  numEntries := entries
  entrySize := 2048
  physAddr := (List.range entries).map fun i => BitVec.ofNat 64 (0x200000 + 2048 * i)
  freeStack := List.range entries
  physAddr_length := by simp

/-- Every reference is to a fresh pool with one handle on it. -/
def freshArcs (entries : Nat) : Arcs := fun _ => { strong := 1, data := freshPool entries }

/-- The platform booted on fresh pools, one handle of each in the caller's hands. -/
def bootPlatform (profile : Profile) (qs numRx numTx entries : Nat) : Option System :=
  boot (platform profile) qs 0x40000 numRx numTx 0 (fun _ => 0) (freshArcs entries) (fun _ => 1) []

/-- Boot the platform and follow a list of actions. -/
def replayPlatform (profile : Profile) (policy : Policy)
    [∀ state action, Decidable (policy state action)] (qs numRx numTx entries : Nat)
    (actions : List Action) : Option (System × List Event × System) :=
  (bootPlatform profile qs numRx numTx entries).bind fun system =>
    (replay (next profile) policy actions system).map fun result => (system, result)

theorem run_of_replayPlatform {profile : Profile} {policy : Policy}
    [∀ state action, Decidable (policy state action)] {qs numRx numTx entries : Nat}
    {actions : List Action} {system after : System} {trace : List Event}
    (replayed : replayPlatform profile policy qs numRx numTx entries actions =
      some (system, trace, after)) :
    Booted (platform profile) qs numRx numTx 0 (freshArcs entries) system ∧
      (system.handles = fun _ => 1) ∧ system.live = [] ∧
      Run (next (platform profile).profile) policy system trace after := by
  obtain ⟨start, booted, followed⟩ := Option.bind_eq_some_iff.mp replayed
  obtain ⟨result, ran, same⟩ := Option.map_eq_some_iff.mp followed
  cases same
  obtain ⟨boots, handles, live⟩ := booted_of_boot booted
  exact ⟨boots, handles, live, run_of_replay ran⟩

/-- A replay that is checked by evaluation to succeed and to end as `accepts` wants. -/
theorem exists_replayPlatform (profile : Profile) (policy : Policy)
    [∀ state action, Decidable (policy state action)] (qs numRx numTx entries : Nat)
    (actions : List Action) (accepts : List Event → System → Bool)
    (checked : (replayPlatform profile policy qs numRx numTx entries actions).any
      (fun result => accepts result.2.1 result.2.2) = true) :
    ∃ system trace after, Booted (platform profile) qs numRx numTx 0 (freshArcs entries) system ∧
      (system.handles = fun _ => 1) ∧ system.live = [] ∧
      Run (next (platform profile).profile) policy system trace after ∧
      accepts trace after = true := by
  obtain ⟨⟨system, trace, after⟩, replayed, accepted⟩ := (Option.any_eq_true _ _).mp checked
  obtain ⟨booted, handles, live, run⟩ := run_of_replayPlatform replayed
  exact ⟨system, trace, after, booted, handles, live, run, accepted⟩

/-! The policies can be decided, so runs can be checked by evaluation. -/

instance (system : System) : (action : Action) → Decidable (TxInOrder system action)
  | .txDone .. => inferInstanceAs (Decidable (TakesHead ..))
  | .pool _ => isTrue trivial
  | .send .. => isTrue trivial
  | .recycle _ => isTrue trivial
  | .receive .. => isTrue trivial
  | .resume => isTrue trivial
  | .rxStore .. => isTrue trivial

instance (system : System) : (action : Action) → Decidable (RxInOrder system action)
  | .rxStore .. => inferInstanceAs (Decidable (TakesHead .. ∧ _ ∧ _ ∧ _))
  | .pool _ => isTrue trivial
  | .send .. => isTrue trivial
  | .recycle _ => isTrue trivial
  | .receive .. => isTrue trivial
  | .resume => isTrue trivial
  | .txDone .. => isTrue trivial

instance (system : System) : (action : Action) → Decidable (NoConstruct system action)
  | .pool (.construct ..) => isFalse id
  | .pool (.alloc ..) => isTrue trivial
  | .pool (.clone _) => isTrue trivial
  | .pool (.drop _) => isTrue trivial
  | .pool (.cloneHandle _) => isTrue trivial
  | .pool (.dropHandle _) => isTrue trivial
  | .send .. => isTrue trivial
  | .recycle _ => isTrue trivial
  | .receive .. => isTrue trivial
  | .resume => isTrue trivial
  | .rxStore .. => isTrue trivial
  | .txDone .. => isTrue trivial

instance (ref : PoolRef) (system : System) : (action : Action) →
    Decidable (SendsFrom ref system action)
  | .send _ position =>
      match owned : system.live[position]? with
      | none => isTrue fun _ same => absurd (owned.symm.trans same) nofun
      | some packet => decidable_of_iff (packet.pool = ref)
          ⟨fun own _ same => Option.some.inj (owned.symm.trans same) ▸ own,
            fun all => all packet owned⟩
  | .pool _ => isTrue trivial
  | .recycle _ => isTrue trivial
  | .receive .. => isTrue trivial
  | .resume => isTrue trivial
  | .rxStore .. => isTrue trivial
  | .txDone .. => isTrue trivial

instance (queueId : Nat) (system : System) : (action : Action) →
    Decidable (SparesRx queueId system action)
  | .receive queue _ => inferInstanceAs (Decidable (queue ≠ queueId))
  | .rxStore queue .. => inferInstanceAs (Decidable (queue ≠ queueId))
  | .pool _ => isTrue trivial
  | .send .. => isTrue trivial
  | .recycle _ => isTrue trivial
  | .resume => isTrue trivial
  | .txDone .. => isTrue trivial

/-- Allocate, send and ring the doorbell, `count` times over. -/
def sendActions (queueId : Nat) (ref : PoolRef) (count : Nat) : List Action :=
  (List.replicate count [.pool (.alloc ref 64), .send queueId 0, .resume]).flatten

/-- The device finishes the first `count` descriptors. -/
def doneActions (queueId count : Nat) : List Action :=
  (List.range count).map fun index => .txDone queueId index

/-- A whole frame of `length` bytes, as the device reports it. -/
def frameWriteBack (length : Nat) : WriteBack := ⟨0, BitVec.ofNat 64 (length * 4294967296 + 3)⟩

end IgbDriver
