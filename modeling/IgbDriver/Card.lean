import IgbDriver.Refinement

namespace IgbDriver

open Foundation

/-! # Whole runs against the card

Every run of a deployment is a run of the card under the same labels, so what the card
promises its users holds of the driver: accepted packets reach the wire unchanged and
in order, and so do arrived frames the caller.
-/

section Run

variable {σ : Type} {host : Host σ} {translate : Nat → Nat} {qs numRx numTx : Nat} {pool : PoolRef}
  {before : Arcs} {start final : LoadedSystem} {labels : List (Nic.Label Byte)} {nic : Nic Byte}
  {trace : List Event}

/-- A run of the driver with its memory, followed by the card. -/
structure Followed (host : Host σ) (translate : Nat → Nat) (qs numRx numTx : Nat) (pool : PoolRef)
    (start : LoadedSystem) (labels : List (Nic.Label Byte)) (final : LoadedSystem)
    (trace : List Event) (nic : Nic Byte) : Prop where
  path : Path (Nic.Move truncated) (start.nic translate) labels nic
  custody : Custody host translate qs numRx numTx pool trace final.system
  carries : Carries translate numRx numTx trace final nic

theorem Deployment.carries
    (deployed : Deployment host translate qs numRx numTx pool before start.system) :
    Carries translate numRx numTx [] start (start.nic translate) := by
  have positive : 0 < qs := Nat.lt_of_lt_of_le Nat.zero_lt_two deployed.least
  rw [← Carries.initial.nic_eq (deployed.custody .refl) deployed.small positive]
  exact Carries.initial

/-- The card follows every machine whose steps it follows, one run of the driver being
behind the whole. -/
theorem Deployment.followed_of {Action : Type} {allowed : LoadedSystem → Action → Prop}
    {step : LoadedSystem → Action →
      Option (Except (Abort Panic) (List (Nic.Label Byte) × LoadedSystem))}
    (deployed : Deployment host translate qs numRx numTx pool before start.system)
    (run : Run step allowed start labels final)
    (matched : ∀ trace state nic action labels after,
      Run (next host.profile) (Orderly pool) start.system trace state.system →
      Carries translate numRx numTx trace state nic → allowed state action →
      step state action = some (.ok (labels, after)) →
        ∃ trace', Run (next host.profile) (Orderly pool) start.system trace' after.system ∧
          Follows translate numRx numTx trace' nic labels after) :
    ∃ trace nic, Run (next host.profile) (Orderly pool) start.system trace final.system ∧
      Followed host translate qs numRx numTx pool start labels final trace nic := by
  obtain ⟨nic, path, trace, reached, carried⟩ := run.refines
    (fun state nic => ∃ trace,
      Run (next host.profile) (Orderly pool) start.system trace state.system ∧
      Carries translate numRx numTx trace state nic)
    ⟨[], .refl, deployed.carries⟩
    (by
      intro state nic action labels after related permitted stepped
      obtain ⟨trace, reached, carried⟩ := related
      obtain ⟨trace', reached', nic', path, carried'⟩ :=
        matched trace state nic action labels after reached carried permitted stepped
      exact ⟨nic', path, trace', reached', carried'⟩)
  exact ⟨trace, nic, reached, path, deployed.custody reached, carried⟩

theorem Deployment.followed
    (deployed : Deployment host translate qs numRx numTx pool before start.system)
    (run : Run (loadedNext host.profile translate) (Loads (Orderly pool)) start labels final) :
    ∃ trace nic, Followed host translate qs numRx numTx pool start labels final trace nic := by
  obtain ⟨trace, nic, _, followed⟩ := deployed.followed_of run
    (fun _ _ _ _ _ _ reached carried permitted stepped =>
      deployed.follows reached carried permitted stepped)
  exact ⟨trace, nic, followed⟩

/-- The lines are never longer than the rings. -/
theorem Followed.outgoing_lt
    (followed : Followed host translate qs numRx numTx pool start labels final trace nic)
    (positive : 0 < qs) (queueId : Nat) : (nic.outgoing queueId).length < qs := by
  rcases Nat.lt_or_ge queueId numTx with inside | outside
  · obtain ⟨view, gone, pending, known, _⟩ := followed.custody.transmit queueId inside
    have room := known.ring.room
    have ordered := known.ring.ordered
    rw [followed.carries.lines.outgoing queueId inside]
    simp only [unfetched, List.length_map, List.length_drop]
    omega
  · rw [followed.carries.lines.outgoing_none queueId outside]
    exact positive

theorem Followed.incoming_lt
    (followed : Followed host translate qs numRx numTx pool start labels final trace nic)
    (positive : 0 < qs) (queueId : Nat) : (nic.incoming queueId).length < qs := by
  rcases Nat.lt_or_ge queueId numRx with inside | outside
  · obtain ⟨view, seen, ring⟩ := followed.custody.receive queueId inside
    have reached := ring.reached
    have ordered := ring.ordered
    rw [followed.carries.lines.incoming queueId inside]
    simp only [undelivered, List.length_map, List.length_drop]
    omega
  · rw [followed.carries.lines.incoming_none queueId outside]
    exact positive

end Run

/-- One pool of fresh entries, on which the driver runs; any other is empty. -/
def onePool (entries : Nat) : Arcs := fun ref =>
  { strong := 1, data := freshPool (if ref = 0 then entries else 0) }

section OnePool

variable {profile : Profile} {entries : Nat}

theorem onePool_whole (entries : Nat) (ref : PoolRef) : (onePool entries).Whole [] ref := by
  rw [Arcs.Whole, List.filter_nil, List.map_nil, List.append_nil]
  rfl

theorem onePool_located (few : entries ≤ 1099511627776) {ref : PoolRef} {id base : Nat}
    (located : ((onePool entries).pool ref).getPhysAddr id = .ok base) :
    ref = 0 ∧ id < entries ∧ base = 0x200000 + 2048 * id := by
  obtain ⟨inside, start⟩ := freshPool_located (by split <;> omega) located
  split at inside
  · rename_i same
    exact ⟨same, inside, start⟩
  · omega

/-- The platform maps its memory one to one. -/
theorem onePool_laid (few : entries ≤ 1099511627776) : (onePool entries).Laid profile id where
  headroom := fun ref => by
    change packetHeadroom ≤ 2048
    decide
  backed := by
    intro ref entry virt phys locatedVirt locatedPhys
    obtain ⟨rfl, inside, rfl⟩ := onePool_located few locatedPhys
    have address : (freshPool entries).getVirtAddr profile entry =
        .ok (0x200000 + entry * 2048) := by
      rw [MemPool.getVirtAddr,
        if_neg (show ¬ (freshPool entries).numEntries ≤ entry from Nat.not_le_of_lt inside),
        show (freshPool entries).entrySize = 2048 from rfl,
        usizeMul_of_lt (by simp only [usizeModulus]; omega)]
      rfl
    cases address.symm.trans locatedVirt
    rw [Nat.mul_comm entry]
    change _ ∧ 0x200000 + 2048 * entry + 2048 < usizeModulus
    refine ⟨.identity _ _, ?_⟩
    simp only [usizeModulus]
    omega
  apart := by
    rintro ref ref' entry entry' byte ⟨base, located, lower, upper⟩
      ⟨base', located', lower', upper'⟩
    obtain ⟨rfl, _, rfl⟩ := onePool_located few located
    obtain ⟨rfl, _, rfl⟩ := onePool_located few located'
    change byte < _ + 2048 at upper
    change byte < _ + 2048 at upper'
    exact ⟨rfl, by omega⟩

/-- The pools are as `allocate` lays them out. -/
theorem onePool_allocated {host : Host RegisterFile} (few : entries ≤ 1099511627776)
    (ref : PoolRef) : ((onePool entries).pool ref).Allocated host where
  divides := by
    change hugePageSize % 2048 = 0
    decide
  offset := by
    intro id inside
    have bound : id < entries := by
      change id < if ref = 0 then entries else 0 at inside
      split at inside <;> omega
    have product : id * 2048 < usizeModulus := by
      simp only [usizeModulus]
      omega
    rw [show ((onePool entries).pool ref).entrySize = 2048 from rfl, usizeMul_of_lt product,
      Nat.mod_eq_of_lt product]

end OnePool

/-- Boot on one pool and follow a list of actions. -/
def replayOnePool (profile : Profile) (policy : Policy)
    [∀ state action, Decidable (policy state action)] (qs numRx numTx entries : Nat)
    (actions : List Action) : Option (System × List Event × System) :=
  (boot (platform profile) qs 0x40000 numRx numTx 0 (fun _ => 0) (onePool entries)
    (fun _ => 1) []).bind
    fun system => (replay (next profile) policy actions system).map fun result => (system, result)

/-- The same with memory. -/
def replayLoaded (profile : Profile) (qs numRx numTx entries : Nat) (actions : List LoadedAction) :
    Option (LoadedSystem × List (Nic.Label Byte) × LoadedSystem) :=
  (boot (platform profile) qs 0x40000 numRx numTx 0 (fun _ => 0) (onePool entries)
    (fun _ => 1) []).bind
    fun system =>
      (replay (loadedNext profile id) (Loads (Orderly 0)) actions ⟨system, fun _ => 0⟩).map
        fun result => (⟨system, fun _ => 0⟩, result)

/-- What a deployment needs is had on the platform. -/
theorem deployment_of_boot {profile : Profile} {qs numRx numTx entries : Nat} {system : System}
    (booted : boot (platform profile) qs 0x40000 numRx numTx 0 (fun _ => 0) (onePool entries)
      (fun _ => 1) [] = some system)
    (least : 2 ≤ qs) (small : 16 * qs < 4294967296) (few : numRx ≤ maxQueues)
    (entries_le : entries ≤ 1099511627776) :
    Deployment (platform profile) id qs numRx numTx 0 (onePool entries) system := by
  obtain ⟨boots, _, live⟩ := booted_of_boot booted
  exact {
    booted := boots
    law := platform_holds profile
    least
    small
    few
    whole := by
      rw [live]
      exact onePool_whole entries
    laid := onePool_laid entries_le
    wide := Nat.le_refl _
    housed := by
      rw [live]
      exact nofun }

/-- A replay that is checked by evaluation to end as `accepts` wants. -/
theorem exists_replayOnePool (profile : Profile) (policy : Policy)
    [∀ state action, Decidable (policy state action)] (qs numRx numTx entries : Nat)
    (actions : List Action) (accepts : System → Bool) (least : 2 ≤ qs)
    (small : 16 * qs < 4294967296) (few : numRx ≤ maxQueues) (entries_le : entries ≤ 1099511627776)
    (checked : (replayOnePool profile policy qs numRx numTx entries actions).any
      (fun result => accepts result.2.2) = true) :
    ∃ start trace final, Deployment (platform profile) id qs numRx numTx 0 (onePool entries) start ∧
      Run (next (platform profile).profile) policy start trace final ∧ accepts final = true := by
  obtain ⟨⟨start, trace, final⟩, replayed, accepted⟩ := (Option.any_eq_true _ _).mp checked
  obtain ⟨system, booted, followed⟩ := Option.bind_eq_some_iff.mp replayed
  obtain ⟨result, ran, same⟩ := Option.map_eq_some_iff.mp followed
  cases same
  exact ⟨start, trace, final, deployment_of_boot booted least small few entries_le,
    run_of_replay ran, accepted⟩

/-- A replay that is checked by evaluation to show certain labels. -/
theorem exists_replayLoaded (profile : Profile) (qs numRx numTx entries : Nat)
    (actions : List LoadedAction) (expected : List (Nic.Label Byte)) (least : 2 ≤ qs)
    (small : 16 * qs < 4294967296) (few : numRx ≤ maxQueues) (entries_le : entries ≤ 1099511627776)
    (checked : (replayLoaded profile qs numRx numTx entries actions).any
      (fun result => result.2.1 == expected) = true) :
    ∃ start final, Deployment (platform profile) id qs numRx numTx 0
      (onePool entries) start.system ∧
      Run (loadedNext (platform profile).profile id) (Loads (Orderly 0)) start expected final := by
  obtain ⟨⟨start, labels, final⟩, replayed, accepted⟩ := (Option.any_eq_true _ _).mp checked
  obtain ⟨system, booted, followed⟩ := Option.bind_eq_some_iff.mp replayed
  obtain ⟨result, ran, same⟩ := Option.map_eq_some_iff.mp followed
  cases same
  have shown : labels = expected := eq_of_beq accepted
  subst shown
  exact ⟨⟨system, fun _ => 0⟩, final, deployment_of_boot booted least small few entries_le,
    run_of_replay ran⟩

section Results

variable {σ : Type} {host : Host σ} {translate : Nat → Nat} {qs numRx numTx : Nat} {pool : PoolRef}
  {before : Arcs} {start final : LoadedSystem} {labels : List (Nic.Label Byte)}

/-- The driver on its rings, its pools and their memory refines the card. -/
theorem driver_refines_card
    (deployed : Deployment host translate qs numRx numTx pool before start.system)
    (run : Run (loadedNext host.profile translate) (Loads (Orderly pool)) start labels final) :
    Path (Nic.Move truncated) (start.nic translate) labels (final.nic translate) := by
  obtain ⟨trace, nic, followed⟩ := deployed.followed run
  have least := deployed.least
  rw [← followed.carries.nic_eq followed.custody deployed.small (by omega)]
  exact followed.path

/-- A packet copied, written to and sent, and a frame received meanwhile. -/
theorem driver_refines_card_exchange :
    ∃ start final : LoadedSystem, Path (Nic.Move truncated) (start.nic id)
    [.allocated [0, 0, 0], .written 0 1 7, .cloned 0, .accepted 0 1 [0, 7, 0], .arrived 0 [1, 2],
      .transmitted 0 [0, 7, 0], .delivered 0 [1, 2], .dropped 0] (final.nic id) := by
  obtain ⟨start, final, deployed, run⟩ := exists_replayLoaded .dev 4 1 1 12
    [.act (.pool (.alloc 0 3)) [], .write 0 1 7, .act (.pool (.clone 0)) [], .act (.send 0 1) [],
      .act .resume [],
      .act (.rxStore 0 0 (frameWriteBack 2)) [1, 2], .act (.txDone 0 0) [], .act (.receive 0 8) [],
      .act .resume [], .act (.pool (.drop 0)) []]
    [.allocated [0, 0, 0], .written 0 1 7, .cloned 0, .accepted 0 1 [0, 7, 0], .arrived 0 [1, 2],
      .transmitted 0 [0, 7, 0], .delivered 0 [1, 2], .dropped 0]
    (by decide) (by decide) (by decide) (by decide) (by decide +kernel)
  exact ⟨start, final, driver_refines_card deployed run⟩

/-- What a queue took in it gave out, unchanged and in order, but for what is still in
its ring. -/
theorem traffic_preserved
    (deployed : Deployment host translate qs numRx numTx pool before start.system)
    (run : Run (loadedNext host.profile translate) (Loads (Orderly pool)) start labels final)
    (queueId : Nat) :
    (Nic.acceptedOn queueId labels).map truncated =
      Nic.transmittedOn queueId labels ++ final.outgoing queueId ∧
      Nic.arrivedOn queueId labels = Nic.deliveredOn queueId labels ++ final.incoming queueId ∧
      (final.outgoing queueId).length < qs ∧ (final.incoming queueId).length < qs := by
  obtain ⟨trace, nic, followed⟩ := deployed.followed run
  have positive : 0 < qs := Nat.lt_of_lt_of_le Nat.zero_lt_two deployed.least
  have fresh : start.nic translate = ⟨start.system.live.map (Packet.asBytes translate start.memory),
    fun _ => [],
      fun _ => []⟩ := (Carries.initial.nic_eq (deployed.custody .refl) deployed.small positive).symm
  have outgoing := Nic.outgoing_of_path queueId followed.path
  have incoming := Nic.incoming_of_path queueId followed.path
  have shortOut := followed.outgoing_lt positive queueId
  have shortIn := followed.incoming_lt positive queueId
  rw [followed.carries.outgoing_eq followed.custody deployed.small] at outgoing shortOut
  rw [followed.carries.incoming_eq followed.custody positive] at incoming shortIn
  rw [fresh] at outgoing incoming
  exact ⟨outgoing, incoming, shortOut, shortIn⟩

/-- Two packets accepted and one of them sent; two frames arrived and one of them handed over. -/
theorem traffic_preserved_pair : ∃ final : LoadedSystem,
    [[5], [0]] = [[5]] ++ final.outgoing 0 ∧ [[1, 2], [3]] = [[1, 2]] ++ final.incoming 0 := by
  obtain ⟨start, final, deployed, run⟩ := exists_replayLoaded .release 4 1 1 12
    [.act (.pool (.alloc 0 1)) [], .write 0 0 5, .act (.pool (.alloc 0 1)) [], .act (.send 0 0) [],
      .act .resume [], .act (.send 0 0) [], .act .resume [], .act (.txDone 0 0) [],
      .act (.rxStore 0 0 (frameWriteBack 2)) [1, 2],
      .act (.rxStore 0 1 (frameWriteBack 1)) [3], .act (.receive 0 1) [], .act .resume []]
    [.allocated [0], .written 0 0 5, .allocated [0], .accepted 0 0 [5], .accepted 0 0 [0],
      .transmitted 0 [5], .arrived 0 [1, 2], .arrived 0 [3], .delivered 0 [1, 2]]
    (by decide) (by decide) (by decide) (by decide) (by decide +kernel)
  obtain ⟨out, into, _⟩ := traffic_preserved deployed run 0
  exact ⟨final, out, into⟩

end Results

end IgbDriver
