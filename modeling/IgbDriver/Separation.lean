import IgbDriver.Fitting

namespace IgbDriver

open Foundation

/-! # Buffers the caller makes

`alloc` checks the size and takes an entry off the free stack. `construct` believes its
caller in both, so what it makes may overlap another buffer or leave its slot.
-/

/-- A byte of the slice `packet()` returns. -/
def Packet.Shows (packet : Packet) (byte : Nat) : Prop :=
  packet.addrVirt ≤ byte ∧ byte < packet.addrVirt + packet.len

def Packet.Apart (first second : Packet) : Prop := ∀ byte, first.Shows byte → ¬ second.Shows byte

/-- The buffers of the caller over a pool lie in their slots and share no byte. -/
structure Separate (profile : Profile) (pool : MemPool) (ref : PoolRef)
    (live : List Packet) : Prop where
  inside : ∀ packet ∈ live, packet.pool = ref →
    pool.SlotShows profile packet.poolEntry packet.addrVirt packet.len
  apart : live.Pairwise fun first second => first.pool = ref → second.pool = ref →
    first.Apart second

/-- The calls of the buffer API. -/
def ApiOnly : Policy := fun _ action =>
  match action with
  | .pool (.alloc ..) => True
  | .pool (.construct ..) => True
  | .pool (.drop _) => True
  | _ => False

/-- A buffer of `len` bytes in entry `id` fits its slot and meets no live buffer there. -/
structure Fits (pool : MemPool) (ref : PoolRef) (live : List Packet) (id len : Nat) : Prop where
  short : len + packetHeadroom ≤ pool.entrySize
  vacant : len = 0 ∨ ∀ packet ∈ live, packet.pool = ref → packet.len = 0 ∨
    pool.virtAddress packet.poolEntry ≠ pool.virtAddress id

/-- The entry `alloc` is about to take off the free stack is vacant; `construct` is given
one and a length that fits it. -/
def Admits (ref : PoolRef) : Policy := fun system action =>
  match action with
  | .pool (.alloc target size) =>
      target = ref → size + packetHeadroom ≤ (system.machine.arcs.pool ref).entrySize →
      ∀ id ∈ (system.machine.arcs.free ref).getLast?,
        Fits (system.machine.arcs.pool ref) ref system.live id size
  | .pool (.construct poolEntry target len) => target = ref →
      Fits (system.machine.arcs.pool ref) ref system.live poolEntry len
  | _ => True

instance (pool : MemPool) (ref : PoolRef) (live : List Packet) (id len : Nat) :
    Decidable (Fits pool ref live id len) :=
  decidable_of_iff (_ ∧ _) ⟨fun both => ⟨both.1, both.2⟩, fun fits => ⟨fits.short, fits.vacant⟩⟩

instance (system : System) : (action : Action) → Decidable (ApiOnly system action)
  | .pool (.alloc ..) => isTrue trivial
  | .pool (.construct ..) => isTrue trivial
  | .pool (.drop _) => isTrue trivial
  | .pool (.clone _) => isFalse id
  | .pool (.cloneHandle _) => isFalse id
  | .pool (.dropHandle _) => isFalse id
  | .send .. => isFalse id
  | .recycle _ => isFalse id
  | .receive .. => isFalse id
  | .resume => isFalse id
  | .rxStore .. => isFalse id
  | .txDone .. => isFalse id

instance (ref : PoolRef) (system : System) : (action : Action) →
    Decidable (Admits ref system action)
  | .pool (.alloc ..) => inferInstanceAs (Decidable (_ → _ → ∀ id ∈ _, Fits ..))
  | .pool (.construct ..) => inferInstanceAs (Decidable (_ → Fits ..))
  | .pool (.drop _) => isTrue trivial
  | .pool (.clone _) => isTrue trivial
  | .pool (.cloneHandle _) => isTrue trivial
  | .pool (.dropHandle _) => isTrue trivial
  | .send .. => isTrue trivial
  | .recycle _ => isTrue trivial
  | .receive .. => isTrue trivial
  | .resume => isTrue trivial
  | .rxStore .. => isTrue trivial
  | .txDone .. => isTrue trivial

section Slots

variable {σ : Type} {host : Host σ} {pool : MemPool} {ref : PoolRef} {live : List Packet}
  {packet : Packet}

/-- Different slots of a pool share no byte. -/
theorem MemPool.Allocated.slots_apart (allocated : pool.Allocated host) {first second : Nat}
    (different : pool.virtAddress first ≠ pool.virtAddress second) :
    pool.virtAddress first + pool.entrySize ≤ pool.virtAddress second ∨
      pool.virtAddress second + pool.entrySize ≤ pool.virtAddress first := by
  -- Offsets are multiples of the entry size, also where they wrap.
  have divides : pool.entrySize ∣ usizeModulus :=
    (Nat.dvd_of_mod_eq_zero allocated.divides).trans (by decide)
  obtain ⟨i, offset⟩ : pool.entrySize ∣ first * pool.entrySize % usizeModulus :=
    (Nat.dvd_mod_iff divides).mpr (Nat.dvd_mul_left _ _)
  obtain ⟨j, offset'⟩ : pool.entrySize ∣ second * pool.entrySize % usizeModulus :=
    (Nat.dvd_mod_iff divides).mpr (Nat.dvd_mul_left _ _)
  simp only [virtAddress, offset, offset'] at different ⊢
  rcases Nat.lt_trichotomy i j with before | same | after
  · have later := Nat.mul_le_mul_left pool.entrySize (show i + 1 ≤ j from before)
    rw [Nat.mul_succ] at later
    omega
  · rw [same] at different
    exact absurd rfl different
  · have later := Nat.mul_le_mul_left pool.entrySize (show j + 1 ≤ i from after)
    rw [Nat.mul_succ] at later
    omega

/-- The buffer begins at the headroom of its entry. -/
structure Packet.BeginsIn (pool : MemPool) (packet : Packet) : Prop where
  bound : packet.poolEntry < pool.numEntries
  begins : packet.addrVirt = pool.virtAddress packet.poolEntry + packetHeadroom

theorem Packet.StartsAt.beginsIn {arcs : Arcs} (allocated : pool.Allocated host)
    (starts : packet.StartsAt host.profile packetHeadroom arcs)
    (same : arcs.layout packet.pool = pool.layout) :
    packet.BeginsIn pool := by
  obtain ⟨base, located, begins⟩ := starts.virt
  rw [← MemPool.getVirtAddr_layout] at located
  have own : pool.getVirtAddr host.profile packet.poolEntry = .ok base := by
    rw [← MemPool.getVirtAddr_layout, ← same]
    exact located
  have inside := MemPool.getVirtAddr_ok own
  rw [allocated.getVirtAddr_apply inside] at own
  cases own
  exact ⟨inside, begins⟩

theorem MemPool.Allocated.slotShows_iff (allocated : pool.Allocated host)
    (begins : packet.BeginsIn pool) :
    pool.SlotShows host.profile packet.poolEntry packet.addrVirt packet.len ↔
      packet.len + packetHeadroom ≤ pool.entrySize := by
  have located := allocated.getVirtAddr_apply begins.bound
  constructor
  · intro shows
    obtain ⟨base, found, _, upper⟩ := shows
    cases located.symm.trans found
    rw [begins.begins] at upper
    omega
  · intro short
    refine ⟨_, located, ?_, ?_⟩ <;> rw [begins.begins] <;> omega

/-- Two buffers that fit their slots are apart unless they share a slot and neither is
empty. -/
theorem MemPool.Allocated.apart_iff (allocated : pool.Allocated host) {other : Packet}
    (begins : packet.BeginsIn pool) (begins' : other.BeginsIn pool)
    (short : packet.len + packetHeadroom ≤ pool.entrySize)
    (short' : other.len + packetHeadroom ≤ pool.entrySize) :
    other.Apart packet ↔ packet.len = 0 ∨ other.len = 0 ∨
      pool.virtAddress other.poolEntry ≠ pool.virtAddress packet.poolEntry := by
  have start := begins.begins
  have start' := begins'.begins
  constructor
  · intro apart
    by_contra meets
    push Not at meets
    obtain ⟨full, full', same⟩ := meets
    exact apart packet.addrVirt ⟨by omega, by omega⟩ ⟨Nat.le_refl _, by omega⟩
  · rintro vacant byte ⟨lower, upper⟩ ⟨lower', upper'⟩
    rcases vacant with empty | empty | different
    · omega
    · omega
    · have := allocated.slots_apart different
      omega

/-- One more buffer keeps all apart exactly when it fits. -/
theorem Separate.concat_iff (allocated : pool.Allocated host)
    (separate : Separate host.profile pool ref live)
    (begins : ∀ other ∈ live, other.pool = ref → other.BeginsIn pool)
    (new : packet.pool = ref → packet.BeginsIn pool) :
    Separate host.profile pool ref (live ++ [packet]) ↔
      (packet.pool = ref → Fits pool ref live packet.poolEntry packet.len) := by
  constructor
  · intro separate' own
    obtain ⟨inside, apart⟩ := separate'
    have short := (allocated.slotShows_iff (new own)).mp (inside packet (by simp) own)
    refine ⟨short, ?_⟩
    by_cases empty : packet.len = 0
    · exact .inl empty
    · right
      intro other owned same
      have short' := (allocated.slotShows_iff (begins other owned same)).mp
        (separate.inside other owned same)
      have disjoint := (List.pairwise_append.mp apart).2.2 other owned packet
        (List.mem_singleton_self _) same own
      exact ((allocated.apart_iff (new own) (begins other owned same) short short').mp
        disjoint).resolve_left empty
  · intro fits
    constructor
    · intro other owned same
      rcases List.mem_append.mp owned with old | last
      · exact separate.inside other old same
      · cases List.mem_singleton.mp last
        exact (allocated.slotShows_iff (new same)).mpr (fits same).short
    · refine List.pairwise_append.mpr ⟨separate.apart, List.pairwise_singleton _ _, ?_⟩
      intro other owned last member same own
      cases List.mem_singleton.mp member
      have short' := (allocated.slotShows_iff (begins other owned same)).mp
        (separate.inside other owned same)
      refine (allocated.apart_iff (new own) (begins other owned same) (fits own).short short').mpr
        ?_
      exact (fits own).vacant.imp_right fun vacant => vacant other owned same

theorem Separate.sublist {profile : Profile} {fewer : List Packet}
    (separate : Separate profile pool ref live)
    (sub : fewer.Sublist live) : Separate profile pool ref fewer :=
  ⟨fun packet owned => separate.inside packet (sub.subset owned), separate.apart.sublist sub⟩

end Slots

section Calls

variable {profile : Profile} {ref target : PoolRef} {arcs changed : Arcs} {size : Nat}
  {system after : System} {action : Action} {events trace : List Event}

/-- When `alloc_pkt` makes a packet, and of which entry. -/
theorem allocPkt_cases {result : Option Packet} (room : packetHeadroom ≤ (arcs.pool ref).entrySize)
    (allocated : allocPkt profile ref size arcs = .ok (result, changed)) :
    (result = none ∧ (size + packetHeadroom ≤ (arcs.pool ref).entrySize → arcs.free ref = [])) ∨
      ∃ packet, result = some packet ∧ size + packetHeadroom ≤ (arcs.pool ref).entrySize ∧
        packet.len = size ∧ packet.pool = ref ∧ (arcs.free ref).getLast? =
          some packet.poolEntry := by
  rw [allocPkt, usizeSub_of_le room, except_ok_bind] at allocated
  split at allocated
  · cases allocated
    exact .inl ⟨rfl, fun short => by omega⟩
  · split at allocated
    · rename_i popped
      cases allocated
      exact .inl ⟨rfl, fun _ => MemPool.allocBuf_none popped⟩
    · rename_i id pool popped
      obtain ⟨rest, stack, rfl⟩ := MemPool.allocBuf_some popped
      obtain ⟨virt, _, allocated⟩ := except_bind_ok allocated
      obtain ⟨phys, _, allocated⟩ := except_bind_ok allocated
      obtain ⟨addrPhys, _, allocated⟩ := except_bind_ok allocated
      cases allocated
      exact .inr ⟨_, rfl, by omega, rfl, rfl, by rw [Arcs.free, stack, List.getLast?_concat]⟩

theorem alloc_cases {result : Except IgbError IgbNetBuf}
    (room : packetHeadroom ≤ (arcs.pool ref).entrySize)
    (allocated : IgbNetBuf.alloc profile ref size arcs = .ok (result, changed)) :
    (result = .error .noMemory ∧ (size + packetHeadroom ≤ (arcs.pool ref).entrySize →
      arcs.free ref = [])) ∨
      ∃ packet, result = .ok { packet } ∧ size + packetHeadroom ≤ (arcs.pool ref).entrySize ∧
        packet.len = size ∧ packet.pool = ref ∧ (arcs.free ref).getLast? =
          some packet.poolEntry := by
  obtain ⟨⟨made, middle⟩, allocated, returned⟩ := except_bind_ok allocated
  rcases allocPkt_cases room allocated with ⟨rfl, empty⟩ | ⟨packet, rfl, made⟩
  · cases returned
    exact .inl ⟨rfl, empty⟩
  · cases returned
    exact .inr ⟨packet, rfl, made⟩

theorem construct_cases {poolEntry len : Nat} {result : Except IgbError IgbNetBuf}
    (constructed : IgbNetBuf.construct profile poolEntry ref len arcs = .ok (result, changed)) :
    ∃ packet, result = .ok { packet } ∧ packet.len = len ∧ packet.pool = ref ∧ packet.poolEntry =
      poolEntry := by
  obtain ⟨virt, _, constructed⟩ := except_bind_ok constructed
  obtain ⟨phys, _, constructed⟩ := except_bind_ok constructed
  obtain ⟨addrPhys, _, constructed⟩ := except_bind_ok constructed
  cases constructed
  exact ⟨_, rfl, rfl, rfl, rfl⟩

/-- A call that makes no buffer, or makes one that fits exactly when the call is admitted. -/
def ApiEffect (profile : Profile) (ref : PoolRef) (system : System) (action : Action)
    (live : List Packet) : Prop :=
  (live.Sublist system.live ∧ Admits ref system action) ∨
    ∃ packet, live = system.live ++ [packet] ∧
      packet.StartsAt profile packetHeadroom system.machine.arcs ∧
      (Admits ref system action ↔ (packet.pool = ref →
        Fits (system.machine.arcs.pool ref) ref system.live packet.poolEntry packet.len))

theorem alloc_effect (room : packetHeadroom ≤ (system.machine.arcs.pool ref).entrySize)
    (stepped : poolStep profile system (.alloc target size) = some (.ok after)) :
    ApiEffect profile ref system (.pool (.alloc target size)) after.live := by
  simp only [poolStep] at stepped
  split at stepped
  · cases stepped
  · obtain ⟨⟨result, arcs⟩, allocated, returned⟩ := except_bind_ok (Option.some.inj stepped)
    by_cases own : target = ref
    · subst own
      rcases alloc_cases room allocated with ⟨rfl, empty⟩ | ⟨packet, rfl, short, length, pool, last⟩
      · cases returned
        refine .inl ⟨List.Sublist.refl _, fun _ short id top => ?_⟩
        rw [empty short] at top
        cases top
      · cases returned
        refine .inr ⟨packet, rfl, IgbNetBuf.alloc_starts allocated, ?_⟩
        constructor
        · intro admits own
          rw [length]
          exact admits rfl short _ last
        · intro fits _ _ id top
          cases last.symm.trans top
          rw [← length]
          exact fits pool
    · rcases IgbNetBuf.alloc_ok allocated with ⟨rfl, _⟩ | ⟨packet, rfl, _, allocates⟩
      · cases returned
        exact .inl ⟨List.Sublist.refl _, fun same => absurd same own⟩
      · cases returned
        refine .inr ⟨packet, rfl, IgbNetBuf.alloc_starts allocated, ?_⟩
        exact ⟨fun _ same => absurd (allocates.pool.symm.trans same) own,
          fun _ same => absurd same own⟩

theorem construct_effect {poolEntry len : Nat}
    (stepped : poolStep profile system (.construct poolEntry target len) = some (.ok after)) :
    ApiEffect profile ref system (.pool (.construct poolEntry target len)) after.live := by
  simp only [poolStep] at stepped
  split at stepped
  · cases stepped
  · obtain ⟨⟨result, arcs⟩, constructed, returned⟩ := except_bind_ok (Option.some.inj stepped)
    obtain ⟨packet, rfl, length, pool, entry⟩ := construct_cases constructed
    cases returned
    refine .inr ⟨packet, rfl, IgbNetBuf.construct_starts constructed, ?_⟩
    rw [pool, entry, length]
    exact Iff.rfl

theorem drop_effect {position : Nat}
    (stepped : poolStep profile system (.drop position) = some (.ok after)) :
    ApiEffect profile ref system (.pool (.drop position)) after.live := by
  simp only [poolStep] at stepped
  split at stepped
  · cases stepped
  · obtain ⟨arcs, _, returned⟩ := except_bind_ok (Option.some.inj stepped)
    cases returned
    exact .inl ⟨List.eraseIdx_sublist _ _, trivial⟩

theorem api_effect (room : packetHeadroom ≤ (system.machine.arcs.pool ref).entrySize)
    (only : ApiOnly system action)
    (stepped : next profile system action = some (.ok (events, after))) :
    ApiEffect profile ref system action after.live := by
  cases action with
  | send | recycle | receive | resume | rxStore | txDone => exact only.elim
  | pool action =>
      simp only [next] at stepped
      split at stepped
      · obtain ⟨outcome, pooled, same⟩ := Option.map_eq_some_iff.mp stepped
        cases outcome with
        | error reason => cases same
        | ok state =>
            cases same
            cases action with
            | clone | cloneHandle | dropHandle => exact only.elim
            | alloc => exact alloc_effect room pooled
            | construct => exact construct_effect pooled
            | drop => exact drop_effect pooled
      · cases stepped

end Calls

section Run

variable {σ : Type} {host : Host σ} {entries size : Nat} {env env' : σ} {made : MemPool}
  {ref : PoolRef} {system final : System} {policy : Policy} {action : Action}
  {events trace : List Event}

/-- What every sequence of calls keeps. -/
structure CallsKeep (made : MemPool) (ref : PoolRef) (state : System) : Prop where
  layout : state.machine.arcs.layout ref = made.layout
  begins : ∀ packet ∈ state.live, packet.pool = ref → packet.BeginsIn made

theorem CallsKeep.entrySize (keeps : CallsKeep made ref system) :
    (system.machine.arcs.pool ref).entrySize = made.entrySize :=
  congrArg (fun pool => pool.entrySize) keeps.layout

theorem CallsKeep.fits_iff (keeps : CallsKeep made ref system) {live : List Packet} {id len : Nat} :
    Fits (system.machine.arcs.pool ref) ref live id len ↔ Fits made ref live id len := by
  have size := keeps.entrySize
  have address : ∀ id, (system.machine.arcs.pool ref).virtAddress id = made.virtAddress id := by
    intro id
    have same := congrArg (fun pool => MemPool.virtAddress pool id) keeps.layout
    exact same
  constructor
  · intro fits
    obtain ⟨short, vacant⟩ := fits
    simp only [address] at vacant
    exact ⟨size ▸ short, vacant⟩
  · intro fits
    obtain ⟨short, vacant⟩ := fits
    refine ⟨size.symm ▸ short, ?_⟩
    simp only [address]
    exact vacant

theorem CallsKeep.next (allocated : made.Allocated host)
    (headroom : packetHeadroom ≤ made.entrySize) (keeps : CallsKeep made ref system)
    (only : ApiOnly system action)
    (stepped : IgbDriver.next host.profile system action = some (.ok (events, final))) :
    CallsKeep made ref final := by
  refine ⟨((next_step stepped).layout ref).trans keeps.layout, fun packet owned own => ?_⟩
  rcases api_effect (by rw [keeps.entrySize]; exact headroom) only stepped with
    ⟨fewer, _⟩ | ⟨new, more, starts, _⟩
  · exact keeps.begins packet (fewer.subset owned) own
  · rw [more] at owned
    rcases List.mem_append.mp owned with old | last
    · exact keeps.begins packet old own
    · cases List.mem_singleton.mp last
      subst own
      exact starts.beginsIn allocated keeps.layout

/-- One call keeps the buffers separate if and only if it is admitted. -/
theorem CallsKeep.separate_iff (allocated : made.Allocated host)
    (headroom : packetHeadroom ≤ made.entrySize) (keeps : CallsKeep made ref system)
    (separate : Separate host.profile made ref system.live) (only : ApiOnly system action)
    (stepped : IgbDriver.next host.profile system action = some (.ok (events, final))) :
    Separate host.profile made ref final.live ↔ Admits ref system action := by
  rcases api_effect (by rw [keeps.entrySize]; exact headroom) only stepped with
    ⟨fewer, admitted⟩ | ⟨packet, more, starts, admits⟩
  · exact ⟨fun _ => admitted, fun _ => separate.sublist fewer⟩
  · rw [more, admits, keeps.fits_iff]
    refine separate.concat_iff allocated keeps.begins (fun own => ?_)
    subst own
    exact starts.beginsIn allocated keeps.layout

/-- The buffers of a pool are separate after every sequence of admitted calls, and a call
that is not admitted ends that. -/
theorem buffers_separate_iff
    (allocated : MemPool.allocate host entries size env = .ok (.ok made, env'))
    (headroom : packetHeadroom ≤ made.entrySize) (pool : system.machine.arcs.pool ref = made)
    (empty : system.live = []) :
    (∀ trace final, Run (next host.profile) (fun state action => ApiOnly state action ∧
      Admits ref state action) system trace final → Separate host.profile made ref final.live) ∧
    (∀ trace middle action events final, Run (next host.profile) ApiOnly system trace middle →
      ApiOnly middle action → next host.profile middle action = some (.ok (events, final)) →
      Separate host.profile made ref middle.live →
      (Separate host.profile made ref final.live ↔ Admits ref middle action)) := by
  have made_allocated := (MemPool.allocated_of_allocate allocated).1
  have initially : CallsKeep made ref system := ⟨by rw [← pool]; rfl, by rw [empty]; nofun⟩
  constructor
  · intro trace final run
    have kept := run.invariant
      (fun _ state => CallsKeep made ref state ∧ Separate host.profile made ref state.live)
      ⟨initially, by rw [empty]; exact ⟨nofun, List.Pairwise.nil⟩⟩
      (fun _ _ _ _ _ kept permitted stepped =>
        ⟨kept.1.next made_allocated headroom permitted.1 stepped,
          (kept.1.separate_iff made_allocated headroom kept.2 permitted.1 stepped).mpr permitted.2⟩)
    exact kept.2
  · intro trace middle action events final run only stepped separate
    have keeps := run.invariant (fun _ state => CallsKeep made ref state) initially
      (fun _ _ _ _ _ kept permitted stepped => kept.next made_allocated headroom permitted stepped)
    exact keeps.separate_iff made_allocated headroom separate only stepped

/-- A caller with a pool of eight entries and nothing else. -/
def poolOwner : System where
  machine := {
    env := fun _ => 0
    arcs := allocatedArcs .dev (fun _ => 8) (fun _ => 2048)
    dev := { len := 0, numRxQueues := 0, numTxQueues := 0, rxQueues := [], txQueues := [] } }
  handles := fun _ => 1
  live := []
  control := .idle

/-- Two buffers made, one dropped and its entry used again. -/
theorem buffers_separate_iff_reuse : ∃ (final : System), final.live.length = 2 ∧
    Separate .dev (allocatedPool .dev 8 2048) 0 final.live := by
  obtain ⟨⟨trace, final⟩, replayed, accepted⟩ := (Option.any_eq_true _ _).mp
    (show (replay (next .dev) (fun state action => ApiOnly state action ∧ Admits 0 state action)
      [.pool (.alloc 0 60), .pool (.construct 3 0 2016), .pool (.drop 0), .pool (.alloc 0 1500)]
        poolOwner).any
        (fun result => result.2.live.length == 2) = true by decide +kernel)
  obtain ⟨env', made⟩ :=
    allocatedPool_made (show (allocatedPool .dev 8 2048).numEntries ≠ 0 by decide +kernel)
  exact ⟨final, eq_of_beq accepted,
    (buffers_separate_iff made (by decide +kernel) rfl rfl).1 trace final
    (run_of_replay replayed)⟩

/-- `construct` on the entry of a live buffer, with more bytes than an entry has. -/
theorem construct_overlaps :
    ∃ (trace : List Event) (final : System) (first second : Packet) (byte : Nat),
    Run (next .dev) ApiOnly poolOwner trace final ∧ final.live = [first, second] ∧
    first.Shows byte ∧ second.Shows byte ∧
    ¬ (allocatedPool .dev 8 2048).SlotShows .dev second.poolEntry second.addrVirt second.len ∧
    ¬ Separate .dev (allocatedPool .dev 8 2048) 0 final.live := by
  obtain ⟨⟨trace, final⟩, replayed, accepted⟩ := (Option.any_eq_true _ _).mp
    (show (replay (next .dev) ApiOnly [.pool (.alloc 0 60), .pool (.construct 7 0 5000)]
      poolOwner).any
      (fun result => result.2.live == [⟨0x103820, 0x103820, 60, 0, 7⟩,
        ⟨0x103820, 0x103820, 5000, 0, 7⟩]) = true
      by decide +kernel)
  have live := eq_of_beq accepted
  have outside : ¬ (allocatedPool .dev 8 2048).SlotShows .dev 7 0x103820 5000 := by
    intro shows
    obtain ⟨base, located, lower, upper⟩ := shows
    cases located.symm.trans (show (allocatedPool .dev 8 2048).getVirtAddr .dev 7 =
      .ok 0x103800 by decide +kernel)
    rw [show (allocatedPool .dev 8 2048).entrySize = 2048 by decide +kernel] at upper
    omega
  refine ⟨trace, final, _, _, 0x103820, run_of_replay replayed, live, ⟨by decide, by decide⟩,
    ⟨by decide, by decide⟩, outside, fun separate => outside ?_⟩
  exact separate.inside ⟨0x103820, 0x103820, 5000, 0, 7⟩ (by rw [live]; simp) rfl

end Run

end IgbDriver
