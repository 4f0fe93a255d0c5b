import IgbDriver.Card
import IgbDriver.Placement

namespace IgbDriver

open Foundation

/-! # Writing in front of a packet

`headroom_mut` gives the caller the bytes before a packet. A packet that `alloc` or
`clone` made has them in its own entry, and what is written there is seen by nobody. A
packet from a receive callback begins where its entry does: the same bytes end the entry
before it.
-/

/-- The start and the length of the slice `headroom_mut` returns. -/
def Packet.headroomMut (packet : Packet) (len : Nat) : Except (Abort Panic) (Nat × Nat) :=
  if len ≤ packetHeadroom then .ok (packet.addrVirt - len, len) else
    .error (.panic .headroomTooLong)

/-- An action of the system with its memory, or the caller fills the headroom of a live packet. -/
inductive HeadroomAction where
  | loaded (action : LoadedAction)
  | headroom (position : Nat) (bytes : List Byte)
deriving Repr

def headroomNext (profile : Profile) (translate : Nat → Nat) (state : LoadedSystem) :
    HeadroomAction → Option (Except (Abort Panic) (List (Nic.Label Byte) × LoadedSystem))
  | .loaded action => loadedNext profile translate state action
  | .headroom position bytes =>
      if state.system.control.admitsCaller then
        match state.system.live[position]? with
        | none => none
        | some packet => some ((packet.headroomMut bytes.length).map fun slice =>
            ([], { state with memory := Memory.store translate state.memory slice.1 bytes }))
      else none

/-- The caller asks for the headroom of packets that have one. -/
def Heads (profile : Profile) (policy : Policy) (state : LoadedSystem) : HeadroomAction → Prop
  | .loaded action => Loads policy state action
  | .headroom position _ => ∀ packet, state.system.live[position]? = some packet →
      packet.StartsAt profile packetHeadroom state.system.machine.arcs

instance (profile : Profile) (headroom : Nat) (arcs : Arcs) (packet : Packet) :
    Decidable (packet.StartsAt profile headroom arcs) :=
  match virt : (arcs.pool packet.pool).getVirtAddr profile packet.poolEntry,
    phys : (arcs.pool packet.pool).getPhysAddr packet.poolEntry with
  | .ok base, .ok busBase =>
      decidable_of_iff (packet.addrVirt = base + headroom ∧
          (usizeAdd profile busBase headroom : Except (Abort Panic) Nat) = .ok packet.addrPhys)
        ⟨fun both => ⟨⟨base, virt, both.1⟩, busBase, phys, both.2⟩, fun starts => by
          obtain ⟨⟨_, virt', same⟩, _, phys', added⟩ := starts
          cases virt.symm.trans virt'
          cases phys.symm.trans phys'
          exact ⟨same, added⟩⟩
  | .error _, _ => isFalse fun starts => by
      obtain ⟨⟨_, virt', _⟩, _⟩ := starts
      cases virt.symm.trans virt'
  | .ok _, .error _ => isFalse fun starts => by
      obtain ⟨_, _, phys', _⟩ := starts
      cases phys.symm.trans phys'

instance (profile : Profile) (policy : Policy) [∀ state action, Decidable (policy state action)]
    (state : LoadedSystem) : (action : HeadroomAction) →
      Decidable (Heads profile policy state action)
  | .loaded action => inferInstanceAs (Decidable (Loads policy state action))
  | .headroom position _ =>
      match owned : state.system.live[position]? with
      | none => isTrue fun _ same => absurd (owned.symm.trans same) nofun
      | some packet =>
          decidable_of_iff (packet.StartsAt profile packetHeadroom state.system.machine.arcs)
          ⟨fun starts _ same => Option.some.inj (owned.symm.trans same) ▸ starts,
            fun all => all packet owned⟩

section Headroom

variable {σ : Type} {host : Host σ} {profile : Profile} {translate : Nat → Nat}
  {qs numRx numTx position : Nat} {pool : PoolRef} {before arcs : Arcs}
  {state start final : LoadedSystem} {trace : List Event} {packet other : Packet} {nic : Nic Byte}
  {labels : List (Nic.Label Byte)} {memory : Memory Byte} {bytes : List Byte}

theorem headroomNext_headroom
    (stepped : headroomNext profile translate state (.headroom position bytes) =
      some (.ok (labels, final))) :
    ∃ packet, state.system.live[position]? = some packet ∧ bytes.length ≤ packetHeadroom ∧
      labels = [] ∧ final = ⟨state.system, Memory.store translate state.memory
        (packet.addrVirt - bytes.length) bytes⟩ := by
  simp only [headroomNext] at stepped
  split at stepped
  · split at stepped
    · cases stepped
    · rename_i packet owned
      unfold Packet.headroomMut at stepped
      split at stepped
      · rename_i short
        cases stepped
        exact ⟨packet, owned, short, rfl, rfl⟩
      · cases stepped
  · cases stepped

/-- The headroom of a packet lies in its entry, right before its bytes. -/
theorem Packet.StartsAt.places_headroom (starts : packet.StartsAt profile packetHeadroom arcs)
    (laid : arcs.Laid profile translate) {count : Nat} (short : count ≤ packetHeadroom) :
    count ≤ packet.addrPhys ∧ Memory.Places translate (packet.addrVirt - count)
      (packet.addrPhys - count) count ∧
      ∀ byte, packet.addrPhys - count ≤ byte → byte < packet.addrPhys →
        (arcs.pool packet.pool).InSlot packet.poolEntry byte := by
  obtain ⟨⟨virt, locatedVirt, addrVirt⟩, ⟨phys, locatedPhys, added⟩⟩ := starts
  have room := laid.headroom packet.pool
  obtain ⟨places, bound⟩ := laid.backed _ _ _ _ locatedVirt locatedPhys
  rw [usizeAdd_of_lt (by omega)] at added
  have addrPhys : packet.addrPhys = phys + packetHeadroom := (Except.ok.inj added).symm
  rw [addrVirt, addrPhys, Nat.add_sub_assoc short, Nat.add_sub_assoc short]
  refine ⟨by omega, (places.drop (packetHeadroom - count)).fewer (by omega),
    fun byte lower upper => ?_⟩
  exact ⟨phys, locatedPhys, by omega, by omega⟩

/-- Nothing that is written there is seen. -/
theorem Carries.headroom (carries : Carries translate numRx numTx trace state nic)
    (custody : Custody host translate qs numRx numTx pool trace state.system)
    (owned : state.system.live[position]? = some packet)
    (starts : packet.StartsAt host.profile packetHeadroom state.system.machine.arcs)
    (short : bytes.length ≤ packetHeadroom) :
    Carries translate numRx numTx trace
      ⟨state.system, Memory.store translate state.memory (packet.addrVirt - bytes.length) bytes⟩
        nic := by
  obtain ⟨before, places, inSlot⟩ := starts.places_headroom custody.laid short
  have member : packet ∈ state.system.live := List.mem_of_getElem? owned
  have changes : ChangesIn (state.system.machine.arcs.pool packet.pool)
    packet.poolEntry state.memory
      (Memory.store translate state.memory (packet.addrVirt - bytes.length) bytes) := by
    intro byte outside
    refine Memory.store_outside places ?_
    by_contra covered
    exact outside (inSlot byte (by omega) (by omega))
  refine ⟨?_, carries.lines.change custody member changes⟩
  rw [carries.buffers]
  refine List.map_congr_left (fun other owned' => ?_)
  have housed := custody.live other owned'
  obtain ⟨i, there⟩ := List.getElem?_of_mem owned'
  by_cases same : i = position
  · -- The packet itself begins where what was written ends.
    subst same
    cases owned.symm.trans there
    rw [housed.asBytes_eq custody.laid, housed.asBytes_eq custody.laid]
    refine (Memory.load_eq_of_agree (fun byte lower _ => ?_)).symm
    exact Memory.store_outside places (by omega)
  · exact (housed.asBytes_kept custody.laid changes (custody.live_apart there owned same)).symm

/-- With headrooms written, the driver still refines the card; and the packets that have one
are those that no callback was handed. -/
theorem headroom_hidden
    (deployed : Deployment host translate qs numRx numTx pool before start.system)
    (initially : ∀ packet ∈ start.system.live,
      packet.StartsAt host.profile packetHeadroom start.system.machine.arcs)
    (run : Run (headroomNext host.profile translate) (Heads host.profile (Orderly pool)) start
      labels final) :
    Path (Nic.Move truncated) (start.nic translate) labels (final.nic translate) ∧
      ∃ trace, Run (next host.profile) (Orderly pool) start.system trace final.system ∧
        ∀ packet ∈ final.system.live,
          packet.StartsAt host.profile packetHeadroom final.system.machine.arcs ↔
          ∀ queueId, .delivered queueId packet ∉ trace := by
  have positive : 0 < qs := Nat.lt_of_lt_of_le Nat.zero_lt_two deployed.least
  obtain ⟨trace, nic, reached, path, custody, carried⟩ := deployed.followed_of run (by
    intro trace state nic action labels after reached carried permitted stepped
    cases action with
    | loaded action => exact deployed.follows reached carried permitted stepped
    | headroom position bytes =>
        obtain ⟨packet, owned, short, rfl, rfl⟩ := headroomNext_headroom stepped
        exact ⟨trace, reached, nic, .refl,
          carried.headroom (deployed.custody reached) owned (permitted packet owned) short⟩)
  rw [← carried.nic_eq custody deployed.small positive]
  refine ⟨path, trace, reached, fun packet owned => ⟨fun starts queueId delivered => ?_,
    fun never => ?_⟩⟩
  · cases starts.unique (delivered_starts reached delivered)
  · rcases live_starts reached initially packet owned with starts | ⟨_, queueId, delivered⟩
    · exact starts
    · exact absurd delivered (never queueId)

/-- A packet with its headroom filled keeps its bytes. -/
theorem headroom_hidden_filled :
    ∃ start final : LoadedSystem, Path (Nic.Move truncated) (start.nic id)
    [.allocated [0, 0, 0], .written 0 1 7, .accepted 0 0 [0, 7, 0]] (final.nic id) := by
  have checked : (boot (platform .dev) 4 0x40000 1 1 0 (fun _ => 0) (onePool 12) (fun _ => 1)
    []).any (fun system =>
      (replay (headroomNext .dev id) (Heads .dev (Orderly 0))
        [.loaded (.act (.pool (.alloc 0 3)) []), .loaded (.write 0 1 7),
          .headroom 0 (List.replicate 32 9),
          .loaded (.act (.send 0 0) [])] ⟨system, fun _ => 0⟩).any fun result =>
        result.1 == [.allocated [0, 0, 0], .written 0 1 7, .accepted 0 0 [0, 7, 0]]) = true := by
    decide +kernel
  obtain ⟨system, booted, followed⟩ := (Option.any_eq_true _ _).mp checked
  obtain ⟨⟨labels, final⟩, replayed, shown⟩ := (Option.any_eq_true _ _).mp followed
  have expected : labels = [.allocated [0, 0, 0], .written 0 1 7, .accepted 0 0 [0, 7, 0]] :=
    eq_of_beq shown
  subst expected
  let start : LoadedSystem := ⟨system, fun _ => 0⟩
  have deployed : Deployment (platform .dev) id 4 1 1 0 (onePool 12) start.system :=
    deployment_of_boot booted (by decide) (by decide) (by decide) (by decide)
  have run : Run (headroomNext (platform .dev).profile id)
      (Heads (platform .dev).profile (Orderly 0)) start _ final :=
    run_of_replay replayed
  have initially : ∀ packet ∈ start.system.live,
      packet.StartsAt (platform .dev).profile packetHeadroom start.system.machine.arcs := by
    rw [(booted_of_boot booted).2.2]
    nofun
  exact ⟨start, final, (headroom_hidden deployed initially run).1⟩

end Headroom

end IgbDriver
