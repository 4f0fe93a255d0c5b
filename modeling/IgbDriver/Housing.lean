import IgbDriver.Separation
import IgbDriver.Exclusion
import IgbDriver.Foundation.Bytes

namespace IgbDriver

open Foundation

/-! # Where the bytes of a packet lie

Memory is one byte for each bus address; the caller reaches it through the platform's
translation. A packet keeps to the slot of its entry on both sides.
-/

abbrev Byte := BitVec 8

/-- What the platform promises of the memory of the pools: the slot of an entry is one
piece on both sides, and no two slots share a byte. -/
structure Arcs.Laid (profile : Profile) (translate : Nat → Nat) (arcs : Arcs) : Prop where
  headroom : ∀ ref, packetHeadroom ≤ (arcs.pool ref).entrySize
  backed : ∀ ref id virt phys, (arcs.pool ref).getVirtAddr profile id = .ok virt →
    (arcs.pool ref).getPhysAddr id = .ok phys →
      Memory.Places translate virt phys (arcs.pool ref).entrySize ∧
        phys + (arcs.pool ref).entrySize < usizeModulus
  apart : ∀ ref ref' id id' byte, (arcs.pool ref).InSlot id byte →
    (arcs.pool ref').InSlot id' byte →
    ref = ref' ∧ id = id'

/-- The packet lies in the slot of its entry, as far in on the bus as for the caller. -/
def Packet.Housed (profile : Profile) (arcs : Arcs) (packet : Packet) : Prop :=
  ∃ virt phys headroom, (arcs.pool packet.pool).getVirtAddr profile packet.poolEntry = .ok virt ∧
    (arcs.pool packet.pool).getPhysAddr packet.poolEntry = .ok phys ∧
    packet.addrVirt = virt + headroom ∧ packet.addrPhys = phys + headroom ∧
    headroom + packet.len ≤ (arcs.pool packet.pool).entrySize

section Layout

variable {profile : Profile} {translate : Nat → Nat} {arcs after : Arcs} {packet : Packet}
  {ref : PoolRef}

theorem entrySize_of_layout (same : after.layout ref = arcs.layout ref) :
    (after.pool ref).entrySize = (arcs.pool ref).entrySize := by
  have size := congrArg MemPool.entrySize same
  exact size

theorem getVirtAddr_of_layout (same : after.layout ref = arcs.layout ref) (id : Nat) :
    (after.pool ref).getVirtAddr profile id = (arcs.pool ref).getVirtAddr profile id := by
  rw [← MemPool.getVirtAddr_layout, ← MemPool.getVirtAddr_layout (arcs.pool ref)]
  exact congrArg (fun pool => MemPool.getVirtAddr profile pool id) same

theorem getPhysAddr_of_layout (same : after.layout ref = arcs.layout ref) (id : Nat) :
    (after.pool ref).getPhysAddr id = (arcs.pool ref).getPhysAddr id := by
  rw [← MemPool.getPhysAddr_layout, ← MemPool.getPhysAddr_layout (arcs.pool ref)]
  exact congrArg (fun pool => MemPool.getPhysAddr pool id) same

theorem Arcs.Laid.of_layout (laid : arcs.Laid profile translate)
    (same : ∀ ref, after.layout ref = arcs.layout ref) : after.Laid profile translate where
  headroom := fun ref => by
    rw [entrySize_of_layout (same ref)]
    exact laid.headroom ref
  backed := fun ref id virt phys locatedVirt locatedPhys => by
    rw [getVirtAddr_of_layout (same ref)] at locatedVirt
    rw [getPhysAddr_of_layout (same ref)] at locatedPhys
    rw [entrySize_of_layout (same ref)]
    exact laid.backed ref id virt phys locatedVirt locatedPhys
  apart := fun ref ref' id id' byte here there =>
    laid.apart ref ref' id id' byte (MemPool.inSlot_layout (same ref) here)
      (MemPool.inSlot_layout (same ref') there)

theorem Packet.Housed.of_layout (housed : packet.Housed profile arcs)
    (same : after.layout packet.pool = arcs.layout packet.pool) : packet.Housed profile after := by
  obtain ⟨virt, phys, headroom, locatedVirt, locatedPhys, addrVirt, addrPhys, fits⟩ := housed
  refine ⟨virt, phys, headroom, ?_, ?_, addrVirt, addrPhys, ?_⟩
  · rw [getVirtAddr_of_layout same]
    exact locatedVirt
  · rw [getPhysAddr_of_layout same]
    exact locatedPhys
  · rw [entrySize_of_layout same]
    exact fits

/-- The caller's view of a housed packet is the memory the device sees. -/
theorem Packet.Housed.places (housed : packet.Housed profile arcs)
    (laid : arcs.Laid profile translate) :
    Memory.Places translate packet.addrVirt packet.addrPhys packet.len := by
  obtain ⟨virt, phys, headroom, locatedVirt, locatedPhys, addrVirt, addrPhys, fits⟩ := housed
  have places := (laid.backed _ _ _ _ locatedVirt locatedPhys).1
  rw [addrVirt, addrPhys]
  exact (places.drop headroom).fewer (by omega)

theorem Packet.Housed.inSlot (housed : packet.Housed profile arcs) {byte : Nat}
    (lower : packet.addrPhys ≤ byte) (upper : byte < packet.addrPhys + packet.len) :
    (arcs.pool packet.pool).InSlot packet.poolEntry byte := by
  obtain ⟨virt, phys, headroom, locatedVirt, locatedPhys, addrVirt, addrPhys, fits⟩ := housed
  exact ⟨phys, locatedPhys, by omega, by omega⟩

/-- The address in a descriptor is the packet's own. -/
theorem Packet.Housed.busAddress (housed : packet.Housed profile arcs)
    (laid : arcs.Laid profile translate) : packet.busAddress.toNat = packet.addrPhys := by
  obtain ⟨virt, phys, headroom, locatedVirt, locatedPhys, addrVirt, addrPhys, fits⟩ := housed
  have bound := (laid.backed _ _ _ _ locatedVirt locatedPhys).2
  rw [Packet.busAddress, BitVec.toNat_ofNat]
  exact Nat.mod_eq_of_lt (by simp only [usizeModulus] at bound; omega)

/-- A packet that begins at the headroom and fits behind it is housed. -/
theorem Packet.StartsAt.housed (starts : packet.StartsAt profile packetHeadroom arcs)
    (laid : arcs.Laid profile translate)
    (fits : packet.len + packetHeadroom ≤ (arcs.pool packet.pool).entrySize) :
    packet.Housed profile arcs := by
  obtain ⟨⟨virt, locatedVirt, addrVirt⟩, ⟨phys, locatedPhys, added⟩⟩ := starts
  have bound := (laid.backed _ _ _ _ locatedVirt locatedPhys).2
  rw [usizeAdd_of_lt (by omega)] at added
  exact ⟨virt, phys, packetHeadroom, locatedVirt, locatedPhys, addrVirt,
    (Except.ok.inj added).symm, by omega⟩

/-- So is one that begins where its entry does. -/
theorem Packet.StartsAt.housed_zero (starts : packet.StartsAt profile 0 arcs)
    (laid : arcs.Laid profile translate) (fits : packet.len ≤ (arcs.pool packet.pool).entrySize) :
    packet.Housed profile arcs := by
  obtain ⟨⟨virt, locatedVirt, addrVirt⟩, ⟨phys, locatedPhys, added⟩⟩ := starts
  have bound := (laid.backed _ _ _ _ locatedVirt locatedPhys).2
  rw [usizeAdd_of_lt (by omega)] at added
  exact ⟨virt, phys, 0, locatedVirt, locatedPhys, addrVirt, (Except.ok.inj added).symm, by omega⟩

theorem allocPkt_housed {size : Nat} (laid : arcs.Laid profile translate)
    (allocated : allocPkt profile ref size arcs = .ok (some packet, after)) :
    packet.Housed profile arcs := by
  rcases allocPkt_cases (laid.headroom ref) allocated with
    ⟨impossible, _⟩ | ⟨_, same, fits, length, own, _⟩
  · cases impossible
  · cases same
    refine (allocPkt_starts allocated).housed laid ?_
    rw [length, own]
    exact fits

end Layout

/-- What an operation on the pools does to the caller's packets. -/
inductive PoolEffect (profile : Profile) (system : System) : PoolAction → System → Prop where
  | allocate {ref : PoolRef} {size : Nat} {packet : Packet} {arcs : Arcs} :
      allocPkt profile ref size system.machine.arcs = .ok (some packet, arcs) →
      PoolEffect profile system (.alloc ref size)
        ((system.withArcs arcs).withLive (system.live ++ [packet]))
  | exhausted {ref : PoolRef} {size : Nat} : PoolEffect profile system (.alloc ref size) system
  | construct {poolEntry len : Nat} {ref : PoolRef} {after : System} :
      PoolEffect profile system (.construct poolEntry ref len) after
  | clone {position : Nat} {packet copy : Packet} {arcs : Arcs} :
      system.live[position]? = some packet →
      allocPkt profile packet.pool packet.len system.machine.arcs = .ok (some copy, arcs) →
      PoolEffect profile system (.clone position)
        ((system.withArcs arcs).withLive (system.live ++ [copy]))
  | drop {position : Nat} {packet : Packet} {arcs : Arcs} : system.live[position]? = some packet →
      PoolEffect profile system (.drop position)
        ((system.withArcs arcs).withLive (system.live.eraseIdx position))
  | cloneHandle {ref : PoolRef} {after : System} : after.live = system.live →
      PoolEffect profile system (.cloneHandle ref) after
  | dropHandle {ref : PoolRef} {after : System} : after.live = system.live →
      PoolEffect profile system (.dropHandle ref) after

section Effect

variable {profile : Profile} {system after : System} {translate : Nat → Nat} {packet : Packet}

theorem poolStep_effect {action : PoolAction}
    (stepped : poolStep profile system action = some (.ok after)) :
    PoolEffect profile system action after := by
  cases action with
  | alloc ref size =>
      simp only [poolStep] at stepped
      split at stepped
      · cases stepped
      · obtain ⟨⟨result, arcs⟩, allocated, returned⟩ := except_bind_ok (Option.some.inj stepped)
        cases result with
        | error failure =>
            rcases IgbNetBuf.alloc_ok allocated with ⟨_, rfl⟩ | ⟨_, impossible, _⟩
            · cases returned
              exact .exhausted
            · cases impossible
        | ok buf =>
            cases returned
            exact .allocate (IgbNetBuf.alloc_allocPkt allocated)
  | construct poolEntry ref len => exact .construct
  | clone position =>
      simp only [poolStep] at stepped
      split at stepped
      · cases stepped
      · rename_i packet owned
        obtain ⟨⟨copy, arcs⟩, cloned, returned⟩ := except_bind_ok (Option.some.inj stepped)
        cases returned
        exact .clone owned (Packet.clone_allocPkt cloned)
  | drop position =>
      simp only [poolStep] at stepped
      split at stepped
      · cases stepped
      · rename_i packet owned
        obtain ⟨arcs, _, returned⟩ := except_bind_ok (Option.some.inj stepped)
        cases returned
        exact .drop owned
  | cloneHandle ref =>
      simp only [poolStep] at stepped
      split at stepped
      · cases stepped
      · cases stepped
        exact .cloneHandle rfl
  | dropHandle ref =>
      simp only [poolStep] at stepped
      split at stepped
      · cases stepped
      · cases stepped
        exact .dropHandle rfl

/-- What the caller makes of a pool is housed. -/
theorem PoolEffect.housed {action : PoolAction} (effect : PoolEffect profile system action after)
    (honest : NoConstruct system (.pool action)) (laid : system.machine.arcs.Laid profile translate)
    (owned : packet ∈ after.live) : packet ∈ system.live ∨
      packet.Housed profile system.machine.arcs := by
  cases effect with
  | allocate allocated | clone _ allocated =>
      rcases List.mem_append.mp owned with old | new
      · exact .inl old
      · cases List.mem_singleton.mp new
        exact .inr (allocPkt_housed laid allocated)
  | exhausted => exact .inl owned
  | construct => exact honest.elim
  | drop => exact .inl (List.mem_of_mem_eraseIdx owned)
  | cloneHandle same | dropHandle same => exact .inl (by rwa [← same])

end Effect

end IgbDriver
