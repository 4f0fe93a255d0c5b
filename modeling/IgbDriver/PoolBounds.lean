import IgbDriver.Separation

namespace IgbDriver

open Foundation

/-! # The bounds of a pool

`allocate` admits every divisor of 2 MiB as an entry size, also those below the headroom
that `alloc_pkt` subtracts from it.
-/

variable {σ : Type} {host : Host σ} {profile : Profile} {env env' : σ} {entries size bytes : Nat}
  {pool : MemPool} {ref : PoolRef} {arcs after : Arcs} {packet : Packet}

/-- The slots are disjoint parts of the memory that `allocate` asked for. -/
structure MemPool.LaidOut (host : Host σ) (env : σ) (entries : Nat) (pool : MemPool) : Prop where
  region : pool.baseAddr = (host.dmaAlloc (entries * pool.entrySize) env).1.2
  inside : ∀ profile id, id < entries → ∃ address, pool.getVirtAddr profile id = .ok address ∧
    pool.baseAddr.toNat ≤ address ∧
    address + pool.entrySize ≤ pool.baseAddr.toNat + entries * pool.entrySize
  apart : ∀ profile first second address address', first ≠ second →
    pool.getVirtAddr profile first = .ok address → pool.getVirtAddr profile second = .ok address' →
    address + pool.entrySize ≤ address' ∨ address' + pool.entrySize ≤ address

/-- The packet and the headroom before it lie in the slot of its entry, at one offset for
the caller and on the bus. -/
def Packet.InSlot (profile : Profile) (pool : MemPool) (packet : Packet) : Prop :=
  ∃ virt phys, pool.getVirtAddr profile packet.poolEntry = .ok virt ∧
    pool.getPhysAddr packet.poolEntry = .ok phys ∧ virt + packetHeadroom ≤ packet.addrVirt ∧
    packet.addrVirt + packet.len ≤ virt + pool.entrySize ∧ packet.addrPhys + virt =
      packet.addrVirt + phys

/-- `alloc_pkt` returns, with nothing exactly if the packet is too large or the pool empty,
and what it makes lies in its slot. -/
structure PacketsBounded (profile : Profile) (arcs : Arcs) (ref : PoolRef)
    (bytes : Nat) : Prop where
  returns : ∃ result after, allocPkt profile ref bytes arcs = .ok (result, after) ∧
    (result = none ↔ (arcs.pool ref).entrySize < bytes + packetHeadroom ∨ arcs.free ref = [])
  made : ∀ packet after, allocPkt profile ref bytes arcs = .ok (some packet, after) →
    packet.InSlot profile (arcs.pool ref)
  buffer : ∀ buf after, IgbNetBuf.alloc profile ref bytes arcs = .ok (.ok buf, after) →
    buf.packet.InSlot profile (arcs.pool ref)
  copied : ∀ (packet copy : Packet) after, packet.pool = ref → packet.len = bytes →
    packet.clone profile arcs = .ok (copy, after) → copy.InSlot profile (arcs.pool ref)

/-- If a packet of `bytes` is to be made, the entry on top of the stack is one of the
pool's, with a physical address the headroom can be added to. -/
def MemPool.TopUsable (pool : MemPool) (bytes : Nat) : Prop :=
  bytes + packetHeadroom ≤ pool.entrySize → ∀ id ∈ pool.freeStack.getLast?,
    id < pool.numEntries ∧ (pool.busAddress id).toNat + packetHeadroom < usizeModulus

section Slots

theorem MemPool.allocate_ok (made : MemPool.allocate host entries size env = .ok (.ok pool, env')) :
    pool.numEntries = entries ∧ pool.entrySize = (if size = 0 then 2048 else size) ∧
      (entries * pool.entrySize < usizeModulus →
        pool.baseAddr = (host.dmaAlloc (entries * pool.entrySize) env).1.2) := by
  simp only [allocate] at made
  generalize (if size = 0 then 2048 else size) = entrySize at made ⊢
  split at made
  · cases made
  · obtain ⟨asked, multiplied, made⟩ := Prog.bind_lift_ok made
    obtain ⟨dma, middle, area, made⟩ := Prog.bind_ok made
    obtain ⟨addresses, last, _, made⟩ := Prog.bind_ok made
    cases made
    cases area
    constructor
    · rfl
    · constructor
      · rfl
      · intro fits
        change entries * entrySize < usizeModulus at fits
        rw [usizeMul_of_lt fits] at multiplied
        cases multiplied
        rfl

theorem MemPool.Allocated.entrySize_pos (allocated : pool.Allocated host) : 0 < pool.entrySize := by
  have divides := allocated.divides
  by_contra none
  rw [Nat.eq_zero_of_not_pos none] at divides
  cases divides

/-- Where nothing wraps, both profiles find an entry at a multiple of the entry size. -/
theorem MemPool.getVirtAddr_of_fits (fits : pool.numEntries * pool.entrySize < usizeModulus)
    {id : Nat} (inside : id < pool.numEntries) :
    pool.getVirtAddr profile id = .ok (pool.baseAddr.toNat + id * pool.entrySize) := by
  have below : id * pool.entrySize ≤ pool.numEntries * pool.entrySize :=
    Nat.mul_le_mul_right _ (Nat.le_of_lt inside)
  rw [getVirtAddr, if_neg (by omega), usizeMul_of_lt (by omega)]
  rfl

theorem MemPool.virtAddress_of_fits (fits : pool.numEntries * pool.entrySize < usizeModulus)
    {id : Nat} (inside : id < pool.numEntries) : pool.virtAddress id =
      pool.baseAddr.toNat + id * pool.entrySize := by
  have below : id * pool.entrySize ≤ pool.numEntries * pool.entrySize :=
    Nat.mul_le_mul_right _ (Nat.le_of_lt inside)
  rw [virtAddress, Nat.mod_eq_of_lt (by omega)]

theorem MemPool.laidOut (made : MemPool.allocate host entries size env = .ok (.ok pool, env'))
    (fits : entries * pool.entrySize < usizeModulus) : pool.LaidOut host env entries := by
  have allocated := (MemPool.allocated_of_allocate made).1
  have positive := allocated.entrySize_pos
  obtain ⟨rfl, _, region⟩ := MemPool.allocate_ok made
  constructor
  · exact region fits
  · intro profile id inside
    have next : (id + 1) * pool.entrySize ≤ pool.numEntries * pool.entrySize :=
      Nat.mul_le_mul_right _ inside
    rw [Nat.succ_mul] at next
    exact ⟨_, MemPool.getVirtAddr_of_fits fits inside, Nat.le_add_right _ _, by omega⟩
  · intro profile first second address address' differ located located'
    have inside := MemPool.getVirtAddr_ok located
    have inside' := MemPool.getVirtAddr_ok located'
    rw [MemPool.getVirtAddr_of_fits fits inside, ← MemPool.virtAddress_of_fits fits
      inside] at located
    rw [MemPool.getVirtAddr_of_fits fits inside', ← MemPool.virtAddress_of_fits fits
      inside'] at located'
    cases located
    cases located'
    apply allocated.slots_apart
    intro same
    rw [MemPool.virtAddress_of_fits fits inside, MemPool.virtAddress_of_fits fits inside'] at same
    exact differ (Nat.eq_of_mul_eq_mul_right positive (Nat.add_left_cancel same))

end Slots

section Packets

theorem allocPkt_none (room : packetHeadroom ≤ (arcs.pool ref).entrySize)
    (nothing : (arcs.pool ref).entrySize < bytes + packetHeadroom ∨ arcs.free ref = []) :
    allocPkt profile ref bytes arcs = .ok (none, arcs) := by
  rw [allocPkt, usizeSub_of_le room, except_ok_bind]
  by_cases long : (arcs.pool ref).entrySize - packetHeadroom < bytes
  · rw [if_pos long]
  · have empty : arcs.free ref = [] := nothing.resolve_left (by omega)
    have popped : (arcs.pool ref).allocBuf =
        (none, { arcs.pool ref with freeStack := (arcs.free ref).dropLast }) := by
      rw [MemPool.allocBuf, ← Arcs.free, empty]
      rfl
    rw [if_neg long, popped]

theorem allocPkt_some (room : packetHeadroom ≤ (arcs.pool ref).entrySize)
    (fits : (arcs.pool ref).numEntries * (arcs.pool ref).entrySize < usizeModulus)
    (short : bytes + packetHeadroom ≤ (arcs.pool ref).entrySize) {id : Nat}
    (last : (arcs.free ref).getLast? = some id) (inside : id < (arcs.pool ref).numEntries)
    (addressable : ((arcs.pool ref).busAddress id).toNat + packetHeadroom < usizeModulus) :
    ∃ packet after, allocPkt profile ref bytes arcs = .ok (some packet, after) := by
  obtain ⟨rest, popped, located, addressed⟩ : ∃ rest : MemPool, (arcs.pool ref).allocBuf =
    (some id, rest) ∧
      rest.getVirtAddr profile id = (arcs.pool ref).getVirtAddr profile id ∧
      rest.getPhysAddr id = (arcs.pool ref).getPhysAddr id := by
    refine ⟨(arcs.pool ref).allocBuf.2, ?_, rfl, rfl⟩
    rw [← last]
    rfl
  rw [allocPkt, usizeSub_of_le room, except_ok_bind, if_neg (by omega), popped]
  simp only [located, addressed]
  rw [MemPool.getVirtAddr_of_fits fits inside, except_ok_bind,
    MemPool.Allocated.getPhysAddr_apply inside, except_ok_bind, usizeAdd_of_lt addressable]
  exact ⟨_, _, rfl⟩

/-- What is made of the entry on top of the stack lies in its slot. -/
theorem allocPkt_inSlot (room : packetHeadroom ≤ (arcs.pool ref).entrySize)
    (usable : (arcs.pool ref).TopUsable bytes)
    (allocated : allocPkt profile ref bytes arcs = .ok (some packet, after)) :
    packet.InSlot profile (arcs.pool ref) := by
  have starts := allocPkt_starts allocated
  rcases allocPkt_cases room allocated with ⟨made, _⟩ | ⟨other, made, short, length, own, last⟩
  · cases made
  · cases made
    subst own
    obtain ⟨virt, located, begins⟩ := starts.virt
    obtain ⟨phys, addressed, added⟩ := starts.phys
    obtain ⟨inside, addressable⟩ := usable short _ last
    cases addressed.symm.trans (MemPool.Allocated.getPhysAddr_apply inside)
    rw [usizeAdd_of_lt addressable] at added
    have bus := Except.ok.inj added
    exact ⟨virt, _, located, addressed, by omega, by omega, by omega⟩

/-- `alloc_pkt` keeps its promises in both profiles if and only if the entries are larger
than the headroom and the top of the stack is usable. -/
theorem packetsBounded_iff
    (fits : (arcs.pool ref).numEntries * (arcs.pool ref).entrySize < usizeModulus) :
    (∀ profile, PacketsBounded profile arcs ref bytes) ↔
      packetHeadroom ≤ (arcs.pool ref).entrySize ∧ (arcs.pool ref).TopUsable bytes := by
  constructor
  · intro bounded
    -- Debug arithmetic traps where release arithmetic would wrap.
    obtain ⟨result, after, allocated, none_iff⟩ := (bounded .dev).returns
    have room : packetHeadroom ≤ (arcs.pool ref).entrySize := by
      obtain ⟨limit, subtracted, _⟩ := except_bind_ok allocated
      by_contra small
      rw [usizeSub, if_neg small] at subtracted
      cases subtracted
    constructor
    · exact room
    · intro short id last
      cases result with
      | none =>
          rcases none_iff.mp rfl with long | empty
          · omega
          · rw [← Arcs.free, empty] at last
            cases last
      | some packet =>
          rcases allocPkt_cases room allocated with ⟨made, _⟩ | ⟨other, made, _, length, own, last'⟩
          · cases made
          · cases made
            subst own
            cases last.symm.trans last'
            have starts := allocPkt_starts allocated
            obtain ⟨virt, located, _⟩ := starts.virt
            obtain ⟨phys, addressed, added⟩ := starts.phys
            have inside := MemPool.getVirtAddr_ok located
            cases addressed.symm.trans (MemPool.Allocated.getPhysAddr_apply inside)
            constructor
            · exact inside
            · by_contra wraps
              rw [usizeAdd, if_neg wraps] at added
              cases added
  · intro fine profile
    obtain ⟨room, usable⟩ := fine
    have made : ∀ packet after, allocPkt profile ref bytes arcs = .ok (some packet, after) →
        packet.InSlot profile (arcs.pool ref) :=
      fun packet after allocated => allocPkt_inSlot room usable allocated
    constructor
    · by_cases nothing : (arcs.pool ref).entrySize < bytes + packetHeadroom ∨ arcs.free ref = []
      · exact ⟨none, arcs, allocPkt_none room nothing, by simp only [nothing]⟩
      · push Not at nothing
        obtain ⟨short, some_free⟩ := nothing
        have last : (arcs.free ref).getLast? = some ((arcs.free ref).getLast some_free) :=
          List.getLast?_eq_some_getLast some_free
        obtain ⟨inside, addressable⟩ := usable short _ last
        obtain ⟨packet, after, allocated⟩ := allocPkt_some room fits short last inside addressable
        exact ⟨some packet, after,
          allocated, by simp only [reduceCtorEq, false_iff]; push Not; exact ⟨short, some_free⟩⟩
    · exact made
    · intro buf after allocated
      exact made _ _ (IgbNetBuf.alloc_allocPkt allocated)
    · intro packet copy after own length cloned
      rw [← own, ← length] at made
      rw [← own]
      exact made _ _ (Packet.clone_allocPkt cloned)

end Packets

section Allocated

/-- The slots of an allocated pool are laid out well. Its packets keep their bounds, whatever
is on the free stack, exactly if the entry size asked for is not below the headroom and the
top of the stack is usable. -/
theorem pool_bounds_iff (made : MemPool.allocate host entries size env = .ok (.ok pool, env'))
    (fits : entries * pool.entrySize < usizeModulus) (layout : arcs.layout ref = pool.layout) :
    pool.LaidOut host env entries ∧
      ((∀ profile, PacketsBounded profile arcs ref bytes) ↔
        (size = 0 ∨ packetHeadroom ≤ size) ∧ (arcs.pool ref).TopUsable bytes) := by
  have entrySize : (arcs.pool ref).entrySize = pool.entrySize :=
    congrArg (fun pool => pool.entrySize) layout
  have numEntries : (arcs.pool ref).numEntries = pool.numEntries :=
    congrArg (fun pool => pool.numEntries) layout
  obtain ⟨count, asked, _⟩ := MemPool.allocate_ok made
  have room : packetHeadroom ≤ (arcs.pool ref).entrySize ↔ size = 0 ∨ packetHeadroom ≤ size := by
    rw [entrySize, asked]
    split
    · rename_i default
      simp only [default, true_or, iff_true]
      decide
    · rename_i given
      simp only [given, false_or]
  constructor
  · exact MemPool.laidOut made fits
  · rw [← room]
    apply packetsBounded_iff
    rw [entrySize, numEntries, count]
    exact fits

/-- Eight entries of the default size, all free. -/
theorem pool_bounds_iff_default :
    (allocatedPool .dev 8 0).LaidOut (platform .dev) (fun _ => 0) 8 ∧
      ∀ profile, PacketsBounded profile (allocatedArcs .dev (fun _ => 8) (fun _ => 0)) 0 1500 := by
  let arcs := allocatedArcs .dev (fun _ => 8) (fun _ => 0)
  obtain ⟨env', made⟩ :=
    allocatedPool_made (show (allocatedPool .dev 8 0).numEntries ≠ 0 by decide +kernel)
  have top : (arcs.pool 0).freeStack.getLast? = some 7 := by decide +kernel
  have usable : (arcs.pool 0).TopUsable 1500 := by
    intro _ id last
    cases top.symm.trans last
    decide +kernel
  obtain ⟨laid, bounded⟩ :=
    pool_bounds_iff made (by decide +kernel) (show arcs.layout 0 = _ from rfl)
  exact ⟨laid, bounded.mpr ⟨.inl rfl, usable⟩⟩

/-- Entries of 16 bytes are admitted. `alloc_pkt` then overflows in a debug build, and
hands out a packet of 4096 bytes in a release build. -/
theorem alloc_pkt_underflows :
    let arcs := allocatedArcs .dev (fun _ => 8) (fun _ => 16)
    (∃ env', MemPool.allocate (platform .dev) 8 16 (fun _ => 0) = .ok (.ok (arcs.pool 0), env')) ∧
      8 * (arcs.pool 0).entrySize < usizeModulus ∧ allocPkt .dev 0 0 arcs = .error .overflow ∧
      (∃ packet after, allocPkt .release 0 4096 arcs = .ok (some packet, after) ∧
        ¬ packet.InSlot .release (arcs.pool 0)) ∧
      ¬ ∀ profile, PacketsBounded profile arcs 0 0 := by
  intro arcs
  have size : (arcs.pool 0).entrySize = 16 := by decide +kernel
  have underflow : (usizeSub .dev 16 packetHeadroom : Except (Abort Panic) Nat) =
      .error .overflow := rfl
  have traps : allocPkt .dev 0 0 arcs = .error .overflow := by
    rw [allocPkt, size, underflow]
    rfl
  have released : ∃ packet after, allocPkt .release 0 4096 arcs = .ok (some packet, after) ∧
      packet.len = 4096 :=
    ⟨_, _, rfl, rfl⟩
  constructor
  · exact allocatedPool_made (by decide +kernel)
  · refine ⟨by decide +kernel, traps, ?_, ?_⟩
    · obtain ⟨packet, after, allocated, length⟩ := released
      refine ⟨packet, after, allocated, ?_⟩
      intro inSlot
      obtain ⟨virt, phys, _, _, lower, upper, _⟩ := inSlot
      rw [size, length] at upper
      simp only [packetHeadroom] at lower
      omega
    · intro bounded
      obtain ⟨result, after, allocated, _⟩ := (bounded .dev).returns
      cases traps.symm.trans allocated

end Allocated

end IgbDriver
