import IgbDriver.Hal
import IgbDriver.Constants

namespace IgbDriver

open Foundation

/-! # Packet buffer pools and packets -/

/-- Identity of a pool, as `Arc::ptr_eq` compares it. -/
abbrev PoolRef := Nat

structure MemPool where
  baseAddr : BitVec 64
  numEntries : Nat
  entrySize : Nat
  physAddr : List (BitVec 64)
  freeStack : List Nat
  physAddr_length : physAddr.length = numEntries
deriving DecidableEq

/-- A DMA area seen as an array of cells; pointers into it are cell numbers. -/
structure Dma (δ : Type) where
  virt : BitVec 64
  phys : BitVec 64
  cells : List δ

namespace Dma

variable {σ δ : Type}

def allocate (host : Host σ) (size : Nat) (cells : List δ) : Prog Panic σ IgbError (Dma δ) := do
  let env ← Prog.read
  let ((pa, va), env) := host.dmaAlloc size env
  Prog.update fun _ => env
  pure { virt := va, phys := pa, cells }

end Dma

namespace MemPool

variable {σ : Type}

/-- The loop of `allocate` over the entries, from entry `start` on. -/
def mapEntries (host : Host σ) (virt : BitVec 64) (entrySize : Nat) : (start count : Nat) →
    Prog Panic σ IgbError { addresses : List (BitVec 64) // addresses.length = count }
  | _, 0 => pure ⟨[], rfl⟩
  | i, count + 1 => do
      let offset ← Prog.lift (usizeMul host.profile i entrySize)
      let pointer := virt + BitVec.ofNat 64 offset
      if pointer = 0 then Prog.abort (.panic .nullPointer)
      else do
        let rest ← mapEntries host virt entrySize (i + 1) count
        pure ⟨host.mmioVirtToPhys pointer entrySize :: rest.val, by simp [rest.property]⟩

def allocate (host : Host σ) (entries size : Nat) : Prog Panic σ IgbError MemPool := do
  let entrySize := if size = 0 then 2048 else size
  if hugePageSize % entrySize ≠ 0 then Prog.fail .pageNotAligned
  else do
    let bytes ← Prog.lift (usizeMul host.profile entries entrySize)
    let dma ← Dma.allocate host bytes ([] : List Unit)
    let physAddr ← mapEntries host dma.virt entrySize 0 entries
    pure {
      baseAddr := dma.virt
      numEntries := entries
      entrySize
      physAddr := physAddr.val
      freeStack := List.range entries
      physAddr_length := physAddr.property }

/-- The top of the stack, which `pop` takes off the end of the vector. -/
def allocBuf (pool : MemPool) : Option Nat × MemPool :=
  (pool.freeStack.getLast?, { pool with freeStack := pool.freeStack.dropLast })

def freeBuf (pool : MemPool) (id : Nat) : Except (Abort Panic) MemPool :=
  if pool.numEntries ≤ id then .error (.panic (.freeOutsidePool id))
  else if id ∈ pool.freeStack then .error (.panic .bufferAlreadyFree)
  else .ok { pool with freeStack := pool.freeStack ++ [id] }

/-- `free_stack.borrow_mut().extend(ids)`, which checks nothing. -/
def extendFree (pool : MemPool) (ids : List Nat) : MemPool :=
  { pool with freeStack := pool.freeStack ++ ids }

def getVirtAddr (profile : Profile) (pool : MemPool) (id : Nat) : Except (Abort Panic) Nat :=
  if pool.numEntries ≤ id then .error (.panic (.addressOutsidePool id))
  else do
    let offset ← usizeMul profile id pool.entrySize
    .ok (pool.baseAddr.toNat + offset)

def getPhysAddr (pool : MemPool) (id : Nat) : Except (Abort Panic) Nat := do
  let address ← indexSlice .indexOutOfBounds pool.physAddr id
  .ok address.toNat

end MemPool

structure Packet where
  addrVirt : Nat
  addrPhys : Nat
  len : Nat
  pool : PoolRef
  poolEntry : Nat
deriving DecidableEq, Repr

/-- What an `Arc<MemPool>` points at. -/
structure ArcInner where
  strong : Nat
  data : MemPool

abbrev Arcs := PoolRef → ArcInner

namespace Arcs

def pool (arcs : Arcs) (ref : PoolRef) : MemPool := (arcs ref).data

def setPool (arcs : Arcs) (ref : PoolRef) (pool : MemPool) : Arcs := fun other =>
  if other = ref then { arcs ref with data := pool } else arcs other

def clone (arcs : Arcs) (ref : PoolRef) : Arcs := fun other =>
  if other = ref then { arcs ref with strong := (arcs ref).strong + 1 } else arcs other

def drop (arcs : Arcs) (ref : PoolRef) : Arcs := fun other =>
  if other = ref then { arcs ref with strong := (arcs ref).strong - 1 } else arcs other

end Arcs

/-- `Packet::drop`: the entry goes back to the pool, then the handle is dropped. -/
def Packet.drop (packet : Packet) (arcs : Arcs) : Except (Abort Panic) Arcs := do
  let pool ← (arcs.pool packet.pool).freeBuf packet.poolEntry
  .ok ((arcs.setPool packet.pool pool).drop packet.pool)

def allocPkt (profile : Profile) (ref : PoolRef) (size : Nat) (arcs : Arcs) :
    Except (Abort Panic) (Option Packet × Arcs) := do
  let limit ← usizeSub profile (arcs.pool ref).entrySize packetHeadroom
  if limit < size then .ok (none, arcs)
  else match (arcs.pool ref).allocBuf with
    | (none, _) => .ok (none, arcs)
    | (some id, pool) => do
        let virt ← pool.getVirtAddr profile id
        let phys ← pool.getPhysAddr id
        let addrPhys ← usizeAdd profile phys packetHeadroom
        let packet :=
          { addrVirt := virt + packetHeadroom, addrPhys, len := size, pool := ref, poolEntry := id }
        .ok (some packet, (arcs.setPool ref pool).clone ref)

/-- `Packet::clone`; the copied bytes are not part of the packet value. -/
def Packet.clone (profile : Profile) (packet : Packet) (arcs : Arcs) :
    Except (Abort Panic) (Packet × Arcs) := do
  match ← allocPkt profile packet.pool packet.len arcs with
  | (some copy, arcs) => .ok (copy, arcs)
  | (none, _) => .error (.panic .noBufferAvailable)

structure IgbNetBuf where
  packet : Packet
deriving DecidableEq, Repr

namespace IgbNetBuf

def alloc (profile : Profile) (ref : PoolRef) (size : Nat) (arcs : Arcs) :
    Except (Abort Panic) (Except IgbError IgbNetBuf × Arcs) := do
  match ← allocPkt profile ref size arcs with
  | (some packet, arcs) => .ok (.ok { packet }, arcs)
  | (none, arcs) => .ok (.error .noMemory, arcs)

def construct (profile : Profile) (poolEntry : Nat) (ref : PoolRef) (len : Nat) (arcs : Arcs) :
    Except (Abort Panic) (Except IgbError IgbNetBuf × Arcs) := do
  let virt ← (arcs.pool ref).getVirtAddr profile poolEntry
  let phys ← (arcs.pool ref).getPhysAddr poolEntry
  let addrPhys ← usizeAdd profile phys packetHeadroom
  let packet := { addrVirt := virt + packetHeadroom, addrPhys, len, pool := ref, poolEntry }
  .ok (.ok { packet }, arcs.clone ref)

end IgbNetBuf

/-- What no operation changes of a pool. -/
def MemPool.layout (pool : MemPool) : MemPool := { pool with freeStack := [] }

namespace Arcs

def free (arcs : Arcs) (ref : PoolRef) : List Nat := (arcs.pool ref).freeStack

def strong (arcs : Arcs) (ref : PoolRef) : Nat := (arcs ref).strong

def layout (arcs : Arcs) (ref : PoolRef) : MemPool := (arcs.pool ref).layout

def setFree (arcs : Arcs) (ref : PoolRef) (stack : List Nat) : Arcs :=
  arcs.setPool ref { arcs.pool ref with freeStack := stack }

variable (arcs : Arcs) (ref other : PoolRef) (stack : List Nat)

@[simp] theorem free_setFree :
    (arcs.setFree ref stack).free other = if other = ref then stack else arcs.free other := by
  simp only [free, pool, setFree, setPool]
  split <;> rfl

@[simp] theorem free_clone : (arcs.clone ref).free other = arcs.free other := by
  simp only [free, pool, clone]
  split <;> simp [*]

@[simp] theorem free_drop : (arcs.drop ref).free other = arcs.free other := by
  simp only [free, pool, drop]
  split <;> simp [*]

@[simp] theorem strong_setFree : (arcs.setFree ref stack).strong other = arcs.strong other := by
  simp only [strong, setFree, setPool]
  split <;> simp [*]

@[simp] theorem strong_clone :
    (arcs.clone ref).strong other = if other = ref then arcs.strong ref + 1 else
    arcs.strong other := by
  simp only [strong, clone]
  split <;> rfl

@[simp] theorem strong_drop :
    (arcs.drop ref).strong other = if other = ref then arcs.strong ref - 1 else
    arcs.strong other := by
  simp only [strong, drop]
  split <;> rfl

@[simp] theorem layout_setFree : (arcs.setFree ref stack).layout other = arcs.layout other := by
  simp only [layout, pool, setFree, setPool, MemPool.layout]
  split <;> simp [*]

@[simp] theorem layout_clone : (arcs.clone ref).layout other = arcs.layout other := by
  simp only [layout, pool, clone]
  split <;> simp [*]

@[simp] theorem layout_drop : (arcs.drop ref).layout other = arcs.layout other := by
  simp only [layout, pool, drop]
  split <;> simp [*]

end Arcs

/-- The panics of `free_buf`. -/
def Panic.fromFreeBuf : Panic → Bool
  | .freeOutsidePool _ => true
  | .bufferAlreadyFree => true
  | _ => false

/-- An abort that is not a panic of `free_buf`. -/
def SparesFreeBuf : Abort Panic → Prop
  | .panic reason => reason.fromFreeBuf = false
  | _ => True

variable {profile : Profile} {ref : PoolRef} {arcs after : Arcs} {packet : Packet}

theorem MemPool.allocBuf_some {pool pool' : MemPool} {id : Nat}
    (popped : pool.allocBuf = (some id, pool')) :
    ∃ rest, pool.freeStack = rest ++ [id] ∧ pool' = { pool with freeStack := rest } := by
  simp only [allocBuf, Prod.mk.injEq] at popped
  obtain ⟨last, same⟩ := popped
  obtain ⟨rest, stack⟩ := List.getLast?_eq_some_iff.mp last
  exact ⟨rest, stack, by rw [← same, stack, List.dropLast_concat]⟩

theorem MemPool.allocBuf_none {pool pool' : MemPool} (popped : pool.allocBuf = (none, pool')) :
    pool.freeStack = [] := by
  simp only [allocBuf, Prod.mk.injEq, List.getLast?_eq_none_iff] at popped
  exact popped.1

theorem MemPool.getVirtAddr_ok {pool : MemPool} {id address : Nat}
    (found : pool.getVirtAddr profile id = .ok address) : id < pool.numEntries := by
  unfold getVirtAddr at found
  split at found
  · cases found
  · omega

theorem MemPool.getPhysAddr_ok {pool : MemPool} {id address : Nat}
    (found : pool.getPhysAddr id = .ok address) :
    ∃ word, pool.physAddr[id]? = some word ∧ address = word.toNat := by
  obtain ⟨word, indexed, same⟩ := except_bind_ok found
  cases same
  exact ⟨word, indexSlice_ok indexed, rfl⟩

/-- Only the layout of a pool decides where its entries lie. -/
theorem MemPool.getPhysAddr_layout (pool : MemPool) (id : Nat) :
    pool.layout.getPhysAddr id = pool.getPhysAddr id := rfl

/-- What taking an entry off the free stack for a new packet does. -/
structure Allocates (arcs : Arcs) (ref : PoolRef) (packet : Packet) (after : Arcs) : Prop where
  pool : packet.pool = ref
  bound : packet.poolEntry < (arcs.pool ref).numEntries
  taken : ∃ rest, arcs.free ref = rest ++ [packet.poolEntry] ∧
    after = (arcs.setFree ref rest).clone ref

/-- What dropping a packet does. -/
structure Frees (arcs : Arcs) (packet : Packet) (after : Arcs) : Prop where
  bound : packet.poolEntry < (arcs.pool packet.pool).numEntries
  fresh : packet.poolEntry ∉ arcs.free packet.pool
  given : after =
    (arcs.setFree packet.pool (arcs.free packet.pool ++ [packet.poolEntry])).drop packet.pool

theorem allocPkt_ok {size : Nat} {result : Option Packet}
    (allocated : allocPkt profile ref size arcs = .ok (result, after)) :
    (result = none ∧ after = arcs) ∨
      ∃ packet, result = some packet ∧ packet.len = size ∧ Allocates arcs ref packet after := by
  obtain ⟨limit, _, allocated⟩ := except_bind_ok allocated
  split at allocated
  · cases allocated
    exact .inl ⟨rfl, rfl⟩
  · split at allocated
    · cases allocated
      exact .inl ⟨rfl, rfl⟩
    · rename_i id pool popped
      obtain ⟨rest, stack, rfl⟩ := MemPool.allocBuf_some popped
      obtain ⟨virt, located, allocated⟩ := except_bind_ok allocated
      obtain ⟨phys, _, allocated⟩ := except_bind_ok allocated
      obtain ⟨addrPhys, _, allocated⟩ := except_bind_ok allocated
      cases allocated
      exact .inr ⟨_, rfl, rfl, rfl, MemPool.getVirtAddr_ok located, rest, stack, rfl⟩

/-- `alloc` and `clone` hand on what `alloc_pkt` made. -/
theorem IgbNetBuf.alloc_allocPkt {size : Nat} {buf : IgbNetBuf}
    (allocated : IgbNetBuf.alloc profile ref size arcs = .ok (.ok buf, after)) :
    allocPkt profile ref size arcs = .ok (some buf.packet, after) := by
  obtain ⟨⟨made, middle⟩, allocated, returned⟩ := except_bind_ok allocated
  cases made with
  | none => cases returned
  | some packet =>
      cases returned
      exact allocated

theorem Packet.clone_allocPkt {copy : Packet}
    (cloned : packet.clone profile arcs = .ok (copy, after)) :
    allocPkt profile packet.pool packet.len arcs = .ok (some copy, after) := by
  obtain ⟨⟨made, middle⟩, allocated, returned⟩ := except_bind_ok cloned
  cases made with
  | none => cases returned
  | some packet =>
      cases returned
      exact allocated

theorem Packet.clone_ok {copy : Packet} (cloned : packet.clone profile arcs = .ok (copy, after)) :
    Allocates arcs packet.pool copy after := by
  rcases allocPkt_ok (Packet.clone_allocPkt cloned) with ⟨made, _⟩ | ⟨other, made, _, allocates⟩
  · cases made
  · cases made
    exact allocates

theorem Packet.drop_ok (dropped : packet.drop arcs = .ok after) : Frees arcs packet after := by
  obtain ⟨pool, freed, dropped⟩ := except_bind_ok dropped
  unfold MemPool.freeBuf at freed
  split at freed
  · cases freed
  · split at freed
    · cases freed
    · rename_i inside fresh
      cases freed
      cases dropped
      exact ⟨by omega, fresh, rfl⟩

theorem IgbNetBuf.alloc_ok {size : Nat} {result : Except IgbError IgbNetBuf}
    (allocated : IgbNetBuf.alloc profile ref size arcs = .ok (result, after)) :
    (result = .error .noMemory ∧ after = arcs) ∨
      ∃ packet, result = .ok { packet } ∧ packet.len = size ∧ Allocates arcs ref packet after := by
  obtain ⟨⟨made, middle⟩, allocated, returned⟩ := except_bind_ok allocated
  rcases allocPkt_ok allocated with ⟨rfl, rfl⟩ | ⟨packet, rfl, length, allocates⟩
  · cases returned
    exact .inl ⟨rfl, rfl⟩
  · cases returned
    exact .inr ⟨packet, rfl, length, allocates⟩

theorem IgbNetBuf.construct_ok {poolEntry len : Nat} {result : Except IgbError IgbNetBuf}
    (constructed : IgbNetBuf.construct profile poolEntry ref len arcs = .ok (result, after)) :
    ∃ packet, result = .ok { packet } ∧ packet.pool = ref ∧ packet.poolEntry = poolEntry ∧
      after = arcs.clone ref := by
  obtain ⟨virt, _, constructed⟩ := except_bind_ok constructed
  obtain ⟨phys, _, constructed⟩ := except_bind_ok constructed
  obtain ⟨addrPhys, _, constructed⟩ := except_bind_ok constructed
  cases constructed
  exact ⟨_, rfl, rfl, rfl, rfl⟩

section SparesFreeBuf

theorem MemPool.getVirtAddr_spares (pool : MemPool) (id : Nat) :
    AbortsOnly SparesFreeBuf (pool.getVirtAddr profile id) := by
  simp only [getVirtAddr]
  split
  · exact .error rfl
  · exact (abortsOnly_usizeMul trivial).bind (fun _ _ => .ok _)

theorem MemPool.getPhysAddr_spares (pool : MemPool) (id : Nat) :
    AbortsOnly SparesFreeBuf (pool.getPhysAddr id) :=
  AbortsOnly.bind (abortsOnly_indexSlice (by rfl)) (fun _ _ => .ok _)

theorem allocPkt_spares (size : Nat) : AbortsOnly SparesFreeBuf
    (allocPkt profile ref size arcs) := by
  refine (abortsOnly_usizeSub trivial).bind (fun _ _ => ?_)
  split
  · exact .ok _
  · split
    · exact .ok _
    · refine (MemPool.getVirtAddr_spares _ _).bind (fun _ _ => ?_)
      refine (MemPool.getPhysAddr_spares _ _).bind (fun _ _ => ?_)
      exact (abortsOnly_usizeAdd trivial).bind (fun _ _ => .ok _)

theorem Packet.clone_spares : AbortsOnly SparesFreeBuf (packet.clone profile arcs) := by
  refine (allocPkt_spares _).bind (fun result _ => ?_)
  split
  · exact .ok _
  · exact .error rfl

theorem IgbNetBuf.alloc_spares (size : Nat) :
    AbortsOnly SparesFreeBuf (IgbNetBuf.alloc profile ref size arcs) := by
  refine (allocPkt_spares _).bind (fun result _ => ?_)
  split <;> exact .ok _

theorem IgbNetBuf.construct_spares (poolEntry len : Nat) :
    AbortsOnly SparesFreeBuf (IgbNetBuf.construct profile poolEntry ref len arcs) := by
  refine (MemPool.getVirtAddr_spares _ _).bind (fun _ _ => ?_)
  refine (MemPool.getPhysAddr_spares _ _).bind (fun _ _ => ?_)
  exact (abortsOnly_usizeAdd trivial).bind (fun _ _ => .ok _)

/-- Dropping a packet whose entry is in range and not free cannot panic. -/
theorem Packet.drop_returns (bound : packet.poolEntry < (arcs.pool packet.pool).numEntries)
    (fresh : packet.poolEntry ∉ arcs.free packet.pool) : ∃ after, packet.drop arcs = .ok after := by
  have freed : (arcs.pool packet.pool).freeBuf packet.poolEntry =
      .ok ((arcs.pool packet.pool).extendFree [packet.poolEntry]) := by
    simp only [MemPool.freeBuf]
    rw [if_neg (by omega)]
    exact if_neg fresh
  exact ⟨_, by rw [Packet.drop, freed]; rfl⟩

end SparesFreeBuf

end IgbDriver
