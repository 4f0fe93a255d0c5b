import IgbDriver.Foundation.Prog

namespace IgbDriver

open Foundation

/-! # The outside of the driver

`IgbHal` is the trait the platform implements. `Host` adds what the driver reaches
directly: the device's register window and the profile it was compiled with.
`σ` is everything outside the driver; registers answer and change as they like.
-/

/-- The panics of the driver, one for each `assert!`, `panic!`, `expect` and
slice index it can reach. -/
inductive Panic where
  /-- A slice or vector index out of bounds. -/
  | indexOutOfBounds
  /-- `unwrap` of a null `NonNull`. -/
  | nullPointer
  /-- "memory access out of bounds" -/
  | registerOutOfBounds
  /-- "buffer outside of memory pool, id: {}", in `free_buf`. -/
  | freeOutsidePool (id : Nat)
  /-- "free buf: buffer already free" -/
  | bufferAlreadyFree
  /-- "buffer outside of memory pool, id: {}", in `get_virt_addr`. -/
  | addressOutsidePool (id : Nat)
  /-- "no buffer available" -/
  | noBufferAvailable
  /-- "Increase buffer size or decrease MTU" -/
  | bufferTooSmall
  /-- "Distince memory pools for a single tx queue are not supported yet." -/
  | distinctPools
  /-- "assertion failed: len <= PACKET_HEADROOM" -/
  | headroomTooLong
deriving DecidableEq, Repr

inductive IgbError where
  | queueNotAligned
  | queueFull
  | noMemory
  | pageNotAligned
  | notReady
  | invalidQueue
deriving DecidableEq, Repr

structure IgbHal (σ : Type) where
  /-- Physical and virtual address of fresh zeroed memory of the given size. -/
  dmaAlloc : Nat → σ → (BitVec 64 × BitVec 64) × σ
  mmioVirtToPhys : BitVec 64 → Nat → BitVec 64
  /-- Sleep for the given number of milliseconds. -/
  waitUntil : Nat → σ → σ

structure Host (σ : Type) extends IgbHal σ where
  profile : Profile
  readVolatile : Nat → σ → BitVec 32 × σ
  writeVolatile : Nat → BitVec 32 → σ → σ
  /-- Rounds followed of each loop that waits for the device. -/
  fuel : Nat

/-- Registers that are plain memory: what the driver sees of the ring registers
once it is initialised. -/
abbrev RegisterFile := Nat → BitVec 32

def RegisterFile.write (file : RegisterFile) (reg : Nat) (value : BitVec 32) : RegisterFile :=
  fun other => if other = reg then value else file other

theorem RegisterFile.write_self (file : RegisterFile) (reg : Nat) (value : BitVec 32) :
    file.write reg value reg = value := if_pos rfl

theorem RegisterFile.write_of_ne (file : RegisterFile) {reg other : Nat} (value : BitVec 32)
    (apart : other ≠ reg) : file.write reg value other = file other := if_neg apart

def registerFile (profile : Profile) : Host RegisterFile where
  dmaAlloc := fun _ file => ((0, 0), file)
  mmioVirtToPhys := fun address _ => address
  waitUntil := fun _ file => file
  profile
  readVolatile := fun reg file => (file reg, file)
  writeVolatile := fun reg value file => file.write reg value
  fuel := 0

end IgbDriver
