import IgbDriver.Memory
import IgbDriver.Descriptor

namespace IgbDriver

open Foundation

/-! # The device structure and its queues

The descriptors of a queue are pointers into its DMA ring, so the ring memory
stands in the queue. `Machine` is everything the driver's code reads and writes.
-/

structure IgbRxQueue where
  descriptors : Dma AdvancedRxDescriptor
  numDescriptors : Nat
  pool : PoolRef
  bufsInUse : List Nat
  rxIndex : Nat

structure IgbTxQueue where
  descriptors : Dma AdvancedTxDescriptor
  numDescriptors : Nat
  pool : Option PoolRef
  bufsInUse : List Nat
  cleanIndex : Nat
  txIndex : Nat

structure IgbDevice where
  len : Nat
  numRxQueues : Nat
  numTxQueues : Nat
  rxQueues : List IgbRxQueue
  txQueues : List IgbTxQueue

structure Machine (σ : Type) where
  env : σ
  arcs : Arcs
  dev : IgbDevice

abbrev Driver (σ α : Type) := Prog Panic (Machine σ) IgbError α

variable {σ α : Type}

namespace Machine

def setRxQueue (machine : Machine σ) (queueId : Nat) (queue : IgbRxQueue) : Machine σ :=
  { machine with dev := { machine.dev with rxQueues := machine.dev.rxQueues.set queueId queue } }

def setTxQueue (machine : Machine σ) (queueId : Nat) (queue : IgbTxQueue) : Machine σ :=
  { machine with dev := { machine.dev with txQueues := machine.dev.txQueues.set queueId queue } }

end Machine

namespace Dma

variable {δ : Type}

/-- Write one cell of the area. -/
def set (dma : Dma δ) (position : Nat) (cell : δ) : Dma δ :=
  { dma with cells := dma.cells.set position cell }

end Dma

def wrapRing (profile : Profile) (index ringSize : Nat) : Except (Abort Panic) Nat := do
  let next ← usizeAdd profile index 1
  let mask ← usizeSub profile ringSize 1
  .ok (next &&& mask)

def IgbRxQueue.canRecv (queue : IgbRxQueue) : Except (Abort Panic) Bool := do
  let desc ← indexSlice .indexOutOfBounds queue.descriptors.cells queue.rxIndex
  .ok desc.done

def IgbTxQueue.canSend (profile : Profile) (queue : IgbTxQueue) : Except (Abort Panic) Bool := do
  let nextTxIndex ← wrapRing profile queue.txIndex queue.numDescriptors
  .ok (nextTxIndex ≠ queue.cleanIndex)

variable (host : Host σ)

/-- The bounds assertion of every register access. -/
def checkWindow (reg : Nat) : Driver σ Unit := do
  let machine ← Prog.read
  let limit ← Prog.lift (usizeSub host.profile machine.dev.len 4)
  if reg ≤ limit then pure () else Prog.abort (.panic .registerOutOfBounds)

def getReg32 (reg : Nat) : Driver σ (BitVec 32) := do
  checkWindow host reg
  let machine ← Prog.read
  let (value, env) := host.readVolatile reg machine.env
  Prog.update fun machine => { machine with env }
  pure value

def setReg32 (reg : Nat) (value : BitVec 32) : Driver σ Unit := do
  checkWindow host reg
  Prog.update fun machine => { machine with env := host.writeVolatile reg value machine.env }

def setFlags32 (reg : Nat) (flags : BitVec 32) : Driver σ Unit := do
  let current ← getReg32 host reg
  setReg32 host reg (current ||| flags)

def clearFlags32 (reg : Nat) (flags : BitVec 32) : Driver σ Unit := do
  let current ← getReg32 host reg
  setReg32 host reg (current &&& ~~~flags)

def waitUntil (milliseconds : Nat) : Driver σ Unit :=
  Prog.update fun machine => { machine with env := host.waitUntil milliseconds machine.env }

def waitClearReg32 (reg : Nat) (value : BitVec 32) : Driver σ Unit :=
  Prog.pollUntil (do let current ← getReg32 host reg; pure (current &&& value = 0))
    (waitUntil host 100) host.fuel

def waitSetReg32 (reg : Nat) (value : BitVec 32) : Driver σ Unit :=
  Prog.pollUntil (do let current ← getReg32 host reg; pure (current &&& value = value))
    (waitUntil host 100) host.fuel

end IgbDriver
