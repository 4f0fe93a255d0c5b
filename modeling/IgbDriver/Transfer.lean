import IgbDriver.Device

namespace IgbDriver

open Foundation

/-! # Sending, recycling and receiving

Each operation is cut where another party can get in between: before the doorbell
write of `send`, between the rounds of the recycle and receive loops, and around
the receive callback.
-/

variable {σ : Type}

/-- Lift an operation on the pools to the machine. -/
def withArcs {α : Type} (operation : Arcs → Except (Abort Panic) (α × Arcs)) : Driver σ α := do
  let machine ← Prog.read
  let (value, arcs) ← Prog.lift (operation machine.arcs)
  Prog.update fun machine => { machine with arcs }
  pure value

/-- `drop(packet)`. -/
def dropPacket (packet : Packet) : Driver σ Unit :=
  withArcs fun arcs => do
    let arcs ← packet.drop arcs
    .ok ((), arcs)

/-- `queue.pool = Some(packet.pool.clone())` unless it already is that pool; the
replaced handle is dropped. -/
def switchPool (current : Option PoolRef) (packetPool : PoolRef) (arcs : Arcs) :
    Option PoolRef × Arcs :=
  match current with
  | some old =>
      if old = packetPool then (some old, arcs)
      else (some packetPool, (arcs.clone packetPool).drop old)
  | none => (some packetPool, arcs.clone packetPool)

variable (host : Host σ)

/-- `send` once the queue is known to have room, up to the doorbell. The packet's
entry joins `bufs_in_use` and the packet itself is forgotten. -/
def enqueuePacket (queueId : Nat) (queue : IgbTxQueue) (packet : Packet) : Driver σ Unit := do
  let curIndex := queue.txIndex
  let pool ← withArcs fun arcs => .ok (switchPool queue.pool packet.pool arcs)
  if pool ≠ some packet.pool then Prog.abort (.panic .distinctPools)
  else do
    let txIndex ← Prog.lift (wrapRing host.profile queue.txIndex queue.numDescriptors)
    let desc ← Prog.lift (indexSlice .indexOutOfBounds queue.descriptors.cells curIndex)
    let descriptors := queue.descriptors.set curIndex (desc.send packet.addrPhys packet.len)
    let bufsInUse := queue.bufsInUse ++ [packet.poolEntry]
    Prog.update fun machine =>
      machine.setTxQueue queueId { queue with descriptors, pool, txIndex, bufsInUse }

/-- Everything `send` does before the doorbell. Both early returns drop `tx_buf`. -/
def sendEnqueue (queueId : Nat) (txBuf : IgbNetBuf) : Driver σ Unit := do
  let machine ← Prog.read
  match machine.dev.txQueues[queueId]? with
  | none => do
      dropPacket txBuf.packet
      Prog.fail .invalidQueue
  | some queue => do
      let ready ← Prog.lift (queue.canSend host.profile)
      if ready then enqueuePacket host queueId queue txBuf.packet
      else do
        dropPacket txBuf.packet
        Prog.fail .queueFull

/-- The doorbell: publish the queue's tail. -/
def sendDoorbell (queueId : Nat) : Driver σ Unit := do
  let machine ← Prog.read
  let queue ← Prog.lift (indexSlice .indexOutOfBounds machine.dev.txQueues queueId)
  setReg32 host (igbTdt queueId) (BitVec.ofNat 32 queue.txIndex)

def send (queueId : Nat) (txBuf : IgbNetBuf) : Driver σ Unit := do
  sendEnqueue host queueId txBuf
  sendDoorbell host queueId

def canSend (queueId : Nat) : Driver σ Bool := do
  let machine ← Prog.read
  match machine.dev.txQueues[queueId]? with
  | none => Prog.fail .invalidQueue
  | some queue => Prog.lift (queue.canSend host.profile)

/-- The `i32` difference of the two indices, folded into the ring. -/
def cleanable (profile : Profile) (numDescriptors curIndex cleanIndex : Nat) :
    Except (Abort Panic) Int := do
  let difference ← i32Sub profile (asI32 curIndex) (asI32 cleanIndex)
  if difference < 0 then i32Add profile difference (asI32 numDescriptors)
  else .ok difference

/-- `clean_index + TX_CLEAN_BATCH - 1`, folded into the ring. -/
def cleanupTo (profile : Profile) (numDescriptors cleanIndex : Nat) :
    Except (Abort Panic) Nat := do
  let past ← usizeAdd profile cleanIndex txCleanBatch
  let last ← usizeSub profile past 1
  if numDescriptors ≤ last then usizeSub profile last numDescriptors else .ok last

/-- The entries one round drains, and those it leaves. -/
def IgbTxQueue.batch (queue : IgbTxQueue) : List Nat :=
  if txCleanBatch ≥ queue.bufsInUse.length then queue.bufsInUse
  else queue.bufsInUse.take txCleanBatch

def IgbTxQueue.afterBatch (queue : IgbTxQueue) : IgbTxQueue :=
  { queue with bufsInUse :=
      if txCleanBatch ≥ queue.bufsInUse.length then []
      else queue.bufsInUse.drop txCleanBatch }

/-- Hand a batch back. Without a pool nothing is drained. -/
def releaseBatch (queueId : Nat) (queue : IgbTxQueue) : Driver σ Unit :=
  match queue.pool with
  | none => pure ()
  | some ref => Prog.update fun machine =>
      { machine.setTxQueue queueId queue.afterBatch with
        arcs := machine.arcs.setPool ref ((machine.arcs.pool ref).extendFree queue.batch) }

/-- One round of the recycle loop: the next clean index, or `none` at a `break`. -/
def recycleRound (queueId curIndex cleanIndex : Nat) : Driver σ (Option Nat) := do
  let machine ← Prog.read
  let queue ← Prog.lift (indexSlice .indexOutOfBounds machine.dev.txQueues queueId)
  let count ← Prog.lift (cleanable host.profile queue.numDescriptors curIndex cleanIndex)
  if count < txCleanBatch then pure none
  else do
    let last ← Prog.lift (cleanupTo host.profile queue.numDescriptors cleanIndex)
    let desc ← Prog.lift (indexSlice .indexOutOfBounds queue.descriptors.cells last)
    if desc.done then do
      releaseBatch queueId queue
      let next ← Prog.lift (wrapRing host.profile last queue.numDescriptors)
      pure (some next)
    else pure none

def recycleLoop (queueId curIndex : Nat) : (fuel cleanIndex : Nat) → Driver σ Nat
  | 0, _ => Prog.abort .outOfFuel
  | fuel + 1, cleanIndex => do
      match ← recycleRound host queueId curIndex cleanIndex with
      | none => pure cleanIndex
      | some next => recycleLoop queueId curIndex fuel next

/-- `queue.clean_index = clean_index` on the way out. -/
def recycleCommit (queueId cleanIndex : Nat) : Driver σ Unit := do
  let machine ← Prog.read
  let queue ← Prog.lift (indexSlice .indexOutOfBounds machine.dev.txQueues queueId)
  Prog.update fun machine => machine.setTxQueue queueId { queue with cleanIndex }

def recycleTxBuffers (fuel queueId : Nat) : Driver σ Unit := do
  let machine ← Prog.read
  match machine.dev.txQueues[queueId]? with
  | none => Prog.fail .invalidQueue
  | some queue => do
      let cleanIndex ← recycleLoop host queueId queue.txIndex fuel queue.cleanIndex
      recycleCommit queueId cleanIndex

/-- The first half of a receive round: take the frame at `rx_index` out of the ring
and put a fresh buffer in its place. `none` is a `break`. -/
def takeFrame (queueId rxIndex : Nat) : Driver σ (Option IgbNetBuf) := do
  let machine ← Prog.read
  let queue ← Prog.lift (indexSlice .indexOutOfBounds machine.dev.rxQueues queueId)
  let desc ← Prog.lift (indexSlice .indexOutOfBounds queue.descriptors.cells rxIndex)
  if !desc.done then pure none
  else if !desc.endOfPacket then Prog.abort (.panic .bufferTooSmall)
  else match (machine.arcs.pool queue.pool).allocBuf with
    | (none, _) => pure none
    | (some buf, pool) => do
        let idx ← Prog.lift (indexSlice .indexOutOfBounds queue.bufsInUse rxIndex)
        let addrVirt ← Prog.lift (pool.getVirtAddr host.profile idx)
        let addrPhys ← Prog.lift (pool.getPhysAddr idx)
        let packet :=
          { addrVirt, addrPhys, len := desc.length, pool := queue.pool, poolEntry := idx }
        let bufsInUse := queue.bufsInUse.set rxIndex buf
        Prog.update fun machine =>
          { machine.setRxQueue queueId { queue with bufsInUse } with
            arcs := (machine.arcs.setPool queue.pool pool).clone queue.pool }
        pure (some { packet })

/-- The second half, after the callback: re-arm the descriptor and step on. -/
def rearmDescriptor (queueId rxIndex : Nat) : Driver σ Nat := do
  let machine ← Prog.read
  let queue ← Prog.lift (indexSlice .indexOutOfBounds machine.dev.rxQueues queueId)
  let desc ← Prog.lift (indexSlice .indexOutOfBounds queue.descriptors.cells rxIndex)
  let buf ← Prog.lift (indexSlice .indexOutOfBounds queue.bufsInUse rxIndex)
  let phys ← Prog.lift ((machine.arcs.pool queue.pool).getPhysAddr buf)
  let descriptors := queue.descriptors.set rxIndex (desc.setPacketAddress phys).resetStatus
  Prog.update fun machine => machine.setRxQueue queueId { queue with descriptors }
  Prog.lift (wrapRing host.profile rxIndex queue.numDescriptors)

/-- Publish the new tail, if the loop moved. -/
def receiveCommit (queueId rxIndex lastRxIndex : Nat) : Driver σ Unit :=
  if rxIndex ≠ lastRxIndex then do
    setReg32 host (igbRdt queueId) (BitVec.ofNat 32 lastRxIndex)
    let machine ← Prog.read
    let queue ← Prog.lift (indexSlice .indexOutOfBounds machine.dev.rxQueues queueId)
    Prog.update fun machine => machine.setRxQueue queueId { queue with rxIndex }
  else pure ()

/-- The caller's closure: it owns state of its own, is given the packet and may use
the pools. -/
abbrev Callback (κ : Type) := IgbNetBuf → κ → Arcs → Except (Abort Panic) (κ × Arcs)

/-- The receive loop with `todo` rounds of budget left. -/
def receiveLoop {κ : Type} (callback : Callback κ) (queueId : Nat) :
    (todo rxIndex lastRxIndex recvNums : Nat) → κ → Driver σ (Nat × Nat × Nat × κ)
  | 0, rxIndex, lastRxIndex, recvNums, closure => pure (rxIndex, lastRxIndex, recvNums, closure)
  | todo + 1, rxIndex, lastRxIndex, recvNums, closure => do
      match ← takeFrame host queueId rxIndex with
      | none => pure (rxIndex, lastRxIndex, recvNums, closure)
      | some rxBuf => do
          let closure ← withArcs (callback rxBuf closure)
          let next ← rearmDescriptor host queueId rxIndex
          receiveLoop callback queueId todo next rxIndex (recvNums + 1) closure

def canReceive (queueId : Nat) : Driver σ Bool := do
  let machine ← Prog.read
  match machine.dev.rxQueues[queueId]? with
  | none => Prog.fail .invalidQueue
  | some queue => Prog.lift queue.canRecv

def receivePackets {κ : Type} (callback : Callback κ) (queueId packetNums : Nat) (closure : κ) :
    Driver σ (Nat × κ) := do
  let machine ← Prog.read
  match machine.dev.rxQueues[queueId]? with
  | none => Prog.fail .invalidQueue
  | some queue => do
      let ready ← Prog.lift queue.canRecv
      if !ready then Prog.fail .notReady
      else do
        let (rxIndex, lastRxIndex, recvNums, closure) ←
          receiveLoop host callback queueId packetNums queue.rxIndex queue.rxIndex 0 closure
        receiveCommit host queueId rxIndex lastRxIndex
        pure (recvNums, closure)

end IgbDriver
