import IgbDriver.Device

namespace IgbDriver

open Foundation

/-! # Initialisation

`init` up to the point where it returns the device, in the order of the source.
The `irq` feature, which the manifest does not declare, is off; log output is left
out, except that its arguments read registers.
-/

variable {σ : Type} (host : Host σ)

def clearInterrupts : Driver σ Unit := do
  setReg32 host igbImc igbIrqClearMask
  let _ ← getReg32 host igbIcr

def disableInterrupts : Driver σ Unit := do
  setReg32 host igbIms 0
  clearInterrupts host

def globalReset : Driver σ Unit := do
  setReg32 host igbCtrl igbCtrlGlobalRst
  waitClearReg32 host igbCtrl igbCtrlGlobalRst

def opWrite : BitVec 32 := 1 <<< 26
def opRead : BitVec 32 := 1 <<< 27
def mdicReady : BitVec 32 := 1 <<< 28

def initLink : Driver σ Unit := do
  let _ ← getReg32 host igbMdic
  setFlags32 host igbMdic (0 <<< 16 ||| 1 <<< 21 ||| opRead)
  waitSetReg32 host igbMdic mdicReady
  let answer ← getReg32 host igbMdic
  let miiReg := answer.setWidth 16 &&& ~~~(0x0800 : BitVec 16)
  setFlags32 host igbMdic (0 <<< 16 ||| 1 <<< 21 ||| miiReg.setWidth 32 ||| opWrite)
  waitSetReg32 host igbMdic mdicReady

def resetStats : Driver σ Unit := do
  let _ ← getReg32 host igbGprc
  let _ ← getReg32 host igbGptc
  let _ ← getReg32 host igbGorcl
  let _ ← getReg32 host igbGorch
  let _ ← getReg32 host igbGotcl
  let _ ← getReg32 host igbGotch

/-- `NonNull::new(dma.virt.add(desc_id)).unwrap()` for a 16-byte descriptor. -/
def descriptorPointer (virt : BitVec 64) (descId : Nat) : Driver σ Unit :=
  if virt + BitVec.ofNat 64 (descId * 16) = 0 then Prog.abort (.panic .nullPointer) else pure ()

/-- The DMA memory of one descriptor ring, every descriptor cleared. -/
def allocateRing {δ : Type} (qs : Nat) (cleared : δ) : Driver σ (Nat × Dma δ) := do
  let ringSizeBytes ← Prog.lift (usizeMul host.profile qs 16)
  let machine ← Prog.read
  let ((pa, va), env) := host.dmaAlloc ringSizeBytes machine.env
  Prog.update fun machine => { machine with env }
  Prog.forRange (descriptorPointer va) 0 qs
  pure (ringSizeBytes, { virt := va, phys := pa, cells := List.replicate qs cleared })

def initRxQueue (qs : Nat) (pool : PoolRef) (i : Nat) : Driver σ Unit := do
  let (ringSizeBytes, dma) ← allocateRing host qs AdvancedRxDescriptor.init
  setReg32 host (igbRdbal i) (dma.phys.setWidth 32)
  setReg32 host (igbRdbah i) ((dma.phys >>> 32).setWidth 32)
  setReg32 host (igbRdlen i) (BitVec.ofNat 32 ringSizeBytes)
  setReg32 host (igbRdh i) 0
  setReg32 host (igbRdt i) 0
  let queue := { descriptors := dma, numDescriptors := qs, pool, bufsInUse := [], rxIndex := 0 }
  Prog.update fun machine =>
    { machine with
      arcs := machine.arcs.clone pool
      dev := { machine.dev with rxQueues := machine.dev.rxQueues ++ [queue] } }

def initRx (qs : Nat) (pool : PoolRef) : Driver σ Unit := do
  clearFlags32 host igbRxctrl igbRxctrlRxen
  setReg32 host (igbRxpbsize 0) igbRxpbsize128kb
  Prog.forRange (fun i => setReg32 host (igbRxpbsize i) 0) 1 7
  setFlags32 host igbHlreg0 igbHlreg0Rxcrcstrp
  setFlags32 host igbRdrxctl igbRdrxctlCrcstrip
  setFlags32 host igbFctrl igbFctrlBam
  let machine ← Prog.read
  Prog.forRange (initRxQueue host qs pool) 0 machine.dev.numRxQueues
  setFlags32 host igbRxctrl (igbRxctrlRxen ||| igbRxctrlBam)

def initTxQueue (qs : Nat) (i : Nat) : Driver σ Unit := do
  let (ringSizeBytes, dma) ← allocateRing host qs AdvancedTxDescriptor.init
  setReg32 host (igbTdbal i) (dma.phys.setWidth 32)
  setReg32 host (igbTdbah i) ((dma.phys >>> 32).setWidth 32)
  setReg32 host (igbTdlen i) (BitVec.ofNat 32 ringSizeBytes)
  let txdctl ← getReg32 host (igbTxdctl i)
  let txdctl := txdctl &&& ~~~(0x7F ||| 0x7F <<< 8 ||| 0x7F <<< 16 : BitVec 32)
  setReg32 host (igbTxdctl i) (txdctl ||| (36 ||| 8 <<< 8 ||| 4 <<< 16))
  let queue :=
    { descriptors := dma, numDescriptors := qs, pool := none, bufsInUse := [], cleanIndex := 0,
      txIndex := 0 }
  Prog.update fun machine =>
    { machine with dev := { machine.dev with txQueues := machine.dev.txQueues ++ [queue] } }

def initTx (qs : Nat) : Driver σ Unit := do
  let machine ← Prog.read
  Prog.forRange (initTxQueue host qs) 0 machine.dev.numTxQueues
  setReg32 host igbDmatxctl igbDmatxctlTe

/-- The test that a ring size is a power of two. -/
def checkAligned (numDescriptors : Nat) : Driver σ Unit := do
  let mask ← Prog.lift (usizeSub host.profile numDescriptors 1)
  if numDescriptors &&& mask ≠ 0 then Prog.fail .queueNotAligned else pure ()

def rxQueue (queueId : Nat) : Driver σ IgbRxQueue := do
  let machine ← Prog.read
  Prog.lift (indexSlice .indexOutOfBounds machine.dev.rxQueues queueId)

def txQueue (queueId : Nat) : Driver σ IgbTxQueue := do
  let machine ← Prog.read
  Prog.lift (indexSlice .indexOutOfBounds machine.dev.txQueues queueId)

/-- One round of the loop of `start_rx_queue`: arm descriptor `i`. -/
def armDescriptor (queueId i : Nat) : Driver σ Unit := do
  let queue ← rxQueue queueId
  let machine ← Prog.read
  match (machine.arcs.pool queue.pool).allocBuf with
  | (none, _) => Prog.fail .noMemory
  | (some id, pool) => do
      let desc ← Prog.lift (indexSlice .indexOutOfBounds queue.descriptors.cells i)
      let phys ← Prog.lift (pool.getPhysAddr id)
      let armed := (desc.setPacketAddress phys).resetStatus
      let queue := { queue with descriptors := queue.descriptors.set i armed, bufsInUse :=
        queue.bufsInUse ++ [id] }
      Prog.update fun machine =>
        { machine.setRxQueue queueId queue with arcs := machine.arcs.setPool queue.pool pool }

def startRxQueue (queueId : Nat) : Driver σ Unit := do
  let queue ← rxQueue queueId
  checkAligned host queue.numDescriptors
  Prog.forRange (armDescriptor queueId) 0 queue.numDescriptors
  setFlags32 host (igbRxdctl queueId) igbRxdctlEnable
  waitSetReg32 host (igbRxdctl queueId) igbRxdctlEnable
  setReg32 host (igbRdh queueId) 0
  let last ← Prog.lift (usizeSub host.profile queue.numDescriptors 1)
  setReg32 host (igbRdt queueId) (BitVec.ofNat 32 last)

def startTxQueue (queueId : Nat) : Driver σ Unit := do
  let queue ← txQueue queueId
  checkAligned host queue.numDescriptors
  setReg32 host (igbTdh queueId) 0
  setReg32 host (igbTdt queueId) 0
  setFlags32 host (igbTxdctl queueId) igbTxdctlEnable
  waitSetReg32 host (igbTxdctl queueId) igbTxdctlEnable

def getLinkSpeed : Driver σ Nat := do
  let speed ← getReg32 host igbStatus
  if speed &&& igbLinksUp = 0 then pure 0
  else match (speed.toNat >>> 6) &&& 3 with
    | 0 => pure 10
    | 1 => pure 100
    | _ => pure 1000

/-- The loop of `wait_for_link`, with `rounds` attempts left. -/
def pollLink : Nat → Nat → Driver σ Unit
  | 0, _ => pure ()
  | rounds + 1, speed =>
      if speed = 0 then do
        waitUntil host 1000
        let speed ← getLinkSpeed host
        pollLink rounds speed
      else pure ()

def waitForLink : Driver σ Unit := do
  let speed ← getLinkSpeed host
  pollLink host 10 speed
  let _ ← getLinkSpeed host

def getMacAddr : Driver σ (List (BitVec 8)) := do
  let low ← getReg32 host (igbRal 0)
  let high ← getReg32 host (igbRah 0)
  pure [low.setWidth 8, (low >>> 8).setWidth 8, (low >>> 16).setWidth 8, (low >>> 24).setWidth 8,
    high.setWidth 8, (high >>> 8).setWidth 8]

def resetAndInit (qs : Nat) (pool : PoolRef) : Driver σ Unit := do
  disableInterrupts host
  globalReset host
  waitUntil host 1000
  disableInterrupts host
  setFlags32 host igbCtrlExt (1 <<< 28)
  waitSetReg32 host igbCtrlExt (1 <<< 28)
  initLink host
  resetStats host
  initRx host qs pool
  initTx host qs
  let machine ← Prog.read
  Prog.forRange (startRxQueue host) 0 machine.dev.numRxQueues
  Prog.forRange (startTxQueue host) 0 machine.dev.numTxQueues
  clearInterrupts host
  setFlags32 host igbCtrl (0x1 <<< 6 ||| 0x00000001 ||| 0x00000200 ||| 0x00001000 ||| 0x00000800)
  waitForLink host
  let _ ← getMacAddr host

/-- Dropping a device drops the pool handles of its queues. The entry numbers in
`bufs_in_use` are plain integers and go with the vectors that hold them. -/
def dropDevice (dev : IgbDevice) (arcs : Arcs) : Arcs :=
  let arcs := dev.rxQueues.foldl (fun arcs queue => arcs.drop queue.pool) arcs
  dev.txQueues.foldl (fun arcs queue =>
    match queue.pool with
    | some ref => arcs.drop ref
    | none => arcs) arcs

/-- `IgbDevice::init`; on an error the half-built device is dropped. -/
def init (qs len numRxQueues numTxQueues : Nat) (pool : PoolRef) (env : σ) (arcs : Arcs) :
    Except (Abort Panic) (Except IgbError IgbDevice × σ × Arcs) :=
  let dev := { len, numRxQueues, numTxQueues, rxQueues := [], txQueues := [] }
  match resetAndInit host qs pool { env, arcs, dev } with
  | .error reason => .error reason
  | .ok (.error failure, after) => .ok (.error failure, after.env, dropDevice after.dev after.arcs)
  | .ok (.ok (), after) => .ok (.ok after.dev, after.env, after.arcs)

section Init

variable {host : Host σ} {qs len numRx numTx : Nat} {pool : PoolRef} {env env' : σ}
  {start arcs : Arcs}

theorem init_device {dev : IgbDevice}
    (returned : init host qs len numRx numTx pool env start = .ok (.ok dev, env', arcs)) :
    resetAndInit host qs pool { env, arcs := start, dev := ⟨len, numRx, numTx, [], []⟩ } =
      .ok (.ok (), { env := env', arcs, dev }) := by
  simp only [init] at returned
  split at returned
  · cases returned
  · cases returned
  · rename_i after ran
    cases returned
    exact ran

theorem init_failure {failure : IgbError}
    (returned : init host qs len numRx numTx pool env start = .ok (.error failure, env', arcs)) :
    ∃ after, resetAndInit host qs pool { env, arcs := start, dev := ⟨len, numRx, numTx, [], []⟩ } =
      .ok (.error failure, after) ∧ arcs = dropDevice after.dev after.arcs := by
  simp only [init] at returned
  split at returned
  · cases returned
  · rename_i after ran
    cases returned
    exact ⟨after, ran, rfl⟩
  · cases returned

/-- The pools of a failed `init` are those of the half-built device, dropped. -/
theorem init_failed {failure : IgbError} {half : Machine σ}
    (returned : init host qs len numRx numTx pool env start = .ok (.error failure, env', arcs))
    (ran : resetAndInit host qs pool { env, arcs := start, dev := ⟨len, numRx, numTx, [], []⟩ } =
      .ok (.error failure, half)) : arcs = dropDevice half.dev half.arcs := by
  obtain ⟨after, same, rfl⟩ := init_failure returned
  cases same.symm.trans ran
  rfl

end Init

end IgbDriver
