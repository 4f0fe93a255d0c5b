import IgbDriver.Bringup
import IgbDriver.RxRing
import IgbDriver.Foundation.Tally

namespace IgbDriver

open Foundation

/-! # The half-built device

Receive and transmit queues lay their registers out alike, from the base address on.
`Booting` says how far `init` has come, and each lemma takes it one step further.
-/

variable {profile : Profile}

section Offsets

variable (i : Nat)

theorem igbRdbah_eq : igbRdbah i = igbRdbal i + 4 := by simp only [igbRdbah, igbRdbal]; omega
theorem igbRdlen_eq : igbRdlen i = igbRdbal i + 8 := by simp only [igbRdlen, igbRdbal]; omega
theorem igbRdh_eq : igbRdh i = igbRdbal i + 16 := by simp only [igbRdh, igbRdbal]; omega
theorem igbRdt_eq : igbRdt i = igbRdbal i + 24 := by simp only [igbRdt, igbRdbal]; omega
theorem igbTdbah_eq : igbTdbah i = igbTdbal i + 4 := by simp only [igbTdbah, igbTdbal]; omega
theorem igbTdlen_eq : igbTdlen i = igbTdbal i + 8 := by simp only [igbTdlen, igbTdbal]; omega
theorem igbTdh_eq : igbTdh i = igbTdbal i + 16 := by simp only [igbTdh, igbTdbal]; omega
theorem igbTdt_eq : igbTdt i = igbTdbal i + 24 := by simp only [igbTdt, igbTdbal]; omega

end Offsets

structure RingProgrammed (file : RegisterFile) (base qs : Nat) (phys : BitVec 64) : Prop where
  low : file base = phys.setWidth 32
  high : file (base + 4) = (phys >>> 32).setWidth 32
  length : file (base + 8) = BitVec.ofNat 32 (16 * qs)

structure RingStarted (file : RegisterFile) (base : Nat) (tail : BitVec 32) : Prop where
  head : file (base + 16) = 0
  tail : file (base + 24) = tail

section Bank

variable {file : RegisterFile} {base qs reg : Nat} {phys : BitVec 64} {tail value : BitVec 32}

theorem RingProgrammed.write (programmed : RingProgrammed file base qs phys) (low : base ≠ reg)
    (high : base + 4 ≠ reg) (length : base + 8 ≠ reg) :
    RingProgrammed (file.write reg value) base qs phys where
  low := by rw [RegisterFile.write_of_ne _ _ low, programmed.low]
  high := by rw [RegisterFile.write_of_ne _ _ high, programmed.high]
  length := by rw [RegisterFile.write_of_ne _ _ length, programmed.length]

theorem RingStarted.write (started : RingStarted file base tail) (head : base + 16 ≠ reg)
    (end_ : base + 24 ≠ reg) : RingStarted (file.write reg value) base tail where
  head := by rw [RegisterFile.write_of_ne _ _ head, started.head]
  tail := by rw [RegisterFile.write_of_ne _ _ end_, started.tail]

end Bank

/-- How far `init` has come: queues built, transmit banks begun, receive queues armed,
descriptors armed in the one after these, transmit queues started. -/
structure Progress where
  rx : Nat
  tx : Nat
  banks : Nat
  armedRx : Nat
  filled : Nat
  startedTx : Nat

/-- The entries taken for the rings. -/
def Progress.taken (progress : Progress) (qs : Nat) : Nat := progress.armedRx * qs + progress.filled

/-- The descriptors armed in receive queue `queueId`. -/
def Progress.armedIn (progress : Progress) (qs queueId : Nat) : Nat :=
  if queueId < progress.armedRx then qs
  else if queueId = progress.armedRx then progress.filled else 0

structure RxBuilt (qs : Nat) (pool : PoolRef) (layout : MemPool) (filled : Nat)
    (queue : IgbRxQueue) : Prop where
  numDescriptors : queue.numDescriptors = qs
  pool : queue.pool = pool
  rxIndex : queue.rxIndex = 0
  cells : queue.descriptors.cells.length = qs
  bufs : queue.bufsInUse.length = filled
  armed : ∀ index, index < filled → ∃ desc, queue.descriptors.cells[index]? = some desc ∧
    RxArmed layout queue.bufsInUse index desc

/-- Arming the next descriptor of a queue with an entry. -/
theorem RxBuilt.arm {qs i id phys : Nat} {pool : PoolRef} {layout : MemPool} {queue : IgbRxQueue}
    {desc : AdvancedRxDescriptor} (built : RxBuilt qs pool layout i queue)
    (cell : queue.descriptors.cells[i]? = some desc) (located : layout.getPhysAddr id = .ok phys) :
    RxBuilt qs pool layout (i + 1) { queue with
      descriptors := queue.descriptors.set i (desc.setPacketAddress phys).resetStatus
      bufsInUse := queue.bufsInUse ++ [id] } where
  numDescriptors := built.numDescriptors
  pool := built.pool
  rxIndex := built.rxIndex
  cells := List.length_set.trans built.cells
  bufs := by simp only [List.length_append, built.bufs, List.length_singleton]
  armed := by
    intro index inside
    by_cases last : index = i
    · subst last
      refine ⟨(desc.setPacketAddress phys).resetStatus, ?_, AdvancedRxDescriptor.done_resetStatus _,
        id, phys, ?_, located, rfl⟩
      · exact List.getElem?_set_self (List.getElem?_eq_some_iff.mp cell).1
      · rw [List.getElem?_append_right (by rw [built.bufs]), built.bufs, Nat.sub_self]
        rfl
    · have before : index < i := by omega
      obtain ⟨armed, kept, clear, entry, address, held, place⟩ := built.armed index before
      refine ⟨armed, ?_, clear, entry, address, ?_, place⟩
      · rw [Dma.set, List.getElem?_set_ne (Ne.symm last)]
        exact kept
      · rw [List.getElem?_append_left (by rw [built.bufs]; exact before)]
        exact held

structure TxBuilt (qs : Nat) (queue : IgbTxQueue) : Prop where
  numDescriptors : queue.numDescriptors = qs
  cells : queue.descriptors.cells.length = qs
  pool : queue.pool = none
  bufs : queue.bufsInUse = []
  cleanIndex : queue.cleanIndex = 0
  txIndex : queue.txIndex = 0

/-- The registers of this receive queue are those of none of the first `banks`
transmit queues. -/
def Unshared (banks queueId : Nat) : Prop := queueId < 128 ∨ banks + 128 ≤ queueId

theorem Unshared.mono {banks banks' queueId : Nat} (unshared : Unshared banks' queueId)
    (fewer : banks ≤ banks') : Unshared banks queueId := by
  simp only [Unshared] at *
  omega

/-- How often `id` lies in the queues of the device that hold plain entries. -/
def IgbDevice.rxEntries (dev : IgbDevice) (id : Nat) : Nat :=
  (dev.rxQueues.map fun queue => queue.bufsInUse.count id).sum

structure Booting (profile : Profile) (qs numRx numTx : Nat) (pool : PoolRef) (start : Arcs)
    (progress : Progress) (file : RegisterFile) (arcs : Arcs) (dev : IgbDevice) : Prop where
  numRxQueues : dev.numRxQueues = numRx
  numTxQueues : dev.numTxQueues = numTx
  rxLength : dev.rxQueues.length = progress.rx
  txLength : dev.txQueues.length = progress.tx
  rxQueues : ∀ (i : Nat) queue, dev.rxQueues[i]? = some queue →
    RxBuilt qs pool (start.layout pool) (progress.armedIn qs i) queue
  txQueues : ∀ (i : Nat) queue, dev.txQueues[i]? = some queue → TxBuilt qs queue
  layout : ∀ ref, arcs.layout ref = start.layout ref
  elsewhere : ∀ ref, ref ≠ pool → arcs.free ref = start.free ref ∧ arcs.strong ref =
    start.strong ref
  strong : arcs.strong pool = start.strong pool + progress.rx
  entries : ∀ id, (start.free pool).count id = (arcs.free pool).count id + dev.rxEntries id
  taken : (arcs.free pool).length + progress.taken qs = (start.free pool).length
  rxRings : ∀ (i : Nat) queue, dev.rxQueues[i]? = some queue → Unshared progress.banks i →
    RingProgrammed file (igbRdbal i) qs queue.descriptors.phys
  txRings : ∀ (i : Nat) queue, dev.txQueues[i]? = some queue →
    RingProgrammed file (igbTdbal i) qs queue.descriptors.phys
  rxTails : ∀ i, i < progress.armedRx → Unshared progress.banks i → 0 < qs →
    RingStarted file (igbRdbal i) (BitVec.ofNat 32 (qs - 1))
  txTails : ∀ i, i < progress.startedTx → RingStarted file (igbTdbal i) 0
  rxWindow : ∀ i, i < progress.armedRx → InWindow profile dev.len (igbRdt i)
  txWindow : ∀ i, i < progress.startedTx → InWindow profile dev.len (igbTdt i)
  aligned : 0 < progress.armedRx + progress.filled + progress.startedTx → qs &&& (qs - 1) = 0

namespace Booting

variable {qs numRx numTx : Nat} {pool : PoolRef} {start arcs : Arcs} {progress : Progress}
  {file : RegisterFile} {dev : IgbDevice}

theorem initial (start : Arcs) (qs len numRx numTx : Nat) (pool : PoolRef) (file : RegisterFile) :
    Booting profile qs numRx numTx pool start ⟨0, 0, 0, 0, 0, 0⟩ file start
      { len, numRxQueues := numRx, numTxQueues := numTx, rxQueues := [], txQueues := [] } where
  numRxQueues := rfl
  numTxQueues := rfl
  rxLength := rfl
  txLength := rfl
  rxQueues := nofun
  txQueues := nofun
  layout := fun _ => rfl
  elsewhere := fun _ _ => ⟨rfl, rfl⟩
  strong := rfl
  entries := fun _ => rfl
  taken := by simp [Progress.taken]
  rxRings := nofun
  txRings := nofun
  rxTails := nofun
  txTails := nofun
  rxWindow := nofun
  txWindow := nofun
  aligned := nofun

theorem rxPool (booting : Booting profile qs numRx numTx pool start progress file arcs dev)
    {queue : IgbRxQueue} (queued : queue ∈ dev.rxQueues) : queue.pool = pool := by
  obtain ⟨i, found⟩ := List.getElem?_of_mem queued
  exact (booting.rxQueues i queue found).pool

theorem txBuilt (booting : Booting profile qs numRx numTx pool start progress file arcs dev)
    {queue : IgbTxQueue} (queued : queue ∈ dev.txQueues) : TxBuilt qs queue := by
  obtain ⟨i, found⟩ := List.getElem?_of_mem queued
  exact booting.txQueues i queue found

/-- A write outside every bank that is already set up. -/
theorem write (booting : Booting profile qs numRx numTx pool start progress file arcs dev)
    {reg : Nat} {value : BitVec 32} (rxRings : ∀ i, i < progress.rx → Unshared progress.banks i →
      igbRdbal i ≠ reg ∧ igbRdbal i + 4 ≠ reg ∧ igbRdbal i + 8 ≠ reg)
    (txRings : ∀ i, i < progress.tx →
      igbTdbal i ≠ reg ∧ igbTdbal i + 4 ≠ reg ∧ igbTdbal i + 8 ≠ reg)
    (rxTails : ∀ i, i < progress.armedRx → Unshared progress.banks i →
      igbRdbal i + 16 ≠ reg ∧ igbRdbal i + 24 ≠ reg)
    (txTails : ∀ i, i < progress.startedTx → igbTdbal i + 16 ≠ reg ∧ igbTdbal i + 24 ≠ reg) :
    Booting profile qs numRx numTx pool start progress (file.write reg value) arcs dev :=
  { booting with
    rxRings := by
      intro i queue found unshared
      obtain ⟨low, high, length⟩ := rxRings i
        (by rw [← booting.rxLength]; exact (List.getElem?_eq_some_iff.mp found).1) unshared
      exact (booting.rxRings i queue found unshared).write low high length
    txRings := by
      intro i queue found
      obtain ⟨low, high, length⟩ := txRings i
        (by rw [← booting.txLength]; exact (List.getElem?_eq_some_iff.mp found).1)
      exact (booting.txRings i queue found).write low high length
    rxTails := by
      intro i armed unshared positive
      obtain ⟨head, tail⟩ := rxTails i armed unshared
      exact (booting.rxTails i armed unshared positive).write head tail
    txTails := by
      intro i started
      obtain ⟨head, tail⟩ := txTails i started
      exact (booting.txTails i started).write head tail }

/-- A write outside the rings. -/
theorem aside (booting : Booting profile qs numRx numTx pool start progress file arcs dev)
    {reg : Nat} (apart : ¬ RingRegister reg) (value : BitVec 32) :
    Booting profile qs numRx numTx pool start progress (file.write reg value) arcs dev := by
  unfold RingRegister at apart
  refine booting.write ?_ ?_ ?_ ?_
  all_goals
    intros
    simp only [igbRdbal, igbTdbal]
    omega

theorem inert : Inert (Booting profile qs numRx numTx pool start progress) :=
  fun _ _ _ _ value apart booting => booting.aside apart value

/-- What building receive queue `i` writes. -/
def rxBank (file : RegisterFile) (i bytes : Nat) (phys : BitVec 64) : RegisterFile :=
  ((((file.write (igbRdbal i) (phys.setWidth 32)).write (igbRdbah i)
    ((phys >>> 32).setWidth 32)).write
    (igbRdlen i) (BitVec.ofNat 32 bytes)).write (igbRdh i) 0).write (igbRdt i) 0

theorem rxBank_programmed {i bytes : Nat} {phys : BitVec 64}
    (size : BitVec.ofNat 32 bytes = BitVec.ofNat 32 (16 * qs)) :
    RingProgrammed (rxBank file i bytes phys) (igbRdbal i) qs phys := by
  constructor <;>
    simp [rxBank, RegisterFile.write, igbRdbah_eq, igbRdlen_eq, igbRdh_eq, igbRdt_eq, size]

theorem write_rxBank {i bytes : Nat} {phys : BitVec 64}
    (booting : Booting profile qs numRx numTx pool start ⟨i, 0, 0, 0, 0, 0⟩ file arcs dev) :
    Booting profile qs numRx numTx pool start ⟨i, 0, 0, 0, 0, 0⟩
      (rxBank file i bytes phys) arcs dev := by
  refine ((((booting.write ?_ nofun nofun nofun).write ?_ nofun nofun nofun).write ?_ nofun nofun
    nofun).write ?_ nofun nofun nofun).write ?_ nofun nofun nofun
  all_goals
    intro other (before : other < i) _
    simp only [igbRdbah_eq, igbRdlen_eq, igbRdh_eq, igbRdt_eq, igbRdbal]
    omega

/-- A new member at the end of a list of queues. -/
theorem getElem?_concat {β : Type} {values : List β} {last value : β} {i : Nat}
    (found : (values ++ [last])[i]? = some value) :
    values[i]? = some value ∨ (i = values.length ∧ value = last) := by
  rcases Nat.lt_trichotomy i values.length with before | here | past
  · rw [List.getElem?_append_left before] at found
    exact .inl found
  · subst here
    rw [List.getElem?_append_right (Nat.le_refl _), Nat.sub_self] at found
    cases found
    exact .inr ⟨rfl, rfl⟩
  · rw [List.getElem?_append_right (by omega),
      List.getElem?_eq_none (by simp only [List.length_singleton]; omega)] at found
    cases found

theorem addRx {i bytes : Nat}
    (booting : Booting profile qs numRx numTx pool start ⟨i, 0, 0, 0, 0, 0⟩ file arcs dev)
    (phys virt : BitVec 64)
    (size : BitVec.ofNat 32 bytes = BitVec.ofNat 32 (16 * qs)) :
    Booting profile qs numRx numTx pool start ⟨i + 1, 0, 0, 0, 0, 0⟩ (rxBank file i bytes phys)
      (arcs.clone pool) { dev with rxQueues := dev.rxQueues ++ [{
        descriptors := { virt, phys, cells := List.replicate qs AdvancedRxDescriptor.init }
        numDescriptors := qs, pool, bufsInUse := [], rxIndex := 0 }] } := by
  have kept : Booting profile qs numRx numTx pool start ⟨i, 0, 0, 0, 0, 0⟩
      (rxBank file i bytes phys) arcs dev :=
    booting.write_rxBank
  have none_armed : ∀ other, Progress.armedIn ⟨i + 1, 0, 0, 0, 0, 0⟩ qs other = 0 := by
    intro other
    simp [Progress.armedIn]
  exact {
    numRxQueues := kept.numRxQueues
    numTxQueues := kept.numTxQueues
    rxLength := by
      rw [List.length_append, kept.rxLength]
      rfl
    txLength := kept.txLength
    rxQueues := by
      intro other queue found
      rcases getElem?_concat found with earlier | ⟨_, rfl⟩
      · exact kept.rxQueues other queue earlier
      · rw [none_armed]
        exact ⟨rfl, rfl, rfl, List.length_replicate, rfl, nofun⟩
    txQueues := kept.txQueues
    layout := fun ref => (Arcs.layout_clone _ _ _).trans (kept.layout ref)
    elsewhere := by
      intro ref apart
      rw [Arcs.free_clone, Arcs.strong_clone, if_neg apart]
      exact kept.elsewhere ref apart
    strong := by
      rw [Arcs.strong_clone, if_pos rfl, kept.strong]
      rfl
    entries := by
      intro id
      rw [Arcs.free_clone, kept.entries id]
      simp [IgbDevice.rxEntries]
    taken := by
      rw [Arcs.free_clone]
      exact kept.taken
    rxRings := by
      intro other queue found unshared
      rcases getElem?_concat found with earlier | ⟨here, rfl⟩
      · exact kept.rxRings other queue earlier unshared
      · rw [here, kept.rxLength]
        exact rxBank_programmed size
    txRings := kept.txRings
    rxTails := nofun
    txTails := nofun
    rxWindow := nofun
    txWindow := nofun
    aligned := nofun }

/-- What building transmit queue `j` writes. -/
def txBank (file : RegisterFile) (j bytes : Nat) (phys : BitVec 64) : RegisterFile :=
  ((file.write (igbTdbal j) (phys.setWidth 32)).write (igbTdbah j)
    ((phys >>> 32).setWidth 32)).write (igbTdlen j) (BitVec.ofNat 32 bytes)

theorem txBank_programmed {j bytes : Nat} {phys : BitVec 64}
    (size : BitVec.ofNat 32 bytes = BitVec.ofNat 32 (16 * qs)) :
    RingProgrammed (txBank file j bytes phys) (igbTdbal j) qs phys := by
  constructor <;> simp [txBank, RegisterFile.write, igbTdbah_eq, igbTdlen_eq, size]

/-- Beginning a transmit bank gives up the receive bank it overlays. -/
theorem begin
    (booting : Booting profile qs numRx numTx pool start ⟨numRx, j, j, 0, 0, 0⟩ file arcs dev) :
    Booting profile qs numRx numTx pool start ⟨numRx, j, j + 1, 0, 0, 0⟩ file arcs dev :=
  { booting with
    rxRings := by
      intro i queue found unshared
      exact booting.rxRings i queue found (unshared.mono (Nat.le_succ j))
    rxTails := nofun
    rxWindow := nofun
    txWindow := nofun
    aligned := nofun }

theorem write_txBank {j : Nat} (bytes : Nat) (phys : BitVec 64)
    (booting : Booting profile qs numRx numTx pool start ⟨numRx, j, j + 1, 0, 0, 0⟩ file arcs dev) :
    Booting profile qs numRx numTx pool start ⟨numRx, j, j + 1, 0, 0, 0⟩
      (txBank file j bytes phys) arcs dev := by
  refine ((booting.write ?_ ?_ nofun nofun).write ?_ ?_ nofun nofun).write ?_ ?_ nofun nofun
  all_goals
    first
      | intro other _ (unshared : other < 128 ∨ j + 1 + 128 ≤ other)
        simp only [igbTdbah_eq, igbTdlen_eq, igbRdbal, igbTdbal]
        omega
      | intro other (before : other < j)
        simp only [igbTdbah_eq, igbTdlen_eq, igbTdbal]
        omega

theorem addTx {j bytes : Nat}
    (booting : Booting profile qs numRx numTx pool start ⟨numRx, j, j, 0, 0, 0⟩ file arcs dev)
    (phys virt : BitVec 64)
    (size : BitVec.ofNat 32 bytes = BitVec.ofNat 32 (16 * qs)) :
    Booting profile qs numRx numTx pool start ⟨numRx, j + 1, j + 1, 0, 0, 0⟩
      (txBank file j bytes phys) arcs { dev with txQueues := dev.txQueues ++ [{
        descriptors := { virt, phys, cells := List.replicate qs AdvancedTxDescriptor.init }
        numDescriptors := qs, pool := none, bufsInUse := [], cleanIndex := 0, txIndex := 0 }]
  } := by
  have kept := booting.begin.write_txBank bytes phys
  exact { kept with
    txLength := by
      rw [List.length_append, kept.txLength]
      rfl
    txQueues := by
      intro other queue found
      rcases getElem?_concat found with earlier | ⟨_, rfl⟩
      · exact kept.txQueues other queue earlier
      · exact ⟨rfl, List.length_replicate, rfl, rfl, rfl, rfl⟩
    txRings := by
      intro other queue found
      rcases getElem?_concat found with earlier | ⟨here, rfl⟩
      · exact kept.txRings other queue earlier
      · rw [here, kept.txLength]
        exact txBank_programmed size
    rxTails := nofun
    txTails := nofun
    rxWindow := nofun
    txWindow := nofun
    aligned := nofun }

/-- Arming the next descriptor of a receive queue with an entry off the free stack. -/
theorem arm {queueId i id phys : Nat} {queue : IgbRxQueue} {desc : AdvancedRxDescriptor}
    {rest : List Nat}
    (booting : Booting profile qs numRx numTx pool start ⟨numRx, numTx, numTx, queueId, i,
      0⟩ file arcs dev)
    (aligned : qs &&& (qs - 1) = 0) (found : dev.rxQueues[queueId]? = some queue)
    (stack : arcs.free queue.pool = rest ++ [id]) (cell : queue.descriptors.cells[i]? = some desc)
    (located : (start.layout pool).getPhysAddr id = .ok phys) :
    Booting profile qs numRx numTx pool start ⟨numRx, numTx, numTx, queueId, i + 1, 0⟩ file
      (arcs.setFree queue.pool rest)
      { dev with rxQueues := dev.rxQueues.set queueId { queue with
        descriptors := queue.descriptors.set i (desc.setPacketAddress phys).resetStatus
        bufsInUse := queue.bufsInUse ++ [id] } } := by
  have built := booting.rxQueues queueId queue found
  have filled : Progress.armedIn ⟨numRx, numTx, numTx, queueId, i, 0⟩ qs queueId = i := by
    simp [Progress.armedIn]
  have filled' : Progress.armedIn ⟨numRx, numTx, numTx, queueId, i + 1, 0⟩ qs queueId = i + 1 := by
    simp [Progress.armedIn]
  rw [filled] at built
  rw [built.pool] at stack
  rw [show arcs.setFree queue.pool rest = arcs.setFree pool rest by rw [built.pool]]
  exact { booting with
    rxLength := by rw [List.length_set, booting.rxLength]
    rxQueues := by
      intro other changed found'
      by_cases same : queueId = other
      · subst same
        rw [List.getElem?_set_self (List.getElem?_eq_some_iff.mp found).1] at found'
        cases found'
        rw [filled']
        exact built.arm cell located
      · rw [List.getElem?_set_ne same] at found'
        have kept := booting.rxQueues other changed found'
        have elsewhere : Progress.armedIn ⟨numRx, numTx, numTx, queueId, i + 1, 0⟩ qs other =
            Progress.armedIn ⟨numRx, numTx, numTx, queueId, i, 0⟩ qs other := by
          simp [Progress.armedIn, Ne.symm same]
        rwa [elsewhere]
    layout := fun ref => (Arcs.layout_setFree _ _ _ _).trans (booting.layout ref)
    elsewhere := by
      intro ref apart
      rw [Arcs.free_setFree, if_neg apart, Arcs.strong_setFree]
      exact booting.elsewhere ref apart
    strong := (Arcs.strong_setFree _ _ _ _).trans booting.strong
    entries := by
      intro entry
      have moved := sum_map_set (fun queue : IgbRxQueue => queue.bufsInUse.count entry)
        { queue with
          descriptors := queue.descriptors.set i (desc.setPacketAddress phys).resetStatus
          bufsInUse := queue.bufsInUse ++ [id] } found
      have before := booting.entries entry
      simp only [IgbDevice.rxEntries, stack, List.count_append] at *
      rw [Arcs.free_setFree, if_pos rfl]
      omega
    taken := by
      have before := booting.taken
      simp only [Progress.taken, stack, List.length_append, List.length_singleton] at *
      rw [Arcs.free_setFree, if_pos rfl]
      omega
    rxRings := by
      intro other changed found' unshared
      by_cases same : queueId = other
      · subst same
        rw [List.getElem?_set_self (List.getElem?_eq_some_iff.mp found).1] at found'
        cases found'
        exact booting.rxRings queueId queue found unshared
      · rw [List.getElem?_set_ne same] at found'
        exact booting.rxRings other changed found' unshared
    txTails := nofun
    txWindow := nofun
    aligned := fun _ => aligned }

/-- A receive queue with all its descriptors armed is started. -/
theorem startRx {queueId : Nat} {tail : BitVec 32}
    (booting : Booting profile qs numRx numTx pool start ⟨numRx, numTx, numTx, queueId, qs,
      0⟩ file arcs dev)
    (aligned : qs &&& (qs - 1) = 0) (last : 0 < qs → tail = BitVec.ofNat 32 (qs - 1))
    (window : InWindow profile dev.len (igbRdt queueId)) :
    Booting profile qs numRx numTx pool start ⟨numRx, numTx, numTx, queueId + 1, 0, 0⟩
      ((file.write (igbRdh queueId) 0).write (igbRdt queueId) tail) arcs dev := by
  have kept : Booting profile qs numRx numTx pool start ⟨numRx, numTx, numTx, queueId, qs, 0⟩
      ((file.write (igbRdh queueId) 0).write (igbRdt queueId) tail) arcs dev := by
    refine (booting.write ?_ ?_ ?_ nofun).write ?_ ?_ ?_ nofun
    all_goals
      intros
      simp only [igbRdh_eq, igbRdt_eq, igbRdbal, igbTdbal] at *
      omega
  have same : ∀ other, Progress.armedIn ⟨numRx, numTx, numTx, queueId + 1, 0, 0⟩ qs other =
      Progress.armedIn ⟨numRx, numTx, numTx, queueId, qs, 0⟩ qs other := by
    intro other
    simp only [Progress.armedIn]
    split <;> split <;> (try split) <;> (try split) <;> first | rfl | omega
  exact { kept with
    rxQueues := by
      intro other queue found
      rw [same]
      exact kept.rxQueues other queue found
    rxTails := by
      intro other (before : other < queueId + 1) unshared positive
      by_cases here : other = queueId
      · subst here
        rw [last positive]
        constructor <;> simp [RegisterFile.write, igbRdh_eq, igbRdt_eq]
      · exact kept.rxTails other (by change other < queueId; omega) unshared positive
    taken := by
      rw [← kept.taken]
      simp only [Progress.taken, Nat.succ_mul, Nat.add_zero]
    txTails := nofun
    rxWindow := by
      intro other (before : other < queueId + 1)
      rcases Nat.lt_succ_iff_lt_or_eq.mp before with earlier | rfl
      · exact kept.rxWindow other earlier
      · exact window
    txWindow := nofun
    aligned := fun _ => aligned }

theorem startTx {j : Nat}
    (booting : Booting profile qs numRx numTx pool start ⟨numRx, numTx, numTx, numRx, 0,
      j⟩ file arcs dev)
    (inside : j < numTx) (aligned : qs &&& (qs - 1) = 0)
    (window : InWindow profile dev.len (igbTdt j)) :
    Booting profile qs numRx numTx pool start ⟨numRx, numTx, numTx, numRx, 0, j + 1⟩
      ((file.write (igbTdh j) 0).write (igbTdt j) 0) arcs dev := by
  have kept : Booting profile qs numRx numTx pool start ⟨numRx, numTx, numTx, numRx, 0, j⟩
      ((file.write (igbTdh j) 0).write (igbTdt j) 0) arcs dev := by
    refine (booting.write ?_ ?_ ?_ ?_).write ?_ ?_ ?_ ?_
    all_goals
      intros
      simp only [Unshared] at *
      simp only [igbTdh_eq, igbTdt_eq, igbRdbal, igbTdbal] at *
      omega
  exact { kept with
    txTails := by
      intro other (before : other < j + 1)
      by_cases here : other = j
      · subst here
        constructor <;> simp [RegisterFile.write, igbTdh_eq, igbTdt_eq]
      · exact kept.txTails other (by change other < j; omega)
    txWindow := by
      intro other (before : other < j + 1)
      rcases Nat.lt_succ_iff_lt_or_eq.mp before with earlier | rfl
      · exact kept.txWindow other earlier
      · exact window
    aligned := fun _ => aligned }

end Booting

/-- An entry still free was free at the start. -/
theorem Booting.free_subset {qs numRx numTx : Nat} {pool : PoolRef} {start arcs : Arcs}
    {progress : Progress} {file : RegisterFile} {dev : IgbDevice}
    (booting : Booting profile qs numRx numTx pool start progress file arcs dev) {id : Nat}
    (free : id ∈ arcs.free pool) : id ∈ start.free pool := by
  have present := List.count_pos_iff.mpr free
  apply List.count_pos_iff.mp
  rw [booting.entries id]
  omega

/-- A ring size that is no power of two is noticed before the first entry is taken. -/
theorem Booting.untouched {qs numRx numTx : Nat} {pool : PoolRef} {start arcs : Arcs}
    {progress : Progress} {file : RegisterFile} {dev : IgbDevice}
    (booting : Booting profile qs numRx numTx pool start progress file arcs dev)
    (unaligned : qs &&& (qs - 1) ≠ 0) (ref : PoolRef) (id : Nat) :
    (arcs.free ref).count id = (start.free ref).count id := by
  have none_armed : progress.armedRx + progress.filled + progress.startedTx = 0 := by
    by_contra some_armed
    exact unaligned (booting.aligned (by omega))
  by_cases same : ref = pool
  · subst same
    have nothing : dev.rxEntries id = 0 := by
      refine List.sum_eq_zero (fun count member => ?_)
      obtain ⟨queue, queued, rfl⟩ := List.mem_map.mp member
      obtain ⟨i, found⟩ := List.getElem?_of_mem queued
      have empty := (booting.rxQueues i queue found).bufs
      have unarmed : progress.armedIn qs i = 0 := by
        unfold Progress.armedIn
        split
        · omega
        · split <;> omega
      rw [unarmed, List.length_eq_zero_iff] at empty
      rw [empty]
      rfl
    rw [booting.entries id, nothing, Nat.add_zero]
  · rw [(booting.elsewhere ref same).1]

end IgbDriver
