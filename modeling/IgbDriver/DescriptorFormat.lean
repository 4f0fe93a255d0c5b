import IgbDriver.Delivery
import IgbDriver.Registers
import IgbDriver.WriteBackFields

namespace IgbDriver

open Foundation

/-! # The format of a received frame

A queue writes frames back in the format its SRRCTL selects. `init` resets the device
and leaves that register alone, so the frames come in the legacy layout, and
`receive_packets` reads them with the getters of the advanced one.
-/

structure IgbLegacyRxDesc where
  bufferAddr : BitVec 64
  length : BitVec 16
  csum : BitVec 16
  status : BitVec 8
  errors : BitVec 8
  vlan : BitVec 16

/-- The two words in memory. -/
def IgbLegacyRxDesc.descriptor (legacy : IgbLegacyRxDesc) : AdvancedRxDescriptor where
  packetBufferAddress := legacy.bufferAddr
  headerBufferAddress := BitVec.ofNat 64 (pack [⟨16, legacy.length.toNat⟩, ⟨16, legacy.csum.toNat⟩,
    ⟨8, legacy.status.toNat⟩, ⟨8, legacy.errors.toNat⟩, ⟨16, legacy.vlan.toNat⟩])

def AdvancedRxDescriptor.writeBack (desc : AdvancedRxDescriptor) : WriteBack where
  lower := desc.packetBufferAddress
  upper := desc.headerBufferAddress

/-- What a queue with this SRRCTL writes; nothing is said of the other formats. -/
def writtenBack (srrctl : BitVec 32) (legacy : IgbLegacyRxDesc) (advanced : WriteBackFields)
    (sph : BitVec 1) : Option AdvancedRxDescriptor :=
  if srrctl &&& igbSrrctlDesctypeMask = igbSrrctlDesctypeLegacy then some legacy.descriptor
  else if srrctl &&& igbSrrctlDesctypeMask = igbSrrctlDesctypeAdvOnebuf then
    some (advanced.descriptor sph)
  else none

/-- Both descriptions are of one whole frame: this length, DD and EOP. -/
structure Reports (legacy : IgbLegacyRxDesc) (advanced : WriteBackFields)
    (length : Nat) : Prop where
  legacyLength : legacy.length.toNat = length
  legacyStatus : legacy.status.toNat % 4 = 3
  pktLen : advanced.pktLen.toNat = length
  extStatus : advanced.extStatus.toNat % 4 = 3

/-- A global reset clears the register, and only a write to it changes it after that. -/
structure Host.ResetClears {σ : Type} (host : Host σ) (reg : Nat) : Prop where
  reset : ∀ value env, value &&& igbCtrlGlobalRst ≠ 0 →
    host.shows (host.writeVolatile igbCtrl value env) reg = 0
  otherWritten : ∀ other value env, other ≠ reg →
    (other = igbCtrl → value &&& igbCtrlGlobalRst = 0) →
    host.shows (host.writeVolatile other value env) reg = host.shows env reg
  read : ∀ other env, host.shows (host.readVolatile other env).2 reg = host.shows env reg
  waited : ∀ milliseconds env, host.shows (host.waitUntil milliseconds env) reg = host.shows env reg
  allocated : ∀ size env, host.shows (host.dmaAlloc size env).2 reg = host.shows env reg

/-- Whatever the closure does, the call is one use of it with this packet, between two
parts that do not see it. -/
def PassesExactly (profile : Profile) (queueId packetNums : Nat) (machine : Machine RegisterFile)
    (packet : Packet) : Prop :=
  ∀ κ : Type, ∃ (taken : Machine RegisterFile) (rest : κ → Driver RegisterFile (Nat × κ)),
    ∀ (callback : Callback κ) (closure : κ),
      receivePackets (registerFile profile) callback queueId packetNums closure machine =
        (withArcs (callback { packet } closure) >>= rest) taken

/-- The device writes the frame back at `rx_index` and the driver takes it for what it is. -/
def FormatAgrees (profile : Profile) (system : System) (queueId rxIndex : Nat)
    (legacy : IgbLegacyRxDesc) (advanced : WriteBackFields) (sph : BitVec 1)
    (length : Nat) : Prop :=
  ∃ desc events stored, writtenBack (system.machine.env (igbSrrctl queueId)) legacy advanced sph =
    some desc ∧
    next profile system (.rxStore queueId rxIndex desc.writeBack) = some (.ok (events, stored)) ∧
    canReceive queueId stored.machine = .ok (.ok true, stored.machine) ∧
    ∃ packet, packet.len = length ∧ PassesExactly profile queueId 1 stored.machine packet

/-- Where the registers stand, as far as it takes to tell them from the others. -/
theorem igbSrrctl_place (i : Nat) :
    (0x2100 ≤ igbSrrctl i ∧ igbSrrctl i < 0x2140) ∨
      (0x1414 ≤ igbSrrctl i ∧ igbSrrctl i < 0x2000 ∨ 0xD014 ≤ igbSrrctl i) ∧
      igbSrrctl i % 64 = 20 := by
  simp only [igbSrrctl]
  split
  · omega
  · split <;> omega

/-- `init` writes no SRRCTL. -/
theorem not_writtenByInit_igbSrrctl (i : Nat) : ¬ WrittenByInit (igbSrrctl i) := by
  have place := igbSrrctl_place i
  intro written
  generalize igbSrrctl i = reg at place written
  rcases written with control | ring
  · cases control with
    | control member =>
        simp only [List.mem_cons, List.not_mem_nil, or_false, igbIms, igbImc, igbCtrlExt, igbMdic,
          igbRxctrl, igbHlreg0, igbRdrxctl, igbFctrl, igbDmatxctl] at member
        omega
    | packetBuffer below =>
        unfold igbRxpbsize at place
        omega
    | rxdctl k =>
        unfold igbRxdctl at place
        omega
    | txdctl k =>
        unfold igbTxdctl at place
        omega
  · unfold RingRegister at ring
    omega

section Init

variable {σ : Type} {host : Host σ} {reg : Nat}

/-- From the reset on, a register that is not written stays clear. -/
theorem Host.ResetClears.watch (law : host.ResetClears reg) (apart : ¬ WrittenByInit reg)
    (other : igbCtrl ≠ reg) : Watch host (fun env _ => host.shows env reg = 0) where
  written := by
    intro written value env _ writes clear
    have different : written ≠ reg := by
      intro same
      subst same
      exact apart writes
    have kept :=
      law.otherWritten written value env different (fun control => absurd control writes.ne_ctrl)
    exact kept.trans clear
  flagged := by
    intro flags env _ _ clear
    by_cases resets : (host.shows env igbCtrl ||| flags) &&& igbCtrlGlobalRst = 0
    · have kept := law.otherWritten igbCtrl _ (host.readVolatile igbCtrl env).2 other
        (fun _ => resets)
      exact kept.trans ((law.read igbCtrl env).trans clear)
    · exact law.reset _ _ resets
  read := fun other env _ clear => (law.read other env).trans clear
  waited := fun milliseconds env _ clear => (law.waited milliseconds env).trans clear
  allocated := fun size env _ clear => (law.allocated size env).trans clear

/-- What a reset clears and `init` does not write is clear when `init` returns. -/
theorem init_cleared (law : host.ResetClears reg) (apart : ¬ WrittenByInit reg)
    (other : igbCtrl ≠ reg) {qs len numRx numTx : Nat} {pool : PoolRef} {env env' : σ}
    {start arcs : Arcs} {dev : IgbDevice}
    (returned : init host qs len numRx numTx pool env start = .ok (.ok dev, env', arcs)) :
    host.shows env' reg = 0 := by
  have begins : ∀ env, ∃ _ : RegisterFile,
      host.shows (host.writeVolatile igbCtrl igbCtrlGlobalRst env) reg = 0 :=
    fun env => ⟨fun _ => 0, law.reset _ env (by decide)⟩
  obtain ⟨_, clear, _⟩ := init_watched (law.watch apart other) begins returned
  exact clear

end Init

section Kept

variable {profile : Profile} {policy : Policy} {system after : System} {action : Action}
  {events trace : List Event}

/-- No step of the driver or of the device changes an SRRCTL. -/
theorem Step.srrctl (step : Step profile system action events after) (i : Nat) :
    after.machine.env (igbSrrctl i) = system.machine.env (igbSrrctl i) := by
  have place := igbSrrctl_place i
  have head : ∀ (regs : RegisterFile) headReg lengthReg index, igbSrrctl i ≠ headReg →
      advanceHead regs headReg lengthReg index (igbSrrctl i) = regs (igbSrrctl i) :=
    fun _ _ _ _ different => if_neg different
  have driver := step.env
  cases step with
  | rxStore => exact head _ _ _ _ (by simp only [igbRdh]; omega)
  | txDone => exact head _ _ _ _ (by simp only [igbTdh]; omega)
  | report => rfl
  | _ =>
      rcases driver rfl with
        same | ⟨_, ⟨queueId, value, _, _, same⟩ | ⟨queueId, _, _, _, value, _, _, _, same⟩⟩
      · rw [same]
      · rw [same]
        exact RegisterFile.write_of_ne _ _ (by simp only [igbTdt]; omega)
      · rw [same]
        exact RegisterFile.write_of_ne _ _ (by simp only [igbRdt]; omega)

theorem srrctl_run (run : Run (next profile) policy system trace after) (i : Nat) :
    after.machine.env (igbSrrctl i) = system.machine.env (igbSrrctl i) := by
  induction run with
  | refl => rfl
  | next _ _ stepped ih => exact ((next_step stepped).srrctl i).trans ih

end Kept

namespace IgbLegacyRxDesc

variable (legacy : IgbLegacyRxDesc)

/-- The length goes where the status is read, status and errors where the length is. -/
theorem headerBufferAddress_descriptor :
    legacy.descriptor.headerBufferAddress.toNat % 2 ^ 16 = legacy.length.toNat ∧
      legacy.descriptor.headerBufferAddress.toNat / 2 ^ 32 % 2 ^ 8 = legacy.status.toNat ∧
      legacy.descriptor.headerBufferAddress.toNat / 2 ^ 40 % 2 ^ 8 = legacy.errors.toNat := by
  obtain ⟨_, length, csum, status, errors, vlan⟩ := legacy
  have fits : ∀ field ∈ [⟨16, length.toNat⟩, ⟨16, csum.toNat⟩, ⟨8, status.toNat⟩, ⟨8, errors.toNat⟩,
      ⟨16, vlan.toNat⟩], BitField.Fits field := by
    simp [BitField.fits_toNat]
  have low := ofNat_pack_extract [] length _ fits rfl
  rw [show totalWidth [] = 0 from rfl, Nat.pow_zero, Nat.div_one] at low
  exact ⟨low, ofNat_pack_extract [⟨16, length.toNat⟩, ⟨16, csum.toNat⟩] status _ fits rfl,
    ofNat_pack_extract [⟨16, length.toNat⟩, ⟨16, csum.toNat⟩, ⟨8, status.toNat⟩] errors _ fits rfl⟩

theorem done_descriptor : legacy.descriptor.done = true ↔ legacy.length.toNat % 2 = 1 := by
  have placed := legacy.headerBufferAddress_descriptor
  rw [AdvancedRxDescriptor.done_iff]
  omega

theorem endOfPacket_descriptor : legacy.descriptor.endOfPacket = true ↔
    legacy.length.toNat / 2 % 2 = 1 := by
  have placed := legacy.headerBufferAddress_descriptor
  rw [AdvancedRxDescriptor.endOfPacket_iff]
  omega

theorem length_descriptor :
    legacy.descriptor.length = legacy.status.toNat + 256 * (legacy.errors.toNat % 128) := by
  have placed := legacy.headerBufferAddress_descriptor
  simp only [AdvancedRxDescriptor.length, AdvancedRxDescriptor.getPktLen, getBits]
  omega

end IgbLegacyRxDesc

section Call

variable {κ : Type} {profile : Profile} {qs queueId : Nat} {machine taken : Machine RegisterFile}
  {queue : IgbRxQueue} {packet other : Packet} {callback : Callback κ} {closure : κ}

theorem canReceive_apply (ready : Receivable profile qs queueId machine queue)
    {desc : AdvancedRxDescriptor} (cell : queue.descriptors.cells[queue.rxIndex]? = some desc) :
    canReceive queueId machine = .ok (.ok desc.done, machine) := by
  obtain ⟨_, cell', asked⟩ := canRecv_apply ready
  cases cell.symm.trans cell'
  rw [canReceive, Prog.bind_read_apply, ready.found]
  simp only [asked]
  rfl

/-- What follows the closure in a call for one packet. -/
def finishReceive (profile : Profile) (queueId rxIndex : Nat) (closure : κ) :
    Driver RegisterFile (Nat × κ) := do
  let next ← rearmDescriptor (registerFile profile) queueId rxIndex
  receiveCommit (registerFile profile) queueId next rxIndex
  pure (1, closure)

theorem passesExactly_of_takeFrame (ready : Receivable profile qs queueId machine queue)
    (done : queue.canRecv = .ok true)
    (took : takeFrame (registerFile profile) queueId queue.rxIndex machine =
      .ok (.ok (some { packet }), taken)) :
    PassesExactly profile queueId 1 machine packet := by
  intro κ
  refine ⟨taken, finishReceive profile queueId queue.rxIndex, fun callback closure => ?_⟩
  rw [receivePackets_ready ready done, receiveLoop]
  simp only [bind_assoc, Prog.bind_of_ok took, receiveLoop, pure_bind, Nat.zero_add]
  rfl

/-- A closure that panics in one of two ways, as it is given this packet or not. -/
def refuse (packet : Packet) : Callback Unit := fun rxBuf _ _ =>
  .error (.panic (if rxBuf.packet = packet then .nullPointer else .distinctPools))

theorem PassesExactly.refused (passes : PassesExactly profile queueId 1 machine packet)
    (other : Packet) :
    receivePackets (registerFile profile) (refuse other) queueId 1 () machine =
      .error (.panic (if packet = other then .nullPointer else .distinctPools)) := by
  obtain ⟨taken, rest, calls⟩ := passes Unit
  exact calls (refuse other) ()

/-- At most one packet is the one a call passes. -/
theorem PassesExactly.unique (passes : PassesExactly profile queueId 1 machine packet)
    (again : PassesExactly profile queueId 1 machine other) : packet = other := by
  by_contra different
  have one := passes.refused other
  rw [again.refused other, if_neg different, if_pos rfl] at one
  cases one

/-- The closure gets one packet of this length exactly if the descriptor ends a frame,
says so, and the pool has an entry to put in its place. -/
theorem passesExactly_iff {desc : AdvancedRxDescriptor} {entry length : Nat}
    (ready : Receivable profile qs queueId machine queue)
    (cell : queue.descriptors.cells[queue.rxIndex]? = some desc) (done : desc.done = true)
    (held : queue.bufsInUse[queue.rxIndex]? = some entry)
    (inside : entry < (machine.arcs.pool queue.pool).numEntries) {addrVirt : Nat}
    (virt : (machine.arcs.pool queue.pool).getVirtAddr profile entry = .ok addrVirt) :
    (∃ packet, packet.len = length ∧ PassesExactly profile queueId 1 machine packet) ↔
      desc.endOfPacket = true ∧ machine.arcs.free queue.pool ≠ [] ∧ desc.length = length := by
  obtain ⟨_, cell', asked⟩ := canRecv_apply ready
  cases cell.symm.trans cell'
  rw [done] at asked
  have called : ∀ callback : Callback Unit, _ := fun callback =>
    receivePackets_ready ready asked callback 1 ()
  cases ends : desc.endOfPacket with
  | false =>
      have stops : takeFrame (registerFile profile) queueId queue.rxIndex machine =
          .error (.panic .bufferTooSmall) := by
        rw [takeFrame, Prog.bind_read_apply, indexSlice_of_some ready.found,
          Prog.bind_of_ok (Prog.lift_ok_apply _ _), indexSlice_of_some cell,
          Prog.bind_of_ok (Prog.lift_ok_apply _ _), done, ends]
        rfl
      constructor
      · intro passed
        obtain ⟨packet, _, passes⟩ := passed
        have refused := passes.refused packet
        rw [called, receiveLoop] at refused
        simp only [bind_assoc, Prog.bind_of_abort stops, if_pos] at refused
        cases refused
      · intro accepted
        obtain ⟨impossible, _⟩ := accepted
        cases impossible
  | true =>
      rcases (machine.arcs.free queue.pool).eq_nil_or_concat with empty | ⟨rest, top, stack⟩
      · have stops : takeFrame (registerFile profile) queueId queue.rxIndex machine =
            .ok (.ok none, machine) :=
          takeFrame_stops ready.found cell (.inr ⟨fun _ => ends, empty⟩)
        constructor
        · intro passed
          obtain ⟨packet, _, passes⟩ := passed
          have refused := passes.refused packet
          rw [called, Prog.bind_of_ok (receiveLoop_none _ _ _ stops)] at refused
          simp only [Prog.bind_of_ok (receiveCommit_apply ready _ _)] at refused
          cases refused
        · intro accepted
          obtain ⟨_, stocked, _⟩ := accepted
          exact absurd empty stocked
      · have took := takeFrame_apply ready.found cell done ends (by simpa using stack) held virt
          (MemPool.Allocated.getPhysAddr_apply inside)
        have passes := passesExactly_of_takeFrame ready asked took
        constructor
        · intro passed
          obtain ⟨packet, sized, again⟩ := passed
          cases passes.unique again
          exact ⟨rfl, by simp [stack], sized⟩
        · intro accepted
          obtain ⟨_, _, sized⟩ := accepted
          exact ⟨_, sized, passes⟩

end Call

section Run

variable {σ : Type} {host : Host σ} {qs numRx numTx queueId : Nat} {pool : PoolRef} {before : Arcs}
  {system final : System} {policy : Policy} {trace : List Event} {queue : IgbRxQueue}

/-- The register shows in every reachable state what the reset left in it. -/
theorem Booted.srrctl_clear (booted : Booted host qs numRx numTx pool before system)
    (law : host.ResetClears (igbSrrctl queueId))
    (run : Run (next host.profile) policy system trace final) :
    final.machine.env (igbSrrctl queueId) = 0 := by
  obtain ⟨len, env, env', returned, shown⟩ := booted.returned
  rw [srrctl_run run, shown]
  have place := igbSrrctl_place queueId
  exact init_cleared law (not_writtenByInit_igbSrrctl queueId) (by unfold igbCtrl; omega) returned

/-- The machine after the device wrote a descriptor at the cursor of a queue. -/
def Machine.writtenAtCursor (machine : Machine RegisterFile) (queueId : Nat) (queue : IgbRxQueue)
    (desc : AdvancedRxDescriptor) : Machine RegisterFile :=
  { machine.setRxQueue queueId
    { queue with descriptors := queue.descriptors.set queue.rxIndex desc } with
    env := advanceHead machine.env (igbRdh queueId) (igbRdlen queueId) queue.rxIndex }

theorem next_rxStore (found : final.rxQueue? queueId = some queue) {old : AdvancedRxDescriptor}
    (cell : queue.descriptors.cells[queue.rxIndex]? = some old) (profile : Profile)
    (desc : AdvancedRxDescriptor) :
    ∃ events, next profile final (.rxStore queueId queue.rxIndex desc.writeBack) =
      some (.ok (events,
      { final with machine := final.machine.writtenAtCursor queueId queue desc })) := by
  simp only [IgbDriver.next, rxStoreStep, show final.machine.dev.rxQueues[queueId]? =
    some queue from found, cell]
  exact ⟨_, rfl⟩

/-- The queue can still be called after such a write. -/
theorem Receivable.written {profile : Profile} {machine : Machine RegisterFile}
    (ready : Receivable profile qs queueId machine queue) (desc : AdvancedRxDescriptor) :
    Receivable profile qs queueId (machine.writtenAtCursor queueId queue desc)
      { queue with descriptors := queue.descriptors.set queue.rxIndex desc } where
  found := List.getElem?_set_self (List.getElem?_eq_some_iff.mp ready.found).1
  numDescriptors := ready.numDescriptors
  cells := List.length_set.trans ready.cells
  rxIndex := ready.rxIndex
  window := ready.window

/-- With the register clear, the legacy descriptor is what the driver reads. -/
theorem formatAgrees_iff {profile : Profile} {legacy : IgbLegacyRxDesc} {advanced : WriteBackFields}
    {sph : BitVec 1} {entry addrVirt length : Nat}
    (clear : final.machine.env (igbSrrctl queueId) = 0)
    (ready : Receivable profile qs queueId final.machine queue)
    (held : queue.bufsInUse[queue.rxIndex]? = some entry)
    (inside : entry < (final.machine.arcs.pool queue.pool).numEntries)
    (virt : (final.machine.arcs.pool queue.pool).getVirtAddr profile entry = .ok addrVirt) :
    FormatAgrees profile final queueId queue.rxIndex legacy advanced sph length ↔
      legacy.descriptor.done = true ∧ legacy.descriptor.endOfPacket = true ∧
        final.machine.arcs.free queue.pool ≠ [] ∧ legacy.descriptor.length = length := by
  have selected : writtenBack (final.machine.env (igbSrrctl queueId)) legacy advanced sph =
      some legacy.descriptor := by
    rw [clear]
    rfl
  obtain ⟨old, cell, _⟩ := canRecv_apply ready
  obtain ⟨events, stepped⟩ := next_rxStore ready.found cell profile legacy.descriptor
  have stored := ready.written legacy.descriptor
  have cell' : (queue.descriptors.set queue.rxIndex legacy.descriptor).cells[queue.rxIndex]? =
      some legacy.descriptor := List.getElem?_set_self (List.getElem?_eq_some_iff.mp cell).1
  have asked := canReceive_apply stored cell'
  constructor
  · intro agrees
    obtain ⟨desc, events', after, wrote, stepped', ready', passes⟩ := agrees
    cases selected.symm.trans wrote
    cases stepped.symm.trans stepped'
    rw [asked] at ready'
    simp only [Except.ok.injEq, Prod.mk.injEq, and_true] at ready'
    exact ⟨ready', (passesExactly_iff stored cell' ready' held inside virt).mp passes⟩
  · intro accepted
    obtain ⟨done, rest⟩ := accepted
    rw [done] at asked
    exact ⟨_, events, _, selected, stepped, asked,
      (passesExactly_iff stored cell' done held inside virt).mpr rest⟩

/-- The same, in every state a call can be made in. -/
theorem Booted.formatAgrees_iff (positive : 0 < qs) (bound : qs < usizeModulus)
    (booted : Booted host qs numRx numTx pool before system)
    (law : ∀ i, i < numRx → host.ResetClears (igbSrrctl i))
    (made : (before.pool pool).Allocated host)
    (run : Run (next host.profile) policy system trace final) (idle : final.control = .idle)
    (found : final.rxQueue? queueId = some queue) (legacy : IgbLegacyRxDesc)
    (advanced : WriteBackFields) (sph : BitVec 1) (length : Nat) :
    FormatAgrees host.profile final queueId queue.rxIndex legacy advanced sph length ↔
      legacy.descriptor.done = true ∧ legacy.descriptor.endOfPacket = true ∧
        final.machine.arcs.free pool ≠ [] ∧ legacy.descriptor.length = length := by
  have clear := booted.srrctl_clear (law queueId (booted.rxQueue_inside run found)) run
  have ready := booted.receivable positive bound run found
  have pools := booted.rxAllocated positive bound made run found
  obtain ⟨bufs, own⟩ := booted.rxEntries positive bound run idle found
  have filled : queue.rxIndex < queue.bufsInUse.length := by
    rw [bufs]
    exact ready.rxIndex
  have inside := own _ (List.getElem_mem filled)
  rw [← (RxShape.run positive bound booted run found).pool]
  exact IgbDriver.formatAgrees_iff clear ready (List.getElem?_eq_getElem filled) inside
    (pools.getVirtAddr_apply inside)

/-- The frame is taken for what it is exactly if its status and errors bytes happen to
read as its length and the pool has a free entry. -/
theorem descriptor_format_iff (positive : 0 < qs) (bound : qs < usizeModulus)
    (booted : Booted host qs numRx numTx pool before system)
    (law : ∀ i, i < numRx → host.ResetClears (igbSrrctl i)) {entries size : Nat} {env env' : σ}
    {made : MemPool} (allocated : MemPool.allocate host entries size env = .ok (.ok made, env'))
    (placed : before.layout pool = made.layout)
    (run : Run (next host.profile) policy system trace final) (idle : final.control = .idle)
    (found : final.rxQueue? queueId = some queue) (legacy : IgbLegacyRxDesc)
    (advanced : WriteBackFields) (sph : BitVec 1) {length : Nat}
    (reports : Reports legacy advanced length) :
    FormatAgrees host.profile final queueId queue.rxIndex legacy advanced sph length ↔
      legacy.status.toNat + 256 * (legacy.errors.toNat % 128) = length ∧
        final.machine.arcs.free pool ≠ [] := by
  have made := (MemPool.allocated_of_allocate allocated).1.of_layout placed
  rw [booted.formatAgrees_iff positive bound law made run idle found,
    IgbLegacyRxDesc.done_descriptor,
    IgbLegacyRxDesc.endOfPacket_descriptor, IgbLegacyRxDesc.length_descriptor, reports.legacyLength]
  constructor
  · intro accepted
    obtain ⟨_, _, stocked, same⟩ := accepted
    exact ⟨same, stocked⟩
  · -- The status has DD and EOP in its low bits, so such a length has them too.
    intro coincides
    obtain ⟨same, stocked⟩ := coincides
    have low := reports.legacyStatus
    exact ⟨by omega, by omega, stocked, same⟩

end Run

/-- The platform, with the SRRCTL of the first queue a register that a reset clears. -/
def resettingPlatform (profile : Profile) : Host RegisterFile :=
  { platform profile with
    readVolatile := fun reg file =>
      (if reg = igbSrrctl 0 then file reg else (platform profile).shows file reg, file)
    writeVolatile := fun reg value file =>
      if reg = igbCtrl ∧ value &&& igbCtrlGlobalRst ≠ 0 then fun _ => 0 else file.write reg value }

theorem resettingPlatform_clears (profile : Profile) : (resettingPlatform profile).ResetClears
    (igbSrrctl 0) := by
  have shown : ∀ file, (resettingPlatform profile).shows file (igbSrrctl 0) =
      file (igbSrrctl 0) := by
    intro file
    simp only [Host.shows, resettingPlatform, if_pos]
  constructor
  · intro value file resets
    rw [shown]
    change (if igbCtrl = igbCtrl ∧ value &&& igbCtrlGlobalRst ≠ 0 then fun _ => 0
      else RegisterFile.write file igbCtrl value) (igbSrrctl 0) = 0
    rw [if_pos ⟨rfl, resets⟩]
  · intro other value file different quiet
    rw [shown, shown]
    change (if other = igbCtrl ∧ value &&& igbCtrlGlobalRst ≠ 0 then fun _ => 0
      else RegisterFile.write file other value) (igbSrrctl 0) = file (igbSrrctl 0)
    rw [if_neg (fun resets => resets.2 (quiet resets.1))]
    exact RegisterFile.write_of_ne _ _ different.symm
  all_goals
    intros
    rfl

/-- The registers of the rings are memory all the same, from one reset to the next. -/
theorem resettingPlatform_holds (profile : Profile) {reg : Nat} (register : RingRegister reg) :
    (resettingPlatform profile).Holds reg := by
  have bounds : reg ≠ igbCtrl ∧ ¬ reg < 0xC000 := by
    unfold RingRegister at register
    simp only [igbCtrl]
    omega
  have shown : ∀ file, (resettingPlatform profile).shows file reg = file reg := by
    intro file
    change (if reg = igbSrrctl 0 then file reg
      else if reg = igbCtrl then 0 else if reg < 0xC000 then 0xFFFFFFFF else file reg) = file reg
    rw [if_neg bounds.1, if_neg bounds.2, ite_self]
  have unreset : ∀ other value file, (other = igbCtrl → value &&& igbCtrlGlobalRst = 0) →
      (resettingPlatform profile).writeVolatile other value file = file.write other value :=
    fun other value file quiet => if_neg (fun resets => resets.2 (quiet resets.1))
  constructor
  · intro value file
    rw [shown, unreset _ _ _ (fun same => absurd same bounds.1), RegisterFile.write_self]
  · intro other value file apart plain
    rw [shown, shown, unreset _ _ _ (fun same => absurd same plain),
      RegisterFile.write_of_ne _ _ apart]
  · intro flags file quiet
    have current : (resettingPlatform profile).shows file igbCtrl = 0 := rfl
    rw [shown, shown, current, show (0 : BitVec 32) ||| flags = flags from BitVec.zero_or,
      unreset _ _ _ (fun _ => quiet)]
    exact RegisterFile.write_of_ne _ _ bounds.1
  all_goals
    intros
    simp only [shown]
    rfl

/-- A legacy write-back of this length, status and errors. -/
def legacyFrame (length : BitVec 16) (status errors : BitVec 8) : IgbLegacyRxDesc where
  bufferAddr := 0
  length
  csum := 0
  status
  errors
  vlan := 0

/-- An advanced write-back of one whole frame. -/
def advancedFrame (length : BitVec 16) : WriteBackFields :=
  { WriteBackFields.ordinary with pktLen := length }

/-- That device just initialised, with as many entries left in the pool as in the ring. -/
theorem exists_resetting : ∃ (system : System) (queue : IgbRxQueue) (env' : RegisterFile),
    Booted (resettingPlatform .dev) 4 1 1 0
      (allocatedArcs .dev (fun _ => 8) (fun _ => 2048)) system ∧
      system.rxQueue? 0 = some queue ∧ system.machine.arcs.free 0 ≠ [] ∧
      MemPool.allocate (resettingPlatform .dev) 8 2048 (fun _ => 0) =
        .ok (.ok (allocatedPool .dev 8 2048), env') := by
  have checked : (boot (resettingPlatform .dev) 4 0x40000 1 1 0 (fun _ => 0)
      (allocatedArcs .dev (fun _ => 8) (fun _ => 2048)) (fun _ => 1) []).any (fun system =>
        (system.rxQueue? 0).isSome && decide (system.machine.arcs.free 0 ≠ [])) = true := by
    decide +kernel
  obtain ⟨system, boots, accepted⟩ := (Option.any_eq_true _ _).mp checked
  simp only [Bool.and_eq_true, decide_eq_true_eq] at accepted
  obtain ⟨queue, found⟩ := Option.isSome_iff_exists.mp accepted.1
  obtain ⟨env', made⟩ :=
    allocatedPool_made (show (allocatedPool .dev 8 2048).numEntries ≠ 0 by decide +kernel)
  exact ⟨system, queue, env', (booted_of_boot boots).1, found, accepted.2, made⟩

theorem resetting_law : ∀ i, i < 1 → (resettingPlatform .dev).ResetClears (igbSrrctl i) := by
  intro i below
  obtain rfl : i = 0 := by omega
  exact resettingPlatform_clears .dev

/-- A frame of 67 bytes whose status byte is 67. -/
theorem descriptor_format_iff_coincidence : ∃ (system : System) (queue : IgbRxQueue),
    system.rxQueue? 0 = some queue ∧
      FormatAgrees .dev system 0 queue.rxIndex (legacyFrame 67 67 0) (advancedFrame 67) 0 67 := by
  obtain ⟨system, queue, env', booted, found, stocked, made⟩ := exists_resetting
  have still : Run (next .dev) (fun _ _ => True) system [] system := .refl
  exact ⟨system, queue, found,
    (descriptor_format_iff (by decide) (by decide) booted resetting_law made rfl
    still booted.control found _ _ _ ⟨by decide, by decide, by decide, by decide⟩).mpr
      ⟨by decide, stocked⟩⟩

/-- The driver does not even see an ordinary frame of 60 bytes. -/
theorem frame_undecoded : ∃ (system : System) (queue : IgbRxQueue),
    Booted (resettingPlatform .dev) 4 1 1 0
      (allocatedArcs .dev (fun _ => 8) (fun _ => 2048)) system ∧
    (∀ i, i < 1 → (resettingPlatform .dev).ResetClears (igbSrrctl i)) ∧
    system.rxQueue? 0 = some queue ∧ system.machine.arcs.free 0 ≠ [] ∧
    Reports (legacyFrame 60 3 0) (advancedFrame 60) 60 ∧
    ¬ FormatAgrees .dev system 0 queue.rxIndex (legacyFrame 60 3 0) (advancedFrame 60) 0 60 := by
  obtain ⟨system, queue, env', booted, found, stocked, made⟩ := exists_resetting
  refine ⟨system, queue, booted, resetting_law, found, stocked,
    ⟨by decide, by decide, by decide, by decide⟩, fun agrees => ?_⟩
  have allocated := (MemPool.allocated_of_allocate made).1
  have still : Run (next .dev) (fun _ _ => True) system [] system := .refl
  have read :=
    (booted.formatAgrees_iff (by decide) (by decide) resetting_law allocated still booted.control
    found _ _ _ _).mp agrees
  exact absurd read.1 (by decide)

end IgbDriver
