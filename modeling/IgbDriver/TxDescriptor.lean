import IgbDriver.Operations
import IgbDriver.Platform
import IgbDriver.Foundation.Fields

namespace IgbDriver

open Foundation

/-! # What the device reads in a transmit descriptor

The driver writes five fields of different widths; the device reads three words in
little-endian order.
-/

/-- The memory of a descriptor, in the order of its fields. -/
def AdvancedTxDescriptor.bytes (desc : AdvancedTxDescriptor) : List (BitVec 8) :=
  bytesOf 8 desc.packetBufferAddress.toNat ++ (bytesOf 2 desc.dataLen.toNat ++
    (bytesOf 1 desc.dtypMacRsv.toNat ++ (bytesOf 1 desc.dcmd.toNat ++
      bytesOf 4 desc.paylenPoptsCcIdxSta.toNat)))

/-- `IGB_adv_tx_desc_read`. -/
structure IgbAdvTxDescRead where
  bufferAddr : BitVec 64
  cmdTypeLen : BitVec 32
  olinfoStatus : BitVec 32
deriving DecidableEq

def IgbAdvTxDescRead.ofBytes (bytes : List (BitVec 8)) : IgbAdvTxDescRead where
  bufferAddr := BitVec.ofNat 64 (valueOf (bytes.take 8))
  cmdTypeLen := BitVec.ofNat 32 (valueOf ((bytes.drop 8).take 4))
  olinfoStatus := BitVec.ofNat 32 (valueOf ((bytes.drop 12).take 4))

/-- The bits of `cmd_type_len` that hold commands. -/
def commandBits : BitVec 32 := 0xFF000000

/-- The descriptor tells the device where the packet is, how long it is, and to send it. -/
structure IgbAdvTxDescRead.Describes (read : IgbAdvTxDescRead) (packet : Packet) : Prop where
  bufferAddr : read.bufferAddr.toNat = packet.addrPhys
  dataLen : (read.cmdTypeLen &&& igbAdvtxdDtalenMask).toNat = packet.len
  descriptorType : read.cmdTypeLen &&& igbAdvtxdDtypMask = igbAdvtxdDtypData
  commands : read.cmdTypeLen &&& commandBits =
    igbAdvtxdDcmdEop ||| igbAdvtxdDcmdIfcs ||| igbAdvtxdDcmdRs ||| igbAdvtxdDcmdDext
  payLen : (read.olinfoStatus >>> igbAdvtxdPaylenShift).toNat = packet.len
  notDone : read.olinfoStatus &&& igbAdvtxdStatDd = 0

namespace AdvancedTxDescriptor

/-- The words of a descriptor in terms of its fields. -/
theorem ofBytes_bytes (desc : AdvancedTxDescriptor) :
    IgbAdvTxDescRead.ofBytes desc.bytes =
      { bufferAddr := desc.packetBufferAddress
        cmdTypeLen := BitVec.ofNat 32 (desc.dataLen.toNat + 2 ^ 16 * desc.dtypMacRsv.toNat +
          2 ^ 24 * desc.dcmd.toNat)
        olinfoStatus := desc.paylenPoptsCcIdxSta } := by
  have address := desc.packetBufferAddress.isLt
  have length := desc.dataLen.isLt
  have kind := desc.dtypMacRsv.isLt
  have command := desc.dcmd.isLt
  have status := desc.paylenPoptsCcIdxSta.isLt
  have front : desc.bytes.take 8 = bytesOf 8 desc.packetBufferAddress.toNat := by
    simp [bytes]
  have middle : (desc.bytes.drop 8).take 4 = bytesOf 2 desc.dataLen.toNat ++
      (bytesOf 1 desc.dtypMacRsv.toNat ++ bytesOf 1 desc.dcmd.toNat) := by
    simp [bytes, bytesOf]
  have back : (desc.bytes.drop 12).take 4 = bytesOf 4 desc.paylenPoptsCcIdxSta.toNat := by
    simp [bytes, bytesOf]
  have word : valueOf (bytesOf 2 desc.dataLen.toNat ++
      (bytesOf 1 desc.dtypMacRsv.toNat ++ bytesOf 1 desc.dcmd.toNat)) =
        desc.dataLen.toNat + 2 ^ 16 * desc.dtypMacRsv.toNat + 2 ^ 24 * desc.dcmd.toNat := by
    simp only [valueOf_append, valueOf_bytesOf, length_bytesOf]
    omega
  rw [IgbAdvTxDescRead.ofBytes, front, middle, back, word, valueOf_bytesOf, valueOf_bytesOf,
    Nat.mod_eq_of_lt address, Nat.mod_eq_of_lt status]
  simp

/-- A mask picks its field out of a word. -/
theorem toNat_and_mask (word mask : BitVec 32) {width shift : Nat}
    (contiguous : mask.toNat = (2 ^ width - 1) * 2 ^ shift) :
    (word &&& mask).toNat = word.toNat / 2 ^ shift % 2 ^ width * 2 ^ shift := by
  rw [BitVec.toNat_and, contiguous, and_mask]

/-- What the device reads after `send`: everything is as it should be except that the
length is cut to 16 bits. -/
theorem describes_send_iff (desc : AdvancedTxDescriptor) (packet : Packet)
    (address : packet.addrPhys < 2 ^ 64) :
    (IgbAdvTxDescRead.ofBytes (desc.send packet.addrPhys packet.len).bytes).Describes packet ↔
      packet.len < 65536 := by
  have word : (IgbAdvTxDescRead.ofBytes
    (desc.send packet.addrPhys packet.len).bytes).cmdTypeLen.toNat =
      packet.len % 65536 + 2 ^ 16 * 0x30 + 2 ^ 24 * 0x2B := by
    have kind : (desc.send packet.addrPhys packet.len).dtypMacRsv.toNat = 0x30 := rfl
    have command : (desc.send packet.addrPhys packet.len).dcmd.toNat = 0x2B := rfl
    have length : (desc.send packet.addrPhys packet.len).dataLen.toNat = packet.len % 65536 := rfl
    rw [ofBytes_bytes, kind, command, length, BitVec.toNat_ofNat]
    omega
  have status :
    (IgbAdvTxDescRead.ofBytes (desc.send packet.addrPhys packet.len).bytes).olinfoStatus.toNat =
      packet.len % 65536 * 2 ^ 14 := by
    rw [ofBytes_bytes]
    simp only [send, txPaylenShift, BitVec.toNat_shiftLeft, BitVec.toNat_setWidth,
      BitVec.toNat_ofNat, Nat.shiftLeft_eq]
    omega
  have bus : (IgbAdvTxDescRead.ofBytes
    (desc.send packet.addrPhys packet.len).bytes).bufferAddr.toNat =
      packet.addrPhys := by
    rw [ofBytes_bytes]
    exact Nat.mod_eq_of_lt address
  generalize IgbAdvTxDescRead.ofBytes (desc.send packet.addrPhys packet.len).bytes =
    read at word status bus
  have dataLen : (read.cmdTypeLen &&& igbAdvtxdDtalenMask).toNat = packet.len % 65536 := by
    rw [toNat_and_mask _ _ (show igbAdvtxdDtalenMask.toNat = (2 ^ 16 - 1) * 2 ^ 0 by rfl), word]
    omega
  constructor
  · intro describes
    have whole := describes.dataLen
    omega
  · intro short
    refine ⟨bus, by omega, ?_, ?_, ?_, ?_⟩
    · apply BitVec.eq_of_toNat_eq
      rw [toNat_and_mask _ _ (show igbAdvtxdDtypMask.toNat = (2 ^ 4 - 1) * 2 ^ 20 by rfl), word]
      change _ = 0x00300000
      omega
    · apply BitVec.eq_of_toNat_eq
      rw [toNat_and_mask _ _ (show commandBits.toNat = (2 ^ 8 - 1) * 2 ^ 24 by rfl), word]
      change _ = 0x2B000000
      omega
    · rw [BitVec.toNat_ushiftRight, status, Nat.shiftRight_eq_div_pow, igbAdvtxdPaylenShift]
      omega
    · apply BitVec.eq_of_toNat_eq
      rw [toNat_and_mask _ _ (show igbAdvtxdStatDd.toNat = (2 ^ 1 - 1) * 2 ^ 0 by rfl), status]
      change _ = 0
      omega

end AdvancedTxDescriptor

variable {σ : Type} {host : Host σ} {profile : Profile} {ref : PoolRef} {size queueId : Nat}
  {arcs arcs' : Arcs} {machine after : Machine σ} {txBuf : IgbNetBuf}

theorem usizeAdd_lt {left right sum : Nat}
    (added : (usizeAdd profile left right : Except (Abort Panic) Nat) = .ok sum) :
    sum < usizeModulus := by
  unfold usizeAdd at added
  split at added
  · rename_i bound
    cases added
    exact bound
  · cases profile with
    | dev => cases added
    | release =>
        cases added
        exact Nat.mod_lt _ (by decide)

/-- The physical address of an allocated packet is a machine address. -/
theorem IgbNetBuf.alloc_addrPhys
    (allocated : IgbNetBuf.alloc profile ref size arcs = .ok (.ok txBuf, arcs')) :
    txBuf.packet.addrPhys < usizeModulus := by
  obtain ⟨⟨made, middle⟩, making, returned⟩ := except_bind_ok allocated
  obtain ⟨limit, _, making⟩ := except_bind_ok making
  split at making
  · cases making
    cases returned
  · split at making
    · cases making
      cases returned
    · obtain ⟨virt, _, making⟩ := except_bind_ok making
      obtain ⟨phys, _, making⟩ := except_bind_ok making
      obtain ⟨addrPhys, added, making⟩ := except_bind_ok making
      cases making
      cases returned
      exact usizeAdd_lt added

/-- What an accepted `send` leaves in the ring. -/
theorem send_writes (sent : send host queueId txBuf machine = .ok (.ok (), after)) :
    ∃ queue queue' desc, machine.dev.txQueues[queueId]? = some queue ∧
      after.dev.txQueues[queueId]? = some queue' ∧
      queue.descriptors.cells[queue.txIndex]? = some desc ∧
      queue'.descriptors.cells[queue.txIndex]? =
        some (desc.send txBuf.packet.addrPhys txBuf.packet.len) := by
  obtain ⟨_, middle, enqueuing, ringing⟩ := Prog.bind_ok sent
  obtain ⟨queue, found, room, enqueued⟩ := sendEnqueue_ok enqueuing
  obtain ⟨txIndex, desc, wraps, cell, _, changed⟩ := enqueuePacket_ok enqueued
  obtain ⟨_, _, _, final⟩ := sendDoorbell_ok ringing
  rw [final, changed]
  have queued := (List.getElem?_eq_some_iff.mp found).1
  have inside := (List.getElem?_eq_some_iff.mp cell).1
  exact ⟨queue, _, desc, found, List.getElem?_set_self queued, cell, List.getElem?_set_self inside⟩

/-- After `send` the descriptor says what the packet is exactly if its length fits 16 bits. -/
theorem descriptor_describes_iff
    (allocated : IgbNetBuf.alloc profile ref size arcs = .ok (.ok txBuf, arcs'))
    (sent : send host queueId txBuf machine = .ok (.ok (), after)) :
    ∃ queue queue' desc, machine.dev.txQueues[queueId]? = some queue ∧
      after.dev.txQueues[queueId]? = some queue' ∧
      queue'.descriptors.cells[queue.txIndex]? = some desc ∧
      ((IgbAdvTxDescRead.ofBytes desc.bytes).Describes txBuf.packet ↔
        txBuf.packet.len < 65536) := by
  obtain ⟨queue, queue', desc, found, found', _, written⟩ := send_writes sent
  exact ⟨queue, queue', _, found, found', written,
    desc.describes_send_iff txBuf.packet (IgbNetBuf.alloc_addrPhys allocated)⟩

/-- The value and state of a program that returned. -/
def returned? {Reason ε α : Type} {state : Type}
    (result : Except (Abort Reason) (Except ε α × state)) :
    Option (α × state) :=
  match result with
  | .ok (.ok value, after) => some (value, after)
  | _ => none

theorem of_returned? {Reason ε α : Type} {state : Type}
    {result : Except (Abort Reason) (Except ε α × state)} {value : α} {after : state}
    (returned : returned? result = some (value, after)) :
    result = .ok (.ok value, after) := by
  unfold returned? at returned
  split at returned
  · cases returned
    rfl
  · cases returned

/-- A packet of `len` bytes, allocated on a pool as `allocate` makes it and sent on a
transmit queue as `init` leaves it. -/
structure SentFresh (entrySize len : Nat) (txBuf : IgbNetBuf) (system : System)
    (after : Machine RegisterFile) : Prop where
  made : ∃ pool env arcs,
    MemPool.allocate (platform .dev) 4 entrySize (fun _ => 0) = .ok (.ok pool, env) ∧
    IgbNetBuf.alloc .dev 0 len (fun _ => { strong := 1, data := pool }) = .ok (.ok txBuf, arcs) ∧
    Booted (platform .dev) 4 0 1 0 arcs system
  sent : send (registerFile .dev) 0 txBuf system.machine = .ok (.ok (), after)

def sendFresh (entrySize len : Nat) : Option (IgbNetBuf × System × Machine RegisterFile) := do
  let (pool, _) ← returned? (MemPool.allocate (platform .dev) 4 entrySize (fun _ => 0))
  let (txBuf, arcs) ← returned?
    (IgbNetBuf.alloc .dev 0 len (fun _ => { strong := 1, data := pool }))
  let system ← boot (platform .dev) 4 0x40000 0 1 0 (fun _ => 0) arcs (fun _ => 1) [txBuf.packet]
  let ((), after) ← returned? (send (registerFile .dev) 0 txBuf system.machine)
  pure (txBuf, system, after)

theorem exists_sentFresh (entrySize len : Nat) (checked : (sendFresh entrySize len).isSome = true) :
    ∃ txBuf system after, SentFresh entrySize len txBuf system after := by
  obtain ⟨result, ran⟩ := Option.isSome_iff_exists.mp checked
  obtain ⟨⟨pool, env⟩, allocated, ran⟩ := Option.bind_eq_some_iff.mp ran
  obtain ⟨⟨txBuf, arcs⟩, made, ran⟩ := Option.bind_eq_some_iff.mp ran
  obtain ⟨system, booted, ran⟩ := Option.bind_eq_some_iff.mp ran
  obtain ⟨⟨_, after⟩, sent, _⟩ := Option.bind_eq_some_iff.mp ran
  exact ⟨txBuf, system, after, ⟨⟨pool, env, arcs, of_returned? allocated, of_returned? made,
    (booted_of_boot booted).1⟩, of_returned? sent⟩⟩

/-- A frame of 1514 bytes is described as it is. -/
theorem descriptor_describes_iff_frame : ∃ txBuf system after queue desc,
    SentFresh 2048 1514 txBuf system after ∧ system.machine.dev.txQueues[0]? = some queue ∧
      (∃ queue', after.dev.txQueues[0]? = some queue' ∧
        queue'.descriptors.cells[queue.txIndex]? = some desc) ∧
      (IgbAdvTxDescRead.ofBytes desc.bytes).Describes txBuf.packet := by
  obtain ⟨txBuf, system, after, sentFresh⟩ := exists_sentFresh 2048 1514 (by decide +kernel)
  obtain ⟨pool, env, arcs, _, made, _⟩ := sentFresh.made
  obtain ⟨queue, queue', desc, found, found', written, describes⟩ :=
    descriptor_describes_iff made sentFresh.sent
  have length : txBuf.packet.len = 1514 := by
    rcases IgbNetBuf.alloc_ok made with ⟨failed, _⟩ | ⟨packet, same, length, _⟩
    · cases failed
    · cases same
      exact length
  exact ⟨txBuf, system, after, queue, desc, sentFresh, found, ⟨queue', found', written⟩,
    describes.mpr (by omega)⟩

/-- A packet of 65536 bytes is accepted and described as an empty one. -/
theorem send_cuts_length : ∃ txBuf system after queue queue' desc,
    SentFresh 131072 65536 txBuf system after ∧ system.machine.dev.txQueues[0]? = some queue ∧
      after.dev.txQueues[0]? = some queue' ∧ queue'.descriptors.cells[queue.txIndex]? = some desc ∧
      txBuf.packet.len = 65536 ∧ desc.dataLen = 0 ∧
      ¬ (IgbAdvTxDescRead.ofBytes desc.bytes).Describes txBuf.packet := by
  obtain ⟨txBuf, system, after, sentFresh⟩ := exists_sentFresh 131072 65536 (by decide +kernel)
  obtain ⟨pool, env, arcs, _, made, _⟩ := sentFresh.made
  obtain ⟨queue, queue', desc, found, found', cell, written⟩ := send_writes sentFresh.sent
  have length : txBuf.packet.len = 65536 := by
    rcases IgbNetBuf.alloc_ok made with ⟨failed, _⟩ | ⟨packet, same, length, _⟩
    · cases failed
    · cases same
      exact length
  refine ⟨txBuf, system, after, queue, queue', _, sentFresh, found, found', written, length, ?_, ?_⟩
  · rw [length]
    rfl
  · rw [desc.describes_send_iff txBuf.packet (IgbNetBuf.alloc_addrPhys made)]
    omega

end IgbDriver
