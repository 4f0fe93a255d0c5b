import Mathlib.Algebra.Group.Nat.Defs
import IgbDriver.Constants

namespace IgbDriver

/-! # Receive and transmit descriptors -/

/-- `bit_field`'s `get_bits(lower..upper)` on a 64-bit word. -/
def getBits (word : BitVec 64) (lower upper : Nat) : Nat :=
  word.toNat / 2 ^ lower % 2 ^ (upper - lower)

structure AdvancedRxDescriptor where
  packetBufferAddress : BitVec 64
  headerBufferAddress : BitVec 64
deriving DecidableEq, Repr

namespace AdvancedRxDescriptor

/-- Both words cleared, whatever the memory held. -/
def init : AdvancedRxDescriptor := { packetBufferAddress := 0, headerBufferAddress := 0 }

def setPacketAddress (desc : AdvancedRxDescriptor) (packetBufferAddress : Nat) :
    AdvancedRxDescriptor :=
  { desc with packetBufferAddress := BitVec.ofNat 64 packetBufferAddress }

def resetStatus (desc : AdvancedRxDescriptor) : AdvancedRxDescriptor :=
  { desc with headerBufferAddress := 0 }

def getRssType (desc : AdvancedRxDescriptor) : Nat := getBits desc.packetBufferAddress 0 3

def getPacketType (desc : AdvancedRxDescriptor) : Nat := getBits desc.packetBufferAddress 4 16

def getRsccnt (desc : AdvancedRxDescriptor) : Nat := getBits desc.packetBufferAddress 17 20

def getHdrLen (desc : AdvancedRxDescriptor) : Nat := getBits desc.packetBufferAddress 21 30

def getRssHash (desc : AdvancedRxDescriptor) : Nat := getBits desc.packetBufferAddress 32 63

def getExtStatus (desc : AdvancedRxDescriptor) : Nat := getBits desc.headerBufferAddress 0 19

def getExtError (desc : AdvancedRxDescriptor) : Nat := getBits desc.headerBufferAddress 20 31

def getPktLen (desc : AdvancedRxDescriptor) : Nat := getBits desc.headerBufferAddress 32 47

def getVlanTag (desc : AdvancedRxDescriptor) : Nat := getBits desc.headerBufferAddress 48 63

def length (desc : AdvancedRxDescriptor) : Nat := desc.getPktLen

/-- `desc.get_ext_status() as u8`. -/
def status (desc : AdvancedRxDescriptor) : Nat := desc.getExtStatus % 256

def done (desc : AdvancedRxDescriptor) : Bool := desc.status &&& rxStatusDd ≠ 0

def endOfPacket (desc : AdvancedRxDescriptor) : Bool := desc.status &&& rxStatusEop ≠ 0

end AdvancedRxDescriptor

structure AdvancedTxDescriptor where
  packetBufferAddress : BitVec 64
  dataLen : BitVec 16
  dtypMacRsv : BitVec 8
  dcmd : BitVec 8
  paylenPoptsCcIdxSta : BitVec 32
deriving DecidableEq, Repr

namespace AdvancedTxDescriptor

def init : AdvancedTxDescriptor :=
  { packetBufferAddress := 0, dataLen := 0, dtypMacRsv := 0, dcmd := 0, paylenPoptsCcIdxSta := 0 }

/-- The five volatile writes of `send` cover the whole descriptor. -/
def send (_desc : AdvancedTxDescriptor) (transmitBufferAddr transmitBufferLength : Nat) :
    AdvancedTxDescriptor :=
  let length := BitVec.ofNat 16 transmitBufferLength
  { packetBufferAddress := BitVec.ofNat 64 transmitBufferAddr
    dataLen := length
    dtypMacRsv := txDtypAdv
    paylenPoptsCcIdxSta := length.setWidth 32 <<< txPaylenShift
    dcmd := txCmdDext ||| txCmdRs ||| txCmdIfcs ||| txCmdEop }

/-- The test `status & IGB_ADVTXD_STAT_DD != 0` of the recycle loop. -/
def done (desc : AdvancedTxDescriptor) : Bool := desc.paylenPoptsCcIdxSta &&& igbAdvtxdStatDd ≠ 0

end AdvancedTxDescriptor

private theorem and_two (value : Nat) : value &&& 2 = value / 2 % 2 * 2 := by
  have split : value &&& 2 = (value / 2 &&& 1) * 2 := by
    have lower : (value &&& 2) % 2 = 0 := by
      rw [← Nat.and_one_is_mod, Nat.and_assoc]
      simp
    have upper : (value &&& 2) / 2 = value / 2 &&& 1 := Nat.and_div_two
    omega
  rw [split, Nat.and_one_is_mod]

namespace AdvancedRxDescriptor

theorem done_iff (desc : AdvancedRxDescriptor) :
    desc.done = true ↔ desc.headerBufferAddress.toNat % 2 = 1 := by
  have low : desc.status % 2 = desc.headerBufferAddress.toNat % 2 := by
    simp only [status, getExtStatus, getBits]
    omega
  simp only [done, rxStatusDd, Nat.and_one_is_mod, ne_eq, decide_not, Bool.not_eq_true',
    decide_eq_false_iff_not, low]
  omega

theorem endOfPacket_iff (desc : AdvancedRxDescriptor) :
    desc.endOfPacket = true ↔ desc.headerBufferAddress.toNat / 2 % 2 = 1 := by
  have masked : desc.status &&& rxStatusEop = desc.status / 2 % 2 * 2 := and_two _
  have bit : desc.status / 2 % 2 = desc.headerBufferAddress.toNat / 2 % 2 := by
    simp only [status, getExtStatus, getBits]
    omega
  simp only [endOfPacket, masked, bit, ne_eq, decide_not, Bool.not_eq_true',
    decide_eq_false_iff_not]
  omega

@[simp] theorem done_resetStatus (desc : AdvancedRxDescriptor) : desc.resetStatus.done = false := by
  simp [done, status, getExtStatus, getBits, resetStatus]

@[simp] theorem packetBufferAddress_resetStatus (desc : AdvancedRxDescriptor) :
    desc.resetStatus.packetBufferAddress = desc.packetBufferAddress := rfl

@[simp] theorem packetBufferAddress_setPacketAddress (desc : AdvancedRxDescriptor) (address : Nat) :
    (desc.setPacketAddress address).packetBufferAddress = BitVec.ofNat 64 address := rfl

/-- `get_bits(32..47)` drops the top bit of the length field, which no length
below `2 ^ 15` has set. -/
theorem length_of_lt (desc : AdvancedRxDescriptor)
    (bound : desc.headerBufferAddress.toNat / 2 ^ 32 % 2 ^ 16 < 2 ^ 15) :
    desc.length = desc.headerBufferAddress.toNat / 2 ^ 32 % 2 ^ 16 := by
  simp only [length, getPktLen, getBits]
  omega

end AdvancedRxDescriptor

namespace AdvancedTxDescriptor

@[simp] theorem packetBufferAddress_send (desc : AdvancedTxDescriptor) (address length : Nat) :
    (desc.send address length).packetBufferAddress = BitVec.ofNat 64 address := rfl

/-- A freshly written descriptor is not done: the length field starts above the
status bits. -/
@[simp] theorem done_send (desc : AdvancedTxDescriptor) (address length : Nat) :
    (desc.send address length).done = false := by
  have masked : (BitVec.ofNat 16 length).setWidth 32 <<< 14 &&& 1#32 = 0#32 := by
    apply BitVec.eq_of_getLsbD_eq
    intro position bound
    cases position with
    | zero => simp
    | succ position => simp
  simp [done, send, txPaylenShift, igbAdvtxdStatDd, masked]

end AdvancedTxDescriptor

end IgbDriver
