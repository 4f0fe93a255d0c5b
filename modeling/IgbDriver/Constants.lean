namespace IgbDriver

/-! # Constants of the driver and register offsets of the 82576

The per-queue offsets take the queue number; the source computes them in `u32`,
where no `u16` queue number can overflow.
-/

def maxQueues : Nat := 64

def txCleanBatch : Nat := 32

def packetHeadroom : Nat := 32

def hugePageSize : Nat := 2097152

def igbCtrl : Nat := 0x00000
def igbStatus : Nat := 0x00008
def igbCtrlExt : Nat := 0x00018
def igbMdic : Nat := 0x00020
def igbRxctrl : Nat := 0x00100
def igbIcr : Nat := 0x01500
def igbIms : Nat := 0x01508
def igbImc : Nat := 0x0150C
def igbRdrxctl : Nat := 0x02F00
def igbGprc : Nat := 0x04074
def igbGptc : Nat := 0x04080
def igbGorcl : Nat := 0x04088
def igbGorch : Nat := 0x0408C
def igbGotcl : Nat := 0x04090
def igbGotch : Nat := 0x04094
def igbHlreg0 : Nat := 0x04240
def igbDmatxctl : Nat := 0x04A80
def igbFctrl : Nat := 0x05080

def igbIvar (i : Nat) : Nat := 0x00900 + i * 4
def igbRxpbsize (i : Nat) : Nat := 0x03C00 + i * 4
def igbRal (i : Nat) : Nat := if i ≤ 15 then 0x05400 + i * 8 else 0x054E0 + (i - 16) * 8
def igbRah (i : Nat) : Nat := if i ≤ 15 then 0x05404 + i * 8 else 0x054E4 + (i - 16) * 8

def igbSrrctl (i : Nat) : Nat :=
  if i ≤ 15 then 0x02100 + i * 4
  else if i < 64 then 0x01014 + i * 0x40
  else 0x0D014 + (i - 64) * 0x40

def igbRdbal (i : Nat) : Nat := 0x0C000 + i * 0x40
def igbRdbah (i : Nat) : Nat := 0x0C004 + i * 0x40
def igbRdlen (i : Nat) : Nat := 0x0C008 + i * 0x40
def igbRdh (i : Nat) : Nat := 0x0C010 + i * 0x40
def igbRdt (i : Nat) : Nat := 0x0C018 + i * 0x40
def igbRxdctl (i : Nat) : Nat := 0x0C028 + i * 0x40

def igbTdbal (i : Nat) : Nat := 0x0E000 + i * 0x40
def igbTdbah (i : Nat) : Nat := 0x0E004 + i * 0x40
def igbTdlen (i : Nat) : Nat := 0x0E008 + i * 0x40
def igbTdh (i : Nat) : Nat := 0x0E010 + i * 0x40
def igbTdt (i : Nat) : Nat := 0x0E018 + i * 0x40
def igbTxdctl (i : Nat) : Nat := 0x0E028 + i * 0x40

def igbCtrlGlobalRst : BitVec 32 := 0x04000000
def igbIrqClearMask : BitVec 32 := 0xFFFFFFFF
def igbLinksUp : BitVec 32 := 0x00000002
def igbRxctrlRxen : BitVec 32 := 0x00000002
def igbRxctrlBam : BitVec 32 := 0x00008000
def igbRxpbsize128kb : BitVec 32 := 0x00020000
def igbHlreg0Rxcrcstrp : BitVec 32 := 0x00000002
def igbRdrxctlCrcstrip : BitVec 32 := 0x00000002
def igbFctrlBam : BitVec 32 := 0x00000400
def igbDmatxctlTe : BitVec 32 := 0x00000001
def igbRxdctlEnable : BitVec 32 := 0x02000000
def igbTxdctlEnable : BitVec 32 := 0x02000000
def igbAdvtxdStatDd : BitVec 32 := 0x00000001
def igbSrrctlDesctypeLegacy : BitVec 32 := 0x00000000
def igbSrrctlDesctypeAdvOnebuf : BitVec 32 := 0x02000000
def igbSrrctlDesctypeMask : BitVec 32 := 0x0E000000

def igbIvarAllocVal : BitVec 32 := 0x80

/-! Descriptor bits. -/

def txCmdEop : BitVec 8 := 0x01
def txCmdIfcs : BitVec 8 := 0x02
def txCmdRs : BitVec 8 := 0x08
def txCmdDext : BitVec 8 := 0x20
def txDtypAdv : BitVec 8 := 0x30
def txPaylenShift : Nat := 14
def rxStatusDd : Nat := 0x01
def rxStatusEop : Nat := 0x02

/-! Fields of an advanced transmit descriptor. -/

def igbAdvtxdDtalenMask : BitVec 32 := 0x0000FFFF
def igbAdvtxdDtypMask : BitVec 32 := 0x00F00000
def igbAdvtxdDtypData : BitVec 32 := 0x00300000
def igbAdvtxdDcmdEop : BitVec 32 := 0x01000000
def igbAdvtxdDcmdIfcs : BitVec 32 := 0x02000000
def igbAdvtxdDcmdRs : BitVec 32 := 0x08000000
def igbAdvtxdDcmdDext : BitVec 32 := 0x20000000
def igbAdvtxdPaylenShift : Nat := 14

/-! Fields of an advanced write-back descriptor. -/

def igbRxdadvRsstypeMask : Nat := 0x0000000F
def igbRxdadvPkttypeMaskEx : Nat := 0x0001FFF0
def igbRxdadvRsccntMask : Nat := 0x001E0000
def igbRxdadvRsccntShift : Nat := 17
def igbRxdadvHdrbuflenMask : Nat := 0x00007FE0
def igbRxdadvHdrbuflenShift : Nat := 5
def igbRxdadvStatMask : Nat := 0x000fffff
def igbRxdadvErrMask : Nat := 0xfff00000
def igbRxdadvErrShift : Nat := 20

end IgbDriver
