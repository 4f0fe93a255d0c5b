import IgbDriver.Descriptor
import IgbDriver.Foundation.Fields

namespace IgbDriver

open Foundation

/-! # The fields of a write-back descriptor

The hardware lays nine fields out in the two words of an advanced descriptor, at the
masks of the constants. Each getter reads a half-open bit range that ends one bit short.
-/

structure WriteBackFields where
  rssType : BitVec 4
  packetType : BitVec 13
  rsccnt : BitVec 4
  hdrLen : BitVec 10
  rssHash : BitVec 32
  extStatus : BitVec 20
  extError : BitVec 12
  pktLen : BitVec 16
  vlanTag : BitVec 16

namespace AdvancedRxDescriptor

/-! The write-back view `IGB_adv_rx_desc_wb` of the two words. -/

def loDword (desc : AdvancedRxDescriptor) : Nat := desc.packetBufferAddress.toNat % 2 ^ 32

def hdrInfo (desc : AdvancedRxDescriptor) : Nat := desc.packetBufferAddress.toNat / 2 ^ 16 % 2 ^ 16

def rss (desc : AdvancedRxDescriptor) : Nat := desc.packetBufferAddress.toNat / 2 ^ 32 % 2 ^ 32

def statusError (desc : AdvancedRxDescriptor) : Nat := desc.headerBufferAddress.toNat % 2 ^ 32

def lengthField (desc : AdvancedRxDescriptor) : Nat :=
  desc.headerBufferAddress.toNat / 2 ^ 32 % 2 ^ 16

def vlan (desc : AdvancedRxDescriptor) : Nat := desc.headerBufferAddress.toNat / 2 ^ 48 % 2 ^ 16

end AdvancedRxDescriptor

namespace WriteBackFields

/-- The two words carry these fields at the places the masks name. -/
structure Packs (fields : WriteBackFields) (desc : AdvancedRxDescriptor) : Prop where
  rssType : desc.loDword &&& igbRxdadvRsstypeMask = fields.rssType.toNat
  packetType : desc.loDword &&& igbRxdadvPkttypeMaskEx = fields.packetType.toNat * 2 ^ 4
  rsccnt : desc.loDword &&& igbRxdadvRsccntMask = fields.rsccnt.toNat * 2 ^ igbRxdadvRsccntShift
  hdrLen : desc.hdrInfo &&& igbRxdadvHdrbuflenMask =
    fields.hdrLen.toNat * 2 ^ igbRxdadvHdrbuflenShift
  rssHash : desc.rss = fields.rssHash.toNat
  extStatus : desc.statusError &&& igbRxdadvStatMask = fields.extStatus.toNat
  extError : desc.statusError &&& igbRxdadvErrMask = fields.extError.toNat * 2 ^ igbRxdadvErrShift
  pktLen : desc.lengthField = fields.pktLen.toNat
  vlanTag : desc.vlan = fields.vlanTag.toNat

/-- Every getter returns its field. -/
structure Recovered (fields : WriteBackFields) (desc : AdvancedRxDescriptor) : Prop where
  rssType : desc.getRssType = fields.rssType.toNat
  packetType : desc.getPacketType = fields.packetType.toNat
  rsccnt : desc.getRsccnt = fields.rsccnt.toNat
  hdrLen : desc.getHdrLen = fields.hdrLen.toNat
  rssHash : desc.getRssHash = fields.rssHash.toNat
  extStatus : desc.getExtStatus = fields.extStatus.toNat
  extError : desc.getExtError = fields.extError.toNat
  pktLen : desc.getPktLen = fields.pktLen.toNat
  vlanTag : desc.getVlanTag = fields.vlanTag.toNat

/-- No field uses its top bit. -/
structure TopBitsClear (fields : WriteBackFields) : Prop where
  rssType : fields.rssType.toNat < 2 ^ 3
  packetType : fields.packetType.toNat < 2 ^ 12
  rsccnt : fields.rsccnt.toNat < 2 ^ 3
  hdrLen : fields.hdrLen.toNat < 2 ^ 9
  rssHash : fields.rssHash.toNat < 2 ^ 31
  extStatus : fields.extStatus.toNat < 2 ^ 19
  extError : fields.extError.toNat < 2 ^ 11
  pktLen : fields.pktLen.toNat < 2 ^ 15
  vlanTag : fields.vlanTag.toNat < 2 ^ 15

/-- The words the hardware writes for these fields; `sph` is the bit no getter reads. -/
def descriptor (fields : WriteBackFields) (sph : BitVec 1) : AdvancedRxDescriptor where
  packetBufferAddress :=
    BitVec.ofNat 64 (pack [⟨4, fields.rssType.toNat⟩, ⟨13, fields.packetType.toNat⟩,
    ⟨4, fields.rsccnt.toNat⟩, ⟨10, fields.hdrLen.toNat⟩, ⟨1, sph.toNat⟩,
    ⟨32, fields.rssHash.toNat⟩])
  headerBufferAddress :=
    BitVec.ofNat 64 (pack [⟨20, fields.extStatus.toNat⟩, ⟨12, fields.extError.toNat⟩,
    ⟨16, fields.pktLen.toNat⟩, ⟨16, fields.vlanTag.toNat⟩])

/-- Where each field stands in its word. -/
structure Placed (fields : WriteBackFields) (desc : AdvancedRxDescriptor) : Prop where
  rssType : desc.packetBufferAddress.toNat / 2 ^ 0 % 2 ^ 4 = fields.rssType.toNat
  packetType : desc.packetBufferAddress.toNat / 2 ^ 4 % 2 ^ 13 = fields.packetType.toNat
  rsccnt : desc.packetBufferAddress.toNat / 2 ^ 17 % 2 ^ 4 = fields.rsccnt.toNat
  hdrLen : desc.packetBufferAddress.toNat / 2 ^ 21 % 2 ^ 10 = fields.hdrLen.toNat
  rssHash : desc.packetBufferAddress.toNat / 2 ^ 32 % 2 ^ 32 = fields.rssHash.toNat
  extStatus : desc.headerBufferAddress.toNat / 2 ^ 0 % 2 ^ 20 = fields.extStatus.toNat
  extError : desc.headerBufferAddress.toNat / 2 ^ 20 % 2 ^ 12 = fields.extError.toNat
  pktLen : desc.headerBufferAddress.toNat / 2 ^ 32 % 2 ^ 16 = fields.pktLen.toNat
  vlanTag : desc.headerBufferAddress.toNat / 2 ^ 48 % 2 ^ 16 = fields.vlanTag.toNat

variable {fields : WriteBackFields} {desc : AdvancedRxDescriptor}

/-- The masks put each field at its place, and nowhere else. -/
theorem packs_iff_placed : fields.Packs desc ↔ fields.Placed desc := by
  have rssMask : igbRxdadvRsstypeMask = (2 ^ 4 - 1) * 2 ^ 0 := rfl
  have typeMask : igbRxdadvPkttypeMaskEx = (2 ^ 13 - 1) * 2 ^ 4 := rfl
  have rscMask : igbRxdadvRsccntMask = (2 ^ 4 - 1) * 2 ^ 17 := rfl
  have hdrMask : igbRxdadvHdrbuflenMask = (2 ^ 10 - 1) * 2 ^ 5 := rfl
  have statMask : igbRxdadvStatMask = (2 ^ 20 - 1) * 2 ^ 0 := rfl
  have errMask : igbRxdadvErrMask = (2 ^ 12 - 1) * 2 ^ 20 := rfl
  constructor
  · intro packs
    obtain ⟨rss, type, rsc, hdr, hash, stat, err, len, tag⟩ := packs
    rw [rssMask, and_mask] at rss
    rw [typeMask, and_mask] at type
    rw [rscMask, and_mask] at rsc
    rw [hdrMask, and_mask] at hdr
    rw [statMask, and_mask] at stat
    rw [errMask, and_mask] at err
    simp only [AdvancedRxDescriptor.loDword, AdvancedRxDescriptor.hdrInfo,
      AdvancedRxDescriptor.statusError,
      igbRxdadvRsccntShift, igbRxdadvHdrbuflenShift, igbRxdadvErrShift] at rss type rsc hdr stat err
    exact ⟨by omega, by omega, by omega, by omega, hash, by omega, by omega, len, tag⟩
  · intro placed
    obtain ⟨rss, type, rsc, hdr, hash, stat, err, len, tag⟩ := placed
    refine ⟨?_, ?_, ?_, ?_, hash, ?_, ?_, len, tag⟩
    · rw [rssMask, and_mask, AdvancedRxDescriptor.loDword]
      omega
    · rw [typeMask, and_mask, AdvancedRxDescriptor.loDword]
      omega
    · rw [rscMask, and_mask, AdvancedRxDescriptor.loDword, igbRxdadvRsccntShift]
      omega
    · rw [hdrMask, and_mask, AdvancedRxDescriptor.hdrInfo, igbRxdadvHdrbuflenShift]
      omega
    · rw [statMask, and_mask, AdvancedRxDescriptor.statusError]
      omega
    · rw [errMask, and_mask, AdvancedRxDescriptor.statusError, igbRxdadvErrShift]
      omega

/-- Any choice of fields can be packed. -/
theorem placed_descriptor (fields : WriteBackFields) (sph : BitVec 1) :
    fields.Placed (fields.descriptor sph) := by
  obtain ⟨rss, type, rsc, hdr, hash, stat, err, len, tag⟩ := fields
  have lower : ∀ field ∈ [⟨4, rss.toNat⟩, ⟨13, type.toNat⟩, ⟨4, rsc.toNat⟩, ⟨10, hdr.toNat⟩,
      ⟨1, sph.toNat⟩, ⟨32, hash.toNat⟩], BitField.Fits field := by
    simp [BitField.fits_toNat]
  have upper : ∀ field ∈ [⟨20, stat.toNat⟩, ⟨12, err.toNat⟩, ⟨16, len.toNat⟩, ⟨16, tag.toNat⟩],
      BitField.Fits field := by
    simp [BitField.fits_toNat]
  exact {
    rssType := ofNat_pack_extract [] rss _ lower rfl
    packetType := ofNat_pack_extract [⟨4, rss.toNat⟩] type _ lower rfl
    rsccnt := ofNat_pack_extract [⟨4, rss.toNat⟩, ⟨13, type.toNat⟩] rsc _ lower rfl
    hdrLen := ofNat_pack_extract [⟨4, rss.toNat⟩, ⟨13, type.toNat⟩, ⟨4, rsc.toNat⟩] hdr _ lower rfl
    rssHash := ofNat_pack_extract [⟨4, rss.toNat⟩, ⟨13, type.toNat⟩, ⟨4, rsc.toNat⟩,
      ⟨10, hdr.toNat⟩, ⟨1, sph.toNat⟩] hash [] lower rfl
    extStatus := ofNat_pack_extract [] stat _ upper rfl
    extError := ofNat_pack_extract [⟨20, stat.toNat⟩] err _ upper rfl
    pktLen := ofNat_pack_extract [⟨20, stat.toNat⟩, ⟨12, err.toNat⟩] len _ upper rfl
    vlanTag := ofNat_pack_extract [⟨20, stat.toNat⟩, ⟨12, err.toNat⟩, ⟨16, len.toNat⟩] tag
      [] upper rfl }

theorem recovered_iff_of_placed (placed : fields.Placed desc) :
    fields.Recovered desc ↔ fields.TopBitsClear := by
  have rssType : desc.getRssType = _ ↔ _ < 2 ^ 3 := narrow_iff placed.rssType (by decide)
  have packetType : desc.getPacketType = _ ↔ _ < 2 ^ 12 := narrow_iff placed.packetType (by decide)
  have rsccnt : desc.getRsccnt = _ ↔ _ < 2 ^ 3 := narrow_iff placed.rsccnt (by decide)
  have hdrLen : desc.getHdrLen = _ ↔ _ < 2 ^ 9 := narrow_iff placed.hdrLen (by decide)
  have rssHash : desc.getRssHash = _ ↔ _ < 2 ^ 31 := narrow_iff placed.rssHash (by decide)
  have extStatus : desc.getExtStatus = _ ↔ _ < 2 ^ 19 := narrow_iff placed.extStatus (by decide)
  have extError : desc.getExtError = _ ↔ _ < 2 ^ 11 := narrow_iff placed.extError (by decide)
  have pktLen : desc.getPktLen = _ ↔ _ < 2 ^ 15 := narrow_iff placed.pktLen (by decide)
  have vlanTag : desc.getVlanTag = _ ↔ _ < 2 ^ 15 := narrow_iff placed.vlanTag (by decide)
  constructor
  · intro recovered
    exact ⟨rssType.mp recovered.rssType, packetType.mp recovered.packetType,
      rsccnt.mp recovered.rsccnt,
      hdrLen.mp recovered.hdrLen, rssHash.mp recovered.rssHash, extStatus.mp recovered.extStatus,
      extError.mp recovered.extError, pktLen.mp recovered.pktLen, vlanTag.mp recovered.vlanTag⟩
  · intro clear
    exact ⟨rssType.mpr clear.rssType, packetType.mpr clear.packetType, rsccnt.mpr clear.rsccnt,
      hdrLen.mpr clear.hdrLen, rssHash.mpr clear.rssHash, extStatus.mpr clear.extStatus,
      extError.mpr clear.extError, pktLen.mpr clear.pktLen, vlanTag.mpr clear.vlanTag⟩

/-- Whatever the words, the getters return all fields exactly if no field uses its top bit. -/
theorem getters_recover_iff (packs : fields.Packs desc) : fields.Recovered desc ↔
    fields.TopBitsClear :=
  recovered_iff_of_placed (packs_iff_placed.mp packs)

/-- The fields of an ordinary frame. -/
def ordinary : WriteBackFields where
  rssType := 7
  packetType := 0x211
  rsccnt := 0
  hdrLen := 42
  rssHash := 0x1234ABCD
  extStatus := 3
  extError := 0
  pktLen := 1514
  vlanTag := 5

theorem getters_recover_iff_ordinary : ordinary.Recovered (ordinary.descriptor 0) :=
  (getters_recover_iff (packs_iff_placed.mpr (placed_descriptor ordinary 0))).mpr
    ⟨by decide, by decide, by decide, by decide, by decide, by decide, by decide, by
      decide, by decide⟩

/-- A hash with its top bit set comes back without it. -/
theorem getters_drop_top_bit : ∃ (fields : WriteBackFields) (desc : AdvancedRxDescriptor),
    fields.Packs desc ∧ fields.rssHash = 0x80000001 ∧ desc.getRssHash = 1 ∧
      ¬ fields.Recovered desc := by
  have packs := packs_iff_placed.mpr (placed_descriptor { ordinary with rssHash := 0x80000001 } 0)
  have read : (descriptor { ordinary with rssHash := 0x80000001 } 0).getRssHash = 1 := by decide
  refine ⟨_, _, packs, rfl, read, fun recovered => ?_⟩
  have whole := recovered.rssHash
  rw [read] at whole
  exact absurd whole (by decide)

end WriteBackFields

end IgbDriver
