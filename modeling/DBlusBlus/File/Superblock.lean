import DBlusBlus.Library.Check
import DBlusBlus.Page.Header
import DBlusBlus.Common.Crc32c

/-! The file superblock, page 0 of a managed file. -/

namespace DBlusBlus

def fileSuperblockMagic : List UInt8 := [0x44, 0x42, 0x4C, 0x55, 0x53, 0x42, 0x4C, 0x53]
def fileSuperblockFormatVersion : UInt16 := 1
def fileSuperblockHeaderSize : UInt16 := 72

/-- The persisted 16-bit code, of which four have names. -/
structure FileKind where
  value : UInt16
deriving DecidableEq

namespace FileKind

def heap : FileKind := ⟨1⟩
def btree : FileKind := ⟨2⟩
def fsm : FileKind := ⟨3⟩
def catalog : FileKind := ⟨4⟩

end FileKind

structure FileSuperblock where
  fileKind : FileKind
  fileId : FileId
  pageLsn : UInt64
  objectId : UInt64
  creationEpoch : UInt64
deriving DecidableEq

inductive FileSuperblockDecodeError
  | none | bufferTooSmall | checksumMismatch | wrongPageType | unsupportedFormatVersion | wrongHeaderSize
  | wrongPageNumber | magicMismatch | invalidFileKind | unsupportedFileKind | wrongPageSize
  | nonzeroFlags | nonzeroReservedBytes
deriving DecidableEq

def isRecognizedFileKind (kind : FileKind) : Bool :=
  kind == .heap || kind == .btree || kind == .fsm || kind == .catalog

def isSupportedGenericFileKind (kind : FileKind) : Bool :=
  kind == .heap || kind == .fsm || kind == .catalog

def containsNonzeroByte (bytes : List UInt8) : Bool := bytes.any (· != 0)

def computeFileSuperblockChecksum (page : List UInt8) : Option UInt32 :=
  if page.length < pageSize then none
  else some (crc32c (Codec.splice (page.take pageSize) 16 (List.replicate 4 0)))

/-- The local page that `encodeFileSuperblock` fills before it touches the destination. -/
def fileSuperblockPage (superblock : FileSuperblock) : Option (List UInt8) := do
  let page ← encodeCommonPageHeader (List.replicate pageSize 0)
    ⟨PageType.superblock, fileSuperblockFormatVersion, 0, superblock.pageLsn, 0,
      fileSuperblockHeaderSize, 0, 0⟩
  let page := Codec.splice page 32 fileSuperblockMagic
  let page ← writeSubspan page 40 2 (encodeLittleEndian 2 · superblock.fileKind.value.toBitVec)
  let page ← writeSubspan page 44 4 (encodeLittleEndian 4 · (UInt32.ofNat pageSize).toBitVec)
  let page ← writeSubspan page 48 4 (encodeLittleEndian 4 · superblock.fileId.value.toBitVec)
  let page ← writeSubspan page 56 8 (encodeLittleEndian 8 · superblock.objectId.toBitVec)
  let page ← writeSubspan page 64 8 (encodeLittleEndian 8 · superblock.creationEpoch.toBitVec)
  let checksum ← computeFileSuperblockChecksum page
  writeSubspan page 16 4 (encodeLittleEndian 4 · checksum.toBitVec)

/-- The result, and the destination afterwards. -/
def encodeFileSuperblock (destination : List UInt8) (superblock : FileSuperblock) :
    Bool × List UInt8 :=
  if destination.length < pageSize ∨ ¬ isSupportedGenericFileKind superblock.fileKind then
    (false, destination)
  else
    match fileSuperblockPage superblock with
    | none => (false, destination)
    | some page => (true, Codec.splice destination 0 page)

def decodeFileSuperblock (source : List UInt8) :
    Except FileSuperblockDecodeError FileSuperblock := do
  Check.require (pageSize ≤ source.length) .bufferTooSmall
  let page := source.take pageSize
  let stored ← Check.present (decodeU32 ((page.drop 16).take 4)) .checksumMismatch
  let computed ← Check.present (computeFileSuperblockChecksum page) .checksumMismatch
  Check.require (stored = computed) .checksumMismatch
  let header ← Check.present (decodeCommonPageHeader (page.take commonPageHeaderEncodedSize))
    .bufferTooSmall
  Check.require (header.pageType = PageType.superblock) .wrongPageType
  Check.require (header.formatVersion = fileSuperblockFormatVersion) .unsupportedFormatVersion
  Check.require (header.pageNo = 0) .wrongPageNumber
  Check.require ((page.drop 32).take 8 = fileSuperblockMagic) .magicMismatch
  let rawFileKind ← Check.present (decodeU16 ((page.drop 40).take 2)) .bufferTooSmall
  Check.require (isRecognizedFileKind ⟨rawFileKind⟩) .invalidFileKind
  Check.require (isSupportedGenericFileKind ⟨rawFileKind⟩) .unsupportedFileKind
  Check.require (header.headerSize = fileSuperblockHeaderSize) .wrongHeaderSize
  let persistedPageSize ← Check.present (decodeU32 ((page.drop 44).take 4)) .bufferTooSmall
  Check.require (persistedPageSize = UInt32.ofNat pageSize) .wrongPageSize
  Check.require (header.flags = 0) .nonzeroFlags
  Check.require (¬ (header.reserved16 ≠ 0 ∨ containsNonzeroByte ((page.drop 42).take 2) ∨
    containsNonzeroByte ((page.drop 52).take 4) ∨ containsNonzeroByte (page.drop 72)))
    .nonzeroReservedBytes
  let fileId ← Check.present (decodeU32 ((page.drop 48).take 4)) .bufferTooSmall
  let objectId ← Check.present (decodeU64 ((page.drop 56).take 8)) .bufferTooSmall
  let creationEpoch ← Check.present (decodeU64 ((page.drop 64).take 8)) .bufferTooSmall
  return ⟨⟨rawFileKind⟩, ⟨fileId⟩, header.pageLsn, objectId, creationEpoch⟩

namespace FileSuperblock

variable (superblock : FileSuperblock) (stored : UInt32)

def leading : List (List UInt8) :=
  [littleEndianBytes 2 PageType.superblock.toBitVec,
    littleEndianBytes 2 fileSuperblockFormatVersion.toBitVec,
    littleEndianBytes 4 (0 : UInt32).toBitVec, littleEndianBytes 8 superblock.pageLsn.toBitVec]

def trailing : List (List UInt8) :=
  [littleEndianBytes 2 fileSuperblockHeaderSize.toBitVec, littleEndianBytes 2 (0 : UInt16).toBitVec,
    littleEndianBytes 8 (0 : UInt64).toBitVec, fileSuperblockMagic,
    littleEndianBytes 2 superblock.fileKind.value.toBitVec, List.replicate 2 0,
    littleEndianBytes 4 (UInt32.ofNat pageSize).toBitVec,
    littleEndianBytes 4 superblock.fileId.value.toBitVec, List.replicate 4 0,
    littleEndianBytes 8 superblock.objectId.toBitVec,
    littleEndianBytes 8 superblock.creationEpoch.toBitVec]

def withChecksum : List UInt8 :=
  Codec.overlay (List.replicate pageSize 0)
    (superblock.leading ++ littleEndianBytes 4 stored.toBitVec :: superblock.trailing)

def checksum : UInt32 := crc32c (superblock.withChecksum 0)

def image : List UInt8 := superblock.withChecksum superblock.checksum

@[simp] lemma length_leading : superblock.leading.flatten.length = 16 := by simp [leading]

@[simp] lemma length_trailing : superblock.trailing.flatten.length = 52 := by
  simp [trailing, fileSuperblockMagic]

@[simp] lemma length_withChecksum : (superblock.withChecksum stored).length = pageSize := by
  rw [withChecksum, Codec.length_overlay, List.length_replicate]
  rw [List.flatten_append, List.length_append, List.flatten_cons, List.length_append,
    length_leading, length_trailing, littleEndianBytes_length, List.length_replicate]
  decide

@[simp] lemma length_image : superblock.image.length = pageSize := length_withChecksum ..

/-- The stored checksum does not enter its own computation. -/
lemma splice_checksum (other : UInt32) :
    Codec.splice (superblock.withChecksum stored) 16 (littleEndianBytes 4 other.toBitVec) =
      superblock.withChecksum other :=
  Codec.splice_field superblock.length_leading (by simp)

lemma computeChecksum : computeFileSuperblockChecksum (superblock.withChecksum stored) =
    some superblock.checksum := by
  rw [computeFileSuperblockChecksum, if_neg (by rw [length_withChecksum]; exact lt_irrefl _),
    List.take_of_length_le (length_withChecksum ..).le,
    show List.replicate 4 (0 : UInt8) = littleEndianBytes 4 (0 : UInt32).toBitVec from rfl,
    splice_checksum]
  rfl

end FileSuperblock

lemma fileSuperblockPage_eq (superblock : FileSuperblock) :
    fileSuperblockPage superblock = some superblock.image := by
  have room {o k : ℕ} (h : o + k ≤ 8192) : o + k ≤ (List.replicate pageSize (0 : UInt8)).length := by
    rw [List.length_replicate]
    exact h
  rw [fileSuperblockPage, encodeCommonPageHeader_eq _ (room (o := 0) (k := 32) (by decide))]
  simp only [Option.bind_eq_bind, Option.bind_some, CommonPageHeader.fields]
  rw [Codec.splice_overlay (by simp)]
  simp only [List.cons_append, List.nil_append]
  rw [writeSubspan_field _ (by simp [fileSuperblockMagic]) (room (by decide)), Option.bind_some,
    Codec.overlay_replicate (k := 2) (by simp [fileSuperblockMagic, pageSize])]
  simp only [List.cons_append, List.nil_append]
  rw [writeSubspan_field _ (by simp [fileSuperblockMagic]) (room (by decide)), Option.bind_some]
  simp only [List.cons_append, List.nil_append]
  rw [writeSubspan_field _ (by simp [fileSuperblockMagic]) (room (by decide)), Option.bind_some,
    Codec.overlay_replicate (k := 4) (by simp [fileSuperblockMagic, pageSize])]
  simp only [List.cons_append, List.nil_append]
  rw [writeSubspan_field _ (by simp [fileSuperblockMagic]) (room (by decide)), Option.bind_some]
  simp only [List.cons_append, List.nil_append]
  rw [writeSubspan_field _ (by simp [fileSuperblockMagic]) (room (by decide)), Option.bind_some]
  change (computeFileSuperblockChecksum (superblock.withChecksum 0)).bind (fun checksum =>
    writeSubspan (superblock.withChecksum 0) 16 4 (encodeLittleEndian 4 · checksum.toBitVec)) = _
  rw [superblock.computeChecksum, Option.bind_some, writeSubspan_encodeLittleEndian,
    superblock.splice_checksum]
  · rfl
  · rw [superblock.length_withChecksum]
    decide

lemma containsNonzeroByte_eq_false {bytes : List UInt8} {n : ℕ} (h : bytes.length = n) :
    containsNonzeroByte bytes = false ↔ bytes = List.replicate n 0 := by
  rw [containsNonzeroByte, List.any_eq_false, List.eq_replicate_iff]
  simp [h]

lemma recognized_of_supported {kind : FileKind} (h : isSupportedGenericFileKind kind = true) :
    isRecognizedFileKind kind = true := by
  simp only [isSupportedGenericFileKind, isRecognizedFileKind, Bool.or_eq_true] at h ⊢
  tauto

lemma withChecksum_eq_iff (superblock : FileSuperblock) {stored : UInt32} {page : List UInt8}
    (h : page.length = pageSize) : page = superblock.withChecksum stored ↔
      CommonPageHeader.image ⟨PageType.superblock, fileSuperblockFormatVersion, 0,
        superblock.pageLsn, stored, fileSuperblockHeaderSize, 0, 0⟩ <+: page ∧
      fileSuperblockMagic <+: page.drop 32 ∧
      littleEndianBytes 2 superblock.fileKind.value.toBitVec <+: page.drop 40 ∧
      List.replicate 2 0 <+: page.drop 42 ∧
      littleEndianBytes 4 (UInt32.ofNat pageSize).toBitVec <+: page.drop 44 ∧
      littleEndianBytes 4 superblock.fileId.value.toBitVec <+: page.drop 48 ∧
      List.replicate 4 0 <+: page.drop 52 ∧
      littleEndianBytes 8 superblock.objectId.toBitVec <+: page.drop 56 ∧
      littleEndianBytes 8 superblock.creationEpoch.toBitVec <+: page.drop 64 ∧
      page.drop 72 = List.replicate 8120 0 := by
  have hpre : page = superblock.withChecksum stored ↔ superblock.withChecksum stored <+: page := by
    refine ⟨fun heq => heq ▸ List.prefix_rfl, fun hp => (hp.eq_of_length ?_).symm⟩
    rw [h, superblock.length_withChecksum]
  rw [hpre, FileSuperblock.withChecksum, Codec.overlay, Codec.append_prefix_iff]
  simp only [FileSuperblock.leading, FileSuperblock.trailing, CommonPageHeader.image,
    CommonPageHeader.fields, fileSuperblockMagic, List.flatten_append, List.flatten_cons,
    List.flatten_nil, List.length_append, List.length_cons, List.length_nil,
    littleEndianBytes_length, List.length_replicate, Codec.append_prefix_iff, List.drop_drop,
    List.drop_replicate, List.nil_prefix, and_true, pageSize, Nat.reduceAdd, Nat.reduceSub,
    and_assoc]
  have htail : List.replicate 8120 0 <+: page.drop 72 ↔ page.drop 72 = List.replicate 8120 0 := by
    refine ⟨fun hp => (hp.eq_of_length ?_).symm, fun heq => heq ▸ List.prefix_rfl⟩
    rw [List.length_replicate, List.length_drop, h, pageSize]
  rw [htail]

lemma header_checksum {header : CommonPageHeader} {page : List UInt8} (h : header.image <+: page) :
    littleEndianBytes 4 header.checksumCrc32c.toBitVec <+: page.drop 16 := by
  simp only [CommonPageHeader.image, CommonPageHeader.fields, List.flatten_cons,
    Codec.append_prefix_iff, littleEndianBytes_length, List.drop_drop] at h
  exact h.2.2.2.2.1

lemma window {page : List UInt8} (h : page.length = pageSize) {o k : ℕ} (ho : o + k ≤ 8192) :
    ((page.drop o).take k).length = k := by
  rw [List.length_take, List.length_drop, h, pageSize]
  omega

lemma decodeFileSuperblock_eq_ok {source : List UInt8} {superblock : FileSuperblock} :
    decodeFileSuperblock source = .ok superblock ↔
      isSupportedGenericFileKind superblock.fileKind = true ∧
        source.take pageSize = superblock.image := by
  by_cases h : pageSize ≤ source.length
  swap
  · refine iff_of_false (by simp [decodeFileSuperblock, Check.require_bind, h]) fun hi => h ?_
    have := congrArg List.length hi.2
    rw [superblock.length_image, List.length_take] at this
    omega
  have hlen : (source.take pageSize).length = pageSize := by
    rw [List.length_take]
    omega
  rw [decodeFileSuperblock]
  simp only [Check.require_bind, Check.present_bind]
  generalize source.take pageSize = page at hlen ⊢
  constructor
  · rintro ⟨-, stored, hs, computed, hc, rfl, header, hh, htype, hversion, hpage, hmagic, kind, hk, -,
      hsupported, hsize, size, hp, rfl, hflags, hreserved, fileId, hid, objectId, ho, epoch, he, hr⟩
    obtain rfl := Except.ok.inj hr
    simp only [not_or, not_not, Bool.not_eq_true] at hreserved
    obtain ⟨h16, h42, h52, h72⟩ := hreserved
    have hheader := (Codec.prefix_take_iff (CommonPageHeader.length_image header).le).mp
      (decodeCommonPageHeader_eq_some.mp hh)
    obtain ⟨type, version, flags, lsn, checksum, headerSize, reserved, pageNo⟩ := header
    dsimp only at htype hversion hpage hsize hflags h16 ⊢
    subst htype hversion hpage hsize hflags h16
    obtain rfl : stored = checksum := by
      have hw := (decodeU32_window (s := page) (o := 16)).mpr (header_checksum hheader)
      exact Option.some.inj (hs.symm.trans hw)
    have h42 := (containsNonzeroByte_eq_false (window hlen (by decide))).mp h42
    have h52 := (containsNonzeroByte_eq_false (window hlen (by decide))).mp h52
    have h72 := (containsNonzeroByte_eq_false (by rw [List.length_drop, hlen, pageSize])).mp h72
    have hpage := (withChecksum_eq_iff ⟨⟨kind⟩, ⟨fileId⟩, lsn, objectId, epoch⟩ hlen).mpr
      ⟨hheader, (Codec.prefix_iff_take rfl).mpr hmagic, decodeU16_window.mp hk,
        (Codec.prefix_iff_take rfl).mpr h42, decodeU32_window.mp hp, decodeU32_window.mp hid,
        (Codec.prefix_iff_take rfl).mpr h52, decodeU64_window.mp ho, decodeU64_window.mp he, h72⟩
    refine ⟨hsupported, ?_⟩
    rw [hpage, FileSuperblock.computeChecksum] at hc
    rw [hpage, ← Option.some.inj hc]
    rfl
  · rintro ⟨hsupported, himage⟩
    obtain ⟨hheader, hmagic, hkind, h42, hsize, hid, h52, hobject, hepoch, h72⟩ :=
      (withChecksum_eq_iff superblock hlen).mp himage
    have h42 := (Codec.prefix_iff_take (k := 2) List.length_replicate).mp h42
    have h52 := (Codec.prefix_iff_take (k := 4) List.length_replicate).mp h52
    refine ⟨h, superblock.checksum, decodeU32_window.mpr (header_checksum hheader),
      superblock.checksum, ?_, rfl, _, decodeCommonPageHeader_eq_some.mpr
        ((Codec.prefix_take_iff (CommonPageHeader.length_image _).le).mpr hheader), rfl, rfl, rfl,
      (Codec.prefix_iff_take rfl).mp hmagic, _, decodeU16_window.mpr hkind,
      recognized_of_supported hsupported, hsupported, rfl, _, decodeU32_window.mpr hsize, rfl, rfl,
      ?_, _, decodeU32_window.mpr hid, _, decodeU64_window.mpr hobject, _,
      decodeU64_window.mpr hepoch, rfl⟩
    · rw [himage]
      exact superblock.computeChecksum _
    · simp only [not_or, not_not, Bool.not_eq_true]
      exact ⟨trivial, (containsNonzeroByte_eq_false (window hlen (by decide))).mpr h42,
        (containsNonzeroByte_eq_false (window hlen (by decide))).mpr h52,
        (containsNonzeroByte_eq_false (by rw [List.length_drop, hlen, pageSize])).mpr h72⟩

lemma encodeFileSuperblock_eq (destination : List UInt8) (superblock : FileSuperblock) :
    encodeFileSuperblock destination superblock =
      if pageSize ≤ destination.length ∧ isSupportedGenericFileKind superblock.fileKind = true then
        (true, superblock.image ++ destination.drop pageSize)
      else (false, destination) := by
  rw [encodeFileSuperblock]
  split
  · rename_i h
    rw [if_neg]
    rintro ⟨hlen, hs⟩
    rcases h with h | h
    · omega
    · exact h hs
  · rename_i h
    rw [not_or, not_lt, not_not] at h
    rw [if_pos h, fileSuperblockPage_eq]
    simp only [Codec.splice_zero, superblock.length_image]

def FileKind.Generic (kind : FileKind) : Prop := kind = .heap ∨ kind = .fsm ∨ kind = .catalog

lemma FileKind.generic_iff {kind : FileKind} :
    kind.Generic ↔ isSupportedGenericFileKind kind = true := by
  simp [FileKind.Generic, isSupportedGenericFileKind, or_assoc]

theorem file_superblock_exact (superblock : FileSuperblock) :
    superblock.image.length = pageSize ∧
    (∀ destination, pageSize ≤ destination.length → superblock.fileKind.Generic →
      encodeFileSuperblock destination superblock =
        (true, superblock.image ++ destination.drop pageSize)) ∧
    (∀ destination, destination.length < pageSize ∨ ¬ superblock.fileKind.Generic →
      encodeFileSuperblock destination superblock = (false, destination)) ∧
    (∀ source, decodeFileSuperblock source = .ok superblock ↔
      superblock.fileKind.Generic ∧ source.take pageSize = superblock.image) ∧
    ∀ other : FileSuperblock, superblock.fileKind.Generic → other.fileKind.Generic →
      superblock.image = other.image → superblock = other := by
  refine ⟨superblock.length_image, fun destination hlen hk => ?_, fun destination hd => ?_,
    fun source => ?_, fun other hk ho himage => ?_⟩
  · rw [encodeFileSuperblock_eq, if_pos ⟨hlen, FileKind.generic_iff.mp hk⟩]
  · rw [encodeFileSuperblock_eq, if_neg]
    rintro ⟨hlen, hs⟩
    rcases hd with hd | hd
    · omega
    · exact hd (FileKind.generic_iff.mpr hs)
  · rw [decodeFileSuperblock_eq_ok, FileKind.generic_iff]
  · have hself {s : FileSuperblock} (hs : s.fileKind.Generic) :
        decodeFileSuperblock s.image = .ok s :=
      decodeFileSuperblock_eq_ok.mpr ⟨FileKind.generic_iff.mp hs,
        List.take_of_length_le s.length_image.le⟩
    have h := hself hk
    rw [himage, hself ho] at h
    exact (Except.ok.inj h).symm

end DBlusBlus
