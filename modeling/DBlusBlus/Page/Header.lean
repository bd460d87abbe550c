import DBlusBlus.Common.Types
import DBlusBlus.Common.Encoding

/-! Raw pages and the common page header. -/

namespace DBlusBlus

abbrev pageSize : ℕ := 8192

def commonPageHeaderEncodedSize : ℕ := 32

abbrev PageBytes := Fin pageSize → UInt8

def PageBytes.zero : PageBytes := fun _ => 0

structure Page where
  id : PageId
  bytes : PageBytes

/-- A page bound to `id` with zero bytes, as `Page{id}` builds it. -/
def Page.ofId (id : PageId) : Page := ⟨id, PageBytes.zero⟩

def Page.unbound : Page := Page.ofId PageId.invalid

@[simp] lemma Page.ofId_id (id : PageId) : (Page.ofId id).id = id := rfl

def PageBytes.subspan (bytes : PageBytes) (offset count : ℕ) (h : offset + count ≤ pageSize) :
    List UInt8 :=
  List.ofFn fun i : Fin count => bytes ⟨offset + i, by omega⟩

def PageBytes.overwrite (bytes : PageBytes) (offset : ℕ) (data : List UInt8) : PageBytes :=
  fun i => if offset ≤ i.val then (data[i.val - offset]?).getD (bytes i) else bytes i

lemma PageBytes.overwrite_outside (bytes : PageBytes) (offset : ℕ) (data : List UInt8)
    (i : Fin pageSize) (h : i.val < offset ∨ offset + data.length ≤ i.val) :
    bytes.overwrite offset data i = bytes i := by
  unfold overwrite
  split
  · rw [List.getElem?_eq_none (by omega)]
    rfl
  · rfl

/-- The persisted `page_type` codes. -/
def PageType.superblock : UInt16 := 0
def PageType.heapData : UInt16 := 1
def PageType.fsmData : UInt16 := 2

structure CommonPageHeader where
  pageType : UInt16
  formatVersion : UInt16
  flags : UInt32
  pageLsn : UInt64
  checksumCrc32c : UInt32
  headerSize : UInt16
  reserved16 : UInt16
  pageNo : PageNo
deriving DecidableEq

def decodeU16 (source : List UInt8) : Option UInt16 :=
  (decodeLittleEndian 2 source).map UInt16.ofBitVec

def decodeU32 (source : List UInt8) : Option UInt32 :=
  (decodeLittleEndian 4 source).map UInt32.ofBitVec

def decodeU64 (source : List UInt8) : Option UInt64 :=
  (decodeLittleEndian 8 source).map UInt64.ofBitVec

def decodeCommonPageHeader (source : List UInt8) : Option CommonPageHeader :=
  if source.length < commonPageHeaderEncodedSize then none
  else do
    let pageType ← decodeU16 (source.take 2)
    let formatVersion ← decodeU16 ((source.drop 2).take 2)
    let flags ← decodeU32 ((source.drop 4).take 4)
    let pageLsn ← decodeU64 ((source.drop 8).take 8)
    let checksum ← decodeU32 ((source.drop 16).take 4)
    let headerSize ← decodeU16 ((source.drop 20).take 2)
    let reserved16 ← decodeU16 ((source.drop 22).take 2)
    let pageNo ← decodeU64 ((source.drop 24).take 8)
    return ⟨pageType, formatVersion, flags, pageLsn, checksum, headerSize, reserved16, pageNo⟩

def encodeCommonPageHeader (destination : List UInt8) (header : CommonPageHeader) :
    Option (List UInt8) :=
  if destination.length < commonPageHeaderEncodedSize then none
  else do
    let d ← writeSubspan destination 0 2 (encodeLittleEndian 2 · header.pageType.toBitVec)
    let d ← writeSubspan d 2 2 (encodeLittleEndian 2 · header.formatVersion.toBitVec)
    let d ← writeSubspan d 4 4 (encodeLittleEndian 4 · header.flags.toBitVec)
    let d ← writeSubspan d 8 8 (encodeLittleEndian 8 · header.pageLsn.toBitVec)
    let d ← writeSubspan d 16 4 (encodeLittleEndian 4 · header.checksumCrc32c.toBitVec)
    let d ← writeSubspan d 20 2 (encodeLittleEndian 2 · header.headerSize.toBitVec)
    let d ← writeSubspan d 22 2 (encodeLittleEndian 2 · header.reserved16.toBitVec)
    writeSubspan d 24 8 (encodeLittleEndian 8 · header.pageNo.toBitVec)

/-- The header of a whole page only reads the page's first 32 bytes. -/
def PageBytes.header (bytes : PageBytes) : Option CommonPageHeader :=
  decodeCommonPageHeader (bytes.subspan 0 commonPageHeaderEncodedSize (by decide))

def u16Codec : Codec UInt8 UInt16 :=
  (wordCodec 2).map ⟨UInt16.ofBitVec, UInt16.toBitVec, fun _ => rfl, fun _ => rfl⟩

def u32Codec : Codec UInt8 UInt32 :=
  (wordCodec 4).map ⟨UInt32.ofBitVec, UInt32.toBitVec, fun _ => rfl, fun _ => rfl⟩

def u64Codec : Codec UInt8 UInt64 :=
  (wordCodec 8).map ⟨UInt64.ofBitVec, UInt64.toBitVec, fun _ => rfl, fun _ => rfl⟩

section Codecs

variable {s : List UInt8} {o : ℕ}

lemma decodeU16_window {n : UInt16} : decodeU16 ((s.drop o).take 2) = some n ↔
    littleEndianBytes 2 n.toBitVec <+: s.drop o :=
  u16Codec.decode_window

lemma decodeU32_window {n : UInt32} : decodeU32 ((s.drop o).take 4) = some n ↔
    littleEndianBytes 4 n.toBitVec <+: s.drop o :=
  u32Codec.decode_window

lemma decodeU64_window {n : UInt64} : decodeU64 ((s.drop o).take 8) = some n ↔
    littleEndianBytes 8 n.toBitVec <+: s.drop o :=
  u64Codec.decode_window

end Codecs

namespace CommonPageHeader

variable (header : CommonPageHeader) {s : List UInt8}

def fields : List (List UInt8) :=
  [littleEndianBytes 2 header.pageType.toBitVec, littleEndianBytes 2 header.formatVersion.toBitVec,
    littleEndianBytes 4 header.flags.toBitVec, littleEndianBytes 8 header.pageLsn.toBitVec,
    littleEndianBytes 4 header.checksumCrc32c.toBitVec,
    littleEndianBytes 2 header.headerSize.toBitVec, littleEndianBytes 2 header.reserved16.toBitVec,
    littleEndianBytes 8 header.pageNo.toBitVec]

def image : List UInt8 := header.fields.flatten

@[simp] lemma length_image : header.image.length = commonPageHeaderEncodedSize := by
  simp [image, fields, commonPageHeaderEncodedSize]

end CommonPageHeader

lemma encodeCommonPageHeader_eq {destination : List UInt8} (header : CommonPageHeader)
    (h : commonPageHeaderEncodedSize ≤ destination.length) :
    encodeCommonPageHeader destination header =
      some (Codec.overlay destination header.fields) := by
  rw [encodeCommonPageHeader, if_neg (by omega)]
  simp only [commonPageHeaderEncodedSize] at h
  rw [show destination = Codec.overlay destination [] from rfl]
  simp (disch := first | omega | simp) only [writeSubspan_field, Option.bind_eq_bind,
    Option.bind_some, List.nil_append, List.cons_append]
  rfl

lemma decodeCommonPageHeader_eq_some {s : List UInt8} {header : CommonPageHeader} :
    decodeCommonPageHeader s = some header ↔ header.image <+: s := by
  rw [decodeCommonPageHeader]
  split
  · rename_i h
    refine iff_of_false (by simp) fun hp => ?_
    have := hp.length_le
    rw [header.length_image] at this
    omega
  · rw [show s.take 2 = (s.drop 0).take 2 from rfl]
    simp only [Option.bind_eq_bind, Option.bind_eq_some_iff, decodeU16_window, decodeU32_window,
      decodeU64_window, CommonPageHeader.image, CommonPageHeader.fields, List.flatten_cons, Codec.append_prefix_iff,
      littleEndianBytes_length, List.drop_drop]
    constructor
    · rintro ⟨_, h₁, _, h₂, _, h₃, _, h₄, _, h₅, _, h₆, _, h₇, _, h₈, h⟩
      obtain rfl := Option.some.inj h
      exact ⟨h₁, h₂, h₃, h₄, h₅, h₆, h₇, h₈, List.nil_prefix⟩
    · rintro ⟨h₁, h₂, h₃, h₄, h₅, h₆, h₇, h₈, -⟩
      exact ⟨_, h₁, _, h₂, _, h₃, _, h₄, _, h₅, _, h₆, _, h₇, _, h₈, rfl⟩

def CommonPageHeader.codec : Codec UInt8 CommonPageHeader where
  width := commonPageHeaderEncodedSize
  encode := CommonPageHeader.image
  decode := decodeCommonPageHeader
  length_encode := CommonPageHeader.length_image
  decode_eq_some _ _ := decodeCommonPageHeader_eq_some

end DBlusBlus
