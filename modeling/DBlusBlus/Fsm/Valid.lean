import DBlusBlus.Fsm.Page
import DBlusBlus.Heap.Initialize

/-! What `Validate` accepts as a free space map page. -/

namespace DBlusBlus

open Span

namespace FsmPageHeader

variable (header : FsmPageHeader)

def fields : List (List UInt8) :=
  [littleEndianBytes 8 header.firstHeapPageNo.toBitVec, littleEndianBytes 2 header.entryCount.toBitVec,
    littleEndianBytes 2 header.reserved16.toBitVec, littleEndianBytes 4 header.reserved32.toBitVec]

def image : List UInt8 := header.fields.flatten

@[simp] lemma length_image : header.image.length = fsmPageHeaderEncodedSize := by
  simp [image, fields]

end FsmPageHeader

section Codec

variable {data s : List UInt8} {header : FsmPageHeader}

lemma encodeFsmPageFields_eq (header : FsmPageHeader) (h : data.length = fsmPageHeaderEncodedSize) :
    encodeFsmPageFields data header = some header.image := by
  have himage := header.length_image
  rw [encodeFsmPageFields]
  rw [fsmPageHeaderEncodedSize] at h himage
  rw [show data = Codec.overlay data [] from rfl]
  simp (disch := first | omega | simp) only [writeSubspan_field, Option.bind_eq_bind,
    Option.bind_some, List.nil_append, List.cons_append]
  refine congrArg some ?_
  change header.image ++ data.drop header.image.length = header.image
  rw [List.drop_of_length_le (by rw [himage, h]), List.append_nil]

lemma encodeFsmPageHeader_splice (header : FsmPageHeader)
    (h : fsmPageHeaderEncodedSize ≤ data.length) :
    encodeFsmPageHeader data header = some (Codec.splice data 0 header.image) := by
  rw [encodeFsmPageHeader, if_neg (by omega), encodeFsmPageFields_eq header List.length_replicate]
  rfl

lemma encodeFsmPageHeader_whole (header : FsmPageHeader)
    (h : data.length = fsmPageHeaderEncodedSize) :
    encodeFsmPageHeader data header = some header.image := by
  rw [encodeFsmPageHeader_splice header h.ge, Codec.splice_zero,
    List.drop_of_length_le (by rw [header.length_image, h]), List.append_nil]

lemma decodeFsmPageHeader_eq_some : decodeFsmPageHeader s = some header ↔ header.image <+: s := by
  rw [decodeFsmPageHeader]
  split
  · rename_i h
    refine iff_of_false (by simp) fun hp => ?_
    have := hp.length_le
    rw [header.length_image] at this
    omega
  · rw [show s.take 8 = (s.drop 0).take 8 from rfl]
    simp only [Option.bind_eq_bind, Option.bind_eq_some_iff, decodeU16_window, decodeU32_window,
      decodeU64_window, FsmPageHeader.image, FsmPageHeader.fields, List.flatten_cons,
      Codec.append_prefix_iff, littleEndianBytes_length, List.drop_drop]
    constructor
    · rintro ⟨_, h₁, _, h₂, _, h₃, _, h₄, h⟩
      obtain rfl := Option.some.inj h
      exact ⟨h₁, h₂, h₃, h₄, List.nil_prefix⟩
    · rintro ⟨h₁, h₂, h₃, h₄, -⟩
      exact ⟨_, h₁, _, h₂, _, h₃, _, h₄, rfl⟩

end Codec

/-- What `Validate` accepts. -/
structure FsmValid (pageNo : PageNo) (bytes : PageBytes) (headers : FsmPageHeaders) : Prop where
  commonStored : bytes.slice 0 commonPageHeaderEncodedSize = headers.common.image
  pageType : headers.common.pageType = PageType.fsmData
  ownNumber : headers.common.pageNo = pageNo
  headerSize : headers.common.headerSize = UInt16.ofNat fsmPageTotalHeaderSize
  formatVersion : headers.common.formatVersion = fsmPageFormatVersion
  flags : headers.common.flags = 0
  reserved16 : headers.common.reserved16 = 0
  fsmStored : bytes.slice fsmPageHeaderOffset fsmPageHeaderEncodedSize = headers.fsm.image
  fsmReserved : headers.fsm.reserved16 = 0 ∧ headers.fsm.reserved32 = 0
  ordinary : pageNo ≠ 0 ∧ pageNo ≠ invalidPageNo
  firstHeapPage : firstHeapPageForFsmPage pageNo = some headers.fsm.firstHeapPageNo
  count : headers.fsm.entryCount.toNat ≤ fsmPageEntryCapacity
  range : InitializedRangeFits headers.fsm
  unused : ∀ k, headers.fsm.entryCount.toNat ≤ k → k < fsmPageEntryCapacity →
    bytes.byteAt (fsmPageEntriesOffset + k) = 0

section Validate

variable {page : FsmPage} {bytes : PageBytes} {headers : FsmPageHeaders} {common : CommonPageHeader}
  {pageNo : PageNo} {remaining index : ℕ}

lemma PageBytes.get_eq {ε : Type} {k : ℕ} (h : k < pageSize) :
    (bytes.get k : Except (Exit ε) UInt8) = .ok (bytes.byteAt k) :=
  if_pos h

lemma checkUninitialized_eq_ok (h : index + remaining ≤ fsmPageEntryCapacity) :
    checkUninitialized bytes remaining index = .ok () ↔
      ∀ k, index ≤ k → k < index + remaining → bytes.byteAt (fsmPageEntriesOffset + k) = 0 := by
  induction remaining generalizing index with
  | zero =>
    rw [checkUninitialized]
    exact iff_of_true rfl fun k hle hlt => absurd hlt (by omega)
  | succ remaining ih =>
    have hpage : fsmPageEntriesOffset + index < pageSize := by
      change 48 + index < 8192
      change _ ≤ 8144 at h
      omega
    rw [checkUninitialized, PageBytes.get_eq hpage, Check.ok_bind, Check.require_bind,
      ih (by omega)]
    constructor
    · rintro ⟨hhere, hrest⟩ k hle hlt
      rcases Nat.eq_or_lt_of_le hle with rfl | hlt'
      · exact hhere
      · exact hrest k hlt' (by omega)
    · intro hall
      exact ⟨hall index (Nat.le_refl _) (by omega), fun k hle hlt => hall k (by omega) (by omega)⟩

lemma checkUninitialized_safe (h : index + remaining ≤ fsmPageEntryCapacity) :
    Safe (checkUninitialized bytes remaining index) := by
  induction remaining generalizing index with
  | zero => exact Safe.ok
  | succ remaining ih =>
    have hpage : fsmPageEntriesOffset + index < pageSize := by
      change 48 + index < 8192
      change _ ≤ 8144 at h
      omega
    rw [checkUninitialized, PageBytes.get_eq hpage, Check.ok_bind]
    exact Safe.require.bind fun _ _ => ih (by omega)

lemma validateFsmCommonHeader_eq_none : validateFsmCommonHeader common pageNo = .none ↔
    common.pageType = PageType.fsmData ∧ common.pageNo = pageNo ∧
      common.headerSize = UInt16.ofNat fsmPageTotalHeaderSize ∧
      common.formatVersion = fsmPageFormatVersion ∧ common.flags = 0 ∧ common.reserved16 = 0 := by
  unfold validateFsmCommonHeader
  split_ifs <;> simp_all

lemma fsmHeader_eq {ε : Type} : (FsmPage.header bytes : Except (Exit ε) _) =
    .ok (decodeFsmPageHeader (bytes.slice fsmPageHeaderOffset fsmPageHeaderEncodedSize)) := by
  rw [FsmPage.header, PageBytes.read_eq (by decide), Check.ok_bind]
  rfl

lemma fsmHeader_eq_some {fsm : FsmPageHeader} :
    decodeFsmPageHeader (bytes.slice fsmPageHeaderOffset fsmPageHeaderEncodedSize) = some fsm ↔
      bytes.slice fsmPageHeaderOffset fsmPageHeaderEncodedSize = fsm.image := by
  rw [decodeFsmPageHeader_eq_some]
  constructor
  · intro hp
    exact (hp.eq_of_length (by rw [FsmPageHeader.length_image, PageBytes.length_slice])).symm
  · intro he
    rw [he]

theorem fsmValidate_eq_ok : page.validate bytes = .ok headers ↔
    FsmValid page.id.pageNo bytes headers := by
  rw [FsmPage.validate]
  simp only [Check.present_bind, Check.require_bind, header_eq_some, fsmHeader_eq, Check.ok_bind,
    fsmHeader_eq_some, validateFsmCommonHeader_eq_none, not_or, not_not]
  constructor
  · rintro ⟨common, hcommon, ⟨h₁, h₂, h₃, h₄, h₅, h₆⟩, fsm, hfsm, hr, ho, first, hfirst, rfl, hcount,
      hrange, h⟩
    obtain ⟨_, htail, h⟩ := Check.bind_eq_ok.mp h
    obtain rfl := Except.ok.inj h
    rw [checkUninitialized_eq_ok (by omega)] at htail
    exact ⟨hcommon, h₁, h₂, h₃, h₄, h₅, h₆, hfsm, hr, ho, hfirst, hcount, hrange,
      fun k hle hlt => htail k hle (by omega)⟩
  · intro hv
    have hcount := hv.count
    refine ⟨headers.common, hv.commonStored, ⟨hv.pageType, hv.ownNumber, hv.headerSize,
      hv.formatVersion, hv.flags, hv.reserved16⟩, headers.fsm, hv.fsmStored, hv.fsmReserved,
      hv.ordinary, _, hv.firstHeapPage, rfl, hv.count, hv.range, Check.bind_eq_ok.mpr ⟨(), ?_, rfl⟩⟩
    rw [checkUninitialized_eq_ok (by omega)]
    exact fun k hle hlt => hv.unused k hle (by omega)

end Validate

end DBlusBlus
