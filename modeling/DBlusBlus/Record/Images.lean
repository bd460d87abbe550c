import DBlusBlus.Record.Encoders

/-! The bytes that each record is stored as. -/

namespace DBlusBlus.Record

open InPlace

section Images

def pageIdFields (pageId : PageId) : List (List UInt8) :=
  [integerImage pageId.fileId.value, integerImage pageId.pageNo]

def pageIdImage (pageId : PageId) : List UInt8 := (pageIdFields pageId).flatten

def ridFields (rid : Rid) : List (List UInt8) :=
  [pageIdImage rid.page, integerImage rid.slot, integerImage (0 : UInt16)]

def ridImage (rid : Rid) : List UInt8 := (ridFields rid).flatten

def HeapSlotEntry.fields (entry : HeapSlotEntry) : List (List UInt8) :=
  [integerImage entry.tupleOffset, integerImage entry.tupleLength, integerImage entry.state,
    integerImage entry.aux]

def HeapSlotEntry.image (entry : HeapSlotEntry) : List UInt8 := entry.fields.flatten

@[simp] lemma length_pageIdImage (pageId : PageId) :
    (pageIdImage pageId).length = pageIdEncodedSize := rfl

@[simp] lemma length_ridImage (rid : Rid) : (ridImage rid).length = ridEncodedSize := rfl

@[simp] lemma HeapSlotEntry.length_image (entry : HeapSlotEntry) :
    entry.image.length = heapPageSlotEntryEncodedSize := rfl

end Images

section Encoders

variable {destination : List UInt8}

lemma contiguous_pageId (pageId : PageId) :
    Contiguous 0 [field 0 pageId.fileId.value, field 4 pageId.pageNo] (pageIdFields pageId) :=
  .cons stores_field rfl <| .cons stores_field rfl .nil

lemma encodePageId_eq (pageId : PageId) (h : pageIdEncodedSize ≤ destination.length) :
    encodePageId destination pageId = ⟨true, Codec.splice destination 0 (pageIdImage pageId)⟩ := by
  rw [encodePageId, if_neg (by omega)]
  refine (contiguous_pageId pageId).stores destination ?_
  rw [Nat.zero_add]
  exact (length_pageIdImage pageId).le.trans h

lemma contiguous_rid (rid : Rid) :
    Contiguous 0 [through 0 pageIdEncodedSize (encodePageId · rid.page), field 12 rid.slot,
      field 14 (0 : UInt16)] (ridFields rid) := by
  have hpage : Stores (encodePageId · rid.page) 0 (pageIdImage rid.page) := by
    intro destination hroom
    rw [length_pageIdImage] at hroom
    exact encodePageId_eq rid.page (by omega)
  refine .cons (hpage.through (length_pageIdImage rid.page)) rfl ?_
  exact .cons stores_field rfl <| .cons stores_field rfl .nil

lemma contiguous_commonPageHeader (header : CommonPageHeader) :
    Contiguous 0 [field 0 header.pageType, field 2 header.formatVersion, field 4 header.flags,
      field 8 header.pageLsn, field 16 header.checksumCrc32c, field 20 header.headerSize,
      field 22 header.reserved16, field 24 header.pageNo] header.fields :=
  .cons stores_field rfl <| .cons stores_field rfl <| .cons stores_field rfl <|
    .cons stores_field rfl <| .cons stores_field rfl <| .cons stores_field rfl <|
    .cons stores_field rfl <| .cons stores_field rfl .nil

lemma contiguous_heapPageHeader (header : HeapPageHeader) :
    Contiguous 0 [field 0 header.slotCount, field 2 header.freeSlotHead, field 4 header.lower,
      field 6 header.upper, field 8 header.pruneHint, field 12 header.reserved] header.fields :=
  .cons stores_field rfl <| .cons stores_field rfl <| .cons stores_field rfl <|
    .cons stores_field rfl <| .cons stores_field rfl <| .cons stores_field rfl .nil

lemma contiguous_heapSlotEntry (entry : HeapSlotEntry) :
    Contiguous 0 [field 0 entry.tupleOffset, field 2 entry.tupleLength, field 4 entry.state,
      field 6 entry.aux] entry.fields :=
  .cons stores_field rfl <| .cons stores_field rfl <| .cons stores_field rfl <|
    .cons stores_field rfl .nil

end Encoders

section Decoders

variable {source : List UInt8} {offset : ℕ}

lemma exists_u16 (source : List UInt8) (offset : ℕ) (h : offset + 2 ≤ source.length) :
    ∃ n : UInt16, littleEndianBytes 2 n.toBitVec <+: source.drop offset :=
  exists_integer UInt16 source offset h

lemma exists_u32 (source : List UInt8) (offset : ℕ) (h : offset + 4 ≤ source.length) :
    ∃ n : UInt32, littleEndianBytes 4 n.toBitVec <+: source.drop offset :=
  exists_integer UInt32 source offset h

lemma exists_u64 (source : List UInt8) (offset : ℕ) (h : offset + 8 ≤ source.length) :
    ∃ n : UInt64, littleEndianBytes 8 n.toBitVec <+: source.drop offset :=
  exists_integer UInt64 source offset h

lemma decodePageId_eq_some {pageId : PageId} :
    decodePageId source = some pageId ↔ pageIdImage pageId <+: source := by
  rw [decodePageId]
  split
  · rename_i h
    refine iff_of_false (by simp) fun hp => ?_
    have := hp.length_le
    rw [length_pageIdImage] at this
    omega
  · rw [show source.take 4 = (source.drop 0).take 4 from rfl]
    simp only [Option.bind_eq_bind, Option.bind_eq_some_iff, decodeU32_window, decodeU64_window,
      pageIdImage, pageIdFields, List.flatten_cons, Codec.append_prefix_iff, length_integerImage]
    constructor
    · rintro ⟨_, h₁, _, h₂, h⟩
      obtain rfl := Option.some.inj h
      exact ⟨h₁, h₂, List.nil_prefix⟩
    · rintro ⟨h₁, h₂, -⟩
      exact ⟨_, h₁, _, h₂, rfl⟩

lemma reserved_prefix_iff : integerImage (0 : UInt16) <+: source.drop offset ↔
    source[offset]? = some 0 ∧ source[offset + 1]? = some 0 := by
  rw [show integerImage (0 : UInt16) = [0, 0] from rfl, ← List.getElem?_drop,
    show source[offset]? = (source.drop offset)[0]? by simp]
  generalize source.drop offset = rest
  rcases rest with _ | ⟨a, _ | ⟨b, rest⟩⟩
  · simp
  · simp
  · simp [eq_comm]

lemma decodeRid_eq_some {rid : Rid} : decodeRid source = some rid ↔ ridImage rid <+: source := by
  rw [decodeRid]
  split
  · rename_i h
    refine iff_of_false (by simp) fun hp => ?_
    have := hp.length_le
    rw [length_ridImage] at this
    omega
  · simp only [ridImage, ridFields, List.flatten_cons, Codec.append_prefix_iff,
      length_integerImage, length_pageIdImage, List.drop_drop]
    split
    · rename_i h
      refine iff_of_false (by simp) ?_
      rintro ⟨-, -, hz, -⟩
      obtain ⟨h₁, h₂⟩ := reserved_prefix_iff.mp hz
      exact h.elim (· h₁) (· h₂)
    · rename_i h
      have hz : integerImage (0 : UInt16) <+: source.drop 14 := by
        rw [reserved_prefix_iff]
        simpa only [not_or, not_not] using h
      simp only [Option.bind_eq_bind, Option.bind_eq_some_iff, decodePageId_eq_some,
        decodeU16_window]
      constructor
      · rintro ⟨page, h₁, slot, h₂, h⟩
        obtain rfl := Option.some.inj h
        exact ⟨(Codec.prefix_take_iff (length_pageIdImage page).le).mp h₁, h₂, hz,
          List.nil_prefix⟩
      · rintro ⟨h₁, h₂, -⟩
        exact ⟨_, (Codec.prefix_take_iff (length_pageIdImage rid.page).le).mpr h₁, _, h₂, rfl⟩

lemma decodeHeapSlotEntry_eq_ok {entry : HeapSlotEntry} :
    decodeHeapSlotEntry source = .ok entry ↔
      isValidHeapSlotState entry.state = true ∧ entry.image <+: source := by
  rw [decodeHeapSlotEntry, show source.take 2 = (source.drop 0).take 2 from rfl]
  simp only [Check.require_bind, Check.present_bind, decodeU16_window, HeapSlotEntry.image,
    HeapSlotEntry.fields, List.flatten_cons, Codec.append_prefix_iff, length_integerImage,
    List.drop_drop]
  constructor
  · rintro ⟨-, _, h₁, _, h₂, _, h₃, _, h₄, hs, h⟩
    obtain rfl := Except.ok.inj h
    exact ⟨hs, h₁, h₂, h₃, h₄, List.nil_prefix⟩
  · rintro ⟨hs, h₁, h₂, h₃, h₄, -⟩
    have hl := h₄.length_le
    rw [length_integerImage, List.length_drop] at hl
    change 2 ≤ source.length - (2 + 2 + 2) at hl
    exact ⟨show 8 ≤ source.length by omega, _, h₁, _, h₂, _, h₃, _, h₄, hs, rfl⟩

end Decoders

section Images

variable {source : List UInt8}

lemma exists_pageId (h : pageIdEncodedSize ≤ source.length) :
    ∃ pageId, pageIdImage pageId <+: source := by
  rw [pageIdEncodedSize] at h
  obtain ⟨fileId, h₁⟩ := exists_u32 source 0 (by omega)
  obtain ⟨pageNo, h₂⟩ := exists_u64 source 4 (by omega)
  refine ⟨⟨⟨fileId⟩, pageNo⟩, ?_⟩
  simp only [pageIdImage, pageIdFields, List.flatten_cons, Codec.append_prefix_iff,
    length_integerImage]
  exact ⟨h₁, h₂, List.nil_prefix⟩

lemma exists_commonPageHeader (h : commonPageHeaderEncodedSize ≤ source.length) :
    ∃ header : CommonPageHeader, header.image <+: source := by
  rw [commonPageHeaderEncodedSize] at h
  obtain ⟨pageType, h₁⟩ := exists_u16 source 0 (by omega)
  obtain ⟨formatVersion, h₂⟩ := exists_u16 source 2 (by omega)
  obtain ⟨flags, h₃⟩ := exists_u32 source 4 (by omega)
  obtain ⟨pageLsn, h₄⟩ := exists_u64 source 8 (by omega)
  obtain ⟨checksum, h₅⟩ := exists_u32 source 16 (by omega)
  obtain ⟨headerSize, h₆⟩ := exists_u16 source 20 (by omega)
  obtain ⟨reserved16, h₇⟩ := exists_u16 source 22 (by omega)
  obtain ⟨pageNo, h₈⟩ := exists_u64 source 24 (by omega)
  refine ⟨⟨pageType, formatVersion, flags, pageLsn, checksum, headerSize, reserved16, pageNo⟩, ?_⟩
  simp only [CommonPageHeader.image, CommonPageHeader.fields, List.flatten_cons,
    Codec.append_prefix_iff, littleEndianBytes_length, List.drop_drop]
  exact ⟨h₁, h₂, h₃, h₄, h₅, h₆, h₇, h₈, List.nil_prefix⟩

lemma exists_heapPageHeader (h : heapPageHeaderEncodedSize ≤ source.length) :
    ∃ header : HeapPageHeader, header.image <+: source := by
  rw [heapPageHeaderEncodedSize] at h
  obtain ⟨slotCount, h₁⟩ := exists_u16 source 0 (by omega)
  obtain ⟨freeSlotHead, h₂⟩ := exists_u16 source 2 (by omega)
  obtain ⟨lower, h₃⟩ := exists_u16 source 4 (by omega)
  obtain ⟨upper, h₄⟩ := exists_u16 source 6 (by omega)
  obtain ⟨pruneHint, h₅⟩ := exists_u32 source 8 (by omega)
  obtain ⟨reserved, h₆⟩ := exists_u32 source 12 (by omega)
  refine ⟨⟨slotCount, freeSlotHead, lower, upper, pruneHint, reserved⟩, ?_⟩
  simp only [HeapPageHeader.image, HeapPageHeader.fields, List.flatten_cons,
    Codec.append_prefix_iff, littleEndianBytes_length, List.drop_drop]
  exact ⟨h₁, h₂, h₃, h₄, h₅, h₆, List.nil_prefix⟩

lemma exists_heapSlotEntry (h : heapPageSlotEntryEncodedSize ≤ source.length) :
    ∃ entry : HeapSlotEntry, entry.image <+: source := by
  rw [heapPageSlotEntryEncodedSize] at h
  obtain ⟨tupleOffset, h₁⟩ := exists_u16 source 0 (by omega)
  obtain ⟨tupleLength, h₂⟩ := exists_u16 source 2 (by omega)
  obtain ⟨state, h₃⟩ := exists_u16 source 4 (by omega)
  obtain ⟨aux, h₄⟩ := exists_u16 source 6 (by omega)
  refine ⟨⟨tupleOffset, tupleLength, state, aux⟩, ?_⟩
  simp only [HeapSlotEntry.image, HeapSlotEntry.fields, List.flatten_cons,
    Codec.append_prefix_iff, length_integerImage, List.drop_drop]
  exact ⟨h₁, h₂, h₃, h₄, List.nil_prefix⟩

lemma exists_fsmPageHeader (h : fsmPageHeaderEncodedSize ≤ source.length) :
    ∃ header : FsmPageHeader, header.image <+: source := by
  rw [fsmPageHeaderEncodedSize] at h
  obtain ⟨firstHeapPageNo, h₁⟩ := exists_u64 source 0 (by omega)
  obtain ⟨entryCount, h₂⟩ := exists_u16 source 8 (by omega)
  obtain ⟨reserved16, h₃⟩ := exists_u16 source 10 (by omega)
  obtain ⟨reserved32, h₄⟩ := exists_u32 source 12 (by omega)
  refine ⟨⟨firstHeapPageNo, entryCount, reserved16, reserved32⟩, ?_⟩
  simp only [FsmPageHeader.image, FsmPageHeader.fields, List.flatten_cons,
    Codec.append_prefix_iff, littleEndianBytes_length, List.drop_drop]
  exact ⟨h₁, h₂, h₃, h₄, List.nil_prefix⟩

lemma exists_tupleHeader (h : tupleHeaderEncodedSize ≤ source.length) :
    ∃ header : TupleHeader, header.image <+: source := by
  rw [tupleHeaderEncodedSize] at h
  obtain ⟨xmin, h₁⟩ := exists_u64 source 0 (by omega)
  obtain ⟨xmax, h₂⟩ := exists_u64 source 8 (by omega)
  obtain ⟨cmin, h₃⟩ := exists_u32 source 16 (by omega)
  obtain ⟨cmax, h₄⟩ := exists_u32 source 20 (by omega)
  obtain ⟨prevPageNo, h₅⟩ := exists_u64 source 24 (by omega)
  obtain ⟨prevSlot, h₆⟩ := exists_u16 source 32 (by omega)
  obtain ⟨tupleFlags, h₇⟩ := exists_u16 source 34 (by omega)
  obtain ⟨headerBytes, h₈⟩ := exists_u16 source 36 (by omega)
  obtain ⟨nullBitmapBytes, h₉⟩ := exists_u16 source 38 (by omega)
  obtain ⟨schemaVersion, h₁₀⟩ := exists_u32 source 40 (by omega)
  obtain ⟨reserved, h₁₁⟩ := exists_u32 source 44 (by omega)
  refine ⟨⟨⟨xmin⟩, ⟨xmax⟩, ⟨cmin⟩, ⟨cmax⟩, prevPageNo, prevSlot, tupleFlags, headerBytes,
    nullBitmapBytes, ⟨schemaVersion⟩, reserved⟩, ?_⟩
  simp only [TupleHeader.image, TupleHeader.fields, List.flatten_cons, Codec.append_prefix_iff,
    littleEndianBytes_length, List.drop_drop]
  exact ⟨h₁, h₂, h₃, h₄, h₅, h₆, h₇, h₈, h₉, h₁₀, h₁₁, List.nil_prefix⟩

lemma exists_varcharDescriptor (h : varcharDescriptorEncodedSize ≤ source.length) :
    ∃ descriptor : VarcharDescriptor, descriptor.image <+: source := by
  rw [varcharDescriptorEncodedSize] at h
  obtain ⟨payloadOffset, h₁⟩ := exists_u32 source 0 (by omega)
  obtain ⟨payloadLength, h₂⟩ := exists_u32 source 4 (by omega)
  refine ⟨⟨payloadOffset, payloadLength⟩, ?_⟩
  rw [VarcharDescriptor.image, Codec.append_prefix_iff]
  exact ⟨h₁, h₂⟩

end Images

end DBlusBlus.Record
