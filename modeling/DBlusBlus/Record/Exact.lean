import DBlusBlus.Record.Images

/-! Every record encoder is inverse to its decoder. -/

namespace DBlusBlus.Record

open InPlace

inductive Kind
  | uint8 | uint16 | uint32 | uint64 | int8 | int16 | int32 | int64
  | pageId | rid | commonPageHeader | heapPageHeader | heapSlotEntry | fsmPageHeader | tupleHeader
  | varcharDescriptor
deriving DecidableEq

def integerFormat (Integer : Type) [FixedWidthInteger Integer] : Format UInt8 where
  Value := Integer
  size := FixedWidthInteger.bytes Integer
  encode := encodeLittleEndian
  decode := decodeLittleEndian

def Kind.format : Kind → Format UInt8
  | uint8 => integerFormat UInt8
  | uint16 => integerFormat UInt16
  | uint32 => integerFormat UInt32
  | uint64 => integerFormat UInt64
  | int8 => integerFormat Int8
  | int16 => integerFormat Int16
  | int32 => integerFormat Int32
  | int64 => integerFormat Int64
  | pageId => ⟨PageId, pageIdEncodedSize, encodePageId, decodePageId⟩
  | rid => ⟨Rid, ridEncodedSize, encodeRid, decodeRid⟩
  | commonPageHeader => ⟨CommonPageHeader, commonPageHeaderEncodedSize, encodeCommonPageHeader,
      decodeCommonPageHeader⟩
  | heapPageHeader => ⟨HeapPageHeader, heapPageHeaderEncodedSize, encodeHeapPageHeader,
      decodeHeapPageHeader⟩
  | heapSlotEntry => ⟨HeapSlotEntry, heapPageSlotEntryEncodedSize, encodeHeapSlotEntry,
      fun source => (decodeHeapSlotEntry source).toOption⟩
  | fsmPageHeader => ⟨FsmPageHeader, fsmPageHeaderEncodedSize, encodeFsmPageHeader,
      decodeFsmPageHeader⟩
  | tupleHeader => ⟨TupleHeader, tupleHeaderEncodedSize, encodeTupleHeader,
      fun source => (decodeTupleHeader source).toOption⟩
  | varcharDescriptor => ⟨VarcharDescriptor, varcharDescriptorEncodedSize, encodeVarcharDescriptor,
      fun source => (decodeVarcharDescriptor source).toOption⟩

def Kind.Malformed : Kind → List UInt8 → Prop
  | rid, source => source[14]? ≠ some 0 ∨ source[15]? ≠ some 0
  | heapSlotEntry, source => 3 < stored source 4 2
  | tupleHeader, source => 3 < stored source 34 2 ∨ stored source 36 2 ≠ 48 ∨
      stored source 44 4 ≠ 0 ∨
      ¬ (stored source 24 8 = 2 ^ 64 - 1 ↔ stored source 32 2 = 2 ^ 16 - 1)
  | _, _ => False

section Implements

lemma toOption_eq_some {ε : Type} {α : Type} {x : Except ε α} {a : α} :
    x.toOption = some a ↔ x = .ok a := by
  cases x with
  | error e => simp [Except.toOption]
  | ok b => simp [Except.toOption]

lemma implements_integer (Integer : Type) [FixedWidthInteger Integer] :
    (integerFormat Integer).Implements (fun _ => True)
      (fun value : Integer => integerImage value) where
  length_image _ := length_integerImage
  accepted _ _ hroom _ := encodeLittleEndian_eq hroom
  refused _ _ h := if_pos (by_contra fun hroom => h ⟨not_lt.mp hroom, trivial⟩)
  decode_eq_some _ _ := decodeLittleEndian_eq_some.trans (and_iff_right trivial).symm

lemma implements_pageId : Kind.pageId.format.Implements (fun _ => True) pageIdImage :=
  .of_room contiguous_pageId length_pageIdImage (fun _ _ => rfl) fun _ _ => decodePageId_eq_some

lemma implements_rid : Kind.rid.format.Implements (fun _ => True) ridImage :=
  .of_room contiguous_rid length_ridImage (fun _ _ => rfl) fun _ _ => decodeRid_eq_some

lemma implements_commonPageHeader :
    Kind.commonPageHeader.format.Implements (fun _ => True) CommonPageHeader.image :=
  .of_room contiguous_commonPageHeader CommonPageHeader.length_image (fun _ _ => rfl)
    fun _ _ => decodeCommonPageHeader_eq_some

lemma implements_heapPageHeader :
    Kind.heapPageHeader.format.Implements (fun _ => True) HeapPageHeader.image :=
  .of_room contiguous_heapPageHeader HeapPageHeader.length_image (fun _ _ => rfl)
    fun _ _ => decodeHeapPageHeader_eq_some

lemma implements_heapSlotEntry : Kind.heapSlotEntry.format.Implements
    (fun entry => isValidHeapSlotState entry.state = true) HeapSlotEntry.image := by
  apply Format.Implements.of_contiguous contiguous_heapSlotEntry HeapSlotEntry.length_image
  · intro destination entry hroom hstate
    refine if_neg ?_
    rintro (h | h)
    · exact absurd hroom (not_le.mpr h)
    · exact h hstate
  · intro destination entry hno
    refine if_pos ?_
    by_contra h
    rw [not_or, not_lt, not_not] at h
    exact hno h
  · intro source entry
    exact toOption_eq_some.trans decodeHeapSlotEntry_eq_ok

lemma implements_fsmPageHeader :
    Kind.fsmPageHeader.format.Implements (fun _ => True) FsmPageHeader.image where
  length_image := FsmPageHeader.length_image
  accepted destination header hroom _ :=
    congrArg (copied destination) (encodeFsmPageHeader_splice header hroom)
  refused destination header hno := by
    have hnone : DBlusBlus.encodeFsmPageHeader destination header = none :=
      if_pos (not_le.mp fun hroom => hno ⟨hroom, trivial⟩)
    exact congrArg (copied destination) hnone
  decode_eq_some _ _ := decodeFsmPageHeader_eq_some.trans (and_iff_right trivial).symm

lemma implements_tupleHeader :
    Kind.tupleHeader.format.Implements TupleHeader.Valid TupleHeader.image where
  length_image _ := TupleHeader.length_image
  accepted destination header hroom hv :=
    congrArg (copied destination) (encodeTupleHeader_eq hroom hv)
  refused destination header hno := by
    have hnone : DBlusBlus.encodeTupleHeader destination header = none := by
      refine if_pos ?_
      by_contra h
      rw [not_or, not_lt, not_not] at h
      exact hno ⟨h.1, TupleHeader.valid_iff.mp h.2⟩
    exact congrArg (copied destination) hnone
  decode_eq_some _ _ := toOption_eq_some.trans decodeTupleHeader_eq_ok

lemma encodeVarcharDescriptor_short {destination : List UInt8} (descriptor : VarcharDescriptor)
    (h : ¬ varcharDescriptorEncodedSize ≤ destination.length) :
    DBlusBlus.encodeVarcharDescriptor destination descriptor =
      .error (.error .bufferTooSmall) := by
  rw [DBlusBlus.encodeVarcharDescriptor, Check.require_neg h]
  rfl

lemma implements_varcharDescriptor :
    Kind.varcharDescriptor.format.Implements (fun _ => True) VarcharDescriptor.image where
  length_image := VarcharDescriptor.length_image
  accepted destination descriptor hroom _ := by
    have hsome := congrArg Except.toOption (encodeVarcharDescriptor_splice descriptor hroom)
    exact congrArg (copied destination) hsome
  refused destination descriptor hno := by
    have hnone := congrArg Except.toOption
      (encodeVarcharDescriptor_short descriptor fun hroom => hno ⟨hroom, trivial⟩)
    exact congrArg (copied destination) hnone
  decode_eq_some _ _ :=
    (toOption_eq_some.trans decodeVarcharDescriptor_eq_ok).trans (and_iff_right trivial).symm

end Implements

section Layers

variable {destination source : List UInt8}

lemma result_encodeCommonPageHeader (header : CommonPageHeader) :
    (encodeCommonPageHeader destination header).result =
      DBlusBlus.encodeCommonPageHeader destination header := by
  by_cases hroom : commonPageHeaderEncodedSize ≤ destination.length
  · have hw := implements_commonPageHeader.encode_eq hroom (r := header) trivial
    rw [encodeCommonPageHeader_eq header hroom]
    exact congrArg Written.result hw
  · rw [encodeCommonPageHeader, DBlusBlus.encodeCommonPageHeader, if_pos (by omega),
      if_pos (by omega)]
    rfl

lemma result_encodeHeapPageHeader (header : HeapPageHeader) :
    (encodeHeapPageHeader destination header).result =
      DBlusBlus.encodeHeapPageHeader destination header := by
  by_cases hroom : heapPageHeaderEncodedSize ≤ destination.length
  · rw [encodeHeapPageHeader_eq header hroom]
    exact congrArg Written.result
      (implements_heapPageHeader.accepted destination header hroom trivial)
  · rw [encodeHeapPageHeader, DBlusBlus.encodeHeapPageHeader, if_pos (by omega),
      if_pos (by omega)]
    rfl

/-- An entry of the heap model, whose states are the valid ones. -/
def coded (entry : DBlusBlus.HeapSlotEntry) : HeapSlotEntry :=
  ⟨entry.tupleOffset, entry.tupleLength, entry.state.code, entry.aux⟩

lemma isValidHeapSlotState_code (state : HeapSlotState) :
    isValidHeapSlotState state.code = true := by
  cases state <;> rfl

lemma result_encodeHeapSlotEntry (entry : DBlusBlus.HeapSlotEntry) :
    (encodeHeapSlotEntry destination (coded entry)).result =
      DBlusBlus.encodeHeapSlotEntry destination entry := by
  by_cases hroom : heapPageSlotEntryEncodedSize ≤ destination.length
  · rw [encodeHeapSlotEntry_eq entry hroom]
    exact congrArg Written.result (implements_heapSlotEntry.accepted destination (coded entry) hroom
      (isValidHeapSlotState_code entry.state))
  · rw [encodeHeapSlotEntry, DBlusBlus.encodeHeapSlotEntry, if_pos (by omega), if_pos (by omega)]
    rfl

lemma decodeHeapSlotEntry_coded (entry : DBlusBlus.HeapSlotEntry) :
    decodeHeapSlotEntry source = .ok (coded entry) ↔
      DBlusBlus.decodeHeapSlotEntry source = .ok entry := by
  rw [decodeHeapSlotEntry_eq_ok, DBlusBlus.decodeHeapSlotEntry_eq_ok]
  exact and_iff_right (isValidHeapSlotState_code entry.state)

end Layers

section Malformed

variable {source : List UInt8}

lemma isValidHeapSlotState_iff {state : UInt16} :
    isValidHeapSlotState state = true ↔ ¬ 3 < state.toNat := by
  simp only [isValidHeapSlotState, Bool.or_eq_true, beq_iff_eq, HeapSlotState.code,
    ← UInt16.toNat_inj]
  change ((state.toNat = 0 ∨ state.toNat = 1) ∨ state.toNat = 2) ∨ state.toNat = 3 ↔ _
  omega

lemma knownFlags_iff {flags : TupleFlags} :
    flags &&& ~~~tupleFlagsKnownMask = 0 ↔ ¬ 3 < flags.toNat := by
  constructor
  · intro h
    have hsplit : flags = flags &&& tupleFlagsKnownMask ||| flags &&& ~~~tupleFlagsKnownMask := by
      rw [← UInt16.toBitVec_inj, UInt16.toBitVec_or, UInt16.toBitVec_and, UInt16.toBitVec_and,
        UInt16.toBitVec_not, ← BitVec.and_or_distrib_left, BitVec.or_not_self, BitVec.and_allOnes]
    rw [h, UInt16.or_zero] at hsplit
    rw [hsplit, UInt16.toNat_and, not_lt]
    exact Nat.and_le_right
  · intro h
    have hcases : flags = 0 ∨ flags = 1 ∨ flags = 2 ∨ flags = 3 := by
      simp only [← UInt16.toNat_inj]
      change flags.toNat = 0 ∨ flags.toNat = 1 ∨ flags.toNat = 2 ∨ flags.toNat = 3
      omega
    rcases hcases with rfl | rfl | rfl | rfl <;> decide

lemma accepts_heapSlotEntry {entry : HeapSlotEntry} (h : entry.image <+: source) :
    isValidHeapSlotState entry.state = true ↔ ¬ Kind.heapSlotEntry.Malformed source := by
  simp only [HeapSlotEntry.image, HeapSlotEntry.fields, List.flatten_cons,
    Codec.append_prefix_iff, length_integerImage, List.drop_drop] at h
  obtain ⟨-, -, hstate, -⟩ := h
  have hcode : stored source 4 2 = entry.state.toNat := stored_eq hstate
  rw [isValidHeapSlotState_iff, Kind.Malformed, hcode]

lemma accepts_tupleHeader {header : TupleHeader} (h : header.image <+: source) :
    header.Valid ↔ ¬ Kind.tupleHeader.Malformed source := by
  simp only [TupleHeader.image, TupleHeader.fields, List.flatten_cons, Codec.append_prefix_iff,
    littleEndianBytes_length, List.drop_drop] at h
  obtain ⟨-, -, -, -, hpage, hslot, hflags, hsize, -, -, hreserved, -⟩ := h
  have hpageNo : header.prevPageNo = invalidPageNo ↔ header.prevPageNo.toNat = 2 ^ 64 - 1 := by
    rw [← UInt64.toNat_inj]
    rfl
  have hslotId : header.prevSlot = invalidSlotId ↔ header.prevSlot.toNat = 2 ^ 16 - 1 := by
    rw [← UInt16.toNat_inj]
    rfl
  have hbytes : header.headerBytes = UInt16.ofNat tupleHeaderEncodedSize ↔
      header.headerBytes.toNat = 48 := by
    rw [← UInt16.toNat_inj]
    rfl
  have hzero : header.reserved = 0 ↔ header.reserved.toNat = 0 := by
    rw [← UInt32.toNat_inj]
    rfl
  rw [Kind.Malformed, stored_eq hpage, stored_eq hslot, stored_eq hflags, stored_eq hsize,
    stored_eq hreserved, not_or, not_or, not_or, not_not, not_not, not_not]
  constructor
  · rintro ⟨hprevious, hknown, hs, hr⟩
    rw [hpageNo, hslotId] at hprevious
    exact ⟨knownFlags_iff.mp hknown, hbytes.mp hs, hzero.mp hr, hprevious⟩
  · rintro ⟨hknown, hs, hr, hprevious⟩
    refine ⟨?_, knownFlags_iff.mpr hknown, hbytes.mpr hs, hzero.mpr hr⟩
    rw [hpageNo, hslotId]
    exact hprevious

lemma decodeRid_eq_none (h : ridEncodedSize ≤ source.length) :
    decodeRid source = none ↔ Kind.rid.Malformed source := by
  rw [ridEncodedSize] at h
  constructor
  · intro hn
    by_contra hm
    rw [Kind.Malformed, not_or, not_not, not_not] at hm
    obtain ⟨page, hpage⟩ := exists_pageId (le_trans (show pageIdEncodedSize ≤ 16 by decide) h)
    obtain ⟨slot, hslot⟩ := exists_u16 source 12 (by omega)
    have hd : decodeRid source = some ⟨page, slot⟩ := by
      rw [decodeRid_eq_some, ridImage, ridFields]
      simp only [List.flatten_cons, Codec.append_prefix_iff, length_integerImage,
        length_pageIdImage, List.drop_drop]
      exact ⟨hpage, hslot, reserved_prefix_iff.mpr hm, List.nil_prefix⟩
    rw [hn] at hd
    cases hd
  · intro hm
    rw [Kind.Malformed] at hm
    rw [decodeRid, if_neg (by rw [ridEncodedSize]; omega), if_pos hm]

end Malformed

section Total

variable {format : Format UInt8} {image : format.Value → List UInt8}

lemma exact_of_total (h : format.Implements (fun _ => True) image)
    (hexists : ∀ source, format.size ≤ source.length → ∃ r, image r <+: source) :
    format.Exact fun _ => False :=
  h.exact fun source hroom => h.decode_eq_none_iff (hexists source hroom) fun _ _ => by simp

lemma exact_integer (Integer : Type) [FixedWidthInteger Integer] :
    (integerFormat Integer).Exact fun _ => False := by
  apply exact_of_total (implements_integer Integer)
  intro source hroom
  exact exists_integer Integer source 0 ((Nat.zero_add _).trans_le hroom)

end Total

theorem record_codecs_exact (kind : Kind) : kind.format.Exact kind.Malformed := by
  cases kind with
  | uint8 => exact exact_integer UInt8
  | uint16 => exact exact_integer UInt16
  | uint32 => exact exact_integer UInt32
  | uint64 => exact exact_integer UInt64
  | int8 => exact exact_integer Int8
  | int16 => exact exact_integer Int16
  | int32 => exact exact_integer Int32
  | int64 => exact exact_integer Int64
  | pageId => exact exact_of_total implements_pageId fun _ => exists_pageId
  | rid => exact implements_rid.exact fun _ => decodeRid_eq_none
  | commonPageHeader =>
    exact exact_of_total implements_commonPageHeader fun _ => exists_commonPageHeader
  | heapPageHeader => exact exact_of_total implements_heapPageHeader fun _ => exists_heapPageHeader
  | heapSlotEntry =>
    exact implements_heapSlotEntry.exact fun _ hroom =>
      implements_heapSlotEntry.decode_eq_none_iff (exists_heapSlotEntry hroom)
        fun _ => accepts_heapSlotEntry
  | fsmPageHeader => exact exact_of_total implements_fsmPageHeader fun _ => exists_fsmPageHeader
  | tupleHeader =>
    exact implements_tupleHeader.exact fun _ hroom =>
      implements_tupleHeader.decode_eq_none_iff (exists_tupleHeader hroom)
        fun _ => accepts_tupleHeader
  | varcharDescriptor =>
    exact exact_of_total implements_varcharDescriptor fun _ => exists_varcharDescriptor

end DBlusBlus.Record
