import DBlusBlus.Tuple.Layout

/-! The 48-byte header of a tuple. -/

namespace DBlusBlus

open Span

structure TxnId where
  value : UInt64
deriving DecidableEq

structure CommandId where
  value : UInt32
deriving DecidableEq

def invalidTxnId : TxnId := ⟨0⟩
def frozenTxnId : TxnId := ⟨1⟩

abbrev TupleFlags := UInt16

def tupleFlagHasNulls : TupleFlags := 0x0001
def tupleFlagHasVarlen : TupleFlags := 0x0002
def tupleFlagsKnownMask : TupleFlags := tupleFlagHasNulls ||| tupleFlagHasVarlen

structure TupleHeader where
  xmin : TxnId
  xmax : TxnId
  cmin : CommandId
  cmax : CommandId
  prevPageNo : PageNo
  prevSlot : SlotId
  tupleFlags : TupleFlags
  headerBytes : UInt16
  nullBitmapBytes : UInt16
  schemaVersion : SchemaVer
  reserved : UInt32
deriving DecidableEq

inductive TupleHeaderDecodeError
  | none | sourceTooSmall | invalidPreviousVersionPointer | invalidFlags | invalidHeaderSize
  | nonzeroReserved
deriving DecidableEq

def validateTupleHeader (header : TupleHeader) : TupleHeaderDecodeError :=
  let pageIsInvalid := header.prevPageNo == invalidPageNo
  let slotIsInvalid := header.prevSlot == invalidSlotId
  if pageIsInvalid != slotIsInvalid then .invalidPreviousVersionPointer
  else if header.tupleFlags &&& ~~~tupleFlagsKnownMask ≠ 0 then .invalidFlags
  else if header.headerBytes ≠ UInt16.ofNat tupleHeaderEncodedSize then .invalidHeaderSize
  else if header.reserved ≠ 0 then .nonzeroReserved
  else .none

/-- The local buffer that `encodeTupleHeader` copies to its destination. -/
def encodedTupleHeader (header : TupleHeader) : Option (List UInt8) := do
  let d := List.replicate tupleHeaderEncodedSize 0
  let d ← writeSubspan d 0 8 (encodeLittleEndian 8 · header.xmin.value.toBitVec)
  let d ← writeSubspan d 8 8 (encodeLittleEndian 8 · header.xmax.value.toBitVec)
  let d ← writeSubspan d 16 4 (encodeLittleEndian 4 · header.cmin.value.toBitVec)
  let d ← writeSubspan d 20 4 (encodeLittleEndian 4 · header.cmax.value.toBitVec)
  let d ← writeSubspan d 24 8 (encodeLittleEndian 8 · header.prevPageNo.toBitVec)
  let d ← writeSubspan d 32 2 (encodeLittleEndian 2 · header.prevSlot.toBitVec)
  let d ← writeSubspan d 34 2 (encodeLittleEndian 2 · header.tupleFlags.toBitVec)
  let d ← writeSubspan d 36 2 (encodeLittleEndian 2 · header.headerBytes.toBitVec)
  let d ← writeSubspan d 38 2 (encodeLittleEndian 2 · header.nullBitmapBytes.toBitVec)
  let d ← writeSubspan d 40 4 (encodeLittleEndian 4 · header.schemaVersion.value.toBitVec)
  writeSubspan d 44 4 (encodeLittleEndian 4 · (0 : UInt32).toBitVec)

def encodeTupleHeader (destination : List UInt8) (header : TupleHeader) : Option (List UInt8) :=
  if destination.length < tupleHeaderEncodedSize ∨ validateTupleHeader header ≠ .none then none
  else do
    let encoded ← encodedTupleHeader header
    return Codec.splice destination 0 encoded

section Fields

variable {ε : Type} (source : List UInt8) (offset : ℕ) (tooSmall : ε)

/-- `DecodeLittleEndian` of `source.subspan(offset, 8)`. -/
def readU64 : Except (Exit ε) UInt64 := do
  let field ← Span.read source offset 8
  Check.present (decodeU64 field) (.error tooSmall)

def readU32 : Except (Exit ε) UInt32 := do
  let field ← Span.read source offset 4
  Check.present (decodeU32 field) (.error tooSmall)

def readU16 : Except (Exit ε) UInt16 := do
  let field ← Span.read source offset 2
  Check.present (decodeU16 field) (.error tooSmall)

end Fields

def decodeTupleHeader (source : List UInt8) : Except (Exit TupleHeaderDecodeError) TupleHeader := do
  Check.require (tupleHeaderEncodedSize ≤ source.length) (.error .sourceTooSmall)
  let xmin ← readU64 source 0 .sourceTooSmall
  let xmax ← readU64 source 8 .sourceTooSmall
  let cmin ← readU32 source 16 .sourceTooSmall
  let cmax ← readU32 source 20 .sourceTooSmall
  let prevPageNo ← readU64 source 24 .sourceTooSmall
  let prevSlot ← readU16 source 32 .sourceTooSmall
  let tupleFlags ← readU16 source 34 .sourceTooSmall
  let headerBytes ← readU16 source 36 .sourceTooSmall
  let nullBitmapBytes ← readU16 source 38 .sourceTooSmall
  let schemaVersion ← readU32 source 40 .sourceTooSmall
  let reserved ← readU32 source 44 .sourceTooSmall
  let header : TupleHeader := ⟨⟨xmin⟩, ⟨xmax⟩, ⟨cmin⟩, ⟨cmax⟩, prevPageNo, prevSlot, tupleFlags,
    headerBytes, nullBitmapBytes, ⟨schemaVersion⟩, reserved⟩
  Check.require (validateTupleHeader header = .none) (.error (validateTupleHeader header))
  return header

section Fields

variable {ε β : Type} {source : List UInt8} {offset : ℕ} {tooSmall : ε} {b : β}

lemma length_of_field {k w : ℕ} {bits : BitVec w} (h : littleEndianBytes k bits <+: source.drop offset)
    (hk : 0 < k) : offset + k ≤ source.length := by
  have := h.length_le
  rw [littleEndianBytes_length, List.length_drop] at this
  omega

lemma readU64_bind {f : UInt64 → Except (Exit ε) β} :
    (readU64 source offset tooSmall >>= f) = .ok b ↔
      ∃ n : UInt64, littleEndianBytes 8 n.toBitVec <+: source.drop offset ∧ f n = .ok b := by
  rw [Check.bind_eq_ok]
  simp only [readU64, Span.read_bind, Check.present_eq_ok, decodeU64_window]
  exact exists_congr fun n => and_congr_left fun _ =>
    and_iff_right_of_imp fun h => length_of_field h (by decide)

lemma readU32_bind {f : UInt32 → Except (Exit ε) β} :
    (readU32 source offset tooSmall >>= f) = .ok b ↔
      ∃ n : UInt32, littleEndianBytes 4 n.toBitVec <+: source.drop offset ∧ f n = .ok b := by
  rw [Check.bind_eq_ok]
  simp only [readU32, Span.read_bind, Check.present_eq_ok, decodeU32_window]
  exact exists_congr fun n => and_congr_left fun _ =>
    and_iff_right_of_imp fun h => length_of_field h (by decide)

lemma readU16_bind {f : UInt16 → Except (Exit ε) β} :
    (readU16 source offset tooSmall >>= f) = .ok b ↔
      ∃ n : UInt16, littleEndianBytes 2 n.toBitVec <+: source.drop offset ∧ f n = .ok b := by
  rw [Check.bind_eq_ok]
  simp only [readU16, Span.read_bind, Check.present_eq_ok, decodeU16_window]
  exact exists_congr fun n => and_congr_left fun _ =>
    and_iff_right_of_imp fun h => length_of_field h (by decide)

lemma readU64_safe (h : offset + 8 ≤ source.length) : Safe (readU64 source offset tooSmall) :=
  (Safe.read h).bind fun _ _ => Safe.present

lemma readU32_safe (h : offset + 4 ≤ source.length) : Safe (readU32 source offset tooSmall) :=
  (Safe.read h).bind fun _ _ => Safe.present

lemma readU16_safe (h : offset + 2 ≤ source.length) : Safe (readU16 source offset tooSmall) :=
  (Safe.read h).bind fun _ _ => Safe.present

end Fields

namespace TupleHeader

variable {header : TupleHeader}

def fields (header : TupleHeader) : List (List UInt8) :=
  [littleEndianBytes 8 header.xmin.value.toBitVec, littleEndianBytes 8 header.xmax.value.toBitVec,
    littleEndianBytes 4 header.cmin.value.toBitVec, littleEndianBytes 4 header.cmax.value.toBitVec,
    littleEndianBytes 8 header.prevPageNo.toBitVec, littleEndianBytes 2 header.prevSlot.toBitVec,
    littleEndianBytes 2 header.tupleFlags.toBitVec, littleEndianBytes 2 header.headerBytes.toBitVec,
    littleEndianBytes 2 header.nullBitmapBytes.toBitVec,
    littleEndianBytes 4 header.schemaVersion.value.toBitVec,
    littleEndianBytes 4 header.reserved.toBitVec]

def image (header : TupleHeader) : List UInt8 := header.fields.flatten

@[simp] lemma length_image : header.image.length = tupleHeaderEncodedSize := by
  simp [image, fields]

/-- The values that `validateTupleHeader` lets pass. -/
structure Valid (header : TupleHeader) : Prop where
  previous : header.prevPageNo = invalidPageNo ↔ header.prevSlot = invalidSlotId
  flags : header.tupleFlags &&& ~~~tupleFlagsKnownMask = 0
  size : header.headerBytes = UInt16.ofNat tupleHeaderEncodedSize
  reserved : header.reserved = 0

lemma valid_iff : validateTupleHeader header = .none ↔ header.Valid := by
  have hp : ((header.prevPageNo == invalidPageNo) != (header.prevSlot == invalidSlotId)) = false ↔
      (header.prevPageNo = invalidPageNo ↔ header.prevSlot = invalidSlotId) := by
    rw [bne_eq_false_iff_eq, Bool.eq_iff_iff, beq_iff_eq, beq_iff_eq]
  unfold validateTupleHeader
  constructor
  · intro h
    dsimp only at h
    split_ifs at h with h₁ h₂ h₃ h₄
    exact ⟨hp.mp (by simpa using h₁), not_not.mp h₂, not_not.mp h₃, not_not.mp h₄⟩
  · rintro ⟨h₁, h₂, h₃, h₄⟩
    dsimp only
    rw [hp.mpr h₁, if_neg (by simp), if_neg (by simp [h₂]), if_neg (by simp [h₃]),
      if_neg (by simp [h₄])]

end TupleHeader

lemma writeSubspan_bind {w offset k : ℕ} {destination : List UInt8} {fields : List (List UInt8)}
    {bits : BitVec w} {f : List UInt8 → Option (List UInt8)} (ho : fields.flatten.length = offset)
    (h : offset + k ≤ destination.length) :
    (writeSubspan (Codec.overlay destination fields) offset k (encodeLittleEndian k · bits) >>= f) =
      f (Codec.overlay destination (fields ++ [littleEndianBytes k bits])) := by
  rw [writeSubspan_field bits ho h]
  rfl

lemma encodedTupleHeader_eq {header : TupleHeader} (h : header.reserved = 0) :
    encodedTupleHeader header = some header.image := by
  have hlen : (List.replicate tupleHeaderEncodedSize (0 : UInt8)).length = 48 :=
    List.length_replicate
  rw [encodedTupleHeader]
  generalize List.replicate tupleHeaderEncodedSize (0 : UInt8) = d at hlen ⊢
  rw [show d = Codec.overlay d [] from rfl]
  iterate 10 rw [writeSubspan_bind (by simp) (by omega)]
  rw [writeSubspan_field _ (by simp) (by omega), ← h]
  change some (Codec.overlay d header.fields) = _
  rw [Codec.overlay, List.drop_of_length_le, List.append_nil]
  · rfl
  · exact hlen.trans_le header.length_image.ge

lemma encodeTupleHeader_eq {destination : List UInt8} {header : TupleHeader}
    (hd : tupleHeaderEncodedSize ≤ destination.length) (h : header.Valid) :
    encodeTupleHeader destination header = some (Codec.splice destination 0 header.image) := by
  rw [encodeTupleHeader, if_neg, encodedTupleHeader_eq h.reserved]
  · rfl
  · rw [not_or, not_lt, not_not]
    exact ⟨hd, TupleHeader.valid_iff.mpr h⟩

lemma encodeTupleHeader_eq_none {destination : List UInt8} {header : TupleHeader}
    (h : ¬ header.Valid) : encodeTupleHeader destination header = none :=
  if_pos (.inr fun hv => h (TupleHeader.valid_iff.mp hv))

lemma decodeTupleHeader_eq_ok {source : List UInt8} {header : TupleHeader} :
    decodeTupleHeader source = .ok header ↔ header.Valid ∧ header.image <+: source := by
  rw [← TupleHeader.valid_iff]
  simp only [decodeTupleHeader, Check.require_bind, readU64_bind, readU32_bind, readU16_bind,
    TupleHeader.image, TupleHeader.fields, List.flatten_cons, Codec.append_prefix_iff,
    littleEndianBytes_length, List.drop_drop, Nat.reduceAdd, List.drop_zero]
  constructor
  · rintro ⟨-, _, h₁, _, h₂, _, h₃, _, h₄, _, h₅, _, h₆, _, h₇, _, h₈, _, h₉, _, h₁₀, _, h₁₁, hv, h⟩
    obtain rfl := Except.ok.inj h
    exact ⟨hv, h₁, h₂, h₃, h₄, h₅, h₆, h₇, h₈, h₉, h₁₀, h₁₁, List.nil_prefix⟩
  · rintro ⟨hv, h₁, h₂, h₃, h₄, h₅, h₆, h₇, h₈, h₉, h₁₀, h₁₁, -⟩
    exact ⟨length_of_field h₁₁ (by decide), _, h₁, _, h₂, _, h₃, _, h₄, _, h₅, _, h₆, _, h₇, _, h₈,
      _, h₉, _, h₁₀, _, h₁₁, hv, rfl⟩

lemma decodeTupleHeader_safe (source : List UInt8) : Safe (decodeTupleHeader source) := by
  refine Safe.require.bind fun _ hlen => ?_
  rw [Check.require_eq_ok, tupleHeaderEncodedSize] at hlen
  refine (readU64_safe (by omega)).bind fun _ _ => (readU64_safe (by omega)).bind fun _ _ =>
    (readU32_safe (by omega)).bind fun _ _ => (readU32_safe (by omega)).bind fun _ _ =>
    (readU64_safe (by omega)).bind fun _ _ => (readU16_safe (by omega)).bind fun _ _ =>
    (readU16_safe (by omega)).bind fun _ _ => (readU16_safe (by omega)).bind fun _ _ =>
    (readU16_safe (by omega)).bind fun _ _ => (readU32_safe (by omega)).bind fun _ _ =>
    (readU32_safe (by omega)).bind fun _ _ => Safe.require.bind fun _ _ => Safe.ok

end DBlusBlus
