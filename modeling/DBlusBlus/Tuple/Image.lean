import DBlusBlus.Library.Pattern
import DBlusBlus.Tuple.Codec

/-! The bytes that a list of values stands for, with the cells of NULL values left open. -/

namespace DBlusBlus

open Span

def VarcharDescriptor.image (descriptor : VarcharDescriptor) : List UInt8 :=
  littleEndianBytes 4 descriptor.payloadOffset.toBitVec ++
    littleEndianBytes 4 descriptor.payloadLength.toBitVec

@[simp] lemma VarcharDescriptor.length_image (descriptor : VarcharDescriptor) :
    descriptor.image.length = varcharDescriptorEncodedSize := by
  simp [image]

namespace TupleValue

def payload : TupleValue → List UInt8
  | .varchar bytes => bytes
  | _ => []

def scalarImage : TupleValue → List UInt8
  | .boolean b => [if b then 0x01 else 0x00]
  | .int32 n => littleEndianBytes 4 n.toBitVec
  | .int64 n => littleEndianBytes 8 n.toBitVec
  | .float64 n => littleEndianBytes 8 n.toBitVec
  | .date n => littleEndianBytes 4 n.toBitVec
  | .timestamp n => littleEndianBytes 8 n.toBitVec
  | .null | .varchar _ => []

end TupleValue

def PhysicalColumnSpec.Admits (column : PhysicalColumnSpec) (value : TupleValue) : Prop :=
  if isNullValue value then column.nullable = true
  else valueMatchesType column.type value = true

instance PhysicalColumnSpec.decidableAdmits (column : PhysicalColumnSpec) (value : TupleValue) :
    Decidable (column.Admits value) :=
  inferInstanceAs (Decidable (ite _ _ _))

section Scalars

variable {type : PhysicalType} {value : TupleValue} {width : ℕ} {destination source : List UInt8}

lemma length_scalarImage (hm : valueMatchesType type value = true) (hv : type ≠ .varchar)
    (hw : physicalTypeWidth type = some width) : value.scalarImage.length = width := by
  cases type <;> cases value <;> simp_all [valueMatchesType, physicalTypeWidth,
    TupleValue.scalarImage]

lemma encodeVarcharDescriptor_splice (descriptor : VarcharDescriptor)
    (h : varcharDescriptorEncodedSize ≤ destination.length) :
    encodeVarcharDescriptor destination descriptor =
      .ok (Codec.splice destination 0 descriptor.image) := by
  have hd : (List.replicate varcharDescriptorEncodedSize (0 : UInt8)).length = 8 :=
    List.length_replicate
  rw [encodeVarcharDescriptor, Check.require_bind]
  refine ⟨h, ?_⟩
  dsimp only
  generalize List.replicate varcharDescriptorEncodedSize (0 : UInt8) = d at hd ⊢
  rw [show d = Codec.overlay d [] from rfl, writeSubspan_field _ (by simp) (by omega),
    Check.present_bind]
  refine ⟨_, rfl, ?_⟩
  rw [writeSubspan_field _ (by simp) (by omega), Check.present_bind]
  refine ⟨descriptor.image, ?_, ?_⟩
  · simp [Codec.overlay, VarcharDescriptor.image, hd]
  · exact Span.write_eq (by rw [VarcharDescriptor.length_image]; omega)

lemma encodeVarcharDescriptor_eq (descriptor : VarcharDescriptor)
    (h : destination.length = varcharDescriptorEncodedSize) :
    encodeVarcharDescriptor destination descriptor = .ok descriptor.image := by
  rw [encodeVarcharDescriptor_splice descriptor h.ge, Codec.splice_zero,
    List.drop_of_length_le (by rw [descriptor.length_image, h]), List.append_nil]

lemma decodeVarcharDescriptor_eq_ok {descriptor : VarcharDescriptor} :
    decodeVarcharDescriptor source = .ok descriptor ↔ descriptor.image <+: source := by
  simp only [decodeVarcharDescriptor, Check.require_bind, readU32_bind, VarcharDescriptor.image,
    Codec.append_prefix_iff, littleEndianBytes_length, List.drop_zero]
  constructor
  · rintro ⟨-, _, h₁, _, h₂, h⟩
    obtain rfl := Except.ok.inj h
    exact ⟨h₁, h₂⟩
  · rintro ⟨h₁, h₂⟩
    exact ⟨length_of_field h₂ (by decide), _, h₁, _, h₂, rfl⟩

lemma encodeFirst_eq {k w : ℕ} {bits : BitVec w} (h : destination.length = k) :
    encodeFirst k destination bits = .ok (littleEndianBytes k bits) := by
  rw [encodeFirst, Span.read_whole h, Check.bind_eq_ok]
  refine ⟨_, rfl, ?_⟩
  rw [Check.present_bind]
  refine ⟨littleEndianBytes k bits, ?_, Span.write_whole (by simp [h])⟩
  rw [encodeLittleEndian, if_neg (by omega), List.drop_of_length_le h.le, List.append_nil]

lemma encodeFixedScalar_eq (hm : valueMatchesType type value = true) (hv : type ≠ .varchar)
    (hw : physicalTypeWidth type = some width) (h : destination.length = width) :
    encodeFixedScalar destination type value = .ok value.scalarImage := by
  unfold encodeFixedScalar
  rw [Check.present_bind]
  refine ⟨width, hw, ?_⟩
  rw [Check.require_bind, Check.require_bind, Check.require_bind]
  refine ⟨hv, hm, h.ge, ?_⟩
  cases type <;> cases value <;> first
    | (cases hm; done)
    | exact absurd rfl hv
    | (cases hw; exact encodeFirst_eq h)
    | (cases hw; exact Span.write_whole h)

lemma boolean_prefix {b : Bool} : (TupleValue.boolean b).scalarImage <+: source ↔
    ∃ byte, source[0]? = some byte ∧ byte ≤ 1 ∧ (byte == 1) = b := by
  have hb (byte : UInt8) : byte ≤ 1 ↔ byte = 0 ∨ byte = 1 := by
    rw [UInt8.le_iff_toNat_le, ← UInt8.toNat_inj, ← UInt8.toNat_inj]
    simp only [UInt8.toNat_one, UInt8.toNat_zero]
    omega
  cases source with
  | nil => simp [TupleValue.scalarImage]
  | cons byte source =>
    simp only [TupleValue.scalarImage, List.cons_prefix_cons, List.nil_prefix, and_true, hb,
      List.getElem?_cons_zero, Option.some.injEq, exists_eq_left']
    constructor
    · rintro rfl
      cases b <;> simp
    · rintro ⟨rfl | rfl, rfl⟩ <;> simp

lemma decodeFixedScalar_eq_ok : decodeFixedScalar type source = .ok value ↔
    type ≠ .varchar ∧ valueMatchesType type value = true ∧ value.scalarImage <+: source := by
  have word {k : ℕ} {bits : BitVec (8 * k)} (hk : 0 < k)
      (h : littleEndianBytes k bits <+: source) : k ≤ source.length := by
    have : 0 + k ≤ source.length := length_of_field h hk
    omega
  unfold decodeFixedScalar
  rw [Check.present_bind]
  simp only [Check.require_bind]
  cases type with
  | boolean =>
    simp only [Span.get_bind, Check.require_bind]
    constructor
    · rintro ⟨width, -, -, -, byte, hb, hle, h⟩
      obtain rfl := Except.ok.inj h
      exact ⟨by decide, rfl, boolean_prefix.mpr ⟨byte, hb, hle, rfl⟩⟩
    · rintro ⟨-, hm, hp⟩
      cases value with
      | boolean b =>
        obtain ⟨byte, hb, hle, rfl⟩ := boolean_prefix.mp hp
        exact ⟨1, rfl, by decide, hp.length_le, byte, hb, hle, rfl⟩
      | _ => cases hm
  | int32 =>
    simp only [readU32_bind, List.drop_zero]
    constructor
    · rintro ⟨width, -, -, -, n, hn, h⟩
      obtain rfl := Except.ok.inj h
      exact ⟨by decide, rfl, hn⟩
    · rintro ⟨-, hm, hp⟩
      cases value with
      | int32 n => exact ⟨4, rfl, by decide, word (by decide) hp, ⟨n.toBitVec⟩, hp, rfl⟩
      | _ => cases hm
  | int64 =>
    simp only [readU64_bind, List.drop_zero]
    constructor
    · rintro ⟨width, -, -, -, n, hn, h⟩
      obtain rfl := Except.ok.inj h
      exact ⟨by decide, rfl, hn⟩
    · rintro ⟨-, hm, hp⟩
      cases value with
      | int64 n => exact ⟨8, rfl, by decide, word (by decide) hp, ⟨n.toBitVec⟩, hp, rfl⟩
      | _ => cases hm
  | float64 =>
    simp only [readU64_bind, List.drop_zero]
    constructor
    · rintro ⟨width, -, -, -, n, hn, h⟩
      obtain rfl := Except.ok.inj h
      exact ⟨by decide, rfl, hn⟩
    · rintro ⟨-, hm, hp⟩
      cases value with
      | float64 n => exact ⟨8, rfl, by decide, word (by decide) hp, ⟨n.toBitVec⟩, hp, rfl⟩
      | _ => cases hm
  | date =>
    simp only [readU32_bind, List.drop_zero]
    constructor
    · rintro ⟨width, -, -, -, n, hn, h⟩
      obtain rfl := Except.ok.inj h
      exact ⟨by decide, rfl, hn⟩
    · rintro ⟨-, hm, hp⟩
      cases value with
      | date n => exact ⟨4, rfl, by decide, word (by decide) hp, ⟨n.toBitVec⟩, hp, rfl⟩
      | _ => cases hm
  | timestamp =>
    simp only [readU64_bind, List.drop_zero]
    constructor
    · rintro ⟨width, -, -, -, n, hn, h⟩
      obtain rfl := Except.ok.inj h
      exact ⟨by decide, rfl, hn⟩
    · rintro ⟨-, hm, hp⟩
      cases value with
      | timestamp n => exact ⟨8, rfl, by decide, word (by decide) hp, ⟨n.toBitVec⟩, hp, rfl⟩
      | _ => cases hm
  | varchar => simp
  | unknown code => simp [physicalTypeWidth, valueMatchesType]

end Scalars

section Bitmap

variable {bitmap : List UInt8} {n i : ℕ} {bytes : UInt16} {f : ℕ → Bool}

lemma nullBitMask_eq (i : ℕ) : nullBitMask i = Bitmap.mask i := by
  have h : ∀ j : Fin 8, UInt8.ofNat (1 <<< j.val) = UInt8.ofBitVec (BitVec.twoPow 8 j) := by decide
  exact h ⟨i % 8, Nat.mod_lt _ (by decide)⟩

lemma validateBitmapAccess_eq (hn : nullBitmapBytes n = some bytes)
    (hb : bytes.toNat ≤ bitmap.length) (hi : i < n) :
    validateBitmapAccess bitmap.length n i = .ok () := by
  rw [validateBitmapAccess, Check.present_bind]
  refine ⟨bytes, hn, ?_⟩
  rw [Check.require_bind]
  exact ⟨hi, Check.require_eq_ok.mpr hb⟩

lemma byte_of_bitmap (hn : nullBitmapBytes n = some bytes) (hb : bytes.toNat ≤ bitmap.length)
    (hi : i < n) : i / 8 < bitmap.length := by
  have := nullBitmapBytes_eq_some hn
  omega

lemma isNull_eq (hn : nullBitmapBytes n = some bytes) (hb : bytes.toNat ≤ bitmap.length)
    (hi : i < n) : isNull bitmap n i = .ok (Bitmap.bit bitmap i) := by
  have hk := byte_of_bitmap hn hb hi
  rw [isNull, validateBitmapAccess_eq hn hb hi]
  refine Span.get_bind.mpr ⟨_, List.getElem?_eq_getElem hk, ?_⟩
  rw [nullBitMask_eq, Bitmap.bit, List.getElem?_eq_getElem hk, Option.getD_some]
  refine congrArg Except.ok (Bool.eq_iff_iff.mpr ?_)
  rw [bne_iff_ne, Bitmap.and_mask_ne_zero]

lemma setNull_ofBits (hn : nullBitmapBytes n = some bytes) (hi : i < n) :
    setNull (Bitmap.ofBits bytes.toNat f) n i =
      .ok (Bitmap.ofBits bytes.toNat fun k => f k || decide (k = i)) := by
  have hb : (Bitmap.ofBits bytes.toNat f).length = bytes.toNat := Bitmap.length_ofBits
  have hk := byte_of_bitmap hn hb.ge hi
  rw [setNull, validateBitmapAccess_eq hn hb.ge hi]
  refine Span.get_bind.mpr ⟨_, List.getElem?_eq_getElem hk, congrArg Except.ok ?_⟩
  rw [nullBitMask_eq, Bitmap.eq_ofBits_iff (by simp)]
  intro k hk'
  rw [Bitmap.bit_set (List.getElem?_eq_getElem hk), Bitmap.bit_ofBits hk']
  split_ifs with h <;> simp [h]

end Bitmap

section Pattern

variable (layout : TuplePhysicalLayout) (metadata : TupleVersionMetadata)

/-- The cell of a value in the fixed area. Nothing is said of the cell of a NULL scalar. -/
def cell (column : PhysicalColumnLayout) (cursor : ℕ) : TupleValue → List (Option UInt8)
  | .null =>
    if column.type = .varchar then Pattern.exact (VarcharDescriptor.image {})
    else Pattern.gap column.fixedWidth
  | .varchar bytes =>
    Pattern.exact (VarcharDescriptor.image ⟨UInt32.ofNat cursor, UInt32.ofNat bytes.length⟩)
  | value => Pattern.exact value.scalarImage

def cells : List PhysicalColumnLayout → List TupleValue → ℕ → List (Option UInt8)
  | column :: columns, value :: values, cursor =>
    cell column cursor value ++ cells columns values (cursor + value.payload.length)
  | _, _, _ => []

def payloads (values : List TupleValue) : List UInt8 := values.flatMap TupleValue.payload

def nullBits (values : List TupleValue) (k : ℕ) : Bool := values[k]?.any isNullValue

def tupleHeader (values : List TupleValue) : TupleHeader :=
  newTupleHeader layout metadata (values.any isNullValue)

def tuplePattern (values : List TupleValue) : List (Option UInt8) :=
  Pattern.exact (tupleHeader layout metadata values).image ++
    (Pattern.exact (Bitmap.ofBits layout.nullBitmapBytes.toNat (nullBits values)) ++
      (cells layout.columns values layout.varlenPayloadOffset ++ Pattern.exact (payloads values)))

/-- The values and the metadata that a tuple of the layout can hold. -/
structure Encodable (values : List TupleValue) : Prop where
  admitted : List.Forall₂ (fun column value => column.spec.Admits value) layout.columns values
  fits : layout.minimumTupleSize + (payloads values).length ≤ heapPageMaxRawTupleSize
  previous : metadata.prevPageNo = invalidPageNo ↔ metadata.prevSlot = invalidSlotId

end Pattern

section Header

variable {layout : TuplePhysicalLayout} {metadata : TupleVersionMetadata}

lemma flags_known (hasNulls hasVarlen : Bool) :
    ((if hasNulls then tupleFlagHasNulls else 0) |||
      (if hasVarlen then tupleFlagHasVarlen else 0)) &&& ~~~tupleFlagsKnownMask = 0 := by
  cases hasNulls <;> cases hasVarlen <;> decide

lemma newTupleHeader_valid {hasNulls : Bool} : (newTupleHeader layout metadata hasNulls).Valid ↔
    (metadata.prevPageNo = invalidPageNo ↔ metadata.prevSlot = invalidSlotId) :=
  ⟨fun h => h.previous, fun h => ⟨h, flags_known _ _, rfl, rfl⟩⟩

end Header

section Cells

variable {column : PhysicalColumnLayout} {value : TupleValue} {cursor : ℕ}
  {columns : List PhysicalColumnLayout} {values : List TupleValue}

lemma payloads_cons {values : List TupleValue} :
    payloads (value :: values) = value.payload ++ payloads values :=
  List.flatMap_cons ..

lemma isNullValue_iff : isNullValue value = true ↔ value = .null := by
  cases value <;> simp [isNullValue]

lemma matches_varchar : valueMatchesType .varchar value = true ↔ ∃ bytes, value = .varchar bytes := by
  cases value <;> simp [valueMatchesType]

lemma cell_scalar (cursor : ℕ) (hm : valueMatchesType column.type value = true)
    (hv : column.type ≠ .varchar) :
    cell column cursor value = Pattern.exact value.scalarImage ∧ value.payload = [] := by
  cases value with
  | null => cases h : column.type <;> rw [h] at hm <;> cases hm
  | varchar bytes =>
    cases h : column.type with
    | varchar => exact absurd h hv
    | _ => rw [h] at hm; cases hm
  | _ => exact ⟨rfl, rfl⟩

lemma length_cell (cursor : ℕ) (ha : column.spec.Admits value)
    (hw : physicalTypeWidth column.type = some column.fixedWidth) :
    (cell column cursor value).length = column.fixedWidth := by
  by_cases hn : value = .null
  · subst hn
    rw [cell]
    split
    · rename_i hv
      rw [hv] at hw
      simpa [physicalTypeWidth] using hw
    · simp
  · rw [PhysicalColumnSpec.Admits, if_neg (by rwa [isNullValue_iff])] at ha
    by_cases hv : column.type = .varchar
    · rw [PhysicalColumnLayout.spec, hv] at ha
      obtain ⟨bytes, rfl⟩ := matches_varchar.mp ha
      rw [hv] at hw
      simpa [cell, physicalTypeWidth] using hw
    · rw [(cell_scalar cursor ha hv).1, Pattern.length_exact, length_scalarImage ha hv hw]

lemma length_cells {offset : ℕ} (hl : Laid offset columns)
    (ha : List.Forall₂ (fun column value => column.spec.Admits value) columns values) :
    (cells columns values cursor).length = totalWidth columns := by
  induction ha generalizing offset cursor with
  | nil => rfl
  | cons hv _ ih =>
    obtain ⟨hw, -, hl⟩ := hl
    rw [cells, List.length_append, length_cell _ hv hw, ih hl]
    rfl

end Cells

end DBlusBlus
