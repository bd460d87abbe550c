import DBlusBlus.Tuple.Validate

/-! `decodeTupleValue` reads back the values that `validateTuple` accepts, and no access of either
leaves the tuple. -/

namespace DBlusBlus

open Span

section Values

variable {layout : TuplePhysicalLayout} {tuple bitmap : List UInt8} {header : TupleHeader}
  {specs : List PhysicalColumnSpec} {version : SchemaVer} {metadata : TupleVersionMetadata}
  {columns : List PhysicalColumnLayout} {column : PhysicalColumnLayout} {values : List TupleValue}
  {value : TupleValue} {index cursor final i offset : ℕ}

lemma Holds.cursor_le (h : Holds tuple bitmap index cursor columns values final) :
    cursor ≤ final := by
  induction columns generalizing values index cursor with
  | nil =>
    cases values with
    | nil => exact h.ge
    | cons value values => exact h.elim
  | cons column columns ih =>
    cases values with
    | nil => exact h.elim
    | cons value values => exact (Nat.le_add_right ..).trans (ih h.2)

lemma Holds.cell (h : Holds tuple bitmap index cursor columns values final)
    (hc : columns[i]? = some column) (hv : values[i]? = some value) :
    ∃ start, start + value.payload.length ≤ final ∧
      CellHolds tuple bitmap (index + i) start column value := by
  induction columns generalizing values index cursor i with
  | nil => simp at hc
  | cons first columns ih =>
    cases values with
    | nil => simp at hv
    | cons head values =>
    obtain ⟨hcell, hrest⟩ := h
    cases i with
    | zero =>
      obtain rfl := Option.some.inj hc
      obtain rfl := Option.some.inj hv
      exact ⟨cursor, hrest.cursor_le, hcell⟩
    | succ i =>
      rw [show index + (i + 1) = index + 1 + i by omega]
      exact ih hrest hc hv

lemma Laid.cell (hl : Laid offset columns) (hc : columns[i]? = some column) :
    physicalTypeWidth column.type = some column.fixedWidth ∧ offset ≤ column.fixedOffset ∧
      column.fixedOffset + column.fixedWidth ≤ offset + totalWidth columns := by
  induction columns generalizing offset i with
  | nil => simp at hc
  | cons first columns ih =>
    obtain ⟨hw, ho, hl⟩ := hl
    have htotal : totalWidth (first :: columns) = first.fixedWidth + totalWidth columns := rfl
    cases i with
    | zero =>
      obtain rfl := Option.some.inj hc
      exact ⟨hw, by omega, by omega⟩
    | succ i =>
      obtain ⟨hw, hlow, hhigh⟩ := ih hl hc
      exact ⟨hw, by omega, by omega⟩

lemma holds_of_fits (hb : Built specs version layout) (he : Encodable layout metadata values)
    (hlen : tuple.length = (tuplePattern layout metadata values).length)
    (hf : Pattern.Fits (tuplePattern layout metadata values) tuple) :
    layout.minimumTupleSize ≤ tuple.length ∧ Holds tuple (layout.bitmapOf tuple) 0
      layout.varlenPayloadOffset layout.columns values tuple.length := by
  obtain ⟨-, hbitmap, hcells, hpay⟩ := (fits_tuplePattern hb he.admitted).mp hf
  rw [length_tuplePattern hb he.admitted] at hlen
  have hmin : layout.minimumTupleSize ≤ tuple.length := by
    rw [TuplePhysicalLayout.minimumTupleSize]
    omega
  obtain ⟨-, hbits⟩ := (bitmapOf_eq_ofBits hb hmin he.admitted.length_eq.symm).mp hbitmap
  exact ⟨hmin, (holds_iff hb.laid).mpr ⟨he.admitted, by simpa using hbits, hcells, hpay, hlen⟩⟩

lemma decodeTupleValue_of_cell (hb : Built specs version layout)
    (hvalid : validateTuple layout tuple = .ok header)
    (hc : layout.columns[i]? = some column)
    (hcell : CellHolds tuple (layout.bitmapOf tuple) i cursor column value)
    (hend : cursor + value.payload.length ≤ tuple.length) :
    decodeTupleValue layout tuple i = .ok value := by
  have hchecked := (validateTuple_checked hb).mp hvalid
  have hi : i < layout.columnCount := (List.getElem?_eq_some_iff.mp hc).1
  obtain ⟨hw, hlow, hhigh⟩ := hb.laid.cell hc
  have hroom := hb.room hchecked.minimum
  have harea := hb.area
  have hmax : tuple.length ≤ 8135 := hchecked.maximum
  refine Check.require_bind.mpr ⟨hi, ?_⟩
  refine Check.bind_eq_ok.mpr ⟨header, Span.report_eq_ok.mpr hvalid, ?_⟩
  refine Span.read_bind.mpr ⟨by omega, ?_⟩
  refine Check.bind_eq_ok.mpr ⟨_, Span.report_eq_ok.mpr
    (isNull_eq hb.columnCount (length_bitmapOf hb hchecked.minimum).ge hi), ?_⟩
  rw [← TuplePhysicalLayout.bitmapOf, hcell.bit]
  by_cases hn : value = .null
  · subst hn
    rfl
  have hn' : isNullValue value = false := by
    rw [← Bool.not_eq_true, isNullValue_iff]
    exact hn
  have hm := hcell.admits
  rw [PhysicalColumnSpec.Admits, if_neg (by rw [hn']; simp)] at hm
  rw [hn', if_neg (by simp)]
  refine Span.get_bind.mpr ⟨column, hc, ?_⟩
  refine Span.read_bind.mpr ⟨by omega, ?_⟩
  have hf := hcell.fits
  by_cases hv : column.type = .varchar
  · rw [PhysicalColumnLayout.spec, hv] at hm
    obtain ⟨bytes, rfl⟩ := matches_varchar.mp hm
    rw [cell, Pattern.fits_exact] at hf
    rw [hv] at hw
    have hwidth : varcharDescriptorEncodedSize = column.fixedWidth := Option.some.inj hw
    have hbytes : cursor + bytes.length ≤ tuple.length := hend
    have hprefix : bytes <+: tuple.drop cursor := hcell.payload
    rw [if_pos hv]
    refine Check.bind_eq_ok.mpr ⟨_, Span.report_eq_ok.mpr (decodeVarcharDescriptor_eq_ok.mpr
      ((Codec.prefix_take_iff (by rw [VarcharDescriptor.length_image, hwidth])).mpr hf)), ?_⟩
    rw [toNat_ofNat_small (by omega), toNat_ofNat_small (by omega)]
    refine Span.read_bind.mpr ⟨by omega, congrArg (Except.ok ∘ TupleValue.varchar) ?_⟩
    exact (Codec.prefix_iff_take rfl).mp hprefix
  · obtain ⟨himage, -⟩ := cell_scalar cursor hm hv
    rw [himage, Pattern.fits_exact] at hf
    rw [if_neg hv]
    exact Span.report_eq_ok.mpr (decodeFixedScalar_eq_ok.mpr ⟨hv, hm,
      (Codec.prefix_take_iff (length_scalarImage hm hv hw).le).mpr hf⟩)

lemma decodeTupleValue_of_fits (hb : Built specs version layout)
    (he : Encodable layout metadata values)
    (hlen : tuple.length = (tuplePattern layout metadata values).length)
    (hf : Pattern.Fits (tuplePattern layout metadata values) tuple)
    (hv : values[i]? = some value) : decodeTupleValue layout tuple i = .ok value := by
  obtain ⟨-, hh⟩ := holds_of_fits hb he hlen hf
  have hvalid := (validateTuple_eq_ok hb).mpr ⟨metadata, values, he, hlen, hf, rfl⟩
  have hi : i < layout.columns.length := by
    rw [he.admitted.length_eq]
    exact (List.getElem?_eq_some_iff.mp hv).1
  have hc := List.getElem?_eq_getElem hi
  obtain ⟨start, hend, hcell⟩ := hh.cell hc hv
  rw [Nat.zero_add] at hcell
  exact decodeTupleValue_of_cell hb hvalid hc hcell hend

end Values

section Safety

variable {layout : TuplePhysicalLayout} {tuple bitmap source : List UInt8}
  {specs : List PhysicalColumnSpec} {version : SchemaVer} {n index cursor offset : ℕ}
  {columns : List PhysicalColumnLayout} {hasNulls : Bool}

lemma isNull_safe : Safe (isNull bitmap n index) := by
  refine Safe.bind (Safe.present.bind fun _ _ => Safe.require.bind fun _ _ => Safe.require) ?_
  intro ⟨⟩ h
  simp only [validateBitmapAccess, Check.present_bind, Check.require_bind, Check.require_eq_ok] at h
  obtain ⟨bytes, hbytes, hi, hle⟩ := h
  have := nullBitmapBytes_eq_some hbytes
  exact (Safe.get (by omega)).bind fun _ _ => Safe.ok

lemma nullState_safe : Safe (nullState layout bitmap index) := isNull_safe.report

lemma decodeVarcharDescriptor_safe : Safe (decodeVarcharDescriptor source) := by
  refine Safe.require.bind fun _ hlen => ?_
  rw [Check.require_eq_ok] at hlen
  have hlen : 8 ≤ source.length := hlen
  exact (readU32_safe (by omega)).bind fun _ _ => (readU32_safe (by omega)).bind fun _ _ => Safe.ok

lemma decodeFixedScalar_safe {type : PhysicalType} : Safe (decodeFixedScalar type source) := by
  unfold decodeFixedScalar
  refine Safe.present.bind fun width hw => Safe.require.bind fun _ _ => Safe.require.bind ?_
  intro _ hlen
  rw [Check.present_eq_ok] at hw
  rw [Check.require_eq_ok] at hlen
  cases type with
  | boolean =>
    obtain rfl := Option.some.inj hw
    exact (Safe.get (by omega)).bind fun _ _ => Safe.require.bind fun _ _ => Safe.ok
  | int32 =>
    obtain rfl := Option.some.inj hw
    exact (readU32_safe (by omega)).bind fun _ _ => Safe.ok
  | int64 =>
    obtain rfl := Option.some.inj hw
    exact (readU64_safe (by omega)).bind fun _ _ => Safe.ok
  | float64 =>
    obtain rfl := Option.some.inj hw
    exact (readU64_safe (by omega)).bind fun _ _ => Safe.ok
  | date =>
    obtain rfl := Option.some.inj hw
    exact (readU32_safe (by omega)).bind fun _ _ => Safe.ok
  | timestamp =>
    obtain rfl := Option.some.inj hw
    exact (readU64_safe (by omega)).bind fun _ _ => Safe.ok
  | varchar => exact Safe.error
  | unknown code => exact Safe.error

lemma scanColumns_safe (hl : Laid offset columns)
    (hroom : offset + totalWidth columns ≤ tuple.length) :
    Safe (scanColumns layout tuple bitmap index columns hasNulls) := by
  induction columns generalizing offset index hasNulls with
  | nil => exact Safe.ok
  | cons column columns ih =>
    obtain ⟨-, rfl, hl⟩ := hl
    have htotal : totalWidth (column :: columns) = column.fixedWidth + totalWidth columns := rfl
    have hnext {hasNulls : Bool} :
        Safe (scanColumns layout tuple bitmap (index + 1) columns hasNulls) := ih hl (by omega)
    refine nullState_safe.bind fun isNull _ => ?_
    split
    · exact Safe.require.bind fun _ _ => hnext
    · split
      · exact (Safe.read (by omega)).bind fun _ _ =>
          decodeFixedScalar_safe.report.bind fun _ _ => hnext
      · exact hnext

lemma scanPayloads_safe (hl : Laid offset columns)
    (hroom : offset + totalWidth columns ≤ tuple.length) :
    Safe (scanPayloads layout tuple bitmap index columns cursor) := by
  induction columns generalizing offset index cursor with
  | nil => exact Safe.ok
  | cons column columns ih =>
    obtain ⟨-, rfl, hl⟩ := hl
    have htotal : totalWidth (column :: columns) = column.fixedWidth + totalWidth columns := rfl
    have hnext {cursor : ℕ} :
        Safe (scanPayloads layout tuple bitmap (index + 1) columns cursor) := ih hl (by omega)
    rw [scanPayloads]
    split
    · exact hnext
    · refine (Safe.read (by omega)).bind fun _ _ =>
        decodeVarcharDescriptor_safe.report.bind fun _ _ => nullState_safe.bind fun _ _ => ?_
      split
      · exact Safe.require.bind fun _ _ => hnext
      · exact Safe.require.bind fun _ _ => Safe.present.bind fun _ _ => Safe.require.bind fun _ _ =>
          Safe.require.bind fun _ _ => hnext

theorem validateTuple_safe (hb : Built specs version layout) : Safe (validateTuple layout tuple) := by
  have hp := hb.payload
  have ha := hb.area
  refine Safe.require.bind fun _ hmin => Safe.require.bind fun _ _ => ?_
  rw [Check.require_eq_ok] at hmin
  have hroom := hb.room hmin
  refine (Safe.read (by omega)).bind fun _ _ => (decodeTupleHeader_safe _).report.bind fun _ _ =>
    Safe.require.bind fun _ _ => Safe.require.bind fun _ _ => Safe.require.bind fun _ _ =>
    (Safe.read (by omega)).bind fun bitmap _ => ?_
  have hrest : ∀ header : TupleHeader, Safe (do
      let hasNulls ← scanColumns layout tuple bitmap 0 layout.columns false
      Check.require ((header.tupleFlags &&& tupleFlagHasNulls != 0) = hasNulls)
        (.error ⟨.flagBitmapMismatch, 0, .none⟩)
      let expectedPayloadOffset ←
        scanPayloads layout tuple bitmap 0 layout.columns layout.varlenPayloadOffset
      Check.require (expectedPayloadOffset = tuple.length) (.error ⟨.trailingBytes, 0, .none⟩)
      return header) := fun header =>
    (scanColumns_safe hb.laid hroom).bind fun _ _ => Safe.require.bind fun _ _ =>
      (scanPayloads_safe hb.laid hroom).bind fun _ _ => Safe.require.bind fun _ _ => Safe.ok
  dsimp only
  split
  · rename_i hne
    have hpos := List.length_pos_iff.mpr hne
    exact (Safe.get (by omega)).bind fun _ _ => Safe.require.bind fun _ _ => hrest _
  · exact hrest _

theorem decodeTupleValue_safe (hb : Built specs version layout) :
    Safe (decodeTupleValue layout tuple index) := by
  refine Safe.require.bind fun _ hi => ?_
  rw [Check.require_eq_ok] at hi
  cases hvalid : validateTuple layout tuple with
  | error e =>
    rw [← hvalid]
    refine (validateTuple_safe hb).report.bind fun _ h => ?_
    rw [Span.report_eq_ok, hvalid] at h
    cases h
  | ok header =>
    obtain ⟨metadata, values, he, hlen, hf, -⟩ := (validateTuple_eq_ok hb).mp hvalid
    have hv := List.getElem?_eq_getElem (l := values) (i := index)
      (by rw [← he.admitted.length_eq]; exact hi)
    have hok := decodeTupleValue_of_fits hb he hlen hf hv
    rw [decodeTupleValue, Check.require_bind] at hok
    have := hok.2
    rw [hvalid] at this
    rw [this]
    exact Safe.ok

end Safety

end DBlusBlus
