import DBlusBlus.Tuple.Decode
import DBlusBlus.Tuple.Encode

/-! Encoding and decoding are inverse, and `validateTuple` accepts what `encodeTuple` writes, up to
the cells of NULL values of fixed width. -/

namespace DBlusBlus

open Span

/-- The position lies in the cell of a NULL value of a column of fixed width. -/
def InNullCell (layout : TuplePhysicalLayout) (values : List TupleValue) (k : ℕ) : Prop :=
  ∃ (i : ℕ) (column : PhysicalColumnLayout), layout.columns[i]? = some column ∧
    values[i]? = some .null ∧ column.type ≠ .varchar ∧
      column.fixedOffset ≤ k ∧ k < column.fixedOffset + column.fixedWidth

def varcharSpans (layout : TuplePhysicalLayout) (tuple : List UInt8) :
    ℕ → List PhysicalColumnLayout → List (ℕ × ℕ)
  | _, [] => []
  | index, column :: columns =>
    if column.type ≠ .varchar then varcharSpans layout tuple (index + 1) columns
    else
      match isNull (layout.bitmapOf tuple) layout.columnCount index, decodeVarcharDescriptor
          ((tuple.drop column.fixedOffset).take column.fixedWidth) with
      | .ok false, .ok descriptor => (descriptor.payloadOffset.toNat,
          descriptor.payloadLength.toNat) :: varcharSpans layout tuple (index + 1) columns
      | _, _ => varcharSpans layout tuple (index + 1) columns

/-- The spans follow one another without a gap from the one position to the other. -/
def Tiles : ℕ → List (ℕ × ℕ) → ℕ → Prop
  | start, [], stop => start = stop
  | start, (offset, length) :: spans, stop => offset = start ∧ Tiles (start + length) spans stop

section Cells

variable {layout : TuplePhysicalLayout} {tuple : List UInt8} {specs : List PhysicalColumnSpec}
  {version : SchemaVer} {metadata : TupleVersionMetadata} {column : PhysicalColumnLayout}
  {columns before : List PhysicalColumnLayout} {value : TupleValue} {values : List TupleValue}
  {cursor final offset k : ℕ}

lemma cell_getElem? : (cell column cursor value)[k]? = some none ↔
    value = .null ∧ column.type ≠ .varchar ∧ k < column.fixedWidth := by
  cases value with
  | null =>
    rw [cell]
    split
    · rename_i hv
      simp [Pattern.exact_getElem?, hv]
    · rename_i hv
      simp [Pattern.gap_getElem?, hv]
  | _ => simp [cell, Pattern.exact_getElem?]

lemma cells_getElem? (hl : Laid offset columns)
    (ha : List.Forall₂ (fun column value => column.spec.Admits value) columns values) :
    (cells columns values cursor)[k]? = some none ↔
      ∃ (i : ℕ) (column : PhysicalColumnLayout), columns[i]? = some column ∧
        values[i]? = some .null ∧ column.type ≠ .varchar ∧ column.fixedOffset ≤ offset + k ∧
          offset + k < column.fixedOffset + column.fixedWidth := by
  induction ha generalizing offset cursor k with
  | nil => simp [cells]
  | @cons column value columns values hv ha ih =>
    obtain ⟨hw, ho, hl⟩ := hl
    have hlen := length_cell cursor hv hw
    rw [cells]
    by_cases hk : k < column.fixedWidth
    · rw [List.getElem?_append_left (by omega), cell_getElem?]
      constructor
      · rintro ⟨rfl, ht, -⟩
        exact ⟨0, column, rfl, rfl, ht, by omega, by omega⟩
      · rintro ⟨i, other, hc, hn, ht, hlow, hhigh⟩
        cases i with
        | zero =>
          obtain rfl := Option.some.inj hc
          exact ⟨Option.some.inj hn, ht, hk⟩
        | succ i =>
          have := hl.cell hc
          omega
    · obtain ⟨j, rfl⟩ := Nat.exists_eq_add_of_le (Nat.le_of_not_lt hk)
      rw [List.getElem?_append_right (by omega), hlen, Nat.add_sub_cancel_left, ih hl]
      constructor
      · rintro ⟨i, other, hc, hn, ht, hlow, hhigh⟩
        exact ⟨i + 1, other, hc, hn, ht, by omega, by omega⟩
      · rintro ⟨i, other, hc, hn, ht, hlow, hhigh⟩
        cases i with
        | zero =>
          obtain rfl := Option.some.inj hc
          omega
        | succ i => exact ⟨i, other, hc, hn, ht, by omega, by omega⟩

lemma tuplePattern_getElem? (hb : Built specs version layout)
    (ha : List.Forall₂ (fun column value => column.spec.Admits value) layout.columns values) :
    (tuplePattern layout metadata values)[k]? = some none ↔ InNullCell layout values k := by
  have harea := hb.area
  have hout {i : ℕ} {column : PhysicalColumnLayout} (hc : layout.columns[i]? = some column) :=
    hb.laid.cell hc
  have hlen : (Pattern.exact (tupleHeader layout metadata values).image ++
      Pattern.exact (Bitmap.ofBits layout.nullBitmapBytes.toNat (nullBits values))).length =
      layout.fixedAreaOffset := by
    rw [List.length_append, Pattern.length_exact, Pattern.length_exact, TupleHeader.length_image,
      Bitmap.length_ofBits, harea]
  rw [tuplePattern, ← List.append_assoc]
  by_cases hk : k < layout.fixedAreaOffset
  · rw [List.getElem?_append_left (by omega)]
    refine iff_of_false ?_ ?_
    · rw [Pattern.exact, Pattern.exact, ← List.map_append]
      exact Pattern.exact_getElem?
    · rintro ⟨i, column, hc, -, -, hlow, -⟩
      have := hout hc
      omega
  obtain ⟨j, rfl⟩ := Nat.exists_eq_add_of_le (Nat.le_of_not_lt hk)
  rw [List.getElem?_append_right (by omega), hlen, Nat.add_sub_cancel_left]
  by_cases hj : j < totalWidth layout.columns
  · rw [List.getElem?_append_left (by rwa [length_cells hb.laid ha]), cells_getElem? hb.laid ha]
    rfl
  · rw [List.getElem?_append_right (by rw [length_cells hb.laid ha]; omega)]
    refine iff_of_false Pattern.exact_getElem? ?_
    rintro ⟨i, column, hc, -, -, -, hhigh⟩
    have := hout hc
    omega

lemma tiles_of_holds (hb : Built specs version layout)
    (hmin : layout.minimumTupleSize ≤ tuple.length) (hmax : final ≤ heapPageMaxRawTupleSize)
    (hcols : layout.columns = before ++ columns) (hl : Laid offset columns)
    (hh : Holds tuple (layout.bitmapOf tuple) before.length cursor columns values final) :
    Tiles cursor (varcharSpans layout tuple before.length columns) final := by
  induction columns generalizing before values offset cursor with
  | nil =>
    cases values with
    | nil => exact hh.symm
    | cons value values => exact hh.elim
  | cons column columns ih =>
    cases values with
    | nil => exact hh.elim
    | cons value values =>
    obtain ⟨hw, rfl, hl⟩ := hl
    obtain ⟨hcell, hh⟩ := hh
    have hend := hh.cursor_le
    have hmax : final ≤ 8135 := hmax
    have hi : before.length < layout.columnCount := by
      rw [TuplePhysicalLayout.columnCount, hcols, List.length_append, List.length_cons]
      omega
    have hnull := isNull_eq hb.columnCount (length_bitmapOf hb hmin).ge hi
    have hcols' : layout.columns = (before ++ [column]) ++ columns := by
      rw [hcols, List.append_assoc]
      rfl
    have hnext : Tiles (cursor + value.payload.length)
        (varcharSpans layout tuple (before.length + 1) columns) final := by
      have hstep : before.length + 1 = (before ++ [column]).length := by simp
      rw [hstep] at hh ⊢
      exact ih hcols' hl hh
    rw [varcharSpans, hnull, hcell.bit]
    by_cases hv : column.type = .varchar
    swap
    · rw [if_pos hv]
      have hm := hcell.admits
      by_cases hn : value = .null
      · subst hn
        exact hnext
      · rw [PhysicalColumnSpec.Admits, if_neg (by rwa [isNullValue_iff])] at hm
        rw [(cell_scalar cursor hm hv).2] at hnext
        exact hnext
    rw [if_neg (not_not.mpr hv)]
    by_cases hn : value = .null
    · subst hn
      exact hnext
    have hm := hcell.admits
    rw [PhysicalColumnSpec.Admits, if_neg (by rwa [isNullValue_iff]), PhysicalColumnLayout.spec,
      hv] at hm
    obtain ⟨bytes, rfl⟩ := matches_varchar.mp hm
    have hf := hcell.fits
    rw [cell, Pattern.fits_exact] at hf
    rw [hv] at hw
    have hwidth : varcharDescriptorEncodedSize = column.fixedWidth := Option.some.inj hw
    rw [TupleValue.payload] at hnext hend
    rw [show isNullValue (.varchar bytes) = false from rfl, decodeVarcharDescriptor_eq_ok.mpr
      ((Codec.prefix_take_iff (by rw [VarcharDescriptor.length_image, hwidth])).mpr hf)]
    dsimp only
    rw [toNat_ofNat_small (by omega), toNat_ofNat_small (by omega)]
    exact ⟨rfl, hnext⟩

end Cells

section RoundTrip

variable {columns : List PhysicalColumnSpec} {version : SchemaVer} {layout : TuplePhysicalLayout}
  {metadata : TupleVersionMetadata} {values : List TupleValue} {tuple bytes : List UInt8}

lemma encodeTuple_eq_ok (hb : Built columns version layout) :
    encodeTuple layout metadata values = .ok bytes ↔ Encodable layout metadata values ∧
      bytes = Pattern.fill 0 (tuplePattern layout metadata values) := by
  rcases encodeTuple_outcome metadata values hb with
    ⟨he, hok⟩ | ⟨failure, hr, herr⟩
  · rw [hok, Except.ok.injEq, eq_comm]
    exact (and_iff_right he).symm
  · rw [herr]
    exact iff_of_false (by simp) fun h => hr.not_encodable h.1

lemma encodable_iff (hb : Built columns version layout) : Encodable layout metadata values ↔
    List.Forall₂ PhysicalColumnSpec.Admits columns values ∧
      layout.minimumTupleSize + (payloads values).length ≤ heapPageMaxRawTupleSize ∧
      (metadata.prevPageNo = invalidPageNo ↔ metadata.prevSlot = invalidSlotId) := by
  rw [← hb.specs, List.forall₂_map_left_iff]
  exact ⟨fun h => ⟨h.admitted, h.fits, h.previous⟩, fun ⟨ha, hf, hp⟩ => ⟨ha, hf, hp⟩⟩

/-- Same bytes outside the cells of NULL values of fixed width. -/
def Resembles (layout : TuplePhysicalLayout) (values : List TupleValue)
    (tuple bytes : List UInt8) : Prop :=
  tuple.length = bytes.length ∧ ∀ k, ¬ InNullCell layout values k → tuple[k]? = bytes[k]?

lemma resembles_iff (hb : Built columns version layout) (he : Encodable layout metadata values) :
    Resembles layout values tuple (Pattern.fill 0 (tuplePattern layout metadata values)) ↔
      tuple.length = (tuplePattern layout metadata values).length ∧
        Pattern.Fits (tuplePattern layout metadata values) tuple := by
  rw [Resembles, Pattern.length_fill]
  refine and_congr_right fun hlen => ?_
  rw [Pattern.fits_iff_agrees (z := 0) hlen]
  simp only [ne_eq, tuplePattern_getElem? hb he.admitted]

theorem encodeTuple_round_trip (metadata : TupleVersionMetadata) (values : List TupleValue)
    (hbuild : buildTuplePhysicalLayout columns version = .ok layout) :
    ((∃ bytes, encodeTuple layout metadata values = .ok bytes) ↔
      List.Forall₂ PhysicalColumnSpec.Admits columns values ∧
        layout.minimumTupleSize + (payloads values).length ≤ heapPageMaxRawTupleSize ∧
        (metadata.prevPageNo = invalidPageNo ↔ metadata.prevSlot = invalidSlotId)) ∧
    (∀ exit, encodeTuple layout metadata values = .error exit →
      ∃ failure, exit = .error failure ∧ EncodeRejects layout metadata values failure) ∧
    ∀ bytes, encodeTuple layout metadata values = .ok bytes →
      validateTuple layout bytes = .ok ⟨metadata.xmin, metadata.xmax, metadata.cmin, metadata.cmax,
        metadata.prevPageNo, metadata.prevSlot,
        (if TupleValue.null ∈ values then tupleFlagHasNulls else 0) |||
          (if layout.hasVarlenColumns then tupleFlagHasVarlen else 0),
        UInt16.ofNat tupleHeaderEncodedSize, layout.nullBitmapBytes, version, 0⟩ ∧
      ∀ (i : ℕ) (hi : i < values.length), decodeTupleValue layout bytes i = .ok values[i] := by
  have hb := buildTuplePhysicalLayout_built hbuild
  refine ⟨?_, ?_, ?_⟩
  · simp only [encodeTuple_eq_ok hb, encodable_iff hb, exists_and_left, exists_eq, and_true]
  · intro exit hexit
    rcases encodeTuple_outcome metadata values hb with
      ⟨-, hok⟩ | ⟨failure, hr, herr⟩
    · rw [hok] at hexit
      cases hexit
    · rw [herr] at hexit
      exact ⟨failure, (Except.error.inj hexit).symm, hr⟩
  · intro bytes hbytes
    obtain ⟨he, rfl⟩ := (encodeTuple_eq_ok hb).mp hbytes
    have hnull : values.any isNullValue = decide (TupleValue.null ∈ values) := by
      rw [Bool.eq_iff_iff, List.any_eq_true, decide_eq_true_iff]
      simp only [isNullValue_iff, exists_eq_right]
    constructor
    · refine (validateTuple_eq_ok hb).mpr
        ⟨metadata, values, he, Pattern.length_fill, Pattern.fits_fill, ?_⟩
      rw [tupleHeader, newTupleHeader, hnull, hb.version]
      simp only [decide_eq_true_eq]
    · intro i hi
      exact decodeTupleValue_of_fits hb he Pattern.length_fill Pattern.fits_fill
        (List.getElem?_eq_getElem hi)

end RoundTrip

section Sample

def sampleColumns : List PhysicalColumnSpec :=
  [⟨.int32, false⟩, ⟨.int64, true⟩, ⟨.varchar, true⟩, ⟨.varchar, true⟩, ⟨.float64, false⟩]

def sampleTupleLayout : TuplePhysicalLayout :=
  ⟨⟨7⟩, [⟨.int32, false, 49, 4, 0⟩, ⟨.int64, true, 53, 8, 1⟩, ⟨.varchar, true, 61, 8, 2⟩,
    ⟨.varchar, true, 69, 8, 3⟩, ⟨.float64, false, 77, 8, 4⟩], 1, 49, 36, 85, 2, true⟩

def sampleValues : List TupleValue :=
  [.int32 (-2), .null, .varchar [], .varchar [0xC3, 0xA9], .float64 0x7FF8000000000001]

lemma sampleTupleLayout_build :
    buildTuplePhysicalLayout sampleColumns ⟨7⟩ = .ok sampleTupleLayout := rfl

theorem sampleValues_encode :
    (∃ bytes, encodeTuple sampleTupleLayout {} sampleValues = .ok bytes) ∧
    ∀ bytes, encodeTuple sampleTupleLayout {} sampleValues = .ok bytes →
      decodeTupleValue sampleTupleLayout bytes 2 = .ok (.varchar []) := by
  obtain ⟨hok, -, hdecode⟩ := encodeTuple_round_trip {} sampleValues sampleTupleLayout_build
  refine ⟨hok.mpr ⟨?_, by decide, by decide⟩, fun bytes hbytes => (hdecode bytes hbytes).2 2 (by decide)⟩
  exact .cons (by decide) (.cons (by decide) (.cons (by decide) (.cons (by decide)
    (.cons (by decide) .nil))))

end Sample

section Grammar

variable {columns : List PhysicalColumnSpec} {version : SchemaVer} {layout : TuplePhysicalLayout}
  {tuple : List UInt8}

theorem validateTuple_accepts (hbuild : buildTuplePhysicalLayout columns version = .ok layout) :
    ((∃ header, validateTuple layout tuple = .ok header) ↔ ∃ metadata values bytes,
      encodeTuple layout metadata values = .ok bytes ∧ Resembles layout values tuple bytes) ∧
    (∀ metadata values bytes, encodeTuple layout metadata values = .ok bytes →
      Resembles layout values tuple bytes →
        (∀ (i : ℕ) (hi : i < values.length), decodeTupleValue layout tuple i = .ok values[i]) ∧
        values.length = columns.length ∧
        Tiles layout.varlenPayloadOffset (varcharSpans layout tuple 0 layout.columns)
          tuple.length) ∧
    Safe (validateTuple layout tuple) ∧ ∀ index, Safe (decodeTupleValue layout tuple index) := by
  have hb := buildTuplePhysicalLayout_built hbuild
  refine ⟨?_, ?_, validateTuple_safe hb, fun _ => decodeTupleValue_safe hb⟩
  · simp only [validateTuple_eq_ok hb, encodeTuple_eq_ok hb]
    constructor
    · rintro ⟨-, metadata, values, he, hlen, hf, -⟩
      exact ⟨metadata, values, _, ⟨he, rfl⟩, (resembles_iff hb he).mpr ⟨hlen, hf⟩⟩
    · rintro ⟨metadata, values, -, ⟨he, rfl⟩, hr⟩
      obtain ⟨hlen, hf⟩ := (resembles_iff hb he).mp hr
      exact ⟨_, metadata, values, he, hlen, hf, rfl⟩
  · intro metadata values bytes hbytes hr
    obtain ⟨he, rfl⟩ := (encodeTuple_eq_ok hb).mp hbytes
    obtain ⟨hlen, hf⟩ := (resembles_iff hb he).mp hr
    have hmax : tuple.length ≤ heapPageMaxRawTupleSize := by
      rw [hlen, length_tuplePattern hb he.admitted]
      exact he.fits
    obtain ⟨hmin, hh⟩ := holds_of_fits hb he hlen hf
    refine ⟨fun i hi => ?_, ?_, tiles_of_holds hb hmin hmax (List.nil_append _).symm hb.laid hh⟩
    · exact decodeTupleValue_of_fits hb he hlen hf (List.getElem?_eq_getElem hi)
    · rw [← he.admitted.length_eq, ← hb.specs, List.length_map]

/-- The cell of the NULL column holds other bytes than `encodeTuple` writes. -/
theorem sampleTuple_accepted : ∃ metadata values bytes,
    encodeTuple sampleTupleLayout metadata values = .ok bytes ∧
      Resembles sampleTupleLayout values
        (Pattern.fill 0x5A (tuplePattern sampleTupleLayout {} sampleValues)) bytes :=
  (validateTuple_accepts sampleTupleLayout_build).1.mp ⟨_, rfl⟩

end Grammar

end DBlusBlus
