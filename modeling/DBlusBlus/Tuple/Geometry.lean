import DBlusBlus.Tuple.Encode

/-! Which column lists have a layout, where a layout puts each column, and which sizes it plans. -/

namespace DBlusBlus

open Span

section Bits

variable {bitmap : List UInt8} {n i : ℕ} {bytes : UInt16}

def Overwrites (bitmap bitmap' : List UInt8) (n i : ℕ) (isNullNow : Bool) : Prop :=
  bitmap'.length = bitmap.length ∧
    ∀ j < n, isNull bitmap' n j = if j = i then .ok isNullNow else isNull bitmap n j

lemma overwrites_of_bit {bitmap' : List UInt8} {b : Bool} (hn : nullBitmapBytes n = some bytes)
    (hb : bytes.toNat ≤ bitmap.length) (hl : bitmap'.length = bitmap.length)
    (h : ∀ j, Bitmap.bit bitmap' j = if j = i then b else Bitmap.bit bitmap j) :
    Overwrites bitmap bitmap' n i b := by
  refine ⟨hl, fun j hj => ?_⟩
  rw [isNull_eq hn (hl ▸ hb) hj, isNull_eq hn hb hj, h]
  exact apply_ite Except.ok ..

lemma setNull_overwrites (hn : nullBitmapBytes n = some bytes) (hb : bytes.toNat ≤ bitmap.length)
    (hi : i < n) :
    ∃ bitmap', setNull bitmap n i = .ok bitmap' ∧ Overwrites bitmap bitmap' n i true := by
  have hk := byte_of_bitmap hn hb hi
  have hbyte : bitmap[i / 8]? = some bitmap[i / 8] := List.getElem?_eq_getElem hk
  refine ⟨_, ?_, overwrites_of_bit hn hb List.length_set (Bitmap.bit_set hbyte)⟩
  rw [setNull, validateBitmapAccess_eq hn hb hi]
  refine Span.get_bind.mpr ⟨_, hbyte, ?_⟩
  rw [nullBitMask_eq]
  rfl

lemma clearNull_overwrites (hn : nullBitmapBytes n = some bytes) (hb : bytes.toNat ≤ bitmap.length)
    (hi : i < n) :
    ∃ bitmap', clearNull bitmap n i = .ok bitmap' ∧ Overwrites bitmap bitmap' n i false := by
  have hk := byte_of_bitmap hn hb hi
  have hbyte : bitmap[i / 8]? = some bitmap[i / 8] := List.getElem?_eq_getElem hk
  refine ⟨_, ?_, overwrites_of_bit hn hb List.length_set (Bitmap.bit_clear hbyte)⟩
  rw [clearNull, validateBitmapAccess_eq hn hb hi]
  refine Span.get_bind.mpr ⟨_, hbyte, ?_⟩
  rw [nullBitMask_eq]
  rfl

end Bits

section Build

variable {layout layout' : TuplePhysicalLayout} {index : ℕ} {column : PhysicalColumnSpec}
  {columns : List PhysicalColumnSpec} {schemaVersion : SchemaVer}

def Typed (columns : List PhysicalColumnSpec) : Prop :=
  ∀ column ∈ columns, physicalTypeWidth column.type ≠ none

def columnWidth (column : PhysicalColumnSpec) : ℕ := (physicalTypeWidth column.type).getD 0

def columnWidths (columns : List PhysicalColumnSpec) : ℕ := (columns.map columnWidth).sum

lemma width_le {width : ℕ} (h : physicalTypeWidth column.type = some width) : width ≤ 8 := by
  cases ht : column.type <;> rw [ht] at h <;> cases h <;> decide

lemma totalWidth_eq {offset : ℕ} {laid : List PhysicalColumnLayout} (h : Laid offset laid) :
    totalWidth laid = columnWidths (laid.map PhysicalColumnLayout.spec) := by
  induction laid generalizing offset with
  | nil => rfl
  | cons column laid ih =>
    obtain ⟨hw, -, hl⟩ := h
    rw [totalWidth, List.map_cons, List.sum_cons, ← totalWidth, ih hl, columnWidths, columnWidths,
      List.map_cons, List.map_cons, List.sum_cons]
    refine congrArg (· + _) ?_
    rw [columnWidth, show column.spec.type = column.type from rfl, hw, Option.getD_some]

lemma typed_of_laid {offset : ℕ} {laid : List PhysicalColumnLayout} (h : Laid offset laid) :
    Typed (laid.map PhysicalColumnLayout.spec) := by
  induction laid generalizing offset with
  | nil => exact fun _ hc => absurd hc List.not_mem_nil
  | cons column laid ih =>
    obtain ⟨hw, -, hl⟩ := h
    rintro _ hc
    rcases List.mem_cons.mp hc with rfl | hc
    · rw [show column.spec.type = column.type from rfl, hw]
      exact Option.some_ne_none _
    · exact ih hl _ hc

lemma addColumn_none (h : physicalTypeWidth column.type = none) :
    layout.addColumn index column = .error ⟨.invalidPhysicalType, index⟩ := by
  rw [TuplePhysicalLayout.addColumn, h]
  rfl

lemma addColumn_some {width : ℕ} (h : physicalTypeWidth column.type = some width) (index : ℕ)
    (hroom : layout.fixedAreaOffset + layout.fixedAreaSize + 8 < 2 ^ 64) :
    ∃ next, layout.addColumn index column = .ok next ∧
      next.fixedAreaOffset = layout.fixedAreaOffset ∧
      next.fixedAreaSize ≤ layout.fixedAreaSize + 8 ∧
      next.columns.map (·.nullBitIndex) = layout.columns.map (·.nullBitIndex) ++ [index] := by
  have hw := width_le h
  have hoffset : checkedAdd layout.fixedAreaOffset layout.fixedAreaSize =
      some (layout.fixedAreaOffset + layout.fixedAreaSize) :=
    (checkedAdd_eq_some (by omega)).mpr ⟨rfl, by omega⟩
  have hsize : checkedAdd layout.fixedAreaSize width = some (layout.fixedAreaSize + width) :=
    (checkedAdd_eq_some (by omega)).mpr ⟨rfl, by omega⟩
  rw [TuplePhysicalLayout.addColumn, h, Check.present, Check.ok_bind, hoffset, Check.present,
    Check.ok_bind, hsize, Check.present, Check.ok_bind]
  exact ⟨_, rfl, rfl, Nat.add_le_add_left hw _, List.map_append⟩

lemma addColumns_outcome (layout : TuplePhysicalLayout) (index : ℕ)
    (columns : List PhysicalColumnSpec)
    (hroom : layout.fixedAreaOffset + layout.fixedAreaSize + 8 * columns.length < 2 ^ 64) :
    (∃ i column, columns[i]? = some column ∧ physicalTypeWidth column.type = none ∧
      layout.addColumns index columns = .error ⟨.invalidPhysicalType, index + i⟩) ∨
    ∃ layout', layout.addColumns index columns = .ok layout' ∧
      layout'.fixedAreaOffset = layout.fixedAreaOffset ∧
      layout'.fixedAreaSize ≤ layout.fixedAreaSize + 8 * columns.length ∧
      layout'.columns.map (·.nullBitIndex) =
        layout.columns.map (·.nullBitIndex) ++ List.range' index columns.length := by
  induction columns generalizing layout index with
  | nil => exact .inr ⟨layout, rfl, rfl, le_rfl, (List.append_nil _).symm⟩
  | cons column columns ih =>
    rw [List.length_cons] at hroom
    cases hw : physicalTypeWidth column.type with
    | none =>
      refine .inl ⟨0, column, rfl, hw, ?_⟩
      rw [TuplePhysicalLayout.addColumns, addColumn_none hw]
      rfl
    | some width =>
      have hroom' : layout.fixedAreaOffset + layout.fixedAreaSize + 8 < 2 ^ 64 := by omega
      obtain ⟨next, hnext, hoffset, hsize, hbits⟩ := addColumn_some hw index hroom'
      rw [TuplePhysicalLayout.addColumns, hnext, Check.ok_bind]
      rcases ih next (index + 1) (by omega) with
        ⟨i, c, hi, hc, herr⟩ | ⟨layout', hok, hoffset', hsize', hbits'⟩
      · refine .inl ⟨i + 1, c, hi, hc, herr.trans ?_⟩
        rw [Nat.add_assoc, Nat.add_comm 1]
      · refine .inr ⟨layout', hok, hoffset'.trans hoffset, ?_, ?_⟩
        · rw [List.length_cons]
          omega
        · rw [hbits', hbits, List.append_assoc, List.length_cons, List.range'_succ]
          rfl

lemma nullBitmapBytes_eq_none {n : ℕ} : nullBitmapBytes n = none ↔ 65535 < (n + 7) / 8 := by
  have hn : (n / 8 + if n % 8 ≠ 0 then 1 else 0) = (n + 7) / 8 := by
    split <;> omega
  rw [nullBitmapBytes, hn]
  split_ifs with h
  · exact iff_of_true rfl h
  · exact iff_of_false id h

/-- How `buildTuplePhysicalLayout` ends. -/
inductive BuildOutcome (columns : List PhysicalColumnSpec) (schemaVersion : SchemaVer) :
    Except TuplePhysicalLayoutBuildFailure TuplePhysicalLayout → Prop
  | bitmapTooLarge (h : 65535 < (columns.length + 7) / 8) :
    BuildOutcome columns schemaVersion (.error ⟨.nullBitmapTooLarge, 0⟩)
  | invalidType {i : ℕ} {column : PhysicalColumnSpec} (hb : (columns.length + 7) / 8 ≤ 65535)
    (hi : columns[i]? = some column) (ht : physicalTypeWidth column.type = none) :
    BuildOutcome columns schemaVersion (.error ⟨.invalidPhysicalType, i⟩)
  | tooLarge (hb : (columns.length + 7) / 8 ≤ 65535)
    (h : 8135 < 48 + (columns.length + 7) / 8 + columnWidths columns) :
    BuildOutcome columns schemaVersion (.error ⟨.tupleTooLarge, 0⟩)
  | built {layout : TuplePhysicalLayout} (hb : (columns.length + 7) / 8 ≤ 65535)
    (hl : Built columns schemaVersion layout)
    (hbits : layout.columns.map (·.nullBitIndex) = List.range columns.length) :
    BuildOutcome columns schemaVersion (.ok layout)

theorem build_outcome (columns : List PhysicalColumnSpec) (schemaVersion : SchemaVer) :
    BuildOutcome columns schemaVersion (buildTuplePhysicalLayout columns schemaVersion) := by
  cases hbytes : nullBitmapBytes columns.length with
  | none =>
    rw [buildTuplePhysicalLayout, hbytes]
    exact .bitmapTooLarge (nullBitmapBytes_eq_none.mp hbytes)
  | some bytes =>
    have hb : ¬ 65535 < (columns.length + 7) / 8 := by
      rw [← nullBitmapBytes_eq_none, hbytes]
      exact Option.some_ne_none _
    have heq := nullBitmapBytes_eq_some hbytes
    have hoffset : checkedAdd tupleHeaderEncodedSize bytes.toNat = some (48 + bytes.toNat) :=
      (checkedAdd_eq_some (by decide)).mpr ⟨rfl, by omega⟩
    have hsplit : buildTuplePhysicalLayout columns schemaVersion =
        TuplePhysicalLayout.addColumns ⟨schemaVersion, [], bytes, 48 + bytes.toNat, 0,
          tupleHeaderEncodedSize, 0, false⟩ 0 columns >>= fun layout => do
        let varlenPayloadOffset ← Check.present
          (checkedAdd layout.fixedAreaOffset layout.fixedAreaSize) ⟨.sizeOverflow, 0⟩
        Check.require (varlenPayloadOffset ≤ heapPageMaxRawTupleSize) ⟨.tupleTooLarge, 0⟩
        return { layout with varlenPayloadOffset := varlenPayloadOffset } := by
      rw [buildTuplePhysicalLayout, hbytes, Check.present, Check.ok_bind, hoffset, Check.present,
        Check.ok_bind]
    rcases addColumns_outcome ⟨schemaVersion, [], bytes, 48 + bytes.toNat, 0,
      tupleHeaderEncodedSize, 0, false⟩ 0 columns (by dsimp only; omega) with
      ⟨i, column, hi, ht, herr⟩ | ⟨filled, hok, hoffset', hsize, hbits⟩
    · rw [hsplit, herr, Nat.zero_add]
      exact .invalidType (Nat.le_of_not_lt hb) hi ht
    · obtain ⟨added, hc, hspec, hl, hwidth, -⟩ := addColumns_eq_ok hok
        (by dsimp only; omega) (Nat.two_pow_pos 64)
      dsimp only at hoffset' hsize hbits hc hl hwidth
      have hpayload : checkedAdd filled.fixedAreaOffset filled.fixedAreaSize =
          some (filled.fixedAreaOffset + filled.fixedAreaSize) :=
        (checkedAdd_eq_some (by omega)).mpr ⟨rfl, by omega⟩
      rw [hok, Check.ok_bind, hpayload, Check.present, Check.ok_bind] at hsplit
      by_cases hmax : filled.fixedAreaOffset + filled.fixedAreaSize ≤ heapPageMaxRawTupleSize
      · rw [Check.require_pos hmax, Check.ok_bind] at hsplit
        have hbuilt := buildTuplePhysicalLayout_built hsplit
        rw [hsplit]
        refine .built (Nat.le_of_not_lt hb) hbuilt (hbits.trans ?_)
        rw [List.range_eq_range']
        rfl
      · rw [Check.require_neg hmax, Check.error_bind] at hsplit
        rw [hsplit]
        refine .tooLarge (Nat.le_of_not_lt hb) ?_
        have hmax : ¬ filled.fixedAreaOffset + filled.fixedAreaSize ≤ 8135 := hmax
        rw [← hspec, ← totalWidth_eq hl, hspec, ← heq]
        omega

/-- Where a layout puts its columns and their null bits. -/
structure Geometry (columns : List PhysicalColumnSpec) (layout : TuplePhysicalLayout) : Prop where
  specs : layout.columns.map PhysicalColumnLayout.spec = columns
  bitmap : layout.nullBitmapBytes.toNat = (columns.length + 7) / 8
  laid : Laid (48 + layout.nullBitmapBytes.toNat) layout.columns
  payload : 48 + layout.nullBitmapBytes.toNat + totalWidth layout.columns =
    layout.varlenPayloadOffset
  minimum : layout.minimumTupleSize = layout.varlenPayloadOffset
  varlen : layout.varlenColumnCount = varcharCount columns
  nullBits : layout.columns.map (·.nullBitIndex) = List.range columns.length
  setNull : ∀ bitmap : List UInt8, layout.nullBitmapBytes.toNat ≤ bitmap.length →
    ∀ i < columns.length, ∃ bitmap', setNull bitmap columns.length i = .ok bitmap' ∧
      Overwrites bitmap bitmap' columns.length i true
  clearNull : ∀ bitmap : List UInt8, layout.nullBitmapBytes.toNat ≤ bitmap.length →
    ∀ i < columns.length, ∃ bitmap', clearNull bitmap columns.length i = .ok bitmap' ∧
      Overwrites bitmap bitmap' columns.length i false

lemma Built.geometry (h : Built columns schemaVersion layout)
    (hbits : layout.columns.map (·.nullBitIndex) = List.range columns.length) :
    Geometry columns layout where
  specs := h.specs
  bitmap := nullBitmapBytes_eq_some h.bitmap
  laid := h.area ▸ h.laid
  payload := by rw [h.payload, h.size, h.area]
  minimum := rfl
  varlen := h.varlen
  nullBits := hbits
  setNull _ hb _ hi := setNull_overwrites h.bitmap hb hi
  clearNull _ hb _ hi := clearNull_overwrites h.bitmap hb hi

lemma length_le_presentTotal {sizes : List VarlenValueSize} {j : ℕ} {size : VarlenValueSize}
    (hj : sizes[j]? = some size) (hn : size.isNull = false) : size.length ≤ presentTotal sizes := by
  have hmem : presentLength size ∈ sizes.map presentLength :=
    List.mem_map_of_mem (List.mem_of_getElem? hj)
  have hlength : presentLength size = size.length := if_neg (by rw [hn]; exact Bool.noConfusion)
  rw [← hlength]
  exact List.le_sum_of_mem hmem

lemma Built.plans (h : Built columns schemaVersion layout) {sizes : List VarlenValueSize}
    (hcount : sizes.length = layout.varlenColumnCount) :
    ((∃ plan, layout.planTupleSize sizes = .ok plan) ↔
      layout.minimumTupleSize + presentTotal sizes ≤ 8135) ∧
    ∀ plan, layout.planTupleSize sizes = .ok plan → plan.varlenPayloadSize = presentTotal sizes ∧
      plan.totalSize = layout.minimumTupleSize + presentTotal sizes := by
  have hplan := planTupleSize_plan h hcount
  generalize layout.planTupleSize sizes = result at hplan ⊢
  cases hplan with
  | lengthTooLarge hj hn hl =>
    have hle := length_le_presentTotal hj hn
    exact ⟨iff_of_false nofun (by omega), nofun⟩
  | tooLarge hlt =>
    exact ⟨iff_of_false nofun (Nat.not_le.mpr hlt), nofun⟩
  | planned hle =>
    refine ⟨iff_of_true ⟨_, rfl⟩ hle, fun plan hp => ?_⟩
    obtain rfl := Except.ok.inj hp
    exact ⟨rfl, rfl⟩

/-- The layout of a list of columns: whether there is one, and its geometry. -/
theorem tupleLayout_geometry (columns : List PhysicalColumnSpec) (schemaVersion : SchemaVer) :
    ((∃ layout, buildTuplePhysicalLayout columns schemaVersion = .ok layout) ↔
      Typed columns ∧ 48 + (columns.length + 7) / 8 + columnWidths columns ≤ 8135) ∧
    ((∃ i, buildTuplePhysicalLayout columns schemaVersion = .error ⟨.nullBitmapTooLarge, i⟩) ↔
      65535 < (columns.length + 7) / 8) ∧
    (∀ i, buildTuplePhysicalLayout columns schemaVersion ≠ .error ⟨.sizeOverflow, i⟩) ∧
    ∀ layout, buildTuplePhysicalLayout columns schemaVersion = .ok layout →
      Geometry columns layout ∧
      ∀ sizes : List VarlenValueSize, sizes.length = layout.varlenColumnCount →
        ((∃ plan, layout.planTupleSize sizes = .ok plan) ↔
          layout.minimumTupleSize + presentTotal sizes ≤ 8135) ∧
        ∀ plan, layout.planTupleSize sizes = .ok plan →
          plan.varlenPayloadSize = presentTotal sizes ∧
          plan.totalSize = layout.minimumTupleSize + presentTotal sizes := by
  have houtcome := build_outcome columns schemaVersion
  generalize buildTuplePhysicalLayout columns schemaVersion = result at houtcome ⊢
  cases houtcome with
  | bitmapTooLarge h =>
    refine ⟨iff_of_false nofun fun ⟨_, hle⟩ => ?_, iff_of_true ⟨0, rfl⟩ h, nofun, nofun⟩
    omega
  | @invalidType i column hb hi ht =>
    refine ⟨iff_of_false nofun fun ⟨htyped, _⟩ => ?_,
      iff_of_false nofun (Nat.not_lt.mpr hb), nofun, nofun⟩
    exact htyped column (List.mem_of_getElem? hi) ht
  | tooLarge hb h =>
    exact ⟨iff_of_false nofun fun ⟨_, hle⟩ => Nat.not_lt.mpr hle h,
      iff_of_false nofun (Nat.not_lt.mpr hb), nofun, nofun⟩
  | @built layout hb hl hbits =>
    have hgeometry := hl.geometry hbits
    refine ⟨iff_of_true ⟨layout, rfl⟩ ⟨?_, ?_⟩,
      iff_of_false nofun (Nat.not_lt.mpr hb), nofun, fun _ he => ?_⟩
    · rw [← hl.specs]
      exact typed_of_laid hl.laid
    · have hbound : layout.varlenPayloadOffset ≤ 8135 := hl.bound
      rw [← hgeometry.payload, totalWidth_eq hl.laid, hl.specs, hgeometry.bitmap] at hbound
      exact hbound
    · obtain rfl := Except.ok.inj he
      exact ⟨hgeometry, fun sizes hcount => hl.plans hcount⟩

end Build

end DBlusBlus
