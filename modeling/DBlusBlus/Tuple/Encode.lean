import Mathlib.Algebra.Order.BigOperators.Group.List
import Mathlib.Algebra.Order.Group.Nat
import DBlusBlus.Tuple.Image

/-! `encodeTuple` writes the pattern of its values, with zeros in the open cells. -/

namespace DBlusBlus

open Span

section Write

variable {layout : TuplePhysicalLayout} {header done paid : List UInt8} {nulls : ℕ → Bool}
  {index left room : ℕ} {column : PhysicalColumnLayout} {value : TupleValue}

/-- The buffer of `encodeTuple` while the values go in. -/
def draft (header : List UInt8) (bitmapSize : ℕ) (nulls : ℕ → Bool) (done : List UInt8) (left : ℕ)
    (paid : List UInt8) (room : ℕ) : List UInt8 :=
  header ++ (Bitmap.ofBits bitmapSize nulls ++
    ((done ++ List.replicate left 0) ++ (paid ++ List.replicate room 0)))

section Parts

variable {ε : Type} {bitmapSize offset width : ℕ} {nulls' : ℕ → Bool} {bytes : List UInt8}

lemma draft_split (nulls : ℕ → Bool) (width left room : ℕ) (paid : List UInt8)
    (hh : header.length = tupleHeaderEncodedSize)
    (ho : offset = tupleHeaderEncodedSize + bitmapSize + done.length) :
    (header ++ (Bitmap.ofBits bitmapSize nulls ++ done)).length = offset ∧
    draft header bitmapSize nulls done (width + left) paid room =
      (header ++ (Bitmap.ofBits bitmapSize nulls ++ done)) ++ (List.replicate width 0 ++
        (List.replicate left 0 ++ (paid ++ List.replicate room 0))) := by
  constructor
  · simp only [List.length_append, Bitmap.length_ofBits, hh, ho]
    omega
  · simp only [draft, List.append_assoc, List.replicate_add]

lemma read_cell (hh : header.length = tupleHeaderEncodedSize)
    (ho : offset = tupleHeaderEncodedSize + bitmapSize + done.length) :
    (Span.read (draft header bitmapSize nulls done (width + left) paid room) offset width :
      Except (Exit ε) _) = .ok (List.replicate width 0) := by
  obtain ⟨hpre, hsplit⟩ := draft_split nulls width left room paid hh ho
  rw [hsplit, Span.read_eq, List.drop_left' hpre, List.take_left' List.length_replicate]
  rw [List.length_append, hpre, List.length_append, List.length_replicate]
  omega

lemma write_cell (hh : header.length = tupleHeaderEncodedSize)
    (ho : offset = tupleHeaderEncodedSize + bitmapSize + done.length) (hb : bytes.length = width) :
    (Span.write (draft header bitmapSize nulls done (width + left) paid room) offset bytes :
      Except (Exit ε) _) = .ok (draft header bitmapSize nulls (done ++ bytes) left paid room) := by
  obtain ⟨hpre, hsplit⟩ := draft_split nulls width left room paid hh ho
  rw [hsplit, Span.write_eq, Codec.splice_mid hpre (by simp [hb])]
  · simp only [draft, List.append_assoc]
  · rw [List.length_append, hpre, List.length_append, List.length_replicate, hb]
    omega

lemma draft_skip : draft header bitmapSize nulls done (width + left) paid room =
    draft header bitmapSize nulls (done ++ List.replicate width 0) left paid room := by
  simp only [draft, List.replicate_add, List.append_assoc]

lemma read_bitmap (hh : header.length = tupleHeaderEncodedSize) :
    (Span.read (draft header bitmapSize nulls done left paid room) tupleHeaderEncodedSize
      bitmapSize : Except (Exit ε) _) = .ok (Bitmap.ofBits bitmapSize nulls) := by
  rw [draft, Span.read_eq, List.drop_left' hh, List.take_left' Bitmap.length_ofBits]
  rw [List.length_append, hh, List.length_append, Bitmap.length_ofBits]
  omega

lemma write_bitmap (hh : header.length = tupleHeaderEncodedSize) :
    (Span.write (draft header bitmapSize nulls done left paid room) tupleHeaderEncodedSize
      (Bitmap.ofBits bitmapSize nulls') : Except (Exit ε) _) =
        .ok (draft header bitmapSize nulls' done left paid room) := by
  rw [draft, Span.write_eq, Codec.splice_mid hh (by simp), draft]
  rw [List.length_append, hh, List.length_append, Bitmap.length_ofBits, Bitmap.length_ofBits]
  omega

lemma write_payload {cursor : ℕ} (hh : header.length = tupleHeaderEncodedSize)
    (hc : cursor = tupleHeaderEncodedSize + bitmapSize + (done.length + left) + paid.length) :
    (Span.write (draft header bitmapSize nulls done left paid (bytes.length + room)) cursor bytes :
      Except (Exit ε) _) = .ok (draft header bitmapSize nulls done left (paid ++ bytes) room) := by
  have hsplit : draft header bitmapSize nulls done left paid (bytes.length + room) =
      (header ++ (Bitmap.ofBits bitmapSize nulls ++ (done ++ (List.replicate left 0 ++ paid)))) ++
        (List.replicate bytes.length 0 ++ List.replicate room 0) := by
    simp only [draft, List.append_assoc, List.replicate_add]
  have hpre : (header ++ (Bitmap.ofBits bitmapSize nulls ++
      (done ++ (List.replicate left 0 ++ paid)))).length = cursor := by
    simp only [List.length_append, Bitmap.length_ofBits, List.length_replicate, hh, hc]
    omega
  rw [hsplit, Span.write_eq, Codec.splice_mid hpre (by simp)]
  · simp only [draft, List.append_assoc]
  · rw [List.length_append, hpre, List.length_append, List.length_replicate]
    omega

lemma length_draft (hh : header.length = tupleHeaderEncodedSize) :
    (draft header bitmapSize nulls done left paid room).length =
      tupleHeaderEncodedSize + bitmapSize + (done.length + left) + (paid.length + room) := by
  simp only [draft, List.length_append, Bitmap.length_ofBits, List.length_replicate, hh]
  omega

end Parts

/-- The null bits after the value at `index`. -/
def withNull (nulls : ℕ → Bool) (index : ℕ) (value : TupleValue) : ℕ → Bool :=
  if isNullValue value then fun k => nulls k || decide (k = index) else nulls

lemma writeValue_eq {specs : List PhysicalColumnSpec} {version : SchemaVer} {cursor : ℕ}
    (hb : Built specs version layout) (hcol : layout.columns[index]? = some column)
    (ha : column.spec.Admits value) (hw : physicalTypeWidth column.type = some column.fixedWidth)
    (hh : header.length = tupleHeaderEncodedSize)
    (ho : column.fixedOffset = layout.fixedAreaOffset + done.length)
    (hp : layout.varlenPayloadOffset = layout.fixedAreaOffset + (done.length +
      (column.fixedWidth + left)))
    (hc : cursor = layout.varlenPayloadOffset + paid.length)
    (hmax : cursor + value.payload.length ≤ heapPageMaxRawTupleSize) :
    writeValue layout index value (draft header layout.nullBitmapBytes.toNat nulls done
        (column.fixedWidth + left) paid (value.payload.length + room)) cursor =
      .ok (draft header layout.nullBitmapBytes.toNat (withNull nulls index value)
        (done ++ Pattern.fill 0 (cell column cursor value)) left (paid ++ value.payload) room,
        cursor + value.payload.length) := by
  have hindex : index < layout.columnCount := (List.getElem?_eq_some_iff.mp hcol).1
  have hbits : nullBitmapBytes layout.columnCount = some layout.nullBitmapBytes := by
    rw [TuplePhysicalLayout.columnCount, ← hb.bitmap, ← hb.specs, List.length_map]
  have harea := hb.area
  have hoff : column.fixedOffset = tupleHeaderEncodedSize + layout.nullBitmapBytes.toNat +
      done.length := by omega
  refine Span.get_bind.mpr ⟨column, hcol, ?_⟩
  dsimp only
  by_cases hn : value = .null
  · subst hn
    have hnull : withNull nulls index .null = fun k => nulls k || decide (k = index) := rfl
    rw [if_pos (show isNullValue .null = true from rfl), hnull]
    refine Check.bind_eq_ok.mpr ⟨_, read_bitmap hh, ?_⟩
    refine Check.bind_eq_ok.mpr ⟨_, Span.report_eq_ok.mpr (setNull_ofBits hbits hindex), ?_⟩
    refine Check.bind_eq_ok.mpr ⟨_, write_bitmap hh, ?_⟩
    by_cases hv : column.type = .varchar
    · have hwidth : column.fixedWidth = varcharDescriptorEncodedSize := by
        rw [hv] at hw
        exact (Option.some.inj hw).symm
      rw [if_pos hv]
      refine Check.bind_eq_ok.mpr ⟨_, read_cell hh hoff, ?_⟩
      refine Check.bind_eq_ok.mpr ⟨_, Span.report_eq_ok.mpr
        (encodeVarcharDescriptor_eq _ (by simp [hwidth])), ?_⟩
      refine Check.bind_eq_ok.mpr ⟨_, write_cell hh hoff (by simp [hwidth]), ?_⟩
      simp only [cell, hv, TupleValue.payload, if_true, Pattern.fill_exact, List.length_nil,
        Nat.zero_add, Nat.add_zero, List.append_nil]
      rfl
    · rw [if_neg hv]
      simp only [cell, hv, TupleValue.payload, if_false, Pattern.fill_gap, List.length_nil,
        Nat.zero_add, Nat.add_zero, List.append_nil, draft_skip]
      rfl
  · have hn' : isNullValue value = false := by
      rw [← Bool.not_eq_true, isNullValue_iff]
      exact hn
    have hnull : withNull nulls index value = nulls := by rw [withNull, hn', if_neg (by simp)]
    rw [PhysicalColumnSpec.Admits, if_neg (by rw [hn']; simp)] at ha
    rw [if_neg (by rw [hn']; simp), hnull]
    by_cases hv : column.type = .varchar
    · rw [PhysicalColumnLayout.spec, hv] at ha
      obtain ⟨bytes, rfl⟩ := matches_varchar.mp ha
      have hwidth : column.fixedWidth = varcharDescriptorEncodedSize := by
        rw [hv] at hw
        exact (Option.some.inj hw).symm
      have hsmall : cursor + bytes.length ≤ 8135 := hmax
      rw [if_pos hv]
      dsimp only
      refine Check.require_bind.mpr ⟨by omega, ?_⟩
      refine Check.bind_eq_ok.mpr ⟨_, read_cell hh hoff, ?_⟩
      refine Check.bind_eq_ok.mpr ⟨_, Span.report_eq_ok.mpr
        (encodeVarcharDescriptor_eq _ (by simp [hwidth])), ?_⟩
      refine Check.bind_eq_ok.mpr ⟨_, write_cell hh hoff (by simp [hwidth]), ?_⟩
      refine Check.require_bind.mpr ⟨?_, ?_⟩
      · rw [length_draft hh, TupleValue.payload, List.length_append, VarcharDescriptor.length_image]
        omega
      · refine Check.bind_eq_ok.mpr ⟨_, write_payload hh ?_, ?_⟩
        · rw [List.length_append, VarcharDescriptor.length_image]
          omega
        · rw [cell, Pattern.fill_exact]
          rfl
    · have hlen := length_scalarImage ha hv hw
      obtain ⟨hc, hpay⟩ := cell_scalar cursor ha hv
      rw [if_neg hv]
      refine Check.bind_eq_ok.mpr ⟨_, read_cell hh hoff, ?_⟩
      refine Check.bind_eq_ok.mpr ⟨_, Span.report_eq_ok.mpr
        (encodeFixedScalar_eq ha hv hw List.length_replicate), ?_⟩
      refine Check.bind_eq_ok.mpr ⟨_, write_cell hh hoff hlen, ?_⟩
      simp only [hc, hpay, Pattern.fill_exact, List.append_nil, List.length_nil, Nat.zero_add,
        Nat.add_zero]
      rfl

/-- The null bits after the values from `index` on. -/
def withNulls (nulls : ℕ → Bool) (index : ℕ) (values : List TupleValue) (k : ℕ) : Bool :=
  nulls k || (decide (index ≤ k) && nullBits values (k - index))

lemma withNulls_nil : withNulls nulls index [] = nulls := by
  funext k
  simp [withNulls, nullBits]

lemma withNulls_cons {values : List TupleValue} :
    withNulls (withNull nulls index value) (index + 1) values =
      withNulls nulls index (value :: values) := by
  funext k
  simp only [withNulls, withNull]
  rcases Nat.lt_trichotomy k index with hk | rfl | hk
  · have hle : ¬ index ≤ k := by omega
    have hlt : ¬ index + 1 ≤ k := by omega
    have hne : k ≠ index := by omega
    split <;> simp [hle, hlt, hne]
  · cases h : isNullValue value <;> simp [nullBits, h]
  · obtain ⟨d, rfl⟩ := Nat.exists_eq_add_of_lt hk
    have hd : index + d + 1 - index = d + 1 := by omega
    have hs : index + d + 1 - (index + 1) = d := by omega
    rw [hd, hs]
    split <;> simp [nullBits, Nat.add_assoc]

lemma writeValues_eq {specs : List PhysicalColumnSpec} {version : SchemaVer}
    {columns : List PhysicalColumnLayout} {values : List TupleValue}
    (before : List PhysicalColumnLayout) (nulls : ℕ → Bool) (done paid : List UInt8) (cursor : ℕ)
    (hb : Built specs version layout) (hcols : layout.columns = before ++ columns)
    (ha : List.Forall₂ (fun column value => column.spec.Admits value) columns values)
    (hl : Laid (layout.fixedAreaOffset + done.length) columns)
    (hh : header.length = tupleHeaderEncodedSize)
    (hp : layout.varlenPayloadOffset = layout.fixedAreaOffset + (done.length + totalWidth columns))
    (hc : cursor = layout.varlenPayloadOffset + paid.length)
    (hmax : cursor + (payloads values).length ≤ heapPageMaxRawTupleSize) :
    writeValues layout before.length values (draft header layout.nullBitmapBytes.toNat nulls done
        (totalWidth columns) paid (payloads values).length) cursor =
      .ok (draft header layout.nullBitmapBytes.toNat (withNulls nulls before.length values)
        (done ++ Pattern.fill 0 (cells columns values cursor)) 0 (paid ++ payloads values) 0,
        cursor + (payloads values).length) := by
  induction ha generalizing before done paid nulls cursor with
  | nil =>
    simp only [writeValues, totalWidth, payloads, cells, withNulls_nil, List.map_nil, List.sum_nil,
      List.flatMap_nil, List.length_nil, Pattern.fill, List.append_nil, Nat.add_zero]
  | @cons column value columns values hv ha ih =>
    obtain ⟨hw, ho, hl⟩ := hl
    have hlen := length_cell cursor hv hw
    have htotal : totalWidth (column :: columns) = column.fixedWidth + totalWidth columns := rfl
    rw [htotal] at hp
    rw [payloads_cons, List.length_append] at hmax ⊢
    rw [htotal]
    refine Check.bind_eq_ok.mpr ⟨_, writeValue_eq hb ?_ hv hw hh ho hp hc (by omega), ?_⟩
    · rw [hcols, List.getElem?_append_right (Nat.le_refl _), Nat.sub_self]
      rfl
    have hnext := ih (before ++ [column]) (withNull nulls before.length value)
      (done ++ Pattern.fill 0 (cell column cursor value)) (paid ++ value.payload)
      (cursor + value.payload.length) (by rw [hcols, List.append_assoc]; rfl)
      (by rwa [List.length_append, Pattern.length_fill, hlen, ← Nat.add_assoc])
      (by rw [List.length_append, Pattern.length_fill, hlen]; omega)
      (by rw [List.length_append]; omega) (by omega)
    rw [List.length_append, List.length_singleton, withNulls_cons] at hnext
    dsimp only
    rw [hnext, cells, Pattern.fill_append, List.append_assoc, List.append_assoc, Nat.add_assoc]

end Write

section Plan

variable {layout : TuplePhysicalLayout} {specs : List PhysicalColumnSpec} {version : SchemaVer}
  {columns before : List PhysicalColumnLayout} {values : List TupleValue}

def varlenSizes : List PhysicalColumnLayout → List TupleValue → List VarlenValueSize
  | column :: columns, value :: values =>
    if column.type = .varchar then
      ⟨value.payload.length, isNullValue value⟩ :: varlenSizes columns values
    else varlenSizes columns values
  | _, _ => []

section Round

variable {index : ℕ} {column : PhysicalColumnLayout} {value : TupleValue} {plan : ValuePlan}

def ValuePlan.add (plan : ValuePlan) (column : PhysicalColumnLayout) (value : TupleValue) :
    ValuePlan :=
  ⟨plan.hasNulls || isNullValue value, if column.type = .varchar then
    plan.varlenSizes ++ [⟨value.payload.length, isNullValue value⟩] else plan.varlenSizes⟩

lemma planValue_admitted (hcol : layout.columns[index]? = some column)
    (ha : column.spec.Admits value) : planValue layout index value plan = .ok (plan.add column value) := by
  refine Check.present_bind.mpr ⟨column, hcol, ?_⟩
  by_cases hn : value = .null
  · subst hn
    refine Check.require_bind.mpr ⟨ha, ?_⟩
    simp [ValuePlan.add, isNullValue, TupleValue.payload, pure, Except.pure]
  · have hn' : isNullValue value = false := by
      rw [← Bool.not_eq_true, isNullValue_iff]
      exact hn
    rw [PhysicalColumnSpec.Admits, if_neg (by rw [hn']; simp)] at ha
    rw [if_neg (by rw [hn']; simp)]
    refine Check.require_bind.mpr ⟨ha, ?_⟩
    by_cases hv : column.type = .varchar
    · rw [PhysicalColumnLayout.spec, hv] at ha
      obtain ⟨bytes, rfl⟩ := matches_varchar.mp ha
      simp [ValuePlan.add, isNullValue, TupleValue.payload, hv, pure, Except.pure]
    · simp [ValuePlan.add, hn', hv, pure, Except.pure]

/-- The value at `i` that its column does not admit, and what the encoder says of it. -/
inductive RejectedAt (columns : List PhysicalColumnLayout) (values : List TupleValue) (i : ℕ) :
    TupleCodecError → Prop
  | null {column : PhysicalColumnLayout} (hc : columns[i]? = some column)
    (hv : values[i]? = some .null) (hn : column.nullable = false) :
    RejectedAt columns values i .nullNotAllowed
  | mismatch {column : PhysicalColumnLayout} {value : TupleValue} (hc : columns[i]? = some column)
    (hv : values[i]? = some value) (hn : value ≠ .null)
    (hm : valueMatchesType column.type value = false) : RejectedAt columns values i .typeMismatch

lemma planValue_rejected (columns : List PhysicalColumnLayout) (values : List TupleValue)
    (plan : ValuePlan) (hcol : layout.columns[index]? = some column)
    (ha : ¬ column.spec.Admits value) : ∃ code,
      RejectedAt (column :: columns) (value :: values) 0 code ∧
      planValue layout index value plan = .error (.error ⟨code, index, .none⟩) := by
  unfold planValue
  rw [hcol]
  by_cases hn : value = .null
  · subst hn
    have hnull : column.nullable = false := Bool.not_eq_true _ ▸ ha
    refine ⟨_, .null rfl rfl hnull, ?_⟩
    simp [isNullValue, Check.present, Check.require, hnull, bind, Except.bind]
  · have hn' : isNullValue value = false := by
      rw [← Bool.not_eq_true, isNullValue_iff]
      exact hn
    rw [PhysicalColumnSpec.Admits, if_neg (by rw [hn']; simp), Bool.not_eq_true] at ha
    have hm : valueMatchesType column.type value = false := ha
    refine ⟨_, .mismatch rfl rfl hn hm, ?_⟩
    simp [hn', Check.present, Check.require, hm, bind, Except.bind]

end Round

lemma planValues_outcome (before : List PhysicalColumnLayout) (plan : ValuePlan)
    (hcols : layout.columns = before ++ columns)
    (hlen : values.length = columns.length) :
    (List.Forall₂ (fun column value => column.spec.Admits value) columns values ∧
      planValues layout before.length values plan = .ok ⟨plan.hasNulls || values.any isNullValue,
        plan.varlenSizes ++ varlenSizes columns values⟩) ∨
    ∃ i code, RejectedAt columns values i code ∧
      planValues layout before.length values plan =
        .error (.error ⟨code, before.length + i, .none⟩) := by
  induction columns generalizing before values plan with
  | nil =>
    obtain rfl := List.length_eq_zero_iff.mp hlen
    exact .inl ⟨.nil, by simp [planValues, varlenSizes]⟩
  | cons column columns ih =>
    obtain ⟨value, values, rfl⟩ := List.exists_cons_of_length_eq_add_one hlen
    have hcol : layout.columns[before.length]? = some column := by
      rw [hcols, List.getElem?_append_right (Nat.le_refl _), Nat.sub_self]
      rfl
    have hround {x : Except (Exit TupleCodecFailure) ValuePlan}
        (h : planValue layout before.length value plan = x) :
        planValues layout before.length (value :: values) plan =
          x >>= planValues layout (before.length + 1) values := by
      rw [← h]
      rfl
    by_cases ha : column.spec.Admits value
    · rw [hround (planValue_admitted hcol ha)]
      have hnext := ih (before ++ [column]) (plan.add column value)
        (by rw [hcols, List.append_assoc]; rfl) (Nat.succ.inj hlen)
      rw [List.length_append, List.length_singleton] at hnext
      rcases hnext with ⟨hall, hok⟩ | ⟨i, code, hr, herr⟩
      · refine .inl ⟨.cons ha hall, hok.trans ?_⟩
        rw [varlenSizes]
        by_cases hv : column.type = .varchar <;> simp [ValuePlan.add, hv, Bool.or_assoc]
      · refine .inr ⟨i + 1, code, ?_, herr.trans (by rw [Nat.add_assoc, Nat.add_comm 1])⟩
        cases hr with
        | null hc hv hn => exact .null hc hv hn
        | mismatch hc hv hn hm => exact .mismatch hc hv hn hm
    · obtain ⟨code, hr, herr⟩ := planValue_rejected columns values plan hcol ha
      exact .inr ⟨0, code, hr, hround herr⟩

lemma varlenSizes_getElem? {j k : ℕ} {size : VarlenValueSize}
    (h : (varlenSizes columns values)[j]? = some size) : ∃ i column value,
      columns[i]? = some column ∧ column.type = .varchar ∧ values[i]? = some value ∧
      size = ⟨value.payload.length, isNullValue value⟩ ∧
      varlenSchemaColumnIndex columns j k = k + i := by
  induction columns generalizing values j k with
  | nil => simp [varlenSizes] at h
  | cons column columns ih =>
    cases values with
    | nil => simp [varlenSizes] at h
    | cons value values =>
      rw [varlenSizes] at h
      by_cases hv : column.type = .varchar
      · rw [if_pos hv] at h
        cases j with
        | zero =>
          exact ⟨0, column, value, rfl, hv, rfl, (Option.some.inj h).symm, by
            simp [varlenSchemaColumnIndex, hv]⟩
        | succ j =>
          obtain ⟨i, c, v, hc, ht, hvi, hs, hk⟩ := ih (k := k + 1) h
          refine ⟨i + 1, c, v, hc, ht, hvi, hs, ?_⟩
          rw [varlenSchemaColumnIndex, if_neg (not_not.mpr hv), if_neg (by omega), Nat.add_sub_cancel,
            hk]
          omega
      · rw [if_neg hv] at h
        obtain ⟨i, c, v, hc, ht, hvi, hs, hk⟩ := ih (k := k + 1) h
        refine ⟨i + 1, c, v, hc, ht, hvi, hs, ?_⟩
        rw [varlenSchemaColumnIndex, if_pos hv, hk]
        omega

lemma length_varlenSizes (hlen : values.length = columns.length) :
    (varlenSizes columns values).length = varcharCount (columns.map PhysicalColumnLayout.spec) := by
  induction columns generalizing values with
  | nil =>
    obtain rfl := List.length_eq_zero_iff.mp hlen
    rfl
  | cons column columns ih =>
    obtain ⟨value, values, rfl⟩ := List.exists_cons_of_length_eq_add_one hlen
    have := ih (Nat.succ.inj hlen)
    rw [varlenSizes, List.map_cons, varcharCount, List.countP_cons, ← varcharCount, ← this]
    by_cases hv : column.type = .varchar <;> simp [hv, PhysicalColumnLayout.spec]

def presentLength (size : VarlenValueSize) : ℕ := if size.isNull then 0 else size.length

def presentTotal (sizes : List VarlenValueSize) : ℕ := (sizes.map presentLength).sum

lemma presentTotal_varlenSizes
    (ha : List.Forall₂ (fun column value => column.spec.Admits value) columns values) :
    presentTotal (varlenSizes columns values) = (payloads values).length := by
  induction ha with
  | nil => rfl
  | @cons column value columns values hv _ ih =>
    rw [varlenSizes, payloads_cons, List.length_append, ← ih]
    have hlength : presentLength ⟨value.payload.length, isNullValue value⟩ = value.payload.length := by
      cases value <;> rfl
    by_cases ht : column.type = .varchar
    · rw [if_pos ht, presentTotal, List.map_cons, List.sum_cons, hlength, presentTotal]
    · rw [if_neg ht]
      suffices value.payload = [] by simp [this]
      cases value with
      | varchar bytes =>
        have hm : valueMatchesType column.type (.varchar bytes) = true := hv
        cases h : column.type <;> rw [h] at hm <;> first | exact absurd h ht | cases hm
      | _ => rfl

lemma planPayload_outcome (index payload : ℕ) {sizes : List VarlenValueSize}
    (hmax : payload + sizes.length * 2 ^ 32 < 2 ^ 64) :
    (presentTotal sizes ≤ sizes.length * 2 ^ 32 ∧
      TuplePhysicalLayout.planPayload index sizes payload =
        .ok (payload + presentTotal sizes)) ∨
    ∃ j size, sizes[j]? = some size ∧ size.isNull = false ∧ 0xFFFFFFFF < size.length ∧
      TuplePhysicalLayout.planPayload index sizes payload =
        .error ⟨.varcharLengthTooLarge, index + j⟩ := by
  induction sizes generalizing index payload with
  | nil => exact .inl ⟨Nat.zero_le _, rfl⟩
  | cons size sizes ih =>
    rw [List.length_cons, Nat.succ_mul] at hmax
    rw [TuplePhysicalLayout.planPayload, presentTotal, List.map_cons, List.sum_cons, ← presentTotal,
      List.length_cons, Nat.succ_mul]
    generalize hr : sizes.length * 2 ^ 32 = room at hmax ih ⊢
    have hnext {payload' : ℕ} (hp : payload' = payload + presentLength size)
        (hs : presentLength size ≤ 0xFFFFFFFF) (hb : payload' + room < 2 ^ 64) :
        (presentLength size + presentTotal sizes ≤ room + 2 ^ 32 ∧
          TuplePhysicalLayout.planPayload (index + 1) sizes payload' =
            .ok (payload + (presentLength size + presentTotal sizes))) ∨
          ∃ j s, (size :: sizes)[j]? = some s ∧ s.isNull = false ∧ 0xFFFFFFFF < s.length ∧
            TuplePhysicalLayout.planPayload (index + 1) sizes payload' =
              .error ⟨.varcharLengthTooLarge, index + j⟩ := by
      rcases ih (index + 1) _ hb with ⟨hle, h⟩ | ⟨j, s, hj, hn, hl, h⟩
      · exact .inl ⟨by omega, h.trans (by rw [hp, Nat.add_assoc])⟩
      · exact .inr ⟨j + 1, s, hj, hn, hl, h.trans (by rw [Nat.add_assoc, Nat.add_comm 1])⟩
    cases hs : size.isNull with
    | true =>
      have hz : presentLength size = 0 := if_pos hs
      rw [if_pos rfl]
      exact hnext (by rw [hz, Nat.add_zero]) (by omega)
        ((Nat.add_le_add_left (Nat.le_add_right ..) _).trans_lt hmax)
    | false =>
      have hz : presentLength size = size.length := if_neg (by rw [hs]; exact Bool.noConfusion)
      rw [if_neg (by simp)]
      by_cases hl : size.length ≤ 0xFFFFFFFF
      · have hadd : checkedAdd payload size.length = some (payload + size.length) :=
          (checkedAdd_eq_some (by omega)).mpr ⟨rfl, by omega⟩
        rw [Check.require_pos hl, Check.ok_bind, hadd, Check.present, Check.ok_bind]
        exact hnext (by rw [hz]) (by omega) (by omega)
      · refine .inr ⟨0, size, rfl, hs, Nat.lt_of_not_le hl, ?_⟩
        rw [Check.require_neg hl, Check.error_bind]
        rfl

end Plan

/-- Why `encodeTuple` turns values down. -/
inductive EncodeRejects (layout : TuplePhysicalLayout) (metadata : TupleVersionMetadata)
    (values : List TupleValue) : TupleCodecFailure → Prop
  | columnCount (h : values.length ≠ layout.columns.length) :
    EncodeRejects layout metadata values ⟨.columnCountMismatch, 0, .none⟩
  | value {i : ℕ} {code : TupleCodecError} (h : RejectedAt layout.columns values i code) :
    EncodeRejects layout metadata values ⟨code, i, .none⟩
  | varcharTooLong {i : ℕ} {bytes : List UInt8} (hv : values[i]? = some (.varchar bytes))
    (h : 0xFFFFFFFF < bytes.length) :
    EncodeRejects layout metadata values ⟨.varcharLengthTooLarge, i, .none⟩
  | tooLarge (h : heapPageMaxRawTupleSize < layout.minimumTupleSize + (payloads values).length) :
    EncodeRejects layout metadata values
      ⟨.tupleTooLarge, varlenSchemaColumnIndex layout.columns 0 0, .none⟩
  | previous (h : ¬ (metadata.prevPageNo = invalidPageNo ↔ metadata.prevSlot = invalidSlotId)) :
    EncodeRejects layout metadata values ⟨.invalidHeaderMetadata, 0, .none⟩

section Encode

variable {layout : TuplePhysicalLayout} {specs : List PhysicalColumnSpec} {version : SchemaVer}
  {metadata : TupleVersionMetadata} {values : List TupleValue} {failure : TupleCodecFailure}

lemma payload_le {i : ℕ} {bytes : List UInt8} (h : values[i]? = some (.varchar bytes)) :
    bytes.length ≤ (payloads values).length := by
  have hmem := List.mem_of_getElem? h
  rw [payloads, List.length_flatMap]
  exact List.le_sum_of_mem (List.mem_map_of_mem (f := fun v => v.payload.length) hmem)

lemma EncodeRejects.not_encodable (h : EncodeRejects layout metadata values failure) :
    ¬ Encodable layout metadata values := by
  rintro ⟨ha, hf, hp⟩
  cases h with
  | columnCount h => exact h ha.length_eq.symm
  | value h =>
    obtain ⟨hlen, hget⟩ := List.forall₂_iff_get.mp ha
    cases h with
    | null hc hv hn =>
      obtain ⟨hi, rfl⟩ := List.getElem?_eq_some_iff.mp hc
      obtain ⟨hi', hv⟩ := List.getElem?_eq_some_iff.mp hv
      have := hget _ hi hi'
      rw [List.get_eq_getElem, List.get_eq_getElem, hv] at this
      exact absurd (hn.symm.trans this) (by simp)
    | mismatch hc hv hn hm =>
      obtain ⟨hi, rfl⟩ := List.getElem?_eq_some_iff.mp hc
      obtain ⟨hi', rfl⟩ := List.getElem?_eq_some_iff.mp hv
      have := hget _ hi hi'
      rw [PhysicalColumnSpec.Admits, if_neg (by rwa [isNullValue_iff])] at this
      exact absurd (hm.symm.trans this) (by simp)
  | varcharTooLong hv h =>
    have := payload_le hv
    have : (payloads values).length ≤ 8135 := (Nat.le_add_left ..).trans hf
    omega
  | tooLarge h => omega
  | previous h => exact h hp

lemma length_le_totalWidth {offset : ℕ} {columns : List PhysicalColumnLayout}
    (h : Laid offset columns) : columns.length ≤ totalWidth columns := by
  induction columns generalizing offset with
  | nil => exact Nat.le_refl _
  | cons column columns ih =>
    obtain ⟨hw, -, hl⟩ := h
    have hpos : 0 < column.fixedWidth := by
      rw [Nat.pos_iff_ne_zero]
      intro hz
      rw [hz] at hw
      cases ht : column.type <;> rw [ht] at hw <;> simp [physicalTypeWidth] at hw
    have hle := ih hl
    rw [totalWidth, List.map_cons, List.sum_cons, List.length_cons, ← totalWidth]
    omega

/-- How `planTupleSize` ends on sizes of the right number. -/
inductive PlanOutcome (layout : TuplePhysicalLayout) (sizes : List VarlenValueSize) :
    Except TupleSizePlanningFailure TupleSizePlan → Prop
  | lengthTooLarge {j : ℕ} {size : VarlenValueSize} (hj : sizes[j]? = some size)
    (hn : size.isNull = false) (hl : 0xFFFFFFFF < size.length) :
    PlanOutcome layout sizes (.error ⟨.varcharLengthTooLarge, j⟩)
  | tooLarge (h : heapPageMaxRawTupleSize < layout.varlenPayloadOffset + presentTotal sizes) :
    PlanOutcome layout sizes (.error ⟨.tupleTooLarge, 0⟩)
  | planned (h : layout.varlenPayloadOffset + presentTotal sizes ≤ heapPageMaxRawTupleSize) :
    PlanOutcome layout sizes
      (.ok ⟨presentTotal sizes, layout.varlenPayloadOffset + presentTotal sizes⟩)

theorem planTupleSize_plan {sizes : List VarlenValueSize} (hb : Built specs version layout)
    (hcount : sizes.length = layout.varlenColumnCount) :
    PlanOutcome layout sizes (layout.planTupleSize sizes) := by
  have hpayload : layout.varlenPayloadOffset ≤ 8135 := hb.bound
  have hsmall : sizes.length ≤ 8135 := by
    have h₁ := length_le_totalWidth hb.laid
    have h₂ : sizes.length ≤ layout.columns.length := by
      rw [hcount, hb.varlen, varcharCount]
      refine List.countP_le_length.trans ?_
      rw [← hb.specs, List.length_map]
    have := hb.payload
    have := hb.size
    omega
  rw [TuplePhysicalLayout.planTupleSize, Check.require_pos hcount, Check.ok_bind]
  rcases planPayload_outcome 0 0
    (by rw [Nat.zero_add]; exact (Nat.mul_le_mul_right _ hsmall).trans_lt (by decide)) with
    ⟨hle, hok⟩ | ⟨j, size, hj, hn, hl, herr⟩
  · have hbound : presentTotal sizes ≤ 8135 * 2 ^ 32 := hle.trans (Nat.mul_le_mul_right _ hsmall)
    have hadd : checkedAdd layout.varlenPayloadOffset (presentTotal sizes) =
        some (layout.varlenPayloadOffset + presentTotal sizes) :=
      (checkedAdd_eq_some (by omega)).mpr ⟨rfl, by omega⟩
    rw [hok, Nat.zero_add, Check.ok_bind, hadd, Check.present, Check.ok_bind]
    by_cases hmax : layout.varlenPayloadOffset + presentTotal sizes ≤ heapPageMaxRawTupleSize
    · rw [Check.require_pos hmax, Check.ok_bind]
      exact .planned hmax
    · rw [Check.require_neg hmax, Check.error_bind]
      exact .tooLarge (Nat.lt_of_not_le hmax)
  · rw [herr, Check.error_bind, Nat.zero_add]
    exact .lengthTooLarge hj hn hl

lemma planTupleSize_outcome (metadata : TupleVersionMetadata) (hb : Built specs version layout)
    (ha : List.Forall₂ (fun column value => column.spec.Admits value) layout.columns values) :
    (layout.varlenPayloadOffset + (payloads values).length ≤ heapPageMaxRawTupleSize ∧
      layout.planTupleSize (varlenSizes layout.columns values) = .ok
        ⟨(payloads values).length, layout.varlenPayloadOffset + (payloads values).length⟩) ∨
    ∃ failure, EncodeRejects layout metadata values (planningFailure layout failure) ∧
      layout.planTupleSize (varlenSizes layout.columns values) = .error failure := by
  have hcount : (varlenSizes layout.columns values).length = layout.varlenColumnCount := by
    rw [length_varlenSizes ha.length_eq.symm, hb.specs, hb.varlen]
  have hplan := planTupleSize_plan hb hcount
  rw [← presentTotal_varlenSizes ha]
  generalize layout.planTupleSize (varlenSizes layout.columns values) = result at hplan ⊢
  cases hplan with
  | planned h => exact .inl ⟨h, rfl⟩
  | tooLarge h =>
    rw [presentTotal_varlenSizes ha] at h
    exact .inr ⟨_, .tooLarge h, rfl⟩
  | @lengthTooLarge j size hj hn hl =>
    obtain ⟨i, column, value, hc, ht, hv, rfl, hi⟩ := varlenSizes_getElem? (k := 0) hj
    refine .inr ⟨_, ?_, rfl⟩
    rw [planningFailure, hi, Nat.zero_add]
    cases value with
    | varchar bytes => exact .varcharTooLong hv hl
    | _ => exact absurd hl (by simp [TupleValue.payload])

lemma first_draft {header : List UInt8} {bitmapSize area room total : ℕ}
    (hh : header.length = tupleHeaderEncodedSize)
    (ht : total = tupleHeaderEncodedSize + bitmapSize + area + room) {ε : Type} :
    (Span.write (List.replicate total 0) 0 header : Except (Exit ε) _) =
      .ok (draft header bitmapSize (fun _ => false) [] area [] room) := by
  rw [Span.write_eq (by rw [List.length_replicate]; omega), Codec.splice_zero, draft,
    Bitmap.ofBits_false, List.nil_append, List.nil_append, List.drop_replicate,
    List.replicate_append_replicate, List.replicate_append_replicate]
  congr 3
  omega

theorem encodeTuple_outcome (metadata : TupleVersionMetadata) (values : List TupleValue)
    (hb : Built specs version layout) :
    (Encodable layout metadata values ∧ encodeTuple layout metadata values =
      .ok (Pattern.fill 0 (tuplePattern layout metadata values))) ∨
    ∃ failure, EncodeRejects layout metadata values failure ∧
      encodeTuple layout metadata values = .error (.error failure) := by
  rw [encodeTuple]
  by_cases hlen : values.length = layout.columnCount
  swap
  · exact .inr ⟨_, .columnCount hlen, by rw [Check.require_neg hlen, Check.error_bind]⟩
  rw [Check.require_pos hlen, Check.ok_bind]
  rcases planValues_outcome [] {} rfl hlen with
    ⟨ha, hplan⟩ | ⟨i, code, hr, herr⟩
  swap
  · refine .inr ⟨_, .value hr, ?_⟩
    rw [show planValues layout 0 values {} = _ from herr, Check.error_bind, List.length_nil,
      Nat.zero_add]
  rw [show planValues layout 0 values {} = _ from hplan, Check.ok_bind]
  rcases planTupleSize_outcome metadata hb ha with
    ⟨hfits, hsize⟩ | ⟨failure, hr, herr⟩
  swap
  · refine .inr ⟨_, hr, ?_⟩
    rw [List.nil_append, herr]
    rfl
  rw [List.nil_append, hsize]
  by_cases hprev : metadata.prevPageNo = invalidPageNo ↔ metadata.prevSlot = invalidSlotId
  swap
  · refine .inr ⟨_, .previous hprev, ?_⟩
    simp only [Except.mapError]
    rw [Check.ok_bind, encodeTupleHeader_eq_none fun h => hprev (newTupleHeader_valid.mp h),
      Check.present, Check.error_bind]
  refine .inl ⟨⟨ha, hfits, hprev⟩, ?_⟩
  simp only [Except.mapError]
  have hmin : layout.varlenPayloadOffset = layout.fixedAreaOffset + totalWidth layout.columns := by
    rw [hb.payload, hb.size]
  have hh : (newTupleHeader layout metadata (values.any isNullValue)).image.length =
    tupleHeaderEncodedSize := TupleHeader.length_image
  have hzero : withNulls (fun _ => false) 0 values = nullBits values := by
    funext k
    simp [withNulls]
  have hwrite := writeValues_eq [] (fun _ => false) [] [] _ hb rfl ha hb.laid hh
    (by rw [hmin, List.length_nil, Nat.zero_add]) rfl hfits
  simp only [List.length_nil, Nat.add_zero, List.nil_append, hzero] at hwrite
  rw [Bool.false_or, Check.ok_bind, encodeTupleHeader_eq (by simp) (newTupleHeader_valid.mpr hprev),
    Check.present, Check.ok_bind, Codec.splice_zero, List.drop_of_length_le (by simp),
    List.append_nil, first_draft hh (by rw [hmin, hb.area]), Check.ok_bind, hwrite, Check.ok_bind,
    Check.require_pos rfl, Check.ok_bind]
  simp only [draft, tuplePattern, tupleHeader, Pattern.fill_append, Pattern.fill_exact,
    List.replicate_zero, List.append_nil]
  rfl

end Encode

end DBlusBlus
