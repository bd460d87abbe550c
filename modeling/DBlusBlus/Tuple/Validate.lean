import DBlusBlus.Tuple.Image

/-! `validateTuple` accepts what the pattern of some values matches. -/

namespace DBlusBlus

open Span

/-- The tuple has the value in the cell of the column, and its payload at the cursor. -/
structure CellHolds (tuple bitmap : List UInt8) (index cursor : ℕ) (column : PhysicalColumnLayout)
    (value : TupleValue) : Prop where
  admits : column.spec.Admits value
  bit : Bitmap.bit bitmap index = isNullValue value
  fits : Pattern.Fits (cell column cursor value) (tuple.drop column.fixedOffset)
  payload : value.payload <+: tuple.drop cursor

/-- The tuple has the values in the cells of the columns, and their payloads end at `final`. -/
def Holds (tuple bitmap : List UInt8) :
    ℕ → ℕ → List PhysicalColumnLayout → List TupleValue → ℕ → Prop
  | _, cursor, [], [], final => final = cursor
  | index, cursor, column :: columns, value :: values, final =>
    CellHolds tuple bitmap index cursor column value ∧
      Holds tuple bitmap (index + 1) (cursor + value.payload.length) columns values final
  | _, _, _, _, _ => False

section Column

variable {tuple bitmap : List UInt8} {index cursor : ℕ} {column : PhysicalColumnLayout}
  {value : TupleValue}

lemma checkedDescriptorEnd_eq_some {descriptor : VarcharDescriptor} {stop : UInt32} :
    checkedDescriptorEnd descriptor = some stop ↔
      stop.toNat = descriptor.payloadOffset.toNat + descriptor.payloadLength.toNat := by
  have ho := descriptor.payloadOffset.toNat_lt
  have hs := stop.toNat_lt
  have hmax : (0xFFFFFFFF - descriptor.payloadOffset).toNat =
      4294967295 - descriptor.payloadOffset.toNat := by
    rw [UInt32.toNat_sub_of_le _ _ (by rw [UInt32.le_iff_toNat_le]; exact Nat.le_of_lt_succ ho)]
    rfl
  rw [checkedDescriptorEnd]
  split
  · rename_i h
    rw [UInt32.lt_iff_toNat_lt, hmax] at h
    simp
    omega
  · rename_i h
    rw [UInt32.lt_iff_toNat_lt, hmax] at h
    rw [Option.some_inj, ← UInt32.toNat_inj, UInt32.toNat_add, Nat.mod_eq_of_lt (by omega)]
    exact eq_comm

lemma toNat_ofNat_small {n : ℕ} (h : n ≤ 8135) : (UInt32.ofNat n).toNat = n :=
  UInt32.toNat_ofNat_of_lt' (by rw [UInt32.size]; omega)

lemma CellHolds.null (hc : column.fixedOffset + column.fixedWidth ≤ tuple.length)
    (hn : column.nullable = true) (hb : Bitmap.bit bitmap index = true)
    (hd : column.type = .varchar →
      VarcharDescriptor.image {} <+: tuple.drop column.fixedOffset) :
    CellHolds tuple bitmap index cursor column .null := by
  refine ⟨hn, hb, ?_, List.nil_prefix⟩
  rw [cell]
  split
  · rename_i hv
    exact Pattern.fits_exact.mpr (hd hv)
  · rw [Pattern.fits_gap, List.length_drop]
    omega

lemma CellHolds.scalar (cursor : ℕ) (hv : column.type ≠ .varchar) (hb : Bitmap.bit bitmap index = false)
    (hd : decodeFixedScalar column.type ((tuple.drop column.fixedOffset).take column.fixedWidth) =
      .ok value) : CellHolds tuple bitmap index cursor column value ∧ isNullValue value = false ∧
        value.payload = [] := by
  obtain ⟨-, hm, hp⟩ := decodeFixedScalar_eq_ok.mp hd
  have hn : isNullValue value = false := by
    cases value with
    | null => cases ht : column.type <;> rw [ht] at hm <;> cases hm
    | _ => rfl
  obtain ⟨hc, hpay⟩ := cell_scalar cursor hm hv
  refine ⟨⟨?_, hb.trans hn.symm, ?_, ?_⟩, hn, hpay⟩
  · rw [PhysicalColumnSpec.Admits, hn, if_neg (by simp)]
    exact hm
  · rw [hc, Pattern.fits_exact]
    exact hp.trans (List.take_prefix ..)
  · rw [hpay]
    exact List.nil_prefix

lemma CellHolds.varchar {descriptor : VarcharDescriptor} (hv : column.type = .varchar)
    (hb : Bitmap.bit bitmap index = false)
    (hd : descriptor.image <+: tuple.drop column.fixedOffset)
    (ho : descriptor.payloadOffset.toNat = cursor)
    (hl : cursor + descriptor.payloadLength.toNat ≤ tuple.length) :
    CellHolds tuple bitmap index cursor column
      (.varchar ((tuple.drop cursor).take descriptor.payloadLength.toNat)) := by
  have hlen : ((tuple.drop cursor).take descriptor.payloadLength.toNat).length =
      descriptor.payloadLength.toNat := by
    rw [List.length_take, List.length_drop]
    omega
  refine ⟨?_, hb, ?_, List.take_prefix ..⟩
  · rw [PhysicalColumnSpec.Admits, PhysicalColumnLayout.spec, hv]
    rfl
  · rw [cell, Pattern.fits_exact, hlen, ← ho, UInt32.ofNat_toNat, UInt32.ofNat_toNat]
    exact hd

lemma decodeFixedScalar_total {type : PhysicalType} {width : ℕ} {source : List UInt8}
    (hw : physicalTypeWidth type = some width) (hv : type ≠ .varchar) (hb : type ≠ .boolean)
    (hs : source.length = width) : ∃ value, decodeFixedScalar type source = .ok value := by
  have word {k : ℕ} (hk : k = width) :
      ∃ bits : BitVec (8 * k), littleEndianBytes k bits <+: source := by
    obtain ⟨bits, hbits⟩ := Option.isSome_iff_exists.mp
      (decodeLittleEndian_isSome (k := k) (s := source) (by omega))
    exact ⟨bits, decodeLittleEndian_eq_some.mp hbits⟩
  simp only [decodeFixedScalar_eq_ok]
  cases type with
  | boolean => exact absurd rfl hb
  | varchar => exact absurd rfl hv
  | unknown code => cases hw
  | int32 =>
    obtain ⟨bits, hp⟩ := word (Option.some.inj hw)
    exact ⟨.int32 (Int32.ofBitVec bits), hv, rfl, hp⟩
  | int64 =>
    obtain ⟨bits, hp⟩ := word (Option.some.inj hw)
    exact ⟨.int64 (Int64.ofBitVec bits), hv, rfl, hp⟩
  | float64 =>
    obtain ⟨bits, hp⟩ := word (Option.some.inj hw)
    exact ⟨.float64 (UInt64.ofBitVec bits), hv, rfl, hp⟩
  | date =>
    obtain ⟨bits, hp⟩ := word (Option.some.inj hw)
    exact ⟨.date (Int32.ofBitVec bits), hv, rfl, hp⟩
  | timestamp =>
    obtain ⟨bits, hp⟩ := word (Option.some.inj hw)
    exact ⟨.timestamp (Int64.ofBitVec bits), hv, rfl, hp⟩

end Column

section Rounds

variable {layout : TuplePhysicalLayout} {tuple bitmap : List UInt8} {index cursor final : ℕ}
  {column : PhysicalColumnLayout} {columns : List PhysicalColumnLayout} {hasNulls result : Bool}

lemma nullState_eq (hbits : nullBitmapBytes layout.columnCount = some layout.nullBitmapBytes)
    (hb : bitmap.length = layout.nullBitmapBytes.toNat) (hi : index < layout.columnCount) :
    nullState layout bitmap index = .ok (Bitmap.bit bitmap index) :=
  Span.report_eq_ok.mpr (isNull_eq hbits hb.ge hi)

lemma scanColumns_null (hs : nullState layout bitmap index = .ok true) :
    scanColumns layout tuple bitmap index (column :: columns) hasNulls = .ok result ↔
      column.nullable = true ∧
        scanColumns layout tuple bitmap (index + 1) columns true = .ok result := by
  rw [scanColumns, hs, Check.ok_bind, if_pos rfl, Check.require_bind]

lemma scanColumns_value (hs : nullState layout bitmap index = .ok false)
    (hc : column.fixedOffset + column.fixedWidth ≤ tuple.length) :
    scanColumns layout tuple bitmap index (column :: columns) hasNulls = .ok result ↔
      (column.type = .boolean → ∃ value, decodeFixedScalar column.type
        ((tuple.drop column.fixedOffset).take column.fixedWidth) = .ok value) ∧
        scanColumns layout tuple bitmap (index + 1) columns hasNulls = .ok result := by
  rw [scanColumns, hs, Check.ok_bind, if_neg (by simp)]
  by_cases hb : column.type = .boolean
  · rw [if_pos hb, Span.read_eq hc, Check.ok_bind, Check.bind_eq_ok]
    simp only [Span.report_eq_ok, hb, true_imp_iff, exists_and_right]
  · rw [if_neg hb]
    simp [hb]

lemma scanPayloads_fixed (hv : column.type ≠ .varchar) :
    scanPayloads layout tuple bitmap index (column :: columns) cursor =
      scanPayloads layout tuple bitmap (index + 1) columns cursor :=
  if_pos hv

lemma scanPayloads_varchar (hv : column.type = .varchar)
    (hw : physicalTypeWidth column.type = some column.fixedWidth)
    (hc : column.fixedOffset + column.fixedWidth ≤ tuple.length) {isNull : Bool}
    (hs : nullState layout bitmap index = .ok isNull) :
    scanPayloads layout tuple bitmap index (column :: columns) cursor = .ok final ↔
      ∃ descriptor : VarcharDescriptor, descriptor.image <+: tuple.drop column.fixedOffset ∧
        if isNull then descriptor = {} ∧
          scanPayloads layout tuple bitmap (index + 1) columns cursor = .ok final
        else layout.varlenPayloadOffset ≤ cursor ∧ descriptor.payloadOffset.toNat = cursor ∧
          cursor + descriptor.payloadLength.toNat ≤ tuple.length ∧
          cursor + descriptor.payloadLength.toNat < 2 ^ 32 ∧
          scanPayloads layout tuple bitmap (index + 1) columns
            (cursor + descriptor.payloadLength.toNat) = .ok final := by
  have hwidth : column.fixedWidth = varcharDescriptorEncodedSize := by
    rw [hv] at hw
    exact (Option.some.inj hw).symm
  rw [scanPayloads, if_neg (not_not.mpr hv), Span.read_eq hc, Check.ok_bind, Check.bind_eq_ok]
  simp only [Span.report_eq_ok, decodeVarcharDescriptor_eq_ok, hs, Check.ok_bind]
  refine exists_congr fun descriptor => and_congr ?_ ?_
  · exact Codec.prefix_take_iff (by rw [VarcharDescriptor.length_image, hwidth])
  cases isNull with
  | true => rw [if_pos rfl, if_pos rfl, Check.require_bind]
  | false =>
    rw [if_neg (by simp), if_neg (by simp), Check.require_bind, Check.present_bind]
    simp only [checkedDescriptorEnd_eq_some, Check.require_bind]
    constructor
    · rintro ⟨h₁, stop, hstop, ⟨-, h₃⟩, rfl, h₅⟩
      have hlt := stop.toNat_lt
      rw [hstop] at h₃ h₅ hlt
      exact ⟨h₁, rfl, h₃, hlt, h₅⟩
    · rintro ⟨h₁, rfl, h₃, hlt, h₅⟩
      have hstop : (UInt32.ofNat (descriptor.payloadOffset.toNat +
          descriptor.payloadLength.toNat)).toNat = _ := UInt32.toNat_ofNat_of_lt' hlt
      exact ⟨h₁, _, hstop, ⟨by omega, by rwa [hstop]⟩, rfl, by rwa [hstop]⟩

end Rounds

section Scan

variable {layout : TuplePhysicalLayout} {tuple bitmap : List UInt8}
  {before columns : List PhysicalColumnLayout} {values : List TupleValue}
  {offset cursor final : ℕ} {result : Bool}

lemma holds_of_scan {hasNulls : Bool}
    (hbits : nullBitmapBytes layout.columnCount = some layout.nullBitmapBytes)
    (hb : bitmap.length = layout.nullBitmapBytes.toNat) (hcols : layout.columns = before ++ columns)
    (hl : Laid offset columns) (hroom : offset + totalWidth columns ≤ tuple.length)
    (hs : scanColumns layout tuple bitmap before.length columns hasNulls = .ok result)
    (hp : scanPayloads layout tuple bitmap before.length columns cursor = .ok final) :
    ∃ values, Holds tuple bitmap before.length cursor columns values final ∧
      result = (hasNulls || values.any isNullValue) := by
  induction columns generalizing before offset cursor hasNulls with
  | nil =>
    obtain rfl := Except.ok.inj hs
    obtain rfl := Except.ok.inj hp
    exact ⟨[], rfl, by simp⟩
  | cons column columns ih =>
    obtain ⟨hw, rfl, hl⟩ := hl
    rw [totalWidth, List.map_cons, List.sum_cons, ← totalWidth, ← Nat.add_assoc] at hroom
    have hc : column.fixedOffset + column.fixedWidth ≤ tuple.length := by omega
    have hi : before.length < layout.columnCount := by
      rw [TuplePhysicalLayout.columnCount, hcols, List.length_append, List.length_cons]
      omega
    have hnull := nullState_eq hbits hb hi
    have hcols' : layout.columns = (before ++ [column]) ++ columns := by
      rw [hcols, List.append_assoc]
      rfl
    have hnext {hasNulls : Bool} {cursor : ℕ}
        (hs : scanColumns layout tuple bitmap (before.length + 1) columns hasNulls = .ok result)
        (hp : scanPayloads layout tuple bitmap (before.length + 1) columns cursor = .ok final) :
        ∃ values, Holds tuple bitmap (before.length + 1) cursor columns values final ∧
          result = (hasNulls || values.any isNullValue) := by
      have hstep : before.length + 1 = (before ++ [column]).length := by simp
      rw [hstep] at hs hp ⊢
      exact ih hcols' hl hroom hs hp
    cases hbit : Bitmap.bit bitmap before.length with
    | true =>
      rw [hbit] at hnull
      obtain ⟨hn, hs⟩ := (scanColumns_null hnull).mp hs
      have hrest : scanPayloads layout tuple bitmap (before.length + 1) columns cursor = .ok final ∧
          (column.type = .varchar → VarcharDescriptor.image {} <+: tuple.drop column.fixedOffset) := by
        by_cases hv : column.type = .varchar
        · obtain ⟨descriptor, hd, rfl, hp⟩ := (scanPayloads_varchar hv hw hc hnull).mp hp
          exact ⟨hp, fun _ => hd⟩
        · rw [scanPayloads_fixed hv] at hp
          exact ⟨hp, fun h => absurd h hv⟩
      obtain ⟨values, hh, hr⟩ := hnext hs hrest.1
      exact ⟨.null :: values, ⟨.null hc hn hbit hrest.2, hh⟩, by simp [hr, isNullValue]⟩
    | false =>
      rw [hbit] at hnull
      obtain ⟨hbool, hs⟩ := (scanColumns_value hnull hc).mp hs
      by_cases hv : column.type = .varchar
      · obtain ⟨descriptor, hd, -, ho, hle, -, hp⟩ := (scanPayloads_varchar hv hw hc hnull).mp hp
        obtain ⟨values, hh, hr⟩ := hnext hs hp
        refine ⟨_ :: values, ⟨.varchar hv hbit hd ho hle, ?_⟩, by simp [hr, isNullValue]⟩
        rwa [TupleValue.payload, List.length_take, List.length_drop, Nat.min_eq_left (by omega)]
      · rw [scanPayloads_fixed hv] at hp
        obtain ⟨values, hh, hr⟩ := hnext hs hp
        obtain ⟨value, hd⟩ : ∃ value, decodeFixedScalar column.type
            ((tuple.drop column.fixedOffset).take column.fixedWidth) = .ok value := by
          by_cases ht : column.type = .boolean
          · exact hbool ht
          · refine decodeFixedScalar_total hw hv ht ?_
            rw [List.length_take, List.length_drop]
            omega
        obtain ⟨hcell, hn, hpay⟩ := CellHolds.scalar cursor hv hbit hd
        refine ⟨value :: values, ⟨hcell, ?_⟩, by simp [hr, hn]⟩
        rwa [hpay]

lemma scan_of_holds (hasNulls : Bool)
    (hbits : nullBitmapBytes layout.columnCount = some layout.nullBitmapBytes)
    (hb : bitmap.length = layout.nullBitmapBytes.toNat) (hcols : layout.columns = before ++ columns)
    (hl : Laid offset columns) (hroom : offset + totalWidth columns ≤ tuple.length)
    (hmin : layout.varlenPayloadOffset ≤ cursor) (hcur : cursor ≤ tuple.length)
    (hmax : tuple.length ≤ heapPageMaxRawTupleSize)
    (hh : Holds tuple bitmap before.length cursor columns values final) :
    scanColumns layout tuple bitmap before.length columns hasNulls =
        .ok (hasNulls || values.any isNullValue) ∧
      scanPayloads layout tuple bitmap before.length columns cursor = .ok final := by
  induction columns generalizing before values offset cursor hasNulls with
  | nil =>
    cases values with
    | nil =>
      obtain rfl := hh
      exact ⟨by simp [scanColumns], rfl⟩
    | cons value values => exact hh.elim
  | cons column columns ih =>
    cases values with
    | nil => exact hh.elim
    | cons value values =>
    obtain ⟨hw, rfl, hl⟩ := hl
    obtain ⟨hcell, hh⟩ := hh
    rw [totalWidth, List.map_cons, List.sum_cons, ← totalWidth, ← Nat.add_assoc] at hroom
    have hc : column.fixedOffset + column.fixedWidth ≤ tuple.length := by omega
    have hi : before.length < layout.columnCount := by
      rw [TuplePhysicalLayout.columnCount, hcols, List.length_append, List.length_cons]
      omega
    have hnull := nullState_eq hbits hb hi
    have hpay := hcell.payload.length_le
    rw [List.length_drop] at hpay
    have hsmall : tuple.length ≤ 8135 := hmax
    have hcols' : layout.columns = (before ++ [column]) ++ columns := by
      rw [hcols, List.append_assoc]
      rfl
    have hnext (hasNulls : Bool) :
        scanColumns layout tuple bitmap (before.length + 1) columns hasNulls =
            .ok (hasNulls || values.any isNullValue) ∧
          scanPayloads layout tuple bitmap (before.length + 1) columns
            (cursor + value.payload.length) = .ok final := by
      have hstep : before.length + 1 = (before ++ [column]).length := by simp
      rw [hstep] at hh ⊢
      exact ih hasNulls hcols' hl hroom (hmin.trans (Nat.le_add_right ..)) (by omega) hh
    rw [hcell.bit] at hnull
    by_cases hn : value = .null
    · subst hn
      obtain ⟨hs, hp⟩ := hnext true
      refine ⟨(scanColumns_null hnull).mpr ⟨hcell.admits, hs.trans (by simp [isNullValue])⟩, ?_⟩
      by_cases hv : column.type = .varchar
      · have hf := hcell.fits
        rw [cell, if_pos hv, Pattern.fits_exact] at hf
        exact (scanPayloads_varchar hv hw hc hnull).mpr ⟨{}, hf, rfl, hp⟩
      · rw [scanPayloads_fixed hv]
        exact hp
    · have hn' : isNullValue value = false := by
        rw [← Bool.not_eq_true, isNullValue_iff]
        exact hn
      have hm := hcell.admits
      rw [PhysicalColumnSpec.Admits, if_neg (by rw [hn']; simp)] at hm
      obtain ⟨hs, hp⟩ := hnext hasNulls
      rw [hn'] at hnull
      have hresult : (hasNulls || (value :: values).any isNullValue) =
          (hasNulls || values.any isNullValue) := by simp [hn']
      rw [hresult]
      by_cases hv : column.type = .varchar
      · rw [PhysicalColumnLayout.spec, hv] at hm
        obtain ⟨bytes, rfl⟩ := matches_varchar.mp hm
        have hf := hcell.fits
        rw [cell, Pattern.fits_exact] at hf
        have hpay : bytes.length ≤ tuple.length - cursor := hpay
        have hlen : (UInt32.ofNat bytes.length).toNat = bytes.length := toNat_ofNat_small (by omega)
        refine ⟨(scanColumns_value hnull hc).mpr ⟨fun h => ?_, hs⟩,
          (scanPayloads_varchar hv hw hc hnull).mpr ⟨_, hf, ?_⟩⟩
        · rw [hv] at h
          cases h
        · rw [if_neg (by simp), hlen]
          exact ⟨hmin, toNat_ofNat_small (by omega), by omega, by omega, hp⟩
      · obtain ⟨himage, hempty⟩ := cell_scalar cursor hm hv
        rw [hempty] at hp
        rw [scanPayloads_fixed hv]
        refine ⟨(scanColumns_value hnull hc).mpr ⟨fun _ => ⟨value, ?_⟩, hs⟩, hp⟩
        have hf := hcell.fits
        rw [himage, Pattern.fits_exact] at hf
        exact decodeFixedScalar_eq_ok.mpr ⟨hv, hm,
          (Codec.prefix_take_iff (length_scalarImage hm hv hw).le).mpr hf⟩

lemma holds_iff {index : ℕ} (hl : Laid offset columns) :
    Holds tuple bitmap index cursor columns values final ↔
      List.Forall₂ (fun column value => column.spec.Admits value) columns values ∧
      (∀ k < values.length, Bitmap.bit bitmap (index + k) = nullBits values k) ∧
      Pattern.Fits (cells columns values cursor) (tuple.drop offset) ∧
      payloads values <+: tuple.drop cursor ∧ final = cursor + (payloads values).length := by
  induction columns generalizing values offset cursor index with
  | nil =>
    cases values with
    | nil => simp [Holds, cells, Pattern.Fits, payloads]
    | cons value values => simp [Holds]
  | cons column columns ih =>
    cases values with
    | nil => simp [Holds]
    | cons value values =>
    obtain ⟨hw, rfl, hl⟩ := hl
    rw [Holds, ih hl, payloads_cons, cells, List.forall₂_cons, Pattern.fits_append,
      Codec.append_prefix_iff, List.drop_drop, List.drop_drop, List.length_append]
    constructor
    · rintro ⟨hc, ha, hbits, hf, hp, rfl⟩
      refine ⟨⟨hc.admits, ha⟩, fun k hk => ?_, ⟨hc.fits, ?_⟩, ⟨hc.payload, hp⟩, by omega⟩
      · cases k with
        | zero => simpa [nullBits] using hc.bit
        | succ k =>
          rw [show index + (k + 1) = index + 1 + k by omega, hbits k (Nat.lt_of_succ_lt_succ hk)]
          simp [nullBits]
      · rwa [length_cell _ hc.admits hw]
    · rintro ⟨⟨hv, ha⟩, hbits, ⟨hf, hfs⟩, ⟨hp, hps⟩, rfl⟩
      rw [length_cell _ hv hw] at hfs
      refine ⟨⟨hv, by simpa [nullBits] using hbits 0 (by simp), hf, hp⟩, ha, fun k hk => ?_, hfs, hps,
        by omega⟩
      rw [show index + 1 + k = index + (k + 1) by omega, hbits (k + 1) (Nat.succ_lt_succ hk)]
      simp [nullBits]

end Scan

section Flags

lemma flags_eq {flags : TupleFlags} {hasNulls hasVarlen : Bool}
    (hk : flags &&& ~~~tupleFlagsKnownMask = 0) (hn : (flags &&& tupleFlagHasNulls != 0) = hasNulls)
    (hv : (flags &&& tupleFlagHasVarlen != 0) = hasVarlen) :
    flags = (if hasNulls then tupleFlagHasNulls else 0) |||
      (if hasVarlen then tupleFlagHasVarlen else 0) := by
  have hlt : flags.toNat < 4 := by
    have h3 : flags &&& 3 = flags := by
      apply UInt16.toBitVec_inj.mp
      apply BitVec.eq_of_getLsbD_eq
      intro i hi
      have h := congrArg (fun f : UInt16 => f.toBitVec.getLsbD i) hk
      simp only [UInt16.toBitVec_and, UInt16.toBitVec_not, BitVec.getLsbD_and, BitVec.getLsbD_not,
        hi, decide_true, Bool.true_and] at h ⊢
      cases hf : flags.toBitVec.getLsbD i with
      | false => rfl
      | true =>
        rw [hf, Bool.true_and] at h
        simpa [tupleFlagsKnownMask, tupleFlagHasNulls, tupleFlagHasVarlen] using h
    have := congrArg UInt16.toNat h3
    rw [UInt16.toNat_and] at this
    have hm : flags.toNat &&& (3 : UInt16).toNat = flags.toNat % 4 :=
      Nat.and_two_pow_sub_one_eq_mod flags.toNat 2
    omega
  have hcases : flags = 0 ∨ flags = 1 ∨ flags = 2 ∨ flags = 3 := by
    simp only [← UInt16.toNat_inj]
    change flags.toNat = 0 ∨ flags.toNat = 1 ∨ flags.toNat = 2 ∨ flags.toNat = 3
    omega
  subst hn hv
  rcases hcases with rfl | rfl | rfl | rfl <;> decide

lemma getLsbD_unusedBitmapBitMask {n j : ℕ} (hj : j < 8) :
    (unusedBitmapBitMask n).toBitVec.getLsbD j = decide (n % 8 ≠ 0 ∧ n % 8 ≤ j) := by
  have h : ∀ u j : Fin 8, (if u.val = 0 then (0 : UInt8) else
      UInt8.ofNat (0xFF <<< u.val)).toBitVec.getLsbD j = decide (u.val ≠ 0 ∧ u.val ≤ j.val) := by
    decide
  exact h ⟨n % 8, Nat.mod_lt _ (by decide)⟩ ⟨j, hj⟩

lemma flag_hasNulls (hasNulls hasVarlen : Bool) :
    (((if hasNulls then tupleFlagHasNulls else 0) |||
      (if hasVarlen then tupleFlagHasVarlen else 0)) &&& tupleFlagHasNulls != 0) = hasNulls := by
  cases hasNulls <;> cases hasVarlen <;> decide

lemma flag_hasVarlen (hasNulls hasVarlen : Bool) :
    (((if hasNulls then tupleFlagHasNulls else 0) |||
      (if hasVarlen then tupleFlagHasVarlen else 0)) &&& tupleFlagHasVarlen != 0) = hasVarlen := by
  cases hasNulls <;> cases hasVarlen <;> decide

lemma unused_iff {bitmap : List UInt8} {n : ℕ} {lastByte : UInt8}
    (hlen : bitmap.length = (n + 7) / 8) (hlast : bitmap[bitmap.length - 1]? = some lastByte) :
    lastByte &&& unusedBitmapBitMask n = 0 ↔
      ∀ k, n ≤ k → k < 8 * bitmap.length → Bitmap.bit bitmap k = false := by
  have hpos : 0 < bitmap.length := by
    have := (List.getElem?_eq_some_iff.mp hlast).1
    omega
  have hlastBit {k : ℕ} (hk : k / 8 = bitmap.length - 1) :
      Bitmap.bit bitmap k = lastByte.toBitVec.getLsbD (k % 8) := by
    rw [Bitmap.bit, hk, hlast, Option.getD_some]
  rw [Bitmap.and_eq_zero_iff]
  constructor
  · intro h k hn hk
    rw [hlastBit (by omega)]
    apply h _ (Nat.mod_lt _ (by decide))
    rw [getLsbD_unusedBitmapBitMask (Nat.mod_lt _ (by decide)), decide_eq_true_iff]
    omega
  · intro h j hj hm
    rw [getLsbD_unusedBitmapBitMask hj, decide_eq_true_iff] at hm
    have hb := h (8 * (bitmap.length - 1) + j) (by omega) (by omega)
    rw [hlastBit (by omega)] at hb
    rwa [show (8 * (bitmap.length - 1) + j) % 8 = j by omega] at hb

lemma padding_bind {bitmap : List UInt8} {n : ℕ} {e : TupleCodecFailure}
    {f : Except (Exit TupleCodecFailure) TupleHeader} {header : TupleHeader}
    (hlen : bitmap.length = (n + 7) / 8) :
    (if bitmap ≠ [] then
        Span.get bitmap (bitmap.length - 1) >>= fun lastByte =>
          Check.require (lastByte &&& unusedBitmapBitMask n = 0) (.error e) >>= fun _ => f
      else f) = .ok header ↔
      (∀ k, n ≤ k → k < 8 * bitmap.length → Bitmap.bit bitmap k = false) ∧ f = .ok header := by
  by_cases hn : bitmap = []
  · subst hn
    simp
  · have hpos := List.length_pos_iff.mpr hn
    have hlast := List.getElem?_eq_getElem (show bitmap.length - 1 < bitmap.length by omega)
    rw [if_pos hn, Span.get_bind]
    simp only [Check.require_bind]
    constructor
    · rintro ⟨lastByte, hb, hmask, hf⟩
      exact ⟨(unused_iff hlen hb).mp hmask, hf⟩
    · rintro ⟨hbits, hf⟩
      exact ⟨_, hlast, (unused_iff hlen hlast).mpr hbits, hf⟩

end Flags

section Accept

variable {layout : TuplePhysicalLayout} {tuple : List UInt8} {header : TupleHeader}
  {specs : List PhysicalColumnSpec} {version : SchemaVer} {metadata : TupleVersionMetadata}
  {values : List TupleValue}

lemma Built.columnCount (hb : Built specs version layout) :
    nullBitmapBytes layout.columnCount = some layout.nullBitmapBytes := by
  rw [TuplePhysicalLayout.columnCount, ← hb.bitmap, ← hb.specs, List.length_map]

lemma Built.room (hb : Built specs version layout) (hmin : layout.minimumTupleSize ≤ tuple.length) :
    layout.fixedAreaOffset + totalWidth layout.columns ≤ tuple.length := by
  rw [← hb.size, ← hb.payload]
  exact hmin

def TuplePhysicalLayout.bitmapOf (layout : TuplePhysicalLayout) (tuple : List UInt8) : List UInt8 :=
  (tuple.drop tupleHeaderEncodedSize).take layout.nullBitmapBytes.toNat

/-- The checks of `validateTuple`. -/
structure Checked (layout : TuplePhysicalLayout) (tuple : List UInt8) (header : TupleHeader) :
    Prop where
  minimum : layout.minimumTupleSize ≤ tuple.length
  maximum : tuple.length ≤ heapPageMaxRawTupleSize
  valid : header.Valid
  image : header.image <+: tuple
  version : header.schemaVersion = layout.schemaVersion
  bytes : header.nullBitmapBytes = layout.nullBitmapBytes
  varlen : (header.tupleFlags &&& tupleFlagHasVarlen != 0) = layout.hasVarlenColumns
  padding : ∀ k, layout.columnCount ≤ k → k < 8 * layout.nullBitmapBytes.toNat →
    Bitmap.bit (layout.bitmapOf tuple) k = false
  nulls : scanColumns layout tuple (layout.bitmapOf tuple) 0 layout.columns false =
    .ok (header.tupleFlags &&& tupleFlagHasNulls != 0)
  payload : scanPayloads layout tuple (layout.bitmapOf tuple) 0 layout.columns
    layout.varlenPayloadOffset = .ok tuple.length

lemma length_bitmapOf (hb : Built specs version layout)
    (hmin : layout.minimumTupleSize ≤ tuple.length) :
    (layout.bitmapOf tuple).length = layout.nullBitmapBytes.toNat := by
  have hp := hb.payload
  have ha := hb.area
  rw [TuplePhysicalLayout.minimumTupleSize] at hmin
  rw [TuplePhysicalLayout.bitmapOf, List.length_take, List.length_drop]
  omega

lemma validateTuple_checked (hb : Built specs version layout) :
    validateTuple layout tuple = .ok header ↔ Checked layout tuple header := by
  have hp := hb.payload
  have ha := hb.area
  have hbitmap : (tuple.drop tupleHeaderEncodedSize).take layout.nullBitmapBytes.toNat =
    layout.bitmapOf tuple := rfl
  rw [validateTuple]
  simp only [Check.require_bind, Span.read_bind]
  rw [Check.bind_eq_ok]
  simp only [Check.require_bind, Span.read_bind, Span.report_eq_ok, decodeTupleHeader_eq_ok,
    hbitmap]
  rw [List.drop_zero, Nat.zero_add]
  constructor
  · rintro ⟨hmin, hmax, hroom, a, ⟨hv, himage⟩, hver, hbytes, hvar, hroom', h⟩
    have hlen := length_bitmapOf hb hmin
    rw [padding_bind (by rw [hlen, nullBitmapBytes_eq_some hb.columnCount]), hlen,
      Check.bind_eq_ok] at h
    obtain ⟨hpad, result, hs, h⟩ := h
    obtain ⟨rfl, hrest⟩ := Check.require_bind.mp h
    obtain ⟨final, hpay, hlast⟩ := Check.bind_eq_ok.mp hrest
    obtain ⟨rfl, hend⟩ := Check.require_bind.mp hlast
    obtain rfl := Except.ok.inj hend
    exact ⟨hmin, hmax, hv, (Codec.prefix_take_iff TupleHeader.length_image.le).mp himage, hver, hbytes,
      hvar, hpad, hs, hpay⟩
  · rintro ⟨hmin, hmax, hv, himage, hver, hbytes, hvar, hpad, hs, hpay⟩
    have hlen := length_bitmapOf hb hmin
    rw [TuplePhysicalLayout.minimumTupleSize] at hmin
    refine ⟨hmin, hmax, by omega, header,
      ⟨hv, (Codec.prefix_take_iff TupleHeader.length_image.le).mpr himage⟩, hver, hbytes, hvar,
      by omega, ?_⟩
    rw [padding_bind (by rw [hlen, nullBitmapBytes_eq_some hb.columnCount]), hlen]
    refine ⟨hpad, ?_⟩
    rw [hs, Check.ok_bind, Check.require_pos rfl, Check.ok_bind, hpay, Check.ok_bind,
      Check.require_pos rfl]
    rfl

lemma fits_tuplePattern (hb : Built specs version layout)
    (ha : List.Forall₂ (fun column value => column.spec.Admits value) layout.columns values) :
    Pattern.Fits (tuplePattern layout metadata values) tuple ↔
      (tupleHeader layout metadata values).image <+: tuple ∧
      Bitmap.ofBits layout.nullBitmapBytes.toNat (nullBits values) <+:
        tuple.drop tupleHeaderEncodedSize ∧
      Pattern.Fits (cells layout.columns values layout.varlenPayloadOffset)
        (tuple.drop layout.fixedAreaOffset) ∧
      payloads values <+: tuple.drop layout.varlenPayloadOffset := by
  simp only [tuplePattern, Pattern.fits_append, Pattern.fits_exact, Pattern.length_exact,
    TupleHeader.length_image, Bitmap.length_ofBits, List.drop_drop, length_cells hb.laid ha]
  rw [← hb.area, ← hb.size, ← hb.payload]

lemma length_tuplePattern (hb : Built specs version layout)
    (ha : List.Forall₂ (fun column value => column.spec.Admits value) layout.columns values) :
    (tuplePattern layout metadata values).length =
      layout.varlenPayloadOffset + (payloads values).length := by
  simp only [tuplePattern, List.length_append, Pattern.length_exact, TupleHeader.length_image,
    Bitmap.length_ofBits, length_cells hb.laid ha]
  rw [hb.payload, hb.area, hb.size]
  omega

lemma nullBits_of_length_le {k : ℕ} (h : values.length ≤ k) : nullBits values k = false := by
  rw [nullBits, List.getElem?_eq_none h]
  rfl

lemma bitmapOf_eq_ofBits (hb : Built specs version layout)
    (hmin : layout.minimumTupleSize ≤ tuple.length) (hv : values.length = layout.columnCount) :
    Bitmap.ofBits layout.nullBitmapBytes.toNat (nullBits values) <+:
        tuple.drop tupleHeaderEncodedSize ↔
      (∀ k, layout.columnCount ≤ k → k < 8 * layout.nullBitmapBytes.toNat →
        Bitmap.bit (layout.bitmapOf tuple) k = false) ∧
      ∀ k < values.length, Bitmap.bit (layout.bitmapOf tuple) k = nullBits values k := by
  have hcount := nullBitmapBytes_eq_some hb.columnCount
  rw [Codec.prefix_iff_take Bitmap.length_ofBits, ← TuplePhysicalLayout.bitmapOf,
    Bitmap.eq_ofBits_iff (length_bitmapOf hb hmin)]
  constructor
  · intro h
    refine ⟨fun k hk hlt => ?_, fun k hk => h k (by omega)⟩
    rw [h k hlt, nullBits_of_length_le (by omega)]
  · rintro ⟨hpad, hbits⟩ k hlt
    by_cases hk : k < values.length
    · exact hbits k hk
    · rw [hpad k (by omega) hlt, nullBits_of_length_le (by omega)]

lemma checked_iff (hb : Built specs version layout) :
    Checked layout tuple header ↔ ∃ metadata values, Encodable layout metadata values ∧
      tuple.length = (tuplePattern layout metadata values).length ∧
      Pattern.Fits (tuplePattern layout metadata values) tuple ∧
      header = tupleHeader layout metadata values := by
  constructor
  · intro hc
    obtain ⟨values, hh, hnulls⟩ := holds_of_scan hb.columnCount
      (length_bitmapOf hb hc.minimum) (List.nil_append _).symm hb.laid (hb.room hc.minimum) hc.nulls
      hc.payload
    obtain ⟨ha, hbits, hcells, hpay, hlen⟩ := (holds_iff hb.laid).mp hh
    rw [Bool.false_or] at hnulls
    simp only [List.length_nil, Nat.zero_add] at hbits
    let metadata : TupleVersionMetadata := ⟨header.xmin, header.xmax, header.cmin, header.cmax,
      header.prevPageNo, header.prevSlot⟩
    have heq : header = tupleHeader layout metadata values := by
      have hflags := flags_eq hc.valid.flags hnulls hc.varlen
      have hbytes := hc.bytes
      have hversion := hc.version
      have hheader := hc.valid.size
      have hreserved := hc.valid.reserved
      cases header
      simp only at hflags hbytes hversion hheader hreserved
      subst hflags hbytes hversion hheader hreserved
      rfl
    refine ⟨metadata, values, ⟨ha, ?_, hc.valid.previous⟩, ?_, ?_, heq⟩
    · rw [TuplePhysicalLayout.minimumTupleSize, ← hlen]
      exact hc.maximum
    · rw [length_tuplePattern hb ha, hlen]
    · rw [fits_tuplePattern hb ha, ← heq]
      exact ⟨hc.image, (bitmapOf_eq_ofBits hb hc.minimum ha.length_eq.symm).mpr ⟨hc.padding, hbits⟩,
        hcells, hpay⟩
  · rintro ⟨metadata, values, he, hlen, hf, rfl⟩
    obtain ⟨himage, hbitmap, hcells, hpay⟩ := (fits_tuplePattern hb he.admitted).mp hf
    rw [length_tuplePattern hb he.admitted] at hlen
    have hmin : layout.minimumTupleSize ≤ tuple.length := by
      rw [TuplePhysicalLayout.minimumTupleSize]
      omega
    have hmax : tuple.length ≤ heapPageMaxRawTupleSize := by
      rw [hlen]
      exact he.fits
    have hlength := he.admitted.length_eq
    obtain ⟨hpad, hbits⟩ := (bitmapOf_eq_ofBits hb hmin hlength.symm).mp hbitmap
    have hh : Holds tuple (layout.bitmapOf tuple) 0 layout.varlenPayloadOffset layout.columns values
        tuple.length :=
      (holds_iff hb.laid).mpr ⟨he.admitted, by simpa using hbits, hcells, hpay, hlen⟩
    obtain ⟨hs, hp⟩ := scan_of_holds false hb.columnCount
      (length_bitmapOf hb hmin) (List.nil_append _).symm hb.laid (hb.room hmin) (Nat.le_refl _) hmin hmax hh
    exact ⟨hmin, hmax, newTupleHeader_valid.mpr he.previous, himage, rfl, rfl, flag_hasVarlen _ _,
      hpad, hs.trans (congrArg Except.ok (flag_hasNulls _ _).symm), hp⟩

theorem validateTuple_eq_ok (hb : Built specs version layout) :
    validateTuple layout tuple = .ok header ↔ ∃ metadata values, Encodable layout metadata values ∧
      tuple.length = (tuplePattern layout metadata values).length ∧
      Pattern.Fits (tuplePattern layout metadata values) tuple ∧
      header = tupleHeader layout metadata values :=
  (validateTuple_checked hb).trans (checked_iff hb)

end Accept

end DBlusBlus
