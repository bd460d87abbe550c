import DBlusBlus.Library.Bitmap
import DBlusBlus.Library.Span
import DBlusBlus.Heap.Format

/-! The physical layout of a tuple: null bitmap, fixed area, and the size of the payload. -/

namespace DBlusBlus

open Span

structure SchemaVer where
  value : UInt32
deriving DecidableEq

abbrev tupleHeaderEncodedSize : ℕ := 48
abbrev varcharDescriptorEncodedSize : ℕ := 8

/-- The classification of a column, and the codes that are none of the seven. -/
inductive PhysicalType
  | boolean | int32 | int64 | float64 | date | timestamp | varchar | unknown (code : UInt8)
deriving DecidableEq

def physicalTypeWidth : PhysicalType → Option ℕ
  | .boolean => some 1
  | .int32 => some 4
  | .int64 => some 8
  | .float64 => some 8
  | .date => some 4
  | .timestamp => some 8
  | .varchar => some varcharDescriptorEncodedSize
  | .unknown _ => none

def nullBitmapBytes (columnCount : ℕ) : Option UInt16 :=
  let bytes := columnCount / 8 + if columnCount % 8 ≠ 0 then 1 else 0
  if 0xFFFF < bytes then none else some (UInt16.ofNat bytes)

inductive NullBitmapError
  | columnCountTooLarge | columnOutOfRange | bitmapTooSmall
deriving DecidableEq

def validateBitmapAccess (bitmapSize columnCount columnIndex : ℕ) :
    Except (Exit NullBitmapError) Unit := do
  let requiredBytes ← Check.present (nullBitmapBytes columnCount) (.error .columnCountTooLarge)
  Check.require (columnIndex < columnCount) (.error .columnOutOfRange)
  Check.require (requiredBytes.toNat ≤ bitmapSize) (.error .bitmapTooSmall)

def nullBitMask (columnIndex : ℕ) : UInt8 := UInt8.ofNat (1 <<< (columnIndex % 8))

def isNull (bitmap : List UInt8) (columnCount columnIndex : ℕ) :
    Except (Exit NullBitmapError) Bool := do
  validateBitmapAccess bitmap.length columnCount columnIndex
  let byteValue ← Span.get bitmap (columnIndex / 8)
  return byteValue &&& nullBitMask columnIndex != 0

def setNull (bitmap : List UInt8) (columnCount columnIndex : ℕ) :
    Except (Exit NullBitmapError) (List UInt8) := do
  validateBitmapAccess bitmap.length columnCount columnIndex
  let byteValue ← Span.get bitmap (columnIndex / 8)
  return bitmap.set (columnIndex / 8) (byteValue ||| nullBitMask columnIndex)

def clearNull (bitmap : List UInt8) (columnCount columnIndex : ℕ) :
    Except (Exit NullBitmapError) (List UInt8) := do
  validateBitmapAccess bitmap.length columnCount columnIndex
  let byteValue ← Span.get bitmap (columnIndex / 8)
  return bitmap.set (columnIndex / 8) (byteValue &&& ~~~nullBitMask columnIndex)

structure PhysicalColumnSpec where
  type : PhysicalType
  nullable : Bool
deriving DecidableEq

structure PhysicalColumnLayout where
  type : PhysicalType
  nullable : Bool
  fixedOffset : ℕ
  fixedWidth : ℕ
  nullBitIndex : ℕ
deriving DecidableEq

structure VarlenValueSize where
  length : ℕ
  isNull : Bool

structure TupleSizePlan where
  varlenPayloadSize : ℕ
  totalSize : ℕ

inductive TupleSizePlanningError
  | varlenValueCountMismatch | varcharLengthTooLarge | sizeOverflow | tupleTooLarge
deriving DecidableEq

structure TupleSizePlanningFailure where
  code : TupleSizePlanningError
  varlenIndex : ℕ := 0

inductive TuplePhysicalLayoutBuildError
  | invalidPhysicalType | nullBitmapTooLarge | sizeOverflow | tupleTooLarge
deriving DecidableEq

structure TuplePhysicalLayoutBuildFailure where
  code : TuplePhysicalLayoutBuildError
  columnIndex : ℕ := 0

structure TuplePhysicalLayout where
  schemaVersion : SchemaVer
  columns : List PhysicalColumnLayout
  nullBitmapBytes : UInt16
  fixedAreaOffset : ℕ
  fixedAreaSize : ℕ
  varlenPayloadOffset : ℕ
  varlenColumnCount : ℕ
  hasNullableColumns : Bool
deriving DecidableEq

/-- A sum of two `size_t`. -/
def checkedAdd (left right : ℕ) : Option ℕ :=
  if 2 ^ 64 - 1 - left < right then none else some (left + right)

namespace TuplePhysicalLayout

variable (layout : TuplePhysicalLayout)

def columnCount : ℕ := layout.columns.length
def minimumTupleSize : ℕ := layout.varlenPayloadOffset
def hasVarlenColumns : Bool := layout.varlenColumnCount != 0

/-- The loop of `planTupleSize` from the value at `index` on. -/
def planPayload : ℕ → List VarlenValueSize → ℕ → Except TupleSizePlanningFailure ℕ
  | _, [], payloadSize => .ok payloadSize
  | index, value :: values, payloadSize =>
    if value.isNull then planPayload (index + 1) values payloadSize
    else do
      Check.require (value.length ≤ 0xFFFFFFFF) ⟨.varcharLengthTooLarge, index⟩
      let payloadSize ← Check.present (checkedAdd payloadSize value.length) ⟨.sizeOverflow, index⟩
      planPayload (index + 1) values payloadSize

def planTupleSize (varlenValues : List VarlenValueSize) :
    Except TupleSizePlanningFailure TupleSizePlan := do
  Check.require (varlenValues.length = layout.varlenColumnCount) ⟨.varlenValueCountMismatch, 0⟩
  let payloadSize ← planPayload 0 varlenValues 0
  let totalSize ← Check.present (checkedAdd layout.varlenPayloadOffset payloadSize)
    ⟨.sizeOverflow, 0⟩
  Check.require (totalSize ≤ heapPageMaxRawTupleSize) ⟨.tupleTooLarge, 0⟩
  return ⟨payloadSize, totalSize⟩

/-- One round of the loop of `buildTuplePhysicalLayout`. -/
def addColumn (index : ℕ) (column : PhysicalColumnSpec) :
    Except TuplePhysicalLayoutBuildFailure TuplePhysicalLayout := do
  let width ← Check.present (physicalTypeWidth column.type) ⟨.invalidPhysicalType, index⟩
  let fixedOffset ← Check.present (checkedAdd layout.fixedAreaOffset layout.fixedAreaSize)
    ⟨.sizeOverflow, index⟩
  let fixedAreaSize ← Check.present (checkedAdd layout.fixedAreaSize width) ⟨.sizeOverflow, index⟩
  return { layout with
    fixedAreaSize := fixedAreaSize
    columns := layout.columns ++ [⟨column.type, column.nullable, fixedOffset, width, index⟩]
    hasNullableColumns := layout.hasNullableColumns || column.nullable
    varlenColumnCount := layout.varlenColumnCount + if column.type = .varchar then 1 else 0 }

def addColumns : TuplePhysicalLayout → ℕ → List PhysicalColumnSpec →
    Except TuplePhysicalLayoutBuildFailure TuplePhysicalLayout
  | layout, _, [] => .ok layout
  | layout, index, column :: columns => do
    let layout ← layout.addColumn index column
    layout.addColumns (index + 1) columns

end TuplePhysicalLayout

def buildTuplePhysicalLayout (columns : List PhysicalColumnSpec) (schemaVersion : SchemaVer) :
    Except TuplePhysicalLayoutBuildFailure TuplePhysicalLayout := do
  let bitmapBytes ← Check.present (nullBitmapBytes columns.length) ⟨.nullBitmapTooLarge, 0⟩
  let fixedAreaOffset ← Check.present (checkedAdd tupleHeaderEncodedSize bitmapBytes.toNat)
    ⟨.sizeOverflow, 0⟩
  let layout ← TuplePhysicalLayout.addColumns
    ⟨schemaVersion, [], bitmapBytes, fixedAreaOffset, 0, tupleHeaderEncodedSize, 0, false⟩ 0 columns
  let varlenPayloadOffset ← Check.present (checkedAdd layout.fixedAreaOffset layout.fixedAreaSize)
    ⟨.sizeOverflow, 0⟩
  Check.require (varlenPayloadOffset ≤ heapPageMaxRawTupleSize) ⟨.tupleTooLarge, 0⟩
  return { layout with varlenPayloadOffset := varlenPayloadOffset }

lemma checkedAdd_eq_some {a b c : ℕ} (ha : a < 2 ^ 64) :
    checkedAdd a b = some c ↔ c = a + b ∧ c < 2 ^ 64 := by
  rw [checkedAdd]
  split
  · simp
    omega
  · rw [Option.some_inj]
    omega

lemma nullBitmapBytes_eq_some {n : ℕ} {bytes : UInt16} (h : nullBitmapBytes n = some bytes) :
    bytes.toNat = (n + 7) / 8 := by
  have hn : (n / 8 + if n % 8 ≠ 0 then 1 else 0) = (n + 7) / 8 := by
    split <;> omega
  simp only [nullBitmapBytes, hn] at h
  by_cases hb : 0xFFFF < (n + 7) / 8
  · rw [if_pos hb] at h
    cases h
  · rw [if_neg hb] at h
    obtain rfl := Option.some.inj h
    rw [UInt16.toNat_ofNat_of_lt' (by simp only [UInt16.size]; omega)]

def PhysicalColumnLayout.spec (column : PhysicalColumnLayout) : PhysicalColumnSpec :=
  ⟨column.type, column.nullable⟩

def totalWidth (columns : List PhysicalColumnLayout) : ℕ := (columns.map (·.fixedWidth)).sum

/-- The cells of the columns follow one another from `offset` on. -/
def Laid : ℕ → List PhysicalColumnLayout → Prop
  | _, [] => True
  | offset, column :: columns => physicalTypeWidth column.type = some column.fixedWidth ∧
    column.fixedOffset = offset ∧ Laid (offset + column.fixedWidth) columns

lemma laid_append {offset : ℕ} {first second : List PhysicalColumnLayout} :
    Laid offset (first ++ second) ↔
      Laid offset first ∧ Laid (offset + totalWidth first) second := by
  induction first generalizing offset with
  | nil => simp [Laid, totalWidth]
  | cons column first ih => simp [Laid, ih, totalWidth, and_assoc, Nat.add_assoc]

def varcharCount (columns : List PhysicalColumnSpec) : ℕ :=
  columns.countP fun column => column.type = .varchar

/-- What `buildTuplePhysicalLayout` guarantees. -/
structure Built (columns : List PhysicalColumnSpec) (schemaVersion : SchemaVer)
    (layout : TuplePhysicalLayout) : Prop where
  version : layout.schemaVersion = schemaVersion
  specs : layout.columns.map PhysicalColumnLayout.spec = columns
  bitmap : nullBitmapBytes columns.length = some layout.nullBitmapBytes
  area : layout.fixedAreaOffset = tupleHeaderEncodedSize + layout.nullBitmapBytes.toNat
  laid : Laid layout.fixedAreaOffset layout.columns
  size : layout.fixedAreaSize = totalWidth layout.columns
  payload : layout.varlenPayloadOffset = layout.fixedAreaOffset + layout.fixedAreaSize
  bound : layout.varlenPayloadOffset ≤ heapPageMaxRawTupleSize
  varlen : layout.varlenColumnCount = varcharCount columns

section Build

variable {layout layout' : TuplePhysicalLayout} {index : ℕ} {columns : List PhysicalColumnSpec}

lemma addColumns_eq_ok (h : layout.addColumns index columns = .ok layout')
    (ho : layout.fixedAreaOffset < 2 ^ 64) (hs : layout.fixedAreaSize < 2 ^ 64) :
    ∃ added : List PhysicalColumnLayout, layout'.columns = layout.columns ++ added ∧
      added.map PhysicalColumnLayout.spec = columns ∧
      Laid (layout.fixedAreaOffset + layout.fixedAreaSize) added ∧
      layout'.fixedAreaSize = layout.fixedAreaSize + totalWidth added ∧
      layout'.fixedAreaSize < 2 ^ 64 ∧
      layout'.varlenColumnCount = layout.varlenColumnCount + varcharCount columns ∧
      layout'.schemaVersion = layout.schemaVersion ∧
      layout'.nullBitmapBytes = layout.nullBitmapBytes ∧
      layout'.fixedAreaOffset = layout.fixedAreaOffset := by
  induction columns generalizing layout index with
  | nil =>
    obtain rfl := Except.ok.inj h
    exact ⟨[], by simp, rfl, trivial, by simp [totalWidth], hs, by simp [varcharCount], rfl, rfl, rfl⟩
  | cons column columns ih =>
    rw [TuplePhysicalLayout.addColumns, Check.bind_eq_ok] at h
    obtain ⟨next, hnext, h⟩ := h
    simp only [TuplePhysicalLayout.addColumn, Check.present_bind, checkedAdd_eq_some ho,
      checkedAdd_eq_some hs] at hnext
    obtain ⟨width, hw, offset, ⟨rfl, -⟩, size, ⟨rfl, hlt⟩, hnext⟩ := hnext
    obtain rfl := Except.ok.inj hnext
    obtain ⟨added, hc, hspec, hl, hsize, hbound, hv, hrest⟩ := ih h ho hlt
    refine ⟨_ :: added, by rw [hc, List.append_assoc]; rfl, ?_, ?_, ?_, hbound, ?_, hrest⟩
    · simp [hspec, PhysicalColumnLayout.spec]
    · exact ⟨hw, rfl, by simpa only [Nat.add_assoc] using hl⟩
    · simpa [totalWidth, Nat.add_assoc] using hsize
    · rw [hv, varcharCount, varcharCount, List.countP_cons]
      simp
      omega

theorem buildTuplePhysicalLayout_built {schemaVersion : SchemaVer}
    (h : buildTuplePhysicalLayout columns schemaVersion = .ok layout) :
    Built columns schemaVersion layout := by
  simp only [buildTuplePhysicalLayout, Check.present_bind,
    checkedAdd_eq_some (show tupleHeaderEncodedSize < 2 ^ 64 by decide)] at h
  obtain ⟨bytes, hb, offset, ⟨rfl, ho⟩, h⟩ := h
  rw [Check.bind_eq_ok] at h
  obtain ⟨filled, hf, h⟩ := h
  simp only [Check.present_bind, Check.require_bind] at h
  obtain ⟨payload, hp, hbound, h⟩ := h
  obtain rfl := Except.ok.inj h
  obtain ⟨added, hc, hspec, hl, hsize, hlt, hv, hver, hbytes, harea⟩ :=
    addColumns_eq_ok hf ho (show 0 < 2 ^ 64 by decide)
  dsimp only at hc hl hsize hv hver hbytes harea
  rw [checkedAdd_eq_some (by rw [harea]; exact ho)] at hp
  obtain ⟨rfl, -⟩ := hp
  rw [List.nil_append] at hc
  constructor
  · exact hver
  · rw [hc, hspec]
  · rw [hbytes]
    exact hb
  · rw [harea, hbytes]
  · rw [hc, harea]
    exact hl
  · rw [hsize, hc, Nat.zero_add]
  · rfl
  · exact hbound
  · rw [hv, Nat.zero_add]

end Build

end DBlusBlus
