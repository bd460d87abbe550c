import DBlusBlus.Tuple.Header

/-! Encoding, validating and decoding tuples. -/

namespace DBlusBlus

open Span

structure VarcharDescriptor where
  payloadOffset : UInt32 := 0
  payloadLength : UInt32 := 0
deriving DecidableEq

inductive VarcharDescriptorCodecError
  | bufferTooSmall
deriving DecidableEq

inductive TupleValue
  | null
  | boolean (value : Bool)
  | int32 (value : Int32)
  | int64 (value : Int64)
  | float64 (bits : UInt64)
  | date (value : Int32)
  | timestamp (value : Int64)
  | varchar (bytes : List UInt8)
deriving DecidableEq

inductive FixedScalarCodecError
  | destinationTooSmall | sourceTooSmall | typeMismatch | unsupportedVarlenType
  | invalidPhysicalType | invalidBoolean
deriving DecidableEq

structure TupleVersionMetadata where
  xmin : TxnId := invalidTxnId
  xmax : TxnId := invalidTxnId
  cmin : CommandId := ⟨0⟩
  cmax : CommandId := ⟨0⟩
  prevPageNo : PageNo := invalidPageNo
  prevSlot : SlotId := invalidSlotId
deriving DecidableEq

inductive TupleCodecError
  | none | columnCountMismatch | columnOutOfRange | typeMismatch | nullNotAllowed
  | varcharLengthTooLarge | tupleTooLarge | invalidHeaderMetadata | malformedTuple
  | schemaVersionMismatch | invalidBoolean | flagBitmapMismatch | varlenFlagMismatch
  | invalidVarlenDescriptor | varlenOffsetMismatch | trailingBytes
deriving DecidableEq

structure TupleCodecFailure where
  code : TupleCodecError
  columnIndex : ℕ := 0
  headerError : TupleHeaderDecodeError := .none
deriving DecidableEq

def isNullValue : TupleValue → Bool
  | .null => true
  | _ => false

def valueMatchesType : PhysicalType → TupleValue → Bool
  | .boolean, .boolean _ => true
  | .int32, .int32 _ => true
  | .int64, .int64 _ => true
  | .float64, .float64 _ => true
  | .date, .date _ => true
  | .timestamp, .timestamp _ => true
  | .varchar, .varchar _ => true
  | _, _ => false

def tupleErrorFromScalar : FixedScalarCodecError → TupleCodecError
  | .typeMismatch => .typeMismatch
  | .unsupportedVarlenType => .malformedTuple
  | .invalidBoolean => .invalidBoolean
  | .destinationTooSmall | .sourceTooSmall | .invalidPhysicalType => .malformedTuple

def tupleErrorFromSizePlanning : TupleSizePlanningError → TupleCodecError
  | .varcharLengthTooLarge => .varcharLengthTooLarge
  | .sizeOverflow | .tupleTooLarge => .tupleTooLarge
  | .varlenValueCountMismatch => .malformedTuple

/-- The column of a VARCHAR value, counted from `columnIndex` on; past the end for no such value. -/
def varlenSchemaColumnIndex : List PhysicalColumnLayout → ℕ → ℕ → ℕ
  | [], _, columnIndex => columnIndex
  | column :: columns, varlenIndex, columnIndex =>
    if column.type ≠ .varchar then varlenSchemaColumnIndex columns varlenIndex (columnIndex + 1)
    else if varlenIndex = 0 then columnIndex
    else varlenSchemaColumnIndex columns (varlenIndex - 1) (columnIndex + 1)

def checkedDescriptorEnd (descriptor : VarcharDescriptor) : Option UInt32 :=
  if 0xFFFFFFFF - descriptor.payloadOffset < descriptor.payloadLength then none
  else some (descriptor.payloadOffset + descriptor.payloadLength)

def unusedBitmapBitMask (columnCount : ℕ) : UInt8 :=
  let usedBits := columnCount % 8
  if usedBits = 0 then 0 else UInt8.ofNat (0xFF <<< usedBits)

def encodeVarcharDescriptor (destination : List UInt8) (descriptor : VarcharDescriptor) :
    Except (Exit VarcharDescriptorCodecError) (List UInt8) := do
  Check.require (varcharDescriptorEncodedSize ≤ destination.length) (.error .bufferTooSmall)
  let encoded := List.replicate varcharDescriptorEncodedSize 0
  let encoded ← Check.present (writeSubspan encoded 0 4
    (encodeLittleEndian 4 · descriptor.payloadOffset.toBitVec)) (.error .bufferTooSmall)
  let encoded ← Check.present (writeSubspan encoded 4 4
    (encodeLittleEndian 4 · descriptor.payloadLength.toBitVec)) (.error .bufferTooSmall)
  Span.write destination 0 encoded

def decodeVarcharDescriptor (source : List UInt8) :
    Except (Exit VarcharDescriptorCodecError) VarcharDescriptor := do
  Check.require (varcharDescriptorEncodedSize ≤ source.length) (.error .bufferTooSmall)
  let payloadOffset ← readU32 source 0 .bufferTooSmall
  let payloadLength ← readU32 source 4 .bufferTooSmall
  return ⟨payloadOffset, payloadLength⟩

/-- `EncodeLittleEndian` into `destination.first(k)`. -/
def encodeFirst {w : ℕ} (k : ℕ) (destination : List UInt8) (bits : BitVec w) :
    Except (Exit FixedScalarCodecError) (List UInt8) := do
  let first ← Span.read destination 0 k
  let encoded ← Check.present (encodeLittleEndian k first bits) (.error .destinationTooSmall)
  Span.write destination 0 encoded

def encodeFixedScalar (destination : List UInt8) (type : PhysicalType) (value : TupleValue) :
    Except (Exit FixedScalarCodecError) (List UInt8) := do
  let width ← Check.present (physicalTypeWidth type) (.error .invalidPhysicalType)
  Check.require (type ≠ .varchar) (.error .unsupportedVarlenType)
  Check.require (valueMatchesType type value) (.error .typeMismatch)
  Check.require (width ≤ destination.length) (.error .destinationTooSmall)
  match type, value with
  | .boolean, .boolean boolean => Span.write destination 0 [if boolean then 0x01 else 0x00]
  | .int32, .int32 integer => encodeFirst 4 destination integer.toBitVec
  | .int64, .int64 integer => encodeFirst 8 destination integer.toBitVec
  | .float64, .float64 bits => encodeFirst 8 destination bits.toBitVec
  | .date, .date date => encodeFirst 4 destination date.toBitVec
  | .timestamp, .timestamp timestamp => encodeFirst 8 destination timestamp.toBitVec
  | .varchar, _ => .error (.error .unsupportedVarlenType)
  | .unknown _, _ => .error (.error .invalidPhysicalType)
  | _, _ => .error (.error .typeMismatch)

def decodeFixedScalar (type : PhysicalType) (source : List UInt8) :
    Except (Exit FixedScalarCodecError) TupleValue := do
  let width ← Check.present (physicalTypeWidth type) (.error .invalidPhysicalType)
  Check.require (type ≠ .varchar) (.error .unsupportedVarlenType)
  Check.require (width ≤ source.length) (.error .sourceTooSmall)
  match type with
  | .boolean => do
    let encoded ← Span.get source 0
    Check.require (encoded ≤ 1) (.error .invalidBoolean)
    return .boolean (encoded == 1)
  | .int32 => do
    let decoded ← readU32 source 0 .sourceTooSmall
    return .int32 (Int32.ofBitVec decoded.toBitVec)
  | .int64 => do
    let decoded ← readU64 source 0 .sourceTooSmall
    return .int64 (Int64.ofBitVec decoded.toBitVec)
  | .float64 => do
    let decoded ← readU64 source 0 .sourceTooSmall
    return .float64 decoded
  | .date => do
    let decoded ← readU32 source 0 .sourceTooSmall
    return .date (Int32.ofBitVec decoded.toBitVec)
  | .timestamp => do
    let decoded ← readU64 source 0 .sourceTooSmall
    return .timestamp (Int64.ofBitVec decoded.toBitVec)
  | .varchar => .error (.error .unsupportedVarlenType)
  | .unknown _ => .error (.error .invalidPhysicalType)

section Encode

variable (layout : TuplePhysicalLayout)

/-- What the first pass over the values collects. -/
structure ValuePlan where
  hasNulls : Bool := false
  varlenSizes : List VarlenValueSize := []

/-- One round of the first loop of `encodeTuple`. -/
def planValue (index : ℕ) (value : TupleValue) (plan : ValuePlan) :
    Except (Exit TupleCodecFailure) ValuePlan := do
  let column ← Check.present layout.columns[index]? (.error ⟨.malformedTuple, index, .none⟩)
  if isNullValue value then
    Check.require (column.nullable = true) (.error ⟨.nullNotAllowed, index, .none⟩)
    return ⟨true, if column.type = .varchar then plan.varlenSizes ++ [⟨0, true⟩]
      else plan.varlenSizes⟩
  else
    Check.require (valueMatchesType column.type value) (.error ⟨.typeMismatch, index, .none⟩)
    if column.type = .varchar then
      match value with
      | .varchar bytes =>
        return { plan with varlenSizes := plan.varlenSizes ++ [⟨bytes.length, false⟩] }
      | _ => .error (.error ⟨.typeMismatch, index, .none⟩)
    else return plan

def planValues : ℕ → List TupleValue → ValuePlan → Except (Exit TupleCodecFailure) ValuePlan
  | _, [], plan => .ok plan
  | index, value :: values, plan => do
    let plan ← planValue layout index value plan
    planValues (index + 1) values plan

/-- One round of the second loop: the tuple's bytes and the payload cursor. -/
def writeValue (index : ℕ) (value : TupleValue) (tuple : List UInt8) (payloadCursor : ℕ) :
    Except (Exit TupleCodecFailure) (List UInt8 × ℕ) := do
  let malformed : TupleCodecFailure := ⟨.malformedTuple, index, .none⟩
  let column ← Span.get layout.columns index
  if isNullValue value then
    let bitmap ← Span.read tuple tupleHeaderEncodedSize layout.nullBitmapBytes.toNat
    let bitmap ← report (fun _ => malformed) (setNull bitmap layout.columnCount index)
    let tuple ← Span.write tuple tupleHeaderEncodedSize bitmap
    if column.type = .varchar then
      let cell ← Span.read tuple column.fixedOffset column.fixedWidth
      let cell ← report (fun _ => malformed) (encodeVarcharDescriptor cell {})
      let tuple ← Span.write tuple column.fixedOffset cell
      return (tuple, payloadCursor)
    else return (tuple, payloadCursor)
  else if column.type = .varchar then
    match value with
    | .varchar bytes =>
      Check.require (payloadCursor ≤ 0xFFFFFFFF ∧ bytes.length ≤ 0xFFFFFFFF) (.error malformed)
      let descriptor : VarcharDescriptor := ⟨UInt32.ofNat payloadCursor, UInt32.ofNat bytes.length⟩
      let cell ← Span.read tuple column.fixedOffset column.fixedWidth
      let cell ← report (fun _ => malformed) (encodeVarcharDescriptor cell descriptor)
      let tuple ← Span.write tuple column.fixedOffset cell
      Check.require (payloadCursor ≤ tuple.length ∧ bytes.length ≤ tuple.length - payloadCursor)
        (.error malformed)
      let tuple ← Span.write tuple payloadCursor bytes
      return (tuple, payloadCursor + bytes.length)
    | _ => .error (.error malformed)
  else
    let cell ← Span.read tuple column.fixedOffset column.fixedWidth
    let cell ← report (fun e => ⟨tupleErrorFromScalar e, index, .none⟩)
      (encodeFixedScalar cell column.type value)
    let tuple ← Span.write tuple column.fixedOffset cell
    return (tuple, payloadCursor)

/-- The second loop of `encodeTuple`, from the value at `index` on. -/
def writeValues :
    ℕ → List TupleValue → List UInt8 → ℕ → Except (Exit TupleCodecFailure) (List UInt8 × ℕ)
  | _, [], tuple, payloadCursor => .ok (tuple, payloadCursor)
  | index, value :: values, tuple, payloadCursor => do
    let (tuple, payloadCursor) ← writeValue layout index value tuple payloadCursor
    writeValues (index + 1) values tuple payloadCursor

def newTupleHeader (metadata : TupleVersionMetadata) (hasNulls : Bool) : TupleHeader :=
  ⟨metadata.xmin, metadata.xmax, metadata.cmin, metadata.cmax, metadata.prevPageNo,
    metadata.prevSlot, (if hasNulls then tupleFlagHasNulls else 0) |||
      (if layout.hasVarlenColumns then tupleFlagHasVarlen else 0),
    UInt16.ofNat tupleHeaderEncodedSize, layout.nullBitmapBytes, layout.schemaVersion, 0⟩

def planningFailure (failure : TupleSizePlanningFailure) : TupleCodecFailure :=
  ⟨tupleErrorFromSizePlanning failure.code,
    varlenSchemaColumnIndex layout.columns failure.varlenIndex 0, .none⟩

def encodeTuple (metadata : TupleVersionMetadata) (values : List TupleValue) :
    Except (Exit TupleCodecFailure) (List UInt8) := do
  Check.require (values.length = layout.columnCount) (.error ⟨.columnCountMismatch, 0, .none⟩)
  let plan ← planValues layout 0 values {}
  let sizePlan ← (layout.planTupleSize plan.varlenSizes).mapError
    fun failure => .error (planningFailure layout failure)
  let header := newTupleHeader layout metadata plan.hasNulls
  let encodedHeader ← Check.present
    (encodeTupleHeader (List.replicate tupleHeaderEncodedSize 0) header)
    (.error ⟨.invalidHeaderMetadata, 0, .none⟩)
  let tuple ← Span.write (List.replicate sizePlan.totalSize 0) 0 encodedHeader
  let (tuple, payloadCursor) ← writeValues layout 0 values tuple layout.varlenPayloadOffset
  Check.require (payloadCursor = sizePlan.totalSize) (.error ⟨.malformedTuple, 0, .none⟩)
  return tuple

end Encode

section Validate

variable (layout : TuplePhysicalLayout) (tuple bitmap : List UInt8)

/-- The null state of a column, as the loops of `validateTuple` read it. -/
def nullState (index : ℕ) : Except (Exit TupleCodecFailure) Bool :=
  report (fun _ => ⟨.malformedTuple, index, .none⟩) (isNull bitmap layout.columnCount index)

/-- The first loop of `validateTuple`, over the columns from `index` on. -/
def scanColumns : ℕ → List PhysicalColumnLayout → Bool → Except (Exit TupleCodecFailure) Bool
  | _, [], hasNulls => .ok hasNulls
  | index, column :: columns, hasNulls => do
    if ← nullState layout bitmap index then
      Check.require (column.nullable = true) (.error ⟨.nullNotAllowed, index, .none⟩)
      scanColumns (index + 1) columns true
    else
      if column.type = .boolean then
        let cell ← Span.read tuple column.fixedOffset column.fixedWidth
        let _ ← report (fun e => ⟨tupleErrorFromScalar e, index, .none⟩)
          (decodeFixedScalar column.type cell)
        scanColumns (index + 1) columns hasNulls
      else scanColumns (index + 1) columns hasNulls

/-- The second loop of `validateTuple`: the offset that the next payload must have. -/
def scanPayloads : ℕ → List PhysicalColumnLayout → ℕ → Except (Exit TupleCodecFailure) ℕ
  | _, [], expectedPayloadOffset => .ok expectedPayloadOffset
  | index, column :: columns, expectedPayloadOffset => do
    if column.type ≠ .varchar then scanPayloads (index + 1) columns expectedPayloadOffset
    else
      let invalid : TupleCodecFailure := ⟨.invalidVarlenDescriptor, index, .none⟩
      let cell ← Span.read tuple column.fixedOffset column.fixedWidth
      let descriptor ← report (fun _ => invalid) (decodeVarcharDescriptor cell)
      if ← nullState layout bitmap index then
        Check.require (descriptor = {}) (.error invalid)
        scanPayloads (index + 1) columns expectedPayloadOffset
      else
        Check.require (layout.varlenPayloadOffset ≤ descriptor.payloadOffset.toNat) (.error invalid)
        let descriptorEnd ← Check.present (checkedDescriptorEnd descriptor) (.error invalid)
        Check.require (descriptor.payloadOffset.toNat ≤ tuple.length ∧
          descriptorEnd.toNat ≤ tuple.length) (.error invalid)
        Check.require (descriptor.payloadOffset.toNat = expectedPayloadOffset)
          (.error ⟨.varlenOffsetMismatch, index, .none⟩)
        scanPayloads (index + 1) columns descriptorEnd.toNat

def validateTuple : Except (Exit TupleCodecFailure) TupleHeader := do
  Check.require (layout.minimumTupleSize ≤ tuple.length) (.error ⟨.malformedTuple, 0, .none⟩)
  Check.require (tuple.length ≤ heapPageMaxRawTupleSize) (.error ⟨.tupleTooLarge, 0, .none⟩)
  let first ← Span.read tuple 0 tupleHeaderEncodedSize
  let header ← report (fun e => ⟨.malformedTuple, 0, e⟩) (decodeTupleHeader first)
  Check.require (header.schemaVersion = layout.schemaVersion)
    (.error ⟨.schemaVersionMismatch, 0, .none⟩)
  Check.require (header.nullBitmapBytes = layout.nullBitmapBytes)
    (.error ⟨.malformedTuple, 0, .none⟩)
  Check.require ((header.tupleFlags &&& tupleFlagHasVarlen != 0) = layout.hasVarlenColumns)
    (.error ⟨.varlenFlagMismatch, 0, .none⟩)
  let bitmap ← Span.read tuple tupleHeaderEncodedSize layout.nullBitmapBytes.toNat
  if bitmap ≠ [] then
    let lastByte ← Span.get bitmap (bitmap.length - 1)
    Check.require (lastByte &&& unusedBitmapBitMask layout.columnCount = 0)
      (.error ⟨.malformedTuple, 0, .none⟩)
  let hasNulls ← scanColumns layout tuple bitmap 0 layout.columns false
  Check.require ((header.tupleFlags &&& tupleFlagHasNulls != 0) = hasNulls)
    (.error ⟨.flagBitmapMismatch, 0, .none⟩)
  let expectedPayloadOffset ←
    scanPayloads layout tuple bitmap 0 layout.columns layout.varlenPayloadOffset
  Check.require (expectedPayloadOffset = tuple.length) (.error ⟨.trailingBytes, 0, .none⟩)
  return header

def decodeTupleValue (columnIndex : ℕ) : Except (Exit TupleCodecFailure) TupleValue := do
  Check.require (columnIndex < layout.columnCount) (.error ⟨.columnOutOfRange, 0, .none⟩)
  let _ ← report (fun failure => ⟨failure.code, 0, failure.headerError⟩)
    (validateTuple layout tuple)
  let bitmap ← Span.read tuple tupleHeaderEncodedSize layout.nullBitmapBytes.toNat
  if ← report (fun _ => ⟨.malformedTuple, 0, .none⟩)
      (isNull bitmap layout.columnCount columnIndex) then
    return .null
  let column ← Span.get layout.columns columnIndex
  let cell ← Span.read tuple column.fixedOffset column.fixedWidth
  if column.type = .varchar then
    let descriptor ← report (fun _ => ⟨.invalidVarlenDescriptor, 0, .none⟩)
      (decodeVarcharDescriptor cell)
    let bytes ← Span.read tuple descriptor.payloadOffset.toNat descriptor.payloadLength.toNat
    return .varchar bytes
  report (fun e => ⟨tupleErrorFromScalar e, 0, .none⟩) (decodeFixedScalar column.type cell)

end Validate

end DBlusBlus
