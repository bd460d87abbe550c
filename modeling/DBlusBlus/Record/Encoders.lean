import DBlusBlus.Record.Integer
import DBlusBlus.Fsm.Valid
import DBlusBlus.Tuple.Image

/-! The record encoders with what they leave in their destination. -/

namespace DBlusBlus.Record

open InPlace

def pageIdEncodedSize : ℕ := 12
def ridEncodedSize : ℕ := 16

section Identifiers

def encodePageId (destination : List UInt8) (pageId : PageId) : Written UInt8 :=
  if destination.length < pageIdEncodedSize then ⟨false, destination⟩
  else inOrder [field 0 pageId.fileId.value, field 4 pageId.pageNo] destination

def decodePageId (source : List UInt8) : Option PageId :=
  if source.length < pageIdEncodedSize then none
  else do
    let fileId ← decodeU32 (source.take 4)
    let pageNo ← decodeU64 ((source.drop 4).take 8)
    return ⟨⟨fileId⟩, pageNo⟩

def encodeRid (destination : List UInt8) (rid : Rid) : Written UInt8 :=
  if destination.length < ridEncodedSize then ⟨false, destination⟩
  else inOrder [through 0 pageIdEncodedSize (encodePageId · rid.page), field 12 rid.slot,
    field 14 (0 : UInt16)] destination

def decodeRid (source : List UInt8) : Option Rid :=
  if source.length < ridEncodedSize then none
  else if source[14]? ≠ some 0 ∨ source[15]? ≠ some 0 then none
  else do
    let page ← decodePageId (source.take pageIdEncodedSize)
    let slot ← decodeU16 ((source.drop 12).take 2)
    return ⟨page, slot⟩

end Identifiers

section Headers

def encodeCommonPageHeader (destination : List UInt8) (header : CommonPageHeader) :
    Written UInt8 :=
  if destination.length < commonPageHeaderEncodedSize then ⟨false, destination⟩
  else inOrder [field 0 header.pageType, field 2 header.formatVersion, field 4 header.flags,
    field 8 header.pageLsn, field 16 header.checksumCrc32c, field 20 header.headerSize,
    field 22 header.reserved16, field 24 header.pageNo] destination

def encodeHeapPageHeader (destination : List UInt8) (header : HeapPageHeader) : Written UInt8 :=
  if destination.length < heapPageHeaderEncodedSize then ⟨false, destination⟩
  else inOrder [field 0 header.slotCount, field 2 header.freeSlotHead, field 4 header.lower,
    field 6 header.upper, field 8 header.pruneHint, field 12 header.reserved] destination

/-- A slot entry with any code in place of its state, as its type in the source allows. -/
structure HeapSlotEntry where
  tupleOffset : UInt16
  tupleLength : UInt16
  state : UInt16
  aux : UInt16
deriving DecidableEq

def isValidHeapSlotState (state : UInt16) : Bool :=
  state == HeapSlotState.unused.code || state == HeapSlotState.normal.code ||
    state == HeapSlotState.dead.code || state == HeapSlotState.redirectReserved.code

def encodeHeapSlotEntry (destination : List UInt8) (entry : HeapSlotEntry) : Written UInt8 :=
  if destination.length < heapPageSlotEntryEncodedSize ∨ ¬ isValidHeapSlotState entry.state then
    ⟨false, destination⟩
  else inOrder [field 0 entry.tupleOffset, field 2 entry.tupleLength, field 4 entry.state,
    field 6 entry.aux] destination

def decodeHeapSlotEntry (source : List UInt8) : Except HeapSlotEntryDecodeError HeapSlotEntry := do
  Check.require (heapPageSlotEntryEncodedSize ≤ source.length) .bufferTooSmall
  let tupleOffset ← Check.present (decodeU16 (source.take 2)) .bufferTooSmall
  let tupleLength ← Check.present (decodeU16 ((source.drop 2).take 2)) .bufferTooSmall
  let rawState ← Check.present (decodeU16 ((source.drop 4).take 2)) .bufferTooSmall
  let aux ← Check.present (decodeU16 ((source.drop 6).take 2)) .bufferTooSmall
  Check.require (isValidHeapSlotState rawState) .invalidSlotState
  return ⟨tupleOffset, tupleLength, rawState, aux⟩

def encodeFsmPageHeader (destination : List UInt8) (header : FsmPageHeader) : Written UInt8 :=
  copied destination (DBlusBlus.encodeFsmPageHeader destination header)

def encodeTupleHeader (destination : List UInt8) (header : TupleHeader) : Written UInt8 :=
  copied destination (DBlusBlus.encodeTupleHeader destination header)

def encodeVarcharDescriptor (destination : List UInt8) (descriptor : VarcharDescriptor) :
    Written UInt8 :=
  copied destination (DBlusBlus.encodeVarcharDescriptor destination descriptor).toOption

end Headers

end DBlusBlus.Record
