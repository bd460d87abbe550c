import DBlusBlus.Heap.Page

/-! The heap page controller: validation, insertion, deletion, compaction, lookup. -/

namespace DBlusBlus

open Span

/-- A controller over one page. The page's bytes are the state of its operations. -/
structure HeapPage where
  id : PageId
  schemaHistory : HeapTupleSchemaHistory

inductive TupleChecks
  | all | skip
deriving DecidableEq

namespace PageBytes

variable {ε : Type}

def put (offset : ℕ) (data : List UInt8) : Edit PageBytes ε Unit :=
  Edit.update fun bytes => bytes.write offset data

/-- `memmove` within the page. -/
def move (destination source count : ℕ) : Edit PageBytes ε Unit :=
  Edit.update fun bytes => do
    let data ← bytes.read source count
    bytes.write destination data

end PageBytes

/-- Where every slot's tuple goes after compaction. -/
structure CompactionPlan where
  plannedSlots : List HeapSlotEntry := []
  sourceOffsets : List UInt16 := []
  sourceLengths : List UInt16 := []
  liveOrder : List SlotId := []
  newUpper : ℕ := pageSize

/-- A live slot with its source offset, in the order of the compaction's sort. -/
structure LiveRange where
  sourceOffset : UInt16
  slotId : SlotId
deriving DecidableEq

namespace LiveRange

def Before (left right : LiveRange) : Prop :=
  right.sourceOffset < left.sourceOffset ∨
    left.sourceOffset = right.sourceOffset ∧ left.slotId ≤ right.slotId

instance : DecidableRel Before := fun _ _ => inferInstanceAs (Decidable (_ ∨ _))

end LiveRange

section Plan

variable (bytes : PageBytes)

/-- The first loop of `PlanCompaction`, with `remaining` slots from `index` on. -/
def planSlots : (remaining index : ℕ) → CompactionPlan →
    Except (Exit HeapPageCompactFailure) CompactionPlan
  | 0, _, plan => .ok plan
  | remaining + 1, index, plan => do
    let slotId := UInt16.ofNat index
    let slot ← report (fun e => ⟨.pageInvalid, slotDecodeError e, slotId⟩) (readSlot bytes index)
    let planned := match slot.state with
      | .dead => { slot with tupleOffset := 0, tupleLength := 0 }
      | _ => slot
    let plannedSlots ← Span.push maxHeapPageSlotCount plan.plannedSlots planned
    let sourceOffsets ← Span.push maxHeapPageSlotCount plan.sourceOffsets slot.tupleOffset
    let sourceLengths ← Span.push maxHeapPageSlotCount plan.sourceLengths slot.tupleLength
    match slot.state with
    | .normal =>
      let liveOrder ← Span.push maxHeapPageSlotCount plan.liveOrder slotId
      planSlots remaining (index + 1)
        ⟨plannedSlots, sourceOffsets, sourceLengths, liveOrder, plan.newUpper⟩
    | .dead =>
      planSlots remaining (index + 1)
        ⟨plannedSlots, sourceOffsets, sourceLengths, plan.liveOrder, plan.newUpper⟩
    | .unused | .redirectReserved => .error (.error ⟨.unsupportedSlotState, .none, slotId⟩)

def liveRanges (sourceOffsets : List UInt16) :
    List SlotId → Except (Exit HeapPageCompactFailure) (List LiveRange)
  | [] => .ok []
  | slotId :: live => do
    let sourceOffset ← Span.get sourceOffsets slotId.toNat
    let ranges ← liveRanges sourceOffsets live
    return ⟨sourceOffset, slotId⟩ :: ranges

/-- The second loop of `PlanCompaction`, over the live slots in their order. -/
def packSlots : List SlotId → CompactionPlan → Except (Exit HeapPageCompactFailure) CompactionPlan
  | [], plan => .ok plan
  | slotId :: live, plan => do
    let sourceLength ← Span.get plan.sourceLengths slotId.toNat
    let newUpper := (plan.newUpper + 2 ^ 64 - sourceLength.toNat) % 2 ^ 64
    let sourceOffset ← Span.get plan.sourceOffsets slotId.toNat
    -- "compaction must move tuples toward the page end"
    Check.require (sourceOffset.toNat ≤ newUpper) .fault
    let slot ← Span.get plan.plannedSlots slotId.toNat
    let plannedSlots ← Span.write plan.plannedSlots slotId.toNat
      [{ slot with tupleOffset := UInt16.ofNat newUpper }]
    packSlots live { plan with plannedSlots := plannedSlots, newUpper := newUpper }

def planCompaction (lower : UInt16) (slotCount : UInt16) :
    Except (Exit HeapPageCompactFailure) CompactionPlan := do
  let plan ← planSlots bytes slotCount.toNat 0 {}
  let ranges ← liveRanges plan.sourceOffsets plan.liveOrder
  let liveOrder := (ranges.insertionSort LiveRange.Before).map LiveRange.slotId
  let plan ← packSlots liveOrder { plan with liveOrder := liveOrder, newUpper := pageSize }
  Check.require (¬ plan.newUpper < lower.toNat)
    (.error ⟨.pageInvalid, .lowerAfterUpper, invalidSlotId⟩)
  return plan

end Plan

section Apply

def encodeSlots : (index : ℕ) → List HeapSlotEntry →
    Except (Exit HeapPageCompactFailure) (List (List UInt8))
  | _, [] => .ok []
  | index, slot :: slots => do
    let encoded ← Check.present
      (encodeHeapSlotEntry (List.replicate heapPageSlotEntryEncodedSize 0) slot)
      (.error ⟨.pageInvalid, .none, UInt16.ofNat index⟩)
    let rest ← encodeSlots (index + 1) slots
    return encoded :: rest

def encodeCompactedMetadata (plan : CompactionPlan) (updatedHeader : HeapPageHeader) :
    Except (Exit HeapPageCompactFailure) (List (List UInt8) × List UInt8) := do
  let encodedSlots ← encodeSlots 0 plan.plannedSlots
  let encodedHeader ← Check.present
    (encodeHeapPageHeader (List.replicate heapPageHeaderEncodedSize 0) updatedHeader)
    (.error ⟨.pageInvalid, .none, invalidSlotId⟩)
  return (encodedSlots, encodedHeader)

/-- The first loop of `ApplyCompaction`. -/
def moveTuples (plan : CompactionPlan) : List SlotId → Edit PageBytes HeapPageCompactFailure Unit
  | [] => pure ()
  | slotId :: live => do
    let tupleLength ← Edit.of (Span.get plan.sourceLengths slotId.toNat)
    let planned ← Edit.of (Span.get plan.plannedSlots slotId.toNat)
    let source ← Edit.of (Span.get plan.sourceOffsets slotId.toNat)
    if 0 < tupleLength.toNat ∧ planned.tupleOffset ≠ source then
      PageBytes.move planned.tupleOffset.toNat source.toNat tupleLength.toNat
      moveTuples plan live
    else moveTuples plan live

/-- The second loop of `ApplyCompaction`. -/
def writeSlots : (index : ℕ) → List (List UInt8) → Edit PageBytes HeapPageCompactFailure Unit
  | _, [] => pure ()
  | index, encoded :: encodedSlots => do
    PageBytes.put (slotOffset index) encoded
    writeSlots (index + 1) encodedSlots

def applyCompaction (plan : CompactionPlan) (encodedSlots : List (List UInt8))
    (encodedHeader : List UInt8) : Edit PageBytes HeapPageCompactFailure Unit := do
  moveTuples plan plan.liveOrder
  writeSlots 0 encodedSlots
  PageBytes.put heapPageHeaderOffset encodedHeader

end Apply

namespace HeapPage

variable (page : HeapPage)

def initializePage (pageLsn : UInt64) : Edit PageBytes HeapPageInitializeError Unit := do
  Edit.of (Check.require (IsValidHeapPageNumber page.id.pageNo) (.error .invalidPageNumber))
  set PageBytes.zero
  let bytes ← get
  let commonHeader ← Edit.of (Check.present
    (encodeCommonPageHeader (bytes.slice 0 commonPageHeaderEncodedSize) ⟨PageType.heapData,
      heapPageFormatVersion, 0, pageLsn, 0, UInt16.ofNat heapPageTotalHeaderSize, 0,
      page.id.pageNo⟩) .fault)
  PageBytes.put 0 commonHeader
  let bytes ← get
  let header ← Edit.of (bytes.read heapPageHeaderOffset heapPageHeaderEncodedSize)
  let header ← Edit.of (Check.present (encodeHeapPageHeader header {}) .fault)
  PageBytes.put heapPageHeaderOffset header

section Readers

variable (bytes : PageBytes)

def header {ε : Type} : Except (Exit ε) (Option HeapPageHeader) := do
  let encoded ← bytes.read heapPageHeaderOffset heapPageHeaderEncodedSize
  return decodeHeapPageHeader encoded

def validateWith (tupleChecks : TupleChecks) :
    Except (Exit HeapPageValidationFailure) HeapPageHeaders := do
  let common ← Check.present bytes.header (.error { code := .commonHeaderDecodeFailed })
  Check.require (validateCommonHeader common page.id.pageNo = .none)
    (.error { code := validateCommonHeader common page.id.pageNo })
  let decoded ← header bytes
  let heap ← Check.present decoded (.error { code := .heapHeaderDecodeFailed })
  Check.require (validateHeapHeaderGeometry heap = .none)
    (.error { code := validateHeapHeaderGeometry heap })
  let directory ← decodeSlots bytes heap.upper heap.slotCount.toNat 0 {}
  checkRetainedRangesDisjoint directory
  if tupleChecks = .all then
    validateRetainedTuples bytes page.id page.schemaHistory heap.slotCount directory
      heap.slotCount.toNat 0
  validateFreeSlotChain heap.slotCount directory heap.freeSlotHead
  return ⟨common, heap⟩

def validate : Except (Exit HeapPageValidationFailure) HeapPageHeaders :=
  page.validateWith bytes .all

def validateStructure : Except (Exit HeapPageValidationFailure) HeapPageHeaders :=
  page.validateWith bytes .skip

def tupleBytes {ε : Type} (slotId : SlotId) : Except (Exit ε) (Option (List UInt8)) := do
  match ← attempt (page.validateStructure bytes) with
  | none => return none
  | some validation =>
    if validation.heap.slotCount ≤ slotId then return none
    else
      match ← attempt (readSlot bytes slotId.toNat) with
      | none => return none
      | some slot =>
        if slot.state ≠ .normal then return none
        else
          let tuple ← bytes.read slot.tupleOffset.toNat slot.tupleLength.toNat
          return some tuple

end Readers

def insert (tuple : List UInt8) : Edit PageBytes HeapPageInsertFailure Rid := do
  let bytes ← get
  let validation ← Edit.of (report (fun failure => ⟨.pageInvalid, failure.code, .none⟩)
    (page.validateStructure bytes))
  Edit.of (Check.require (tuple.length ≤ 0xFFFF ∧ tuple.length ≤ heapPageMaxRawTupleSize)
    (.error ⟨.tupleTooLarge, .none, .none⟩))
  let header := validation.heap
  Edit.of (Check.require (header.slotCount ≠ 0xFFFF) (.error ⟨.slotIdExhausted, .none, .none⟩))
  let newSlotId : SlotId := header.slotCount
  Edit.of (report (fun check => ⟨.invalidTuple, .none, check.error⟩)
    (validateTupleForSlot tuple page.schemaHistory ⟨page.id, newSlotId⟩ (newSlotId + 1)))
  let availableSpace := header.upper.toNat - header.lower.toNat
  let requiredSpace := tuple.length + heapPageSlotEntryEncodedSize
  Edit.of (Check.require (requiredSpace ≤ availableSpace)
    (.error ⟨.insufficientSpace, .none, .none⟩))
  let newLower := header.lower.toNat + heapPageSlotEntryEncodedSize
  let newUpper := header.upper.toNat - tuple.length
  Edit.of (Check.require (newLower ≤ 0xFFFF ∧ newUpper ≤ 0xFFFF)
    (.error ⟨.pageInvalid, .slotDirectoryOutOfBounds, .none⟩))
  let slot : HeapSlotEntry := ⟨UInt16.ofNat newUpper, UInt16.ofNat tuple.length, .normal, 0⟩
  let updatedHeader : HeapPageHeader := { header with
    slotCount := header.slotCount + 1
    lower := UInt16.ofNat newLower
    upper := UInt16.ofNat newUpper }
  let encodedSlot ← Edit.of (Check.present
    (encodeHeapSlotEntry (List.replicate heapPageSlotEntryEncodedSize 0) slot)
    (.error ⟨.pageInvalid, .none, .none⟩))
  let encodedHeader ← Edit.of (Check.present
    (encodeHeapPageHeader (List.replicate heapPageHeaderEncodedSize 0) updatedHeader)
    (.error ⟨.pageInvalid, .none, .none⟩))
  PageBytes.put newUpper tuple
  PageBytes.put header.lower.toNat encodedSlot
  PageBytes.put heapPageHeaderOffset encodedHeader
  return ⟨page.id, newSlotId⟩

def markDead (slotId : SlotId) : Edit PageBytes HeapPageMarkDeadFailure Unit := do
  let bytes ← get
  let validation ← Edit.of (report (fun failure => ⟨.pageInvalid, failure.code⟩)
    (page.validateStructure bytes))
  Edit.of (Check.require (slotId < validation.heap.slotCount) (.error ⟨.slotOutOfRange, .none⟩))
  let slot ← Edit.of (report (fun e => ⟨.pageInvalid, slotDecodeError e⟩)
    (readSlot bytes slotId.toNat))
  Edit.of (Check.require (slot.state ≠ .dead) (.error ⟨.alreadyDead, .none⟩))
  Edit.of (Check.require (slot.state = .normal) (.error ⟨.invalidSlotState, .none⟩))
  let encodedSlot ← Edit.of (Check.present
    (encodeHeapSlotEntry (List.replicate heapPageSlotEntryEncodedSize 0) { slot with state := .dead })
    (.error ⟨.pageInvalid, .none⟩))
  PageBytes.put (slotOffset slotId.toNat) encodedSlot

def compact : Edit PageBytes HeapPageCompactFailure Unit := do
  let bytes ← get
  let validation ← Edit.of (report (fun failure => ⟨.pageInvalid, failure.code, invalidSlotId⟩)
    (page.validateStructure bytes))
  let plan ← Edit.of (planCompaction bytes validation.heap.lower validation.heap.slotCount)
  let updatedHeader := { validation.heap with upper := UInt16.ofNat plan.newUpper }
  let encoded ← Edit.of (encodeCompactedMetadata plan updatedHeader)
  applyCompaction plan encoded.1 encoded.2

end HeapPage

end DBlusBlus
