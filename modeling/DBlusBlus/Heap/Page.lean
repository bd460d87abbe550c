import Mathlib.Data.List.Sort
import DBlusBlus.Page.Access
import DBlusBlus.Tuple.Codec

/-! The operations on a heap page. -/

namespace DBlusBlus

open Span

abbrev maxHeapPageSlotCount : ℕ :=
  (pageSize - heapPageSlotDirectoryOffset) / heapPageSlotEntryEncodedSize

structure Rid where
  page : PageId
  slot : SlotId
deriving DecidableEq

inductive HeapPageValidationError
  | none | commonHeaderDecodeFailed | wrongPageType | wrongPageNumber | invalidPageNumber
  | wrongHeaderSize | unsupportedFormatVersion | nonzeroCommonFlags | nonzeroCommonReserved
  | heapHeaderDecodeFailed | nonzeroHeapReserved | lowerBeforeHeader | upperAfterPage
  | lowerAfterUpper | slotDirectoryOutOfBounds | slotCountLowerMismatch | invalidSlotState
  | unsupportedReservedState | nonzeroSlotAux | emptyNormalTuple | noncanonicalDeadSlot
  | retainedTupleOutOfBounds | overlappingTupleRanges | unresolvedSchemaVersion | invalidTuple
  | invalidTupleTransactionFields | invalidPreviousVersionPointer | noncanonicalUnusedSlot
  | invalidFreeSlotHead | invalidFreeSlotLink | freeSlotCycle | freeSlotMembershipMismatch
deriving DecidableEq

structure HeapPageHeaders where
  common : CommonPageHeader
  heap : HeapPageHeader
deriving DecidableEq

structure HeapPageValidationFailure where
  code : HeapPageValidationError
  slotId : SlotId := invalidSlotId
  otherSlotId : SlotId := invalidSlotId
  tupleError : TupleCodecError := .none
  tupleHeaderError : TupleHeaderDecodeError := .none
deriving DecidableEq

inductive HeapPageInsertError
  | pageInvalid | tupleTooLarge | invalidTuple | insufficientSpace | slotIdExhausted
deriving DecidableEq

structure HeapPageInsertFailure where
  code : HeapPageInsertError
  pageError : HeapPageValidationError := .none
  tupleError : HeapPageValidationError := .none
deriving DecidableEq

inductive HeapPageMarkDeadError
  | pageInvalid | slotOutOfRange | invalidSlotState | alreadyDead
deriving DecidableEq

structure HeapPageMarkDeadFailure where
  code : HeapPageMarkDeadError
  pageError : HeapPageValidationError := .none
deriving DecidableEq

inductive HeapPageCompactError
  | pageInvalid | unsupportedSlotState
deriving DecidableEq

structure HeapPageCompactFailure where
  code : HeapPageCompactError
  pageError : HeapPageValidationError := .none
  slotId : SlotId := invalidSlotId
deriving DecidableEq

inductive HeapPageInitializeError
  | invalidPageNumber
deriving DecidableEq

/-- Layouts by schema version; only `buildTuplePhysicalLayout` makes layouts. -/
structure HeapTupleSchemaHistory where
  layouts : List TuplePhysicalLayout
  built : ∀ layout ∈ layouts,
    ∃ columns version, buildTuplePhysicalLayout columns version = .ok layout

def HeapTupleSchemaHistory.resolve (history : HeapTupleSchemaHistory) (schemaVersion : SchemaVer) :
    Option TuplePhysicalLayout :=
  if schemaVersion = ⟨0⟩ then none
  else history.layouts.find? fun layout => layout.schemaVersion = schemaVersion

def IsValidHeapPageNumber (pageNo : PageNo) : Prop := pageNo ≠ 0 ∧ pageNo ≠ invalidPageNo

instance (pageNo : PageNo) : Decidable (IsValidHeapPageNumber pageNo) :=
  inferInstanceAs (Decidable (_ ∧ _))

def validateSlotDescriptor (slot : HeapSlotEntry) (upper : UInt16) : HeapPageValidationError :=
  let retained :=
    if slot.tupleOffset.toNat < upper.toNat ∨
        pageSize < slot.tupleOffset.toNat + slot.tupleLength.toNat then .retainedTupleOutOfBounds
    else .none
  match slot.state with
  | .unused =>
    if slot.tupleOffset ≠ 0 ∨ slot.tupleLength ≠ 0 then .noncanonicalUnusedSlot else .none
  | .redirectReserved => .unsupportedReservedState
  | .dead =>
    if slot.aux ≠ 0 then .nonzeroSlotAux
    else if slot.tupleOffset = 0 ∧ slot.tupleLength = 0 then .none
    else if slot.tupleOffset = 0 ∨ slot.tupleLength = 0 then .noncanonicalDeadSlot
    else retained
  | .normal =>
    if slot.aux ≠ 0 then .nonzeroSlotAux
    else if slot.tupleLength = 0 then .emptyNormalTuple
    else retained

structure TupleCheck where
  error : HeapPageValidationError
  tupleError : TupleCodecError := .none
  tupleHeaderError : TupleHeaderDecodeError := .none
deriving DecidableEq

/-- The tuple as it is, or will be, stored at `rid`. -/
def validateTupleForSlot (tuple : List UInt8) (schemaHistory : HeapTupleSchemaHistory) (rid : Rid)
    (slotCount : UInt16) : Except (Exit TupleCheck) Unit := do
  let header ← report (fun e => ⟨.invalidTuple, .malformedTuple, e⟩) (decodeTupleHeader tuple)
  let layout ← Check.present (schemaHistory.resolve header.schemaVersion)
    (.error ⟨.unresolvedSchemaVersion, .none, .none⟩)
  let _ ← report (fun failure => ⟨.invalidTuple, failure.code, failure.headerError⟩)
    (validateTuple layout tuple)
  Check.require (header.xmin ≠ invalidTxnId ∧ header.xmax ≠ frozenTxnId ∧
    (header.xmax ≠ invalidTxnId ∨ header.cmax = ⟨0⟩))
    (.error ⟨.invalidTupleTransactionFields, .none, .none⟩)
  Check.require (header.prevPageNo = invalidPageNo ∨ header.prevPageNo ≠ 0 ∧
    ¬ (header.prevPageNo = rid.page.pageNo ∧ header.prevSlot = rid.slot) ∧
    ¬ (header.prevPageNo = rid.page.pageNo ∧ slotCount ≤ header.prevSlot))
    (.error ⟨.invalidPreviousVersionPointer, .none, .none⟩)

def validateCommonHeader (header : CommonPageHeader) (expectedPageNo : PageNo) :
    HeapPageValidationError :=
  if header.pageType ≠ PageType.heapData then .wrongPageType
  else if header.pageNo ≠ expectedPageNo then .wrongPageNumber
  else if ¬ IsValidHeapPageNumber expectedPageNo then .invalidPageNumber
  else if header.headerSize ≠ UInt16.ofNat heapPageTotalHeaderSize then .wrongHeaderSize
  else if header.formatVersion ≠ heapPageFormatVersion then .unsupportedFormatVersion
  else if header.flags ≠ 0 then .nonzeroCommonFlags
  else if header.reserved16 ≠ 0 then .nonzeroCommonReserved
  else .none

def validateHeapHeaderGeometry (header : HeapPageHeader) : HeapPageValidationError :=
  let slotDirectorySize := header.slotCount.toNat * heapPageSlotEntryEncodedSize
  if header.reserved ≠ 0 then .nonzeroHeapReserved
  else if header.lower.toNat < heapPageTotalHeaderSize then .lowerBeforeHeader
  else if pageSize < header.upper.toNat then .upperAfterPage
  else if header.upper < header.lower then .lowerAfterUpper
  else if pageSize - heapPageSlotDirectoryOffset < slotDirectorySize then .slotDirectoryOutOfBounds
  else if header.lower.toNat ≠ heapPageSlotDirectoryOffset + slotDirectorySize then
    .slotCountLowerMismatch
  else .none

structure SlotDirectory where
  slots : List HeapSlotEntry := []
  retainedOrder : List SlotId := []
  unusedSlots : List Bool := List.replicate maxHeapPageSlotCount false

def slotFailure (error : HeapPageValidationError) (slotId : SlotId) : HeapPageValidationFailure :=
  { code := error, slotId := slotId }

def slotDecodeError : HeapSlotEntryDecodeError → HeapPageValidationError
  | .invalidSlotState => .invalidSlotState
  | .bufferTooSmall => .slotDirectoryOutOfBounds

def slotOffset (index : ℕ) : ℕ := heapPageSlotDirectoryOffset + index * heapPageSlotEntryEncodedSize

def readSlot (bytes : PageBytes) (index : ℕ) :
    Except (Exit HeapSlotEntryDecodeError) HeapSlotEntry := do
  let entry ← bytes.read (slotOffset index) heapPageSlotEntryEncodedSize
  (decodeHeapSlotEntry entry).mapError .error

section Passes

variable (bytes : PageBytes) (upper : UInt16)

/-- The loop of `DecodeSlotDirectory`, with `remaining` slots from `index` on. -/
def decodeSlots : (remaining index : ℕ) → SlotDirectory →
    Except (Exit HeapPageValidationFailure) SlotDirectory
  | 0, _, directory => .ok directory
  | remaining + 1, index, directory => do
    let slotId := UInt16.ofNat index
    let slot ← report (fun e => slotFailure (slotDecodeError e) slotId) (readSlot bytes index)
    let slots ← Span.push maxHeapPageSlotCount directory.slots slot
    Check.require (validateSlotDescriptor slot upper = .none)
      (.error (slotFailure (validateSlotDescriptor slot upper) slotId))
    if slot.state = .unused then
      let unusedSlots ← Span.write directory.unusedSlots index [true]
      decodeSlots remaining (index + 1) ⟨slots, directory.retainedOrder, unusedSlots⟩
    else if slot.tupleLength ≠ 0 then
      let retainedOrder ← Span.push maxHeapPageSlotCount directory.retainedOrder slotId
      decodeSlots remaining (index + 1) ⟨slots, retainedOrder, directory.unusedSlots⟩
    else decodeSlots remaining (index + 1) ⟨slots, directory.retainedOrder, directory.unusedSlots⟩

/-- A retained range with its slot, in the order of the sort key. -/
structure RetainedRange where
  tupleOffset : UInt16
  tupleLength : UInt16
  slotId : SlotId
deriving DecidableEq

namespace RetainedRange

def Le (left right : RetainedRange) : Prop :=
  left.tupleOffset < right.tupleOffset ∨ left.tupleOffset = right.tupleOffset ∧
    (left.tupleLength < right.tupleLength ∨
      left.tupleLength = right.tupleLength ∧ left.slotId ≤ right.slotId)

instance : DecidableRel Le := fun _ _ => inferInstanceAs (Decidable (_ ∨ _))

def stop (range : RetainedRange) : ℕ := range.tupleOffset.toNat + range.tupleLength.toNat

end RetainedRange

def retainedRanges (slots : List HeapSlotEntry) :
    List SlotId → Except (Exit HeapPageValidationFailure) (List RetainedRange)
  | [] => .ok []
  | slotId :: retained => do
    let slot ← Span.get slots slotId.toNat
    let ranges ← retainedRanges slots retained
    return ⟨slot.tupleOffset, slot.tupleLength, slotId⟩ :: ranges

/-- Compares each range with the one before it. -/
def checkNeighbours : List RetainedRange → Except (Exit HeapPageValidationFailure) Unit
  | previous :: current :: ranges => do
    Check.require (previous.stop ≤ current.tupleOffset.toNat)
      (.error { code := .overlappingTupleRanges, slotId := current.slotId,
                otherSlotId := previous.slotId })
    checkNeighbours (current :: ranges)
  | _ => .ok ()

def checkRetainedRangesDisjoint (directory : SlotDirectory) :
    Except (Exit HeapPageValidationFailure) Unit := do
  let ranges ← retainedRanges directory.slots directory.retainedOrder
  checkNeighbours (ranges.insertionSort RetainedRange.Le)

section Tuples

variable (pageId : PageId) (schemaHistory : HeapTupleSchemaHistory) (slotCount : UInt16)
  (directory : SlotDirectory)

/-- The loop of `ValidateRetainedTuples`, with `remaining` slots from `index` on. -/
def validateRetainedTuples : (remaining index : ℕ) → Except (Exit HeapPageValidationFailure) Unit
  | 0, _ => .ok ()
  | remaining + 1, index => do
    let slot ← Span.get directory.slots index
    if slot.state = .unused ∨ slot.tupleLength = 0 then
      validateRetainedTuples remaining (index + 1)
    else
      let slotId := UInt16.ofNat index
      let tuple ← bytes.read slot.tupleOffset.toNat slot.tupleLength.toNat
      report (fun check => ⟨check.error, slotId, invalidSlotId, check.tupleError,
        check.tupleHeaderError⟩) (validateTupleForSlot tuple schemaHistory ⟨pageId, slotId⟩ slotCount)
      validateRetainedTuples remaining (index + 1)

def isUnused (slotId : SlotId) : Except (Exit HeapPageValidationFailure) Bool :=
  if slotId < slotCount then Span.get directory.unusedSlots slotId.toNat else .ok false

/-- The first loop of `ValidateFreeSlotChain`. -/
def checkFreeSlotLinks : (remaining index : ℕ) → Except (Exit HeapPageValidationFailure) Unit
  | 0, _ => .ok ()
  | remaining + 1, index => do
    if ← Span.get directory.unusedSlots index then
      let slot ← Span.get directory.slots index
      if slot.aux ≠ invalidSlotId then
        let linked ← isUnused slotCount directory slot.aux
        Check.require (linked = true)
          (.error (slotFailure .invalidFreeSlotLink (UInt16.ofNat index)))
        checkFreeSlotLinks remaining (index + 1)
      else checkFreeSlotLinks remaining (index + 1)
    else checkFreeSlotLinks remaining (index + 1)

/-- The walk along the chain. A slot is marked in every round, so `maxHeapPageSlotCount + 1` rounds
are enough. -/
def walkFreeSlots (slots : List HeapSlotEntry) :
    (rounds : ℕ) → SlotId → List Bool → Except (Exit HeapPageValidationFailure) (List Bool)
  | 0, _, _ => .error .fault
  | rounds + 1, current, visited =>
    if current = invalidSlotId then .ok visited
    else do
      let seen ← Span.get visited current.toNat
      Check.require (seen = false) (.error (slotFailure .freeSlotCycle current))
      let visited ← Span.write visited current.toNat [true]
      let slot ← Span.get slots current.toNat
      walkFreeSlots slots rounds slot.aux visited

/-- The last loop of `ValidateFreeSlotChain`. -/
def checkMembership (visited : List Bool) :
    (remaining index : ℕ) → Except (Exit HeapPageValidationFailure) Unit
  | 0, _ => .ok ()
  | remaining + 1, index => do
    let unused ← Span.get directory.unusedSlots index
    let seen ← Span.get visited index
    Check.require (¬ (unused = true ∧ seen = false))
      (.error (slotFailure .freeSlotMembershipMismatch (UInt16.ofNat index)))
    checkMembership visited remaining (index + 1)

def validateFreeSlotChain (freeSlotHead : SlotId) :
    Except (Exit HeapPageValidationFailure) Unit := do
  checkFreeSlotLinks slotCount directory slotCount.toNat 0
  if freeSlotHead ≠ invalidSlotId then
    let linked ← isUnused slotCount directory freeSlotHead
    Check.require (linked = true) (.error (slotFailure .invalidFreeSlotHead freeSlotHead))
  let visited ← walkFreeSlots directory.slots (maxHeapPageSlotCount + 1) freeSlotHead
    (List.replicate maxHeapPageSlotCount false)
  if visited ≠ directory.unusedSlots then checkMembership directory visited slotCount.toNat 0
  else return ()

end Tuples

end Passes

end DBlusBlus
