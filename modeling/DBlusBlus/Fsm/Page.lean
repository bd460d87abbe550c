import DBlusBlus.Heap.Operations

/-! Free space map pages: the categories, the mapping of heap pages to entries, and the page itself. -/

namespace DBlusBlus

open Span

def fsmPageFormatVersion : UInt16 := 1
abbrev fsmPageHeaderOffset : ℕ := 32
abbrev fsmPageHeaderEncodedSize : ℕ := 16
abbrev fsmPageTotalHeaderSize : ℕ := 48
abbrev fsmPageEntriesOffset : ℕ := fsmPageTotalHeaderSize
abbrev fsmPageEntryCapacity : ℕ := pageSize - fsmPageEntriesOffset
abbrev fsmMaxContiguousFreeBytes : ℕ := pageSize - heapPageTotalHeaderSize
abbrev fsmMaxUsableInsertionBytes : ℕ := heapPageMaxRawTupleSize
abbrev fsmCategoryMax : ℕ := 255

/-- `std::numeric_limits<PageNo>::max()`. -/
def maxPageNo : PageNo := 0xFFFFFFFFFFFFFFFF

section Categories

def fsmCategoryForFreeBytes (freeBytes : ℕ) : UInt8 :=
  let boundedFreeBytes := min freeBytes fsmMaxContiguousFreeBytes
  if boundedFreeBytes ≤ heapPageSlotEntryEncodedSize then 0
  else
    let usableBytes :=
      min (boundedFreeBytes - heapPageSlotEntryEncodedSize) fsmMaxUsableInsertionBytes
    UInt8.ofNat (usableBytes * fsmCategoryMax / fsmMaxUsableInsertionBytes)

def fsmCategoryMinimumUsableBytes (category : UInt8) : ℕ :=
  let scaled := category.toNat * fsmMaxUsableInsertionBytes
  (scaled + fsmCategoryMax - 1) / fsmCategoryMax

inductive FsmTupleRequestError
  | tupleTooLarge
deriving DecidableEq

def minimumFsmCategoryForTupleBytes (requiredTupleBytes : ℕ) : Except FsmTupleRequestError UInt8 :=
  if fsmMaxUsableInsertionBytes < requiredTupleBytes then .error .tupleTooLarge
  else if requiredTupleBytes = 0 then .ok 0
  else
    let category := (requiredTupleBytes - 1) * fsmCategoryMax / fsmMaxUsableInsertionBytes + 1
    .ok (UInt8.ofNat category)

end Categories

section Mapping

structure FsmEntryLocation where
  fsmPageNo : PageNo
  entryIndex : UInt16
deriving DecidableEq

inductive FsmPageMappingError
  | invalidHeapPageNumber | overflow
deriving DecidableEq

def fsmLocationForHeapPage (heapPageNo : PageNo) : Except FsmPageMappingError FsmEntryLocation :=
  if heapPageNo = 0 ∨ heapPageNo = invalidPageNo then .error .invalidHeapPageNumber
  else
    let heapDataIndex := heapPageNo - 1
    let fsmPageIndex := heapDataIndex / UInt64.ofNat fsmPageEntryCapacity
    if fsmPageIndex = maxPageNo then .error .overflow
    else
      let fsmPageNo := 1 + fsmPageIndex
      let entryIndex := (heapDataIndex % UInt64.ofNat fsmPageEntryCapacity).toUInt16
      .ok ⟨fsmPageNo, entryIndex⟩

def firstHeapPageForFsmPage (fsmPageNo : PageNo) : Option PageNo :=
  if fsmPageNo = 0 ∨ fsmPageNo = invalidPageNo then none
  else
    let fsmPageIndex := fsmPageNo - 1
    if (maxPageNo - 1) / UInt64.ofNat fsmPageEntryCapacity < fsmPageIndex then none
    else
      let firstHeapPageNo := 1 + fsmPageIndex * UInt64.ofNat fsmPageEntryCapacity
      if firstHeapPageNo ≠ invalidPageNo then some firstHeapPageNo else none

end Mapping

structure FsmPageHeader where
  firstHeapPageNo : PageNo := 1
  entryCount : UInt16 := 0
  reserved16 : UInt16 := 0
  reserved32 : UInt32 := 0
deriving DecidableEq

def InitializedRangeFits (header : FsmPageHeader) : Prop :=
  header.entryCount = 0 ∨
    header.firstHeapPageNo ≤ (maxPageNo - 1) - (header.entryCount - 1).toUInt64

instance (header : FsmPageHeader) : Decidable (InitializedRangeFits header) :=
  inferInstanceAs (Decidable (_ ∨ _))

/-- The fields one after the other, over the front of `destination`. -/
def encodeFsmPageFields (destination : List UInt8) (header : FsmPageHeader) :
    Option (List UInt8) := do
  let d ← writeSubspan destination 0 8 (encodeLittleEndian 8 · header.firstHeapPageNo.toBitVec)
  let d ← writeSubspan d 8 2 (encodeLittleEndian 2 · header.entryCount.toBitVec)
  let d ← writeSubspan d 10 2 (encodeLittleEndian 2 · header.reserved16.toBitVec)
  writeSubspan d 12 4 (encodeLittleEndian 4 · header.reserved32.toBitVec)

def encodeFsmPageHeader (destination : List UInt8) (header : FsmPageHeader) :
    Option (List UInt8) :=
  if destination.length < fsmPageHeaderEncodedSize then none
  else do
    let encoded ← encodeFsmPageFields (List.replicate fsmPageHeaderEncodedSize 0) header
    return Codec.splice destination 0 encoded

def decodeFsmPageHeader (source : List UInt8) : Option FsmPageHeader :=
  if source.length < fsmPageHeaderEncodedSize then none
  else do
    let firstHeapPageNo ← decodeU64 (source.take 8)
    let entryCount ← decodeU16 ((source.drop 8).take 2)
    let reserved16 ← decodeU16 ((source.drop 10).take 2)
    let reserved32 ← decodeU32 ((source.drop 12).take 4)
    return ⟨firstHeapPageNo, entryCount, reserved16, reserved32⟩

inductive FsmPageInitializeError
  | invalidFsmPageNumber | heapPageRangeOverflow | entryCountOutOfRange
deriving DecidableEq

structure FsmPageInitialization where
  entryCount : UInt16 := 0
  pageLsn : UInt64 := 0

inductive FsmPageValidationError
  | none | commonHeaderDecodeFailed | wrongPageType | wrongPageNumber | wrongHeaderSize
  | unsupportedFormatVersion | nonzeroCommonFlags | nonzeroCommonReserved | fsmHeaderDecodeFailed
  | invalidFsmPageNumber | firstHeapPageOverflow | firstHeapPageMismatch | entryCountOutOfRange
  | initializedHeapRangeOverflow | nonzeroUninitializedEntry | nonzeroFsmReserved
deriving DecidableEq

structure FsmPageHeaders where
  common : CommonPageHeader
  fsm : FsmPageHeader
deriving DecidableEq

structure FsmPageValidationFailure where
  code : FsmPageValidationError
  entryIndex : ℕ := 0
deriving DecidableEq

inductive FsmPageEntryError
  | pageInvalid | entryOutOfRange
deriving DecidableEq

structure FsmPageEntryFailure where
  code : FsmPageEntryError
  pageError : FsmPageValidationError := .none
deriving DecidableEq

/-- A controller over one page. The page's bytes are the state of its operations. -/
structure FsmPage where
  id : PageId

def fsmFailure (error : FsmPageValidationError) : Exit FsmPageValidationFailure :=
  .error { code := error }

def PageBytes.get {ε : Type} (bytes : PageBytes) (k : ℕ) : Except (Exit ε) UInt8 :=
  if k < pageSize then .ok (bytes.byteAt k) else .error .fault

/-- The loop over the entries that are not in use, with `remaining` of them from `index` on. -/
def checkUninitialized (bytes : PageBytes) :
    (remaining index : ℕ) → Except (Exit FsmPageValidationFailure) Unit
  | 0, _ => .ok ()
  | remaining + 1, index => do
    let entry ← bytes.get (fsmPageEntriesOffset + index)
    Check.require (entry = 0) (.error ⟨.nonzeroUninitializedEntry, index⟩)
    checkUninitialized bytes remaining (index + 1)

def validateFsmCommonHeader (header : CommonPageHeader) (pageNo : PageNo) :
    FsmPageValidationError :=
  if header.pageType ≠ PageType.fsmData then .wrongPageType
  else if header.pageNo ≠ pageNo then .wrongPageNumber
  else if header.headerSize ≠ UInt16.ofNat fsmPageTotalHeaderSize then .wrongHeaderSize
  else if header.formatVersion ≠ fsmPageFormatVersion then .unsupportedFormatVersion
  else if header.flags ≠ 0 then .nonzeroCommonFlags
  else if header.reserved16 ≠ 0 then .nonzeroCommonReserved
  else .none

namespace FsmPage

variable (page : FsmPage)

def initializePage (initialization : FsmPageInitialization) :
    Edit PageBytes FsmPageInitializeError Unit := do
  Edit.of (Check.require (¬ (page.id.pageNo = 0 ∨ page.id.pageNo = invalidPageNo))
    (.error .invalidFsmPageNumber))
  let firstHeapPageNo ← Edit.of (Check.present (firstHeapPageForFsmPage page.id.pageNo)
    (.error .heapPageRangeOverflow))
  Edit.of (Check.require (initialization.entryCount.toNat ≤ fsmPageEntryCapacity)
    (.error .entryCountOutOfRange))
  let commonHeader : CommonPageHeader := ⟨PageType.fsmData, fsmPageFormatVersion, 0,
    initialization.pageLsn, 0, UInt16.ofNat fsmPageTotalHeaderSize, 0, page.id.pageNo⟩
  let fsmHeader : FsmPageHeader := ⟨firstHeapPageNo, initialization.entryCount, 0, 0⟩
  Edit.of (Check.require (InitializedRangeFits fsmHeader) (.error .heapPageRangeOverflow))
  let encodedCommonHeader ← Edit.of (Check.present
    (encodeCommonPageHeader (List.replicate commonPageHeaderEncodedSize 0) commonHeader) .fault)
  let encodedFsmHeader ← Edit.of (Check.present
    (encodeFsmPageHeader (List.replicate fsmPageHeaderEncodedSize 0) fsmHeader) .fault)
  set PageBytes.zero
  PageBytes.put 0 encodedCommonHeader
  PageBytes.put fsmPageHeaderOffset encodedFsmHeader

section Readers

variable (bytes : PageBytes)

def header {ε : Type} : Except (Exit ε) (Option FsmPageHeader) := do
  let encoded ← bytes.read fsmPageHeaderOffset fsmPageHeaderEncodedSize
  return decodeFsmPageHeader encoded

def validate : Except (Exit FsmPageValidationFailure) FsmPageHeaders := do
  let common ← Check.present bytes.header (fsmFailure .commonHeaderDecodeFailed)
  Check.require (validateFsmCommonHeader common page.id.pageNo = .none)
    (fsmFailure (validateFsmCommonHeader common page.id.pageNo))
  let decoded ← header bytes
  let fsm ← Check.present decoded (fsmFailure .fsmHeaderDecodeFailed)
  Check.require (¬ (fsm.reserved16 ≠ 0 ∨ fsm.reserved32 ≠ 0)) (fsmFailure .nonzeroFsmReserved)
  Check.require (¬ (page.id.pageNo = 0 ∨ page.id.pageNo = invalidPageNo))
    (fsmFailure .invalidFsmPageNumber)
  let expectedFirstHeapPageNo ← Check.present (firstHeapPageForFsmPage page.id.pageNo)
    (fsmFailure .firstHeapPageOverflow)
  Check.require (fsm.firstHeapPageNo = expectedFirstHeapPageNo) (fsmFailure .firstHeapPageMismatch)
  Check.require (fsm.entryCount.toNat ≤ fsmPageEntryCapacity) (fsmFailure .entryCountOutOfRange)
  Check.require (InitializedRangeFits fsm) (fsmFailure .initializedHeapRangeOverflow)
  checkUninitialized bytes (fsmPageEntryCapacity - fsm.entryCount.toNat) fsm.entryCount.toNat
  return ⟨common, fsm⟩

def category (entryIndex : ℕ) : Except (Exit FsmPageEntryFailure) UInt8 := do
  let validation ← report (fun failure => ⟨.pageInvalid, failure.code⟩) (page.validate bytes)
  Check.require (entryIndex < validation.fsm.entryCount.toNat) (.error ⟨.entryOutOfRange, .none⟩)
  bytes.get (fsmPageEntriesOffset + entryIndex)

end Readers

def setCategory (entryIndex : ℕ) (category : UInt8) : Edit PageBytes FsmPageEntryFailure Unit := do
  let bytes ← get
  let validation ← Edit.of (report (fun failure => ⟨.pageInvalid, failure.code⟩)
    (page.validate bytes))
  Edit.of (Check.require (entryIndex < validation.fsm.entryCount.toNat)
    (.error ⟨.entryOutOfRange, .none⟩))
  PageBytes.put (fsmPageEntriesOffset + entryIndex) [category]

end FsmPage

end DBlusBlus
