import DBlusBlus.Library.Check
import DBlusBlus.Page.Header

/-! The heap page header and the slot entries, as they are stored. -/

namespace DBlusBlus

abbrev SlotId := UInt16

def invalidSlotId : SlotId := 0xFFFF

def heapPageFormatVersion : UInt16 := 1
abbrev heapPageHeaderOffset : ℕ := 32
abbrev heapPageHeaderEncodedSize : ℕ := 16
abbrev heapPageTotalHeaderSize : ℕ := 48
abbrev heapPageSlotEntryEncodedSize : ℕ := 8
abbrev heapPageSlotDirectoryOffset : ℕ := heapPageTotalHeaderSize

abbrev heapPageMaxRawTupleSize : ℕ :=
  pageSize - heapPageTotalHeaderSize - heapPageSlotEntryEncodedSize - 1

inductive HeapSlotState
  | unused | normal | dead | redirectReserved
deriving DecidableEq

namespace HeapSlotState

def code : HeapSlotState → UInt16
  | unused => 0
  | normal => 1
  | dead => 2
  | redirectReserved => 3

/-- The cast of a stored code, where it names a state. -/
def ofCode (code : UInt16) : Option HeapSlotState :=
  if code = 0 then some unused
  else if code = 1 then some normal
  else if code = 2 then some dead
  else if code = 3 then some redirectReserved
  else none

lemma ofCode_eq_some {state : HeapSlotState} {stored : UInt16} :
    ofCode stored = some state ↔ state.code = stored := by
  unfold ofCode
  constructor
  · intro h
    split_ifs at h <;> cases h <;> simp_all [code]
  · rintro rfl
    cases state <;> rfl

end HeapSlotState

structure HeapPageHeader where
  slotCount : UInt16 := 0
  freeSlotHead : SlotId := invalidSlotId
  lower : UInt16 := UInt16.ofNat heapPageTotalHeaderSize
  upper : UInt16 := UInt16.ofNat pageSize
  pruneHint : UInt32 := 0
  reserved : UInt32 := 0
deriving DecidableEq

structure HeapSlotEntry where
  tupleOffset : UInt16
  tupleLength : UInt16
  state : HeapSlotState
  aux : UInt16
deriving DecidableEq

inductive HeapSlotEntryDecodeError
  | bufferTooSmall | invalidSlotState
deriving DecidableEq

def encodeHeapPageHeader (destination : List UInt8) (header : HeapPageHeader) :
    Option (List UInt8) :=
  if destination.length < heapPageHeaderEncodedSize then none
  else do
    let d ← writeSubspan destination 0 2 (encodeLittleEndian 2 · header.slotCount.toBitVec)
    let d ← writeSubspan d 2 2 (encodeLittleEndian 2 · header.freeSlotHead.toBitVec)
    let d ← writeSubspan d 4 2 (encodeLittleEndian 2 · header.lower.toBitVec)
    let d ← writeSubspan d 6 2 (encodeLittleEndian 2 · header.upper.toBitVec)
    let d ← writeSubspan d 8 4 (encodeLittleEndian 4 · header.pruneHint.toBitVec)
    writeSubspan d 12 4 (encodeLittleEndian 4 · header.reserved.toBitVec)

def decodeHeapPageHeader (source : List UInt8) : Option HeapPageHeader :=
  if source.length < heapPageHeaderEncodedSize then none
  else do
    let slotCount ← decodeU16 (source.take 2)
    let freeSlotHead ← decodeU16 ((source.drop 2).take 2)
    let lower ← decodeU16 ((source.drop 4).take 2)
    let upper ← decodeU16 ((source.drop 6).take 2)
    let pruneHint ← decodeU32 ((source.drop 8).take 4)
    let reserved ← decodeU32 ((source.drop 12).take 4)
    return ⟨slotCount, freeSlotHead, lower, upper, pruneHint, reserved⟩

def encodeHeapSlotEntry (destination : List UInt8) (entry : HeapSlotEntry) :
    Option (List UInt8) :=
  if destination.length < heapPageSlotEntryEncodedSize then none
  else do
    let d ← writeSubspan destination 0 2 (encodeLittleEndian 2 · entry.tupleOffset.toBitVec)
    let d ← writeSubspan d 2 2 (encodeLittleEndian 2 · entry.tupleLength.toBitVec)
    let d ← writeSubspan d 4 2 (encodeLittleEndian 2 · entry.state.code.toBitVec)
    writeSubspan d 6 2 (encodeLittleEndian 2 · entry.aux.toBitVec)

def decodeHeapSlotEntry (source : List UInt8) : Except HeapSlotEntryDecodeError HeapSlotEntry := do
  Check.require (heapPageSlotEntryEncodedSize ≤ source.length) .bufferTooSmall
  let tupleOffset ← Check.present (decodeU16 (source.take 2)) .bufferTooSmall
  let tupleLength ← Check.present (decodeU16 ((source.drop 2).take 2)) .bufferTooSmall
  let rawState ← Check.present (decodeU16 ((source.drop 4).take 2)) .bufferTooSmall
  let aux ← Check.present (decodeU16 ((source.drop 6).take 2)) .bufferTooSmall
  let state ← Check.present (HeapSlotState.ofCode rawState) .invalidSlotState
  return ⟨tupleOffset, tupleLength, state, aux⟩

namespace HeapPageHeader

variable (header : HeapPageHeader)

def fields : List (List UInt8) :=
  [littleEndianBytes 2 header.slotCount.toBitVec, littleEndianBytes 2 header.freeSlotHead.toBitVec,
    littleEndianBytes 2 header.lower.toBitVec, littleEndianBytes 2 header.upper.toBitVec,
    littleEndianBytes 4 header.pruneHint.toBitVec, littleEndianBytes 4 header.reserved.toBitVec]

def image : List UInt8 := header.fields.flatten

@[simp] lemma length_image : header.image.length = heapPageHeaderEncodedSize := by
  simp [image, fields]

end HeapPageHeader

lemma encodeHeapPageHeader_eq {destination : List UInt8} (header : HeapPageHeader)
    (h : heapPageHeaderEncodedSize ≤ destination.length) :
    encodeHeapPageHeader destination header = some (Codec.splice destination 0 header.image) := by
  rw [encodeHeapPageHeader, if_neg (by omega)]
  rw [heapPageHeaderEncodedSize] at h
  rw [show destination = Codec.overlay destination [] from rfl]
  simp (disch := first | omega | simp) only [writeSubspan_field, Option.bind_eq_bind,
    Option.bind_some, List.nil_append, List.cons_append]
  rw [show Codec.overlay destination [] = destination from rfl, Codec.splice_zero]
  rfl

lemma decodeHeapPageHeader_eq_some {s : List UInt8} {header : HeapPageHeader} :
    decodeHeapPageHeader s = some header ↔ header.image <+: s := by
  rw [decodeHeapPageHeader]
  split
  · rename_i h
    refine iff_of_false (by simp) fun hp => ?_
    have := hp.length_le
    rw [header.length_image] at this
    omega
  · rw [show s.take 2 = (s.drop 0).take 2 from rfl]
    simp only [Option.bind_eq_bind, Option.bind_eq_some_iff, decodeU16_window, decodeU32_window,
      HeapPageHeader.image, HeapPageHeader.fields, List.flatten_cons, Codec.append_prefix_iff,
      littleEndianBytes_length, List.drop_drop]
    constructor
    · rintro ⟨_, h₁, _, h₂, _, h₃, _, h₄, _, h₅, _, h₆, h⟩
      obtain rfl := Option.some.inj h
      exact ⟨h₁, h₂, h₃, h₄, h₅, h₆, List.nil_prefix⟩
    · rintro ⟨h₁, h₂, h₃, h₄, h₅, h₆, -⟩
      exact ⟨_, h₁, _, h₂, _, h₃, _, h₄, _, h₅, _, h₆, rfl⟩

namespace HeapSlotEntry

variable (entry : HeapSlotEntry)

def fields : List (List UInt8) :=
  [littleEndianBytes 2 entry.tupleOffset.toBitVec, littleEndianBytes 2 entry.tupleLength.toBitVec,
    littleEndianBytes 2 entry.state.code.toBitVec, littleEndianBytes 2 entry.aux.toBitVec]

def image : List UInt8 := entry.fields.flatten

@[simp] lemma length_image : entry.image.length = heapPageSlotEntryEncodedSize := by
  simp [image, fields]

end HeapSlotEntry

lemma encodeHeapSlotEntry_eq {destination : List UInt8} (entry : HeapSlotEntry)
    (h : heapPageSlotEntryEncodedSize ≤ destination.length) :
    encodeHeapSlotEntry destination entry = some (Codec.splice destination 0 entry.image) := by
  rw [encodeHeapSlotEntry, if_neg (by omega)]
  rw [heapPageSlotEntryEncodedSize] at h
  rw [show destination = Codec.overlay destination [] from rfl]
  simp (disch := first | omega | simp) only [writeSubspan_field, Option.bind_eq_bind,
    Option.bind_some, List.nil_append, List.cons_append]
  rw [show Codec.overlay destination [] = destination from rfl, Codec.splice_zero]
  rfl

lemma decodeHeapSlotEntry_eq_ok {s : List UInt8} {entry : HeapSlotEntry} :
    decodeHeapSlotEntry s = .ok entry ↔ entry.image <+: s := by
  rw [decodeHeapSlotEntry, show s.take 2 = (s.drop 0).take 2 from rfl]
  simp only [Check.require_bind, Check.present_bind, decodeU16_window, HeapSlotState.ofCode_eq_some,
    HeapSlotEntry.image, HeapSlotEntry.fields, List.flatten_cons, Codec.append_prefix_iff,
    littleEndianBytes_length, List.drop_drop]
  constructor
  · rintro ⟨-, _, h₁, _, h₂, _, h₃, _, h₄, _, rfl, h⟩
    obtain rfl := Except.ok.inj h
    exact ⟨h₁, h₂, h₃, h₄, List.nil_prefix⟩
  · rintro ⟨h₁, h₂, h₃, h₄, -⟩
    have hl := h₄.length_le
    rw [littleEndianBytes_length, List.length_drop] at hl
    exact ⟨show 8 ≤ s.length by omega, _, h₁, _, h₂, _, h₃, _, h₄, _, rfl, rfl⟩

end DBlusBlus
