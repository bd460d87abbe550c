import Mathlib.Tactic.IntervalCases
import DBlusBlus.Heap.Compaction

/-! The operations on an arbitrary image: no access leaves the page, a failure changes nothing, and
a success changes only what it is about. -/

namespace DBlusBlus

open Span

section Images

variable {slot : HeapSlotEntry} {heap : HeapPageHeader} {tuple : List UInt8} {i : ℕ}

lemma killed_image (h : i < 4 ∨ 6 ≤ i) : slot.killed.image[i]? = slot.image[i]? := by
  by_cases hi : i < 8
  · interval_cases i <;> first | rfl | omega
  · have hlen (entry : HeapSlotEntry) : entry.image[i]? = none :=
      List.getElem?_eq_none (by rw [entry.length_image]; exact Nat.le_of_not_lt hi)
    rw [hlen, hlen]

lemma insertedHeader_image (h : 2 ≤ i ∧ i < 4 ∨ 8 ≤ i) :
    (insertedHeader heap tuple).image[i]? = heap.image[i]? := by
  by_cases hi : i < 16
  · interval_cases i <;> first | rfl | omega
  · have hlen (header : HeapPageHeader) : header.image[i]? = none :=
      List.getElem?_eq_none (by rw [header.length_image]; exact Nat.le_of_not_lt hi)
    rw [hlen, hlen]

end Images

section TupleBytes

variable {page : HeapPage} {bytes : PageBytes} {headers : HeapPageHeaders}
  {slots : List HeapSlotEntry} {slotId : SlotId} {ε : Type}

lemma tupleBytes_invalid {failure : HeapPageValidationFailure}
    (h : page.validateStructure bytes = .error (.error failure)) :
    (page.tupleBytes bytes slotId : Except (Exit ε) _) = .ok none := by
  rw [HeapPage.tupleBytes, h]
  rfl

def liveTuple (bytes : PageBytes) (slots : List HeapSlotEntry) (slotId : SlotId) :
    Option (List UInt8) :=
  slots[slotId.toNat]?.bind fun slot =>
    if slot.state = .normal then
      some (bytes.slice slot.tupleOffset.toNat slot.tupleLength.toNat)
    else none

theorem tupleBytes_eq (hv : LocallyValid page.id.pageNo bytes headers slots) :
    (page.tupleBytes bytes slotId : Except (Exit ε) _) = .ok (liveTuple bytes slots slotId) := by
  have hstructure := validateStructure_eq_ok.mpr ⟨slots, hv⟩
  have hcount := hv.count
  rw [HeapPage.tupleBytes, hstructure, liveTuple]
  change (if headers.heap.slotCount ≤ slotId then _ else _) = _
  by_cases hle : headers.heap.slotCount ≤ slotId
  · rw [if_pos hle]
    rw [UInt16.le_iff_toNat_le, hcount] at hle
    rw [List.getElem?_eq_none hle]
    rfl
  rw [if_neg hle]
  rw [UInt16.le_iff_toNat_le, hcount, Nat.not_le] at hle
  have hs : slots[slotId.toNat]? = some slots[slotId.toNat] := List.getElem?_eq_getElem hle
  generalize slots[slotId.toNat] = slot at hs
  rw [hv.readSlot hs, hs]
  change (if slot.state ≠ .normal then _ else _) = _
  by_cases hn : slot.state = .normal
  · have hstop := ((hv.canonical slot (List.mem_of_getElem? hs)).normal hn).2.2.2
    rw [if_neg (not_not.mpr hn), PageBytes.read_eq hstop, Check.ok_bind, Option.bind_some, if_pos hn]
    rfl
  · rw [if_pos hn, Option.bind_some, if_neg hn]
    rfl

lemma structure_cases (page : HeapPage) (bytes : PageBytes) :
    (∃ failure, page.validateStructure bytes = .error (.error failure)) ∨
      ∃ headers slots, page.validateStructure bytes = .ok headers ∧
        LocallyValid page.id.pageNo bytes headers slots := by
  cases h : page.validateStructure bytes with
  | ok headers =>
    obtain ⟨slots, hv⟩ := validateStructure_eq_ok.mp h
    exact .inr ⟨headers, slots, rfl, hv⟩
  | error e =>
    cases e with
    | fault => exact absurd h validateWith_safe
    | error failure => exact .inl ⟨failure, rfl⟩

lemma tupleBytes_safe : Safe (page.tupleBytes bytes slotId : Except (Exit ε) _) := by
  rcases structure_cases page bytes with ⟨failure, h⟩ | ⟨headers, slots, -, hv⟩
  · rw [tupleBytes_invalid h]
    exact Safe.ok
  · rw [tupleBytes_eq hv]
    exact Safe.ok

end TupleBytes

/-- An operation that stays in the page, changes nothing when it fails, and never the common header;
`changes` are the bytes that it may change otherwise. -/
structure Atomic {ε α : Type} (bytes : PageBytes) (changes : α → ℕ → Prop)
    (result : Except (Exit ε) α × PageBytes) : Prop where
  safe : Safe result.1
  failed : ∀ e, result.1 = .error e → result.2 = bytes
  common : result.2.slice 0 commonPageHeaderEncodedSize = bytes.slice 0 commonPageHeaderEncodedSize
  frame : ∀ a, result.1 = .ok a → ∀ k, result.2.byteAt k ≠ bytes.byteAt k → changes a k

namespace Atomic

variable {ε α : Type} {bytes : PageBytes} {changes : α → ℕ → Prop} {e : ε}

lemma error : Atomic bytes changes (.error (.error e), bytes) where
  safe := Safe.error
  failed _ _ := rfl
  common := rfl
  frame _ h := by cases h

end Atomic

/-- What an insertion changes: the new entry, the bytes of the tuple, and three header fields. -/
def InsertChanges (page : HeapPage) (bytes : PageBytes) (tuple : List UInt8) (rid : Rid) (k : ℕ) :
    Prop :=
  ∃ headers, page.validateStructure bytes = .ok headers ∧ rid = ⟨page.id, headers.heap.slotCount⟩ ∧
    tuple.length ≤ headers.heap.upper.toNat ∧
    (slotOffset headers.heap.slotCount.toNat ≤ k ∧ k < slotOffset headers.heap.slotCount.toNat + 8 ∨
      headers.heap.upper.toNat - tuple.length ≤ k ∧ k < headers.heap.upper.toNat ∨
      heapPageHeaderOffset ≤ k ∧ k < heapPageHeaderOffset + 2 ∨
      heapPageHeaderOffset + 4 ≤ k ∧ k < heapPageHeaderOffset + 8)

def MarkDeadChanges (slotId : SlotId) (k : ℕ) : Prop :=
  slotOffset slotId.toNat + 4 ≤ k ∧ k < slotOffset slotId.toNat + 6

section Frames

variable {page : HeapPage} {bytes : PageBytes} {headers : HeapPageHeaders}
  {slots : List HeapSlotEntry} {slot : HeapSlotEntry} {slotId : SlotId} {tuple : List UInt8}
  {pageNo : PageNo} {k : ℕ}

lemma byteAt_slice {offset count : ℕ} {data : List UInt8} (h : bytes.slice offset count = data)
    (hle : offset ≤ k) (hlt : k < offset + count) : data[k - offset]? = some (bytes.byteAt k) := by
  rw [← h, PageBytes.slice_getElem?, if_pos (by omega), show offset + (k - offset) = k by omega]

lemma byteAt_of_images {bytes' : PageBytes} {offset count : ℕ} {data data' : List UInt8}
    (h : bytes.slice offset count = data) (h' : bytes'.slice offset count = data')
    (hle : offset ≤ k) (hlt : k < offset + count) (he : data'[k - offset]? = data[k - offset]?) :
    bytes'.byteAt k = bytes.byteAt k := by
  rw [byteAt_slice h' hle hlt, byteAt_slice h hle hlt] at he
  exact Option.some.inj he

lemma inserted_frame (hv : LocallyValid pageNo bytes headers slots) (h : Roomy headers slots tuple)
    (hk : (inserted headers.heap tuple bytes).byteAt k ≠ bytes.byteAt k) :
    slotOffset headers.heap.slotCount.toNat ≤ k ∧ k < slotOffset headers.heap.slotCount.toNat + 8 ∨
      headers.heap.upper.toNat - tuple.length ≤ k ∧ k < headers.heap.upper.toNat ∨
      heapPageHeaderOffset ≤ k ∧ k < heapPageHeaderOffset + 2 ∨
      heapPageHeaderOffset + 4 ≤ k ∧ k < heapPageHeaderOffset + 8 := by
  have hl := h.lower
  have hr := h.room
  rw [slotOffset_eq, h.count]
  by_contra hout
  simp only [not_or, not_and, not_lt, heapPageHeaderOffset] at hout
  obtain ⟨hentry, htuple, hcount, hbounds⟩ := hout
  refine hk ?_
  rcases Nat.lt_or_ge k 48 with hlt | hge
  · rcases Nat.lt_or_ge k 32 with hlt | hge
    · refine PageBytes.byteAt_of_slice (?_ : _ = bytes.slice k 1) (Nat.le_refl _) (by omega)
      exact h.slice_of_disjoint (by omega) (by omega) (by omega)
    · have himage : (insertedHeader headers.heap tuple).image[k - 32]? = headers.heap.image[k - 32]? :=
        insertedHeader_image (by omega)
      exact byteAt_of_images hv.heapStored Roomy.slice_header hge hlt himage
  · refine PageBytes.byteAt_of_slice (?_ : _ = bytes.slice k 1) (Nat.le_refl _) (by omega)
    exact h.slice_of_disjoint (by omega) (by omega) (by omega)

lemma marked_frame (hv : LocallyValid pageNo bytes headers slots)
    (hs : slots[slotId.toNat]? = some slot) (hn : slot.state = .normal)
    (hk : (marked slotId slot bytes).byteAt k ≠ bytes.byteAt k) : MarkDeadChanges slotId k := by
  by_contra hout
  rw [MarkDeadChanges, not_and, not_lt] at hout
  refine hk ?_
  by_cases hin : slotOffset slotId.toNat ≤ k ∧ k < slotOffset slotId.toNat + 8
  · have hold := hv.stored _ slot hs
    have hnew := (hv.marked hs hn).stored slotId.toNat slot.killed
      (List.getElem?_set_self (List.getElem?_eq_some_iff.mp hs).1)
    rw [Nat.zero_add] at hold hnew
    exact byteAt_of_images hold hnew hin.1 hin.2 (killed_image (by omega))
  · refine PageBytes.byteAt_of_slice (?_ : _ = bytes.slice k 1) (Nat.le_refl _) (by omega)
    refine slice_marked hv hs ?_
    change _ ∨ _ + 8 ≤ k
    omega

end Frames

section Theorem

variable {page : HeapPage} {bytes : PageBytes}

lemma insert_atomic {tuple : List UInt8} : Atomic bytes (InsertChanges page bytes tuple)
    (Edit.run (page.insert tuple) bytes) := by
  rcases structure_cases page bytes with ⟨failure, h⟩ | ⟨headers, slots, h, hv⟩
  · rw [insert_invalid h]
    exact Atomic.error
  have houtcome : InsertOutcome page bytes headers.heap tuple (Edit.run (page.insert tuple) bytes) :=
    insert_outcome hv
  generalize Edit.run (page.insert tuple) bytes = result at houtcome ⊢
  cases houtcome with
  | tooLarge => exact Atomic.error
  | invalidTuple => exact Atomic.error
  | insufficientSpace => exact Atomic.error
  | done hn hc hs =>
    have hlen : 48 ≤ tuple.length := validateTupleForSlot_length hc
    have hroomy := hv.roomy (show 0 < tuple.length by omega) hs
    have hroom := hroomy.room
    refine ⟨Safe.ok, fun e he => (by cases he), ?_, ?_⟩
    · exact ((hv.inserted hroomy).commonStored).trans hv.commonStored.symm
    · rintro _ ⟨⟩ k hk
      exact ⟨headers, h, rfl, by omega, inserted_frame hv hroomy hk⟩

lemma markDead_atomic {slotId : SlotId} : Atomic bytes (fun _ => MarkDeadChanges slotId)
    (Edit.run (page.markDead slotId) bytes) := by
  rcases structure_cases page bytes with ⟨failure, h⟩ | ⟨headers, slots, h, hv⟩
  · rw [markDead_invalid h]
    exact Atomic.error
  have houtcome : MarkDeadOutcome bytes slots slotId (Edit.run (page.markDead slotId) bytes) :=
    markDead_outcome hv
  generalize Edit.run (page.markDead slotId) bytes = result at houtcome ⊢
  cases houtcome with
  | outOfRange => exact Atomic.error
  | alreadyDead => exact Atomic.error
  | invalidSlotState => exact Atomic.error
  | done hs hn =>
    refine ⟨Safe.ok, fun e he => (by cases he), ?_, fun _ _ k hk => marked_frame hv hs hn hk⟩
    exact ((hv.marked hs hn).commonStored).trans hv.commonStored.symm

lemma compact_atomic : Atomic bytes (fun _ k => heapPageHeaderOffset ≤ k)
    (Edit.run page.compact bytes) := by
  rcases structure_cases page bytes with ⟨failure, h⟩ | ⟨headers, slots, h, hv⟩
  · rw [compact_invalid h]
    exact Atomic.error
  have houtcome := compact_outcome hv
  generalize Edit.run page.compact bytes = result at houtcome ⊢
  cases houtcome with
  | unsupported => exact Atomic.error
  | done hstate hplan hp ha =>
    refine ⟨Safe.ok, fun e he => (by cases he), ha.common, fun _ _ k hk => ?_⟩
    by_contra hlt
    exact hk (PageBytes.byteAt_of_slice ha.common (Nat.zero_le _) (by
      rw [Nat.zero_add]
      exact Nat.lt_of_not_le hlt))

theorem heapPage_safe_atomic (page : HeapPage) (bytes : PageBytes) :
    (Safe (page.validate bytes) ∧ Safe (page.validateStructure bytes) ∧
      ∀ slotId, Safe (page.tupleBytes bytes slotId : Except (Exit Empty) _)) ∧
    (∀ tuple, Atomic bytes (InsertChanges page bytes tuple) (Edit.run (page.insert tuple) bytes)) ∧
    (∀ slotId, Atomic bytes (fun _ => MarkDeadChanges slotId)
      (Edit.run (page.markDead slotId) bytes)) ∧
    Atomic bytes (fun _ k => heapPageHeaderOffset ≤ k) (Edit.run page.compact bytes) :=
  ⟨⟨validateWith_safe, validateWith_safe, fun _ => tupleBytes_safe⟩, fun _ => insert_atomic,
    fun _ => markDead_atomic, compact_atomic⟩

end Theorem

end DBlusBlus
