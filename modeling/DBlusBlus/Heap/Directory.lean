import DBlusBlus.Heap.Operations

/-! The slot directory of a page: what its decoding accepts, and when its ranges are disjoint. -/

namespace DBlusBlus

open Span

namespace HeapSlotEntry

variable (slot : HeapSlotEntry) (upper : UInt16)

def Retained : Prop := slot.state ≠ .unused ∧ slot.tupleLength ≠ 0

instance : Decidable slot.Retained := inferInstanceAs (Decidable (_ ∧ _))

def stop : ℕ := slot.tupleOffset.toNat + slot.tupleLength.toNat

/-- The slot owns a nonempty range that starts at `upper` or later. -/
def OwnsRange : Prop :=
  slot.tupleLength ≠ 0 ∧ upper.toNat ≤ slot.tupleOffset.toNat ∧ slot.stop ≤ pageSize

def Canonical : Prop :=
  match slot.state with
  | .unused => slot.tupleOffset = 0 ∧ slot.tupleLength = 0
  | .normal => slot.aux = 0 ∧ slot.OwnsRange upper
  | .dead => slot.aux = 0 ∧
    (slot.tupleOffset = 0 ∧ slot.tupleLength = 0 ∨ slot.OwnsRange upper)
  | .redirectReserved => False

def Apart (other : HeapSlotEntry) : Prop :=
  slot.stop ≤ other.tupleOffset.toNat ∨ other.stop ≤ slot.tupleOffset.toNat

end HeapSlotEntry

/-- The slots lie in the page from the slot `index` on. -/
def StoredFrom (bytes : PageBytes) (index : ℕ) (slots : List HeapSlotEntry) : Prop :=
  ∀ (k : ℕ) (slot : HeapSlotEntry), slots[k]? = some slot →
    bytes.slice (slotOffset (index + k)) heapPageSlotEntryEncodedSize = slot.image

section Slots

variable {bytes : PageBytes} {index : ℕ} {slot : HeapSlotEntry} {upper : UInt16}
  {slots : List HeapSlotEntry}

lemma mapError_eq_ok {ε ε' α : Type} {x : Except ε α} {f : ε → ε'} {a : α} :
    x.mapError f = .ok a ↔ x = .ok a := by
  cases x <;> simp [Except.mapError]

lemma slotOffset_fits (h : index < maxHeapPageSlotCount) :
    slotOffset index + heapPageSlotEntryEncodedSize ≤ pageSize := by
  have h : index < 1018 := h
  change 48 + index * 8 + 8 ≤ 8192
  omega

lemma readSlot_eq_ok (h : index < maxHeapPageSlotCount) : readSlot bytes index = .ok slot ↔
    bytes.slice (slotOffset index) heapPageSlotEntryEncodedSize = slot.image := by
  rw [readSlot, PageBytes.read_eq (slotOffset_fits h), Check.ok_bind, mapError_eq_ok,
    decodeHeapSlotEntry_eq_ok]
  constructor
  · intro hp
    exact (hp.eq_of_length (by rw [HeapSlotEntry.length_image, PageBytes.length_slice])).symm
  · intro he
    rw [he]

lemma readSlot_safe (h : index < maxHeapPageSlotCount) : Safe (readSlot bytes index) := by
  rw [readSlot, PageBytes.read_eq (slotOffset_fits h), Check.ok_bind]
  cases decodeHeapSlotEntry (bytes.slice (slotOffset index) heapPageSlotEntryEncodedSize) with
  | ok slot => exact Safe.ok
  | error e => exact Safe.error

lemma storedFrom_nil : StoredFrom bytes index [] := by
  intro k slot h
  simp at h

lemma storedFrom_cons : StoredFrom bytes index (slot :: slots) ↔
    bytes.slice (slotOffset index) heapPageSlotEntryEncodedSize = slot.image ∧
      StoredFrom bytes (index + 1) slots := by
  constructor
  · intro h
    refine ⟨h 0 slot rfl, fun k other hk => ?_⟩
    rw [show index + 1 + k = index + (k + 1) by omega]
    exact h (k + 1) other hk
  · rintro ⟨hs, h⟩ k other hk
    cases k with
    | zero =>
      obtain rfl := Option.some.inj hk
      exact hs
    | succ k =>
      rw [show index + (k + 1) = index + 1 + k by omega]
      exact h k other hk

lemma validateSlotDescriptor_eq_none (h : 0 < upper.toNat) :
    validateSlotDescriptor slot upper = .none ↔ slot.Canonical upper := by
  have hr : (if slot.tupleOffset.toNat < upper.toNat ∨
      pageSize < slot.tupleOffset.toNat + slot.tupleLength.toNat then
        HeapPageValidationError.retainedTupleOutOfBounds else .none) = .none ↔
      upper.toNat ≤ slot.tupleOffset.toNat ∧ slot.stop ≤ pageSize := by
    rw [ite_eq_right_iff, HeapSlotEntry.stop]
    simp only [reduceCtorEq, imp_false, not_or, not_lt]
  unfold validateSlotDescriptor HeapSlotEntry.Canonical
  cases hs : slot.state with
  | unused =>
    dsimp only
    rw [ite_eq_right_iff]
    simp only [reduceCtorEq, imp_false, not_or, not_not]
  | redirectReserved => simp
  | normal =>
    dsimp only
    rw [HeapSlotEntry.OwnsRange]
    split
    · simp_all
    · split
      · simp_all
      · rw [hr]
        simp_all
  | dead =>
    dsimp only
    rw [HeapSlotEntry.OwnsRange]
    split
    · simp_all
    · split
      · simp_all
      · split
        · rename_i ha hz ho
          simp only [reduceCtorEq, false_iff, not_and, not_or]
          refine fun _ => ⟨fun h₁ h₂ => hz ⟨h₁, h₂⟩, fun hlen hle => ?_⟩
          have hoff : slot.tupleOffset = 0 := ho.resolve_right hlen
          rw [hoff, UInt16.toNat_zero] at hle
          omega
        · rw [hr]
          simp_all

end Slots

/-- The identifiers of the retained slots, from `index` on. -/
def retainedIds : ℕ → List HeapSlotEntry → List SlotId
  | _, [] => []
  | index, slot :: slots =>
    if slot.Retained then UInt16.ofNat index :: retainedIds (index + 1) slots
    else retainedIds (index + 1) slots

def SlotDirectory.ofSlots (slots : List HeapSlotEntry) : SlotDirectory where
  slots := slots
  retainedOrder := retainedIds 0 slots
  unusedSlots := slots.map (fun slot => decide (slot.state = .unused)) ++
    List.replicate (maxHeapPageSlotCount - slots.length) false

section Decode

variable {bytes : PageBytes} {upper : UInt16} {slots done : List HeapSlotEntry}
  {slot : HeapSlotEntry} {index remaining : ℕ} {result : SlotDirectory}

lemma retainedIds_append {more : List HeapSlotEntry} :
    retainedIds index (slots ++ more) =
      retainedIds index slots ++ retainedIds (index + slots.length) more := by
  induction slots generalizing index with
  | nil => rfl
  | cons slot slots ih =>
    rw [List.cons_append, retainedIds, retainedIds, ih, List.length_cons,
      show index + 1 + slots.length = index + (slots.length + 1) by omega]
    split <;> rfl

lemma length_retainedIds_le : (retainedIds index slots).length ≤ slots.length := by
  induction slots generalizing index with
  | nil => exact Nat.le_refl _
  | cons slot slots ih =>
    rw [retainedIds]
    split
    · exact Nat.succ_le_succ ih
    · exact ih.trans (Nat.le_succ _)

lemma mark_next {m : ℕ} {p : HeapSlotEntry → Bool} (hp : p slot = true)
    (h : done.length < m) {ε : Type} :
    (Span.write (done.map p ++ List.replicate (m - done.length) false) done.length [true] :
      Except (Exit ε) _) =
      .ok ((done ++ [slot]).map p ++ List.replicate (m - (done ++ [slot]).length) false) := by
  have hrep : List.replicate (m - done.length) false =
      [false] ++ List.replicate (m - (done ++ [slot]).length) false := by
    rw [List.length_append, List.length_singleton,
      show m - done.length = (m - (done.length + 1)) + 1 by omega, List.replicate_succ]
    rfl
  rw [hrep, Span.write_eq, Codec.splice_mid (List.length_map ..)
    (show [false].length = [true].length from rfl), List.map_append,
    List.append_assoc, List.map_singleton, hp]
  simp

lemma unmarked_next {m : ℕ} {p : HeapSlotEntry → Bool} (hp : p slot = false)
    (h : done.length < m) :
    done.map p ++ List.replicate (m - done.length) false =
      (done ++ [slot]).map p ++ List.replicate (m - (done ++ [slot]).length) false := by
  rw [List.length_append, List.length_singleton, List.map_append, List.map_singleton, hp,
    show m - done.length = (m - (done.length + 1)) + 1 by omega, List.replicate_succ,
    List.append_assoc]
  rfl

lemma decodeSlots_slot (hroom : done.length < maxHeapPageSlotCount)
    (hs : readSlot bytes done.length = .ok slot) :
    decodeSlots bytes upper (remaining + 1) done.length (SlotDirectory.ofSlots done) =
      Check.require (validateSlotDescriptor slot upper = .none) (.error (slotFailure
        (validateSlotDescriptor slot upper) (UInt16.ofNat done.length))) >>= fun _ =>
          decodeSlots bytes upper remaining (done.length + 1)
            (SlotDirectory.ofSlots (done ++ [slot])) := by
  have hids : retainedIds 0 (done ++ [slot]) =
      if slot.Retained then retainedIds 0 done ++ [UInt16.ofNat done.length]
      else retainedIds 0 done := by
    rw [retainedIds_append, Nat.zero_add, retainedIds, retainedIds]
    split
    · rfl
    · exact List.append_nil _
  rw [decodeSlots, hs]
  change (Span.push maxHeapPageSlotCount done slot >>= _) = _
  rw [Span.push_eq hroom, Check.ok_bind]
  refine congrArg _ (funext fun _ => ?_)
  rw [SlotDirectory.ofSlots, SlotDirectory.ofSlots, hids]
  by_cases hu : slot.state = .unused
  · rw [if_pos hu, mark_next (decide_eq_true hu) hroom, Check.ok_bind,
      if_neg (fun h => h.1 hu)]
  · rw [if_neg hu, ← unmarked_next (decide_eq_false hu) hroom]
    by_cases hl : slot.tupleLength = 0
    · rw [if_neg (not_not.mpr hl), if_neg (fun h => h.2 hl)]
    · rw [if_pos hl, Span.push_eq (length_retainedIds_le.trans_lt hroom), Check.ok_bind,
        if_pos ⟨hu, hl⟩]

lemma decodeSlots_eq_ok (done : List HeapSlotEntry) (hroom : done.length + remaining ≤ maxHeapPageSlotCount) :
    decodeSlots bytes upper remaining done.length (SlotDirectory.ofSlots done) = .ok result ↔
      ∃ slots : List HeapSlotEntry, slots.length = remaining ∧ StoredFrom bytes done.length slots ∧
        (∀ slot ∈ slots, validateSlotDescriptor slot upper = .none) ∧
        result = SlotDirectory.ofSlots (done ++ slots) := by
  induction remaining generalizing done with
  | zero =>
    rw [decodeSlots]
    constructor
    · intro h
      exact ⟨[], rfl, storedFrom_nil, by simp, by rw [List.append_nil]; exact (Except.ok.inj h).symm⟩
    · rintro ⟨slots, hlen, -, -, rfl⟩
      obtain rfl := List.length_eq_zero_iff.mp hlen
      rw [List.append_nil]
  | succ remaining ih =>
    have hlt : done.length < maxHeapPageSlotCount := by omega
    have hstep (slot : HeapSlotEntry) : done.length + 1 = (done ++ [slot]).length := by simp
    constructor
    · intro h
      have hread := h
      rw [decodeSlots, Check.bind_eq_ok] at hread
      obtain ⟨slot, hs, -⟩ := hread
      rw [Span.report_eq_ok] at hs
      rw [decodeSlots_slot hlt hs, Check.require_bind] at h
      have hrest := h.2
      rw [hstep slot, ih _ (by rw [← hstep]; omega), ← hstep] at hrest
      obtain ⟨slots, hlen, hst, hv, rfl⟩ := hrest
      refine ⟨slot :: slots, congrArg Nat.succ hlen,
        storedFrom_cons.mpr ⟨(readSlot_eq_ok hlt).mp hs, hst⟩, ?_, by rw [List.append_assoc]; rfl⟩
      intro other ho
      rcases List.mem_cons.mp ho with rfl | ho
      · exact h.1
      · exact hv other ho
    · rintro ⟨slots, hlen, hst, hv, rfl⟩
      obtain ⟨slot, slots, rfl⟩ := List.exists_cons_of_length_eq_add_one hlen
      obtain ⟨hs, hst⟩ := storedFrom_cons.mp hst
      rw [decodeSlots_slot hlt ((readSlot_eq_ok hlt).mpr hs), Check.require_bind]
      refine ⟨hv slot (List.mem_cons_self ..), ?_⟩
      rw [hstep slot, ih _ (by rw [← hstep]; omega), ← hstep]
      exact ⟨slots, Nat.succ.inj hlen, hst,
        fun other ho => hv other (List.mem_cons_of_mem _ ho), by rw [List.append_assoc]; rfl⟩

end Decode

namespace RetainedRange

variable {a b c : RetainedRange}

def Apart (a b : RetainedRange) : Prop :=
  a.stop ≤ b.tupleOffset.toNat ∨ b.stop ≤ a.tupleOffset.toNat

instance : Std.Total Le where
  total a b := by
    unfold Le
    simp only [UInt16.lt_iff_toNat_lt, UInt16.le_iff_toNat_le, ← UInt16.toNat_inj]
    omega

instance : IsTrans RetainedRange Le where
  trans a b c := by
    unfold Le
    simp only [UInt16.lt_iff_toNat_lt, UInt16.le_iff_toNat_le, ← UInt16.toNat_inj]
    omega

lemma Le.offset_le (h : a.Le b) : a.tupleOffset.toNat ≤ b.tupleOffset.toNat := by
  rcases h with h | ⟨h, -⟩
  · rw [UInt16.lt_iff_toNat_lt] at h
    exact h.le
  · rw [h]

end RetainedRange

/-- The ranges of the retained slots, from `index` on. -/
def rangesFrom : ℕ → List HeapSlotEntry → List RetainedRange
  | _, [] => []
  | index, slot :: slots =>
    if slot.Retained then
      ⟨slot.tupleOffset, slot.tupleLength, UInt16.ofNat index⟩ :: rangesFrom (index + 1) slots
    else rangesFrom (index + 1) slots

section Ranges

variable {slots done : List HeapSlotEntry} {slot : HeapSlotEntry} {index : ℕ}
  {range : RetainedRange} {ranges : List RetainedRange} {failure : HeapPageValidationFailure}

lemma toNat_slotId (h : index < maxHeapPageSlotCount) : (UInt16.ofNat index).toNat = index := by
  have h : index < 1018 := h
  exact UInt16.toNat_ofNat_of_lt' (by rw [UInt16.size]; omega)

lemma retainedRanges_eq (done : List HeapSlotEntry) (h : (done ++ slots).length ≤ maxHeapPageSlotCount) :
    retainedRanges (done ++ slots) (retainedIds done.length slots) =
      .ok (rangesFrom done.length slots) := by
  induction slots generalizing done with
  | nil => rfl
  | cons slot slots ih =>
    have hstep : done.length + 1 = (done ++ [slot]).length := by simp
    have happend : done ++ slot :: slots = (done ++ [slot]) ++ slots := by
      rw [List.append_assoc]
      rfl
    rw [happend] at h
    have hnext := ih _ h
    rw [← happend, ← hstep] at hnext
    rw [retainedIds, rangesFrom]
    split
    · have hget : (done ++ slot :: slots)[(UInt16.ofNat done.length).toNat]? = some slot := by
        rw [toNat_slotId, List.getElem?_append_right (Nat.le_refl _), Nat.sub_self]
        · rfl
        · simp only [List.length_append, List.length_singleton] at h
          omega
      rw [retainedRanges, Span.get_eq_ok.mpr hget, Check.ok_bind, hnext]
      rfl
    · exact hnext

lemma mem_rangesFrom : range ∈ rangesFrom index slots ↔ ∃ (k : ℕ) (slot : HeapSlotEntry),
    slots[k]? = some slot ∧ slot.Retained ∧
      range = ⟨slot.tupleOffset, slot.tupleLength, UInt16.ofNat (index + k)⟩ := by
  induction slots generalizing index with
  | nil => simp [rangesFrom]
  | cons slot slots ih =>
    have hrest : (∃ (k : ℕ) (other : HeapSlotEntry), (slot :: slots)[k]? = some other ∧
        other.Retained ∧ range = ⟨other.tupleOffset, other.tupleLength, UInt16.ofNat (index + k)⟩) ↔
        (slot.Retained ∧ range = ⟨slot.tupleOffset, slot.tupleLength, UInt16.ofNat index⟩) ∨
          range ∈ rangesFrom (index + 1) slots := by
      rw [ih]
      constructor
      · rintro ⟨k, other, hk, hr, rfl⟩
        cases k with
        | zero =>
          obtain rfl := Option.some.inj hk
          exact .inl ⟨hr, rfl⟩
        | succ k => exact .inr ⟨k, other, hk, hr, by rw [Nat.add_assoc, Nat.add_comm 1]⟩
      · rintro (⟨hr, rfl⟩ | ⟨k, other, hk, hr, rfl⟩)
        · exact ⟨0, slot, rfl, hr, rfl⟩
        · exact ⟨k + 1, other, hk, hr, by rw [Nat.add_assoc, Nat.add_comm 1]⟩
    rw [hrest, rangesFrom]
    split
    · rename_i hr
      rw [List.mem_cons]
      simp only [hr, true_and]
    · rename_i hr
      simp only [hr, false_and, false_or]

lemma rangesFrom_pairwise : (rangesFrom index slots).Pairwise RetainedRange.Apart ↔
    slots.Pairwise fun a b => a.Retained → b.Retained → a.Apart b := by
  induction slots generalizing index with
  | nil => simp [rangesFrom]
  | cons slot slots ih =>
    have hmem : (∀ other ∈ slots, slot.Retained → other.Retained → slot.Apart other) ↔
        (slot.Retained → ∀ range ∈ rangesFrom (index + 1) slots, RetainedRange.Apart
          ⟨slot.tupleOffset, slot.tupleLength, UInt16.ofNat index⟩ range) := by
      constructor
      · intro h hs range hrange
        obtain ⟨k, other, hk, ho, rfl⟩ := mem_rangesFrom.mp hrange
        exact h other (List.mem_of_getElem? hk) hs ho
      · intro h other hother hs ho
        obtain ⟨k, hk⟩ := List.mem_iff_getElem?.mp hother
        exact h hs _ (mem_rangesFrom.mpr ⟨k, other, hk, ho, rfl⟩)
    rw [List.pairwise_cons, ← @ih (index + 1), hmem, rangesFrom]
    split
    · rename_i hs
      rw [List.pairwise_cons]
      simp only [hs, true_imp_iff]
    · rename_i hs
      simp only [hs, false_imp_iff, true_and]

lemma rangesFrom_ids (h : index + slots.length ≤ maxHeapPageSlotCount) :
    (rangesFrom index slots).Pairwise fun a b => a.slotId ≠ b.slotId := by
  induction slots generalizing index with
  | nil => exact List.Pairwise.nil
  | cons slot slots ih =>
    rw [List.length_cons] at h
    rw [rangesFrom]
    split
    · refine List.pairwise_cons.mpr ⟨fun range hrange => ?_, ih (by omega)⟩
      obtain ⟨k, other, hk, -, rfl⟩ := mem_rangesFrom.mp hrange
      have hlt := (List.getElem?_eq_some_iff.mp hk).1
      rw [Ne, ← UInt16.toNat_inj, toNat_slotId (by omega), toNat_slotId (by omega)]
      omega
    · exact ih (by omega)

lemma checkNeighbours_eq_ok : checkNeighbours ranges = .ok () ↔
    ranges.IsChain fun a b => a.stop ≤ b.tupleOffset.toNat := by
  induction ranges with
  | nil => simp [checkNeighbours]
  | cons a ranges ih =>
    cases ranges with
    | nil => simp [checkNeighbours]
    | cons b ranges => rw [checkNeighbours, Check.require_bind, ih, List.isChain_cons_cons]

lemma checkNeighbours_eq_error (h : checkNeighbours ranges = .error (.error failure)) :
    ∃ first a b last, ranges = first ++ a :: b :: last ∧ b.tupleOffset.toNat < a.stop ∧
      failure = ⟨.overlappingTupleRanges, b.slotId, a.slotId, .none, .none⟩ := by
  induction ranges with
  | nil => cases h
  | cons a ranges ih =>
    cases ranges with
    | nil => cases h
    | cons b ranges =>
      rw [checkNeighbours] at h
      by_cases hc : a.stop ≤ b.tupleOffset.toNat
      · rw [Check.require_pos hc, Check.ok_bind] at h
        obtain ⟨first, x, y, last, hr, hlt, hf⟩ := ih h
        exact ⟨a :: first, x, y, last, by rw [hr]; rfl, hlt, hf⟩
      · rw [Check.require_neg hc, Check.error_bind] at h
        cases h
        exact ⟨[], a, b, ranges, rfl, Nat.lt_of_not_le hc, rfl⟩

lemma checkNeighbours_safe : Safe (checkNeighbours ranges) := by
  induction ranges with
  | nil => exact Safe.ok
  | cons a ranges ih =>
    cases ranges with
    | nil => exact Safe.ok
    | cons b ranges => exact Safe.require.bind fun _ _ => ih

/-- For sorted nonempty ranges it is enough to compare neighbours. -/
lemma isChain_insertionSort (hne : ∀ range ∈ ranges, 0 < range.tupleLength.toNat) :
    ((ranges.insertionSort RetainedRange.Le).IsChain fun a b => a.stop ≤ b.tupleOffset.toNat) ↔
      ranges.Pairwise RetainedRange.Apart := by
  have hsorted := List.pairwise_insertionSort RetainedRange.Le ranges
  have hperm := List.perm_insertionSort RetainedRange.Le ranges
  have hne' : ∀ range ∈ ranges.insertionSort RetainedRange.Le, 0 < range.tupleLength.toNat :=
    fun range h => hne range (hperm.mem_iff.mp h)
  rw [← hperm.pairwise_iff fun {a b} h => h.symm]
  have htrans : IsTrans RetainedRange fun a b => a.stop ≤ b.tupleOffset.toNat :=
    ⟨fun a b c hab hbc => hab.trans ((Nat.le_add_right ..).trans hbc)⟩
  rw [List.isChain_iff_pairwise]
  constructor
  · exact fun h => h.imp Or.inl
  · intro h
    refine (h.and hsorted).imp_of_mem ?_
    rintro a b ha hb ⟨hab | hba, hle⟩
    · exact hab
    · have := hle.offset_le
      have := hne' b hb
      rw [RetainedRange.stop] at hba
      omega

lemma rangesFrom_nonempty (h : range ∈ rangesFrom index slots) : 0 < range.tupleLength.toNat := by
  obtain ⟨k, slot, -, hr, rfl⟩ := mem_rangesFrom.mp h
  rw [Nat.pos_iff_ne_zero]
  exact fun hz => hr.2 (UInt16.toNat_inj.mp hz)

lemma checkRetainedRangesDisjoint_eq (h : slots.length ≤ maxHeapPageSlotCount) :
    checkRetainedRangesDisjoint (SlotDirectory.ofSlots slots) =
      checkNeighbours ((rangesFrom 0 slots).insertionSort RetainedRange.Le) := by
  have hr : retainedRanges slots (retainedIds 0 slots) = .ok (rangesFrom 0 slots) :=
    retainedRanges_eq [] h
  rw [checkRetainedRangesDisjoint, SlotDirectory.ofSlots, hr, Check.ok_bind]

lemma checkRetainedRangesDisjoint_eq_ok (h : slots.length ≤ maxHeapPageSlotCount) :
    checkRetainedRangesDisjoint (SlotDirectory.ofSlots slots) = .ok () ↔
      slots.Pairwise fun a b => a.Retained → b.Retained → a.Apart b := by
  rw [checkRetainedRangesDisjoint_eq h, checkNeighbours_eq_ok,
    isChain_insertionSort fun _ => rangesFrom_nonempty, rangesFrom_pairwise]

lemma checkRetainedRangesDisjoint_eq_error (h : slots.length ≤ maxHeapPageSlotCount)
    (herr : checkRetainedRangesDisjoint (SlotDirectory.ofSlots slots) = .error (.error failure)) :
    ∃ a b : HeapSlotEntry, slots[failure.otherSlotId.toNat]? = some a ∧
      slots[failure.slotId.toNat]? = some b ∧ failure.slotId ≠ failure.otherSlotId ∧
      a.Retained ∧ b.Retained ∧ a.tupleOffset.toNat ≤ b.tupleOffset.toNat ∧
      b.tupleOffset.toNat < a.stop := by
  rw [checkRetainedRangesDisjoint_eq h] at herr
  obtain ⟨first, x, y, last, hsplit, hlt, rfl⟩ := checkNeighbours_eq_error herr
  have hperm := List.perm_insertionSort RetainedRange.Le (rangesFrom 0 slots)
  have hsorted := List.pairwise_insertionSort RetainedRange.Le (rangesFrom 0 slots)
  have hdistinct : (rangesFrom 0 slots).Pairwise fun a b => a.slotId ≠ b.slotId :=
    rangesFrom_ids (by omega)
  have hids := (hperm.pairwise_iff fun {a b} hab => Ne.symm hab).mpr hdistinct
  rw [hsplit, List.pairwise_append] at hsorted hids
  have hle := (List.pairwise_cons.mp hsorted.2.1).1 y (List.mem_cons_self ..)
  have hne := (List.pairwise_cons.mp hids.2.1).1 y (List.mem_cons_self ..)
  have hx : x ∈ rangesFrom 0 slots := hperm.mem_iff.mp (by rw [hsplit]; simp)
  have hy : y ∈ rangesFrom 0 slots := hperm.mem_iff.mp (by rw [hsplit]; simp)
  obtain ⟨i, a, hi, ha, rfl⟩ := mem_rangesFrom.mp hx
  obtain ⟨j, b, hj, hb, rfl⟩ := mem_rangesFrom.mp hy
  have hi' := (List.getElem?_eq_some_iff.mp hi).1
  have hj' := (List.getElem?_eq_some_iff.mp hj).1
  refine ⟨a, b, ?_, ?_, hne.symm, ha, hb, hle.offset_le, hlt⟩
  · change slots[(UInt16.ofNat (0 + i)).toNat]? = some a
    rw [toNat_slotId (by omega), Nat.zero_add, hi]
  · change slots[(UInt16.ofNat (0 + j)).toNat]? = some b
    rw [toNat_slotId (by omega), Nat.zero_add, hj]

end Ranges

end DBlusBlus
