import DBlusBlus.Heap.Initialize

/-! What `insert` and `markDead` do to a valid page. -/

namespace DBlusBlus

open Span

/-- The entry of a tuple that has been put just below `upper`. -/
def insertedSlot (heap : HeapPageHeader) (tuple : List UInt8) : HeapSlotEntry :=
  ⟨UInt16.ofNat (heap.upper.toNat - tuple.length), UInt16.ofNat tuple.length, .normal, 0⟩

def insertedHeader (heap : HeapPageHeader) (tuple : List UInt8) : HeapPageHeader :=
  { heap with
    slotCount := heap.slotCount + 1
    lower := UInt16.ofNat (heap.lower.toNat + heapPageSlotEntryEncodedSize)
    upper := UInt16.ofNat (heap.upper.toNat - tuple.length) }

def inserted (heap : HeapPageHeader) (tuple : List UInt8) (bytes : PageBytes) : PageBytes :=
  ((bytes.overwrite (heap.upper.toNat - tuple.length) tuple).overwrite heap.lower.toNat
    (insertedSlot heap tuple).image).overwrite heapPageHeaderOffset (insertedHeader heap tuple).image

inductive InsertOutcome (page : HeapPage) (bytes : PageBytes) (heap : HeapPageHeader)
    (tuple : List UInt8) : Except (Exit HeapPageInsertFailure) Rid × PageBytes → Prop
  | tooLarge (hn : heapPageMaxRawTupleSize < tuple.length) :
    InsertOutcome page bytes heap tuple (.error (.error ⟨.tupleTooLarge, .none, .none⟩), bytes)
  | invalidTuple {check : TupleCheck} (hn : tuple.length ≤ heapPageMaxRawTupleSize)
    (hc : validateTupleForSlot tuple page.schemaHistory ⟨page.id, heap.slotCount⟩
      (heap.slotCount + 1) = .error (.error check)) :
    InsertOutcome page bytes heap tuple (.error (.error ⟨.invalidTuple, .none, check.error⟩), bytes)
  | insufficientSpace (hn : tuple.length ≤ heapPageMaxRawTupleSize)
    (hc : validateTupleForSlot tuple page.schemaHistory ⟨page.id, heap.slotCount⟩
      (heap.slotCount + 1) = .ok ())
    (hs : heap.upper.toNat - heap.lower.toNat < tuple.length + heapPageSlotEntryEncodedSize) :
    InsertOutcome page bytes heap tuple (.error (.error ⟨.insufficientSpace, .none, .none⟩), bytes)
  | done (hn : tuple.length ≤ heapPageMaxRawTupleSize)
    (hc : validateTupleForSlot tuple page.schemaHistory ⟨page.id, heap.slotCount⟩
      (heap.slotCount + 1) = .ok ())
    (hs : tuple.length + heapPageSlotEntryEncodedSize ≤ heap.upper.toNat - heap.lower.toNat) :
    InsertOutcome page bytes heap tuple (.ok ⟨page.id, heap.slotCount⟩, inserted heap tuple bytes)

section Insert

variable {page : HeapPage} {bytes : PageBytes} {headers : HeapPageHeaders}
  {slots : List HeapSlotEntry} {tuple : List UInt8}

lemma insert_invalid {failure : HeapPageValidationFailure}
    (h : page.validateStructure bytes = .error (.error failure)) :
    Edit.run (page.insert tuple) bytes =
      (.error (.error ⟨.pageInvalid, failure.code, .none⟩), bytes) := by
  rw [HeapPage.insert, Edit.run_get_bind]
  exact Edit.run_of_bind_error (by rw [h]; rfl)

theorem insert_outcome (hv : LocallyValid page.id.pageNo bytes headers slots) :
    InsertOutcome page bytes headers.heap tuple (Edit.run (page.insert tuple) bytes) := by
  have hstructure := validateStructure_eq_ok.mpr ⟨slots, hv⟩
  have hroom : slots.length ≤ 1018 := hv.room
  have hcount := hv.count
  have hlower : headers.heap.lower.toNat = 48 + 8 * slots.length := hv.lower
  have hupper : headers.heap.upper.toNat ≤ 8192 := hv.upper
  rw [HeapPage.insert, Edit.run_get_bind, Edit.run_of_bind_ok (Span.report_eq_ok.mpr hstructure)]
  by_cases hn : tuple.length ≤ heapPageMaxRawTupleSize
  swap
  · rw [Edit.run_of_bind_error (Check.require_neg fun h => hn h.2)]
    exact .tooLarge (Nat.lt_of_not_le hn)
  have hn' : tuple.length ≤ 8135 := hn
  rw [Edit.run_of_bind_ok (Check.require_pos ⟨by omega, hn⟩)]
  dsimp only
  have hfull : headers.heap.slotCount ≠ 0xFFFF := by
    intro h
    rw [h] at hcount
    change 65535 = slots.length at hcount
    omega
  rw [Edit.run_of_bind_ok (Check.require_pos hfull)]
  cases hc : validateTupleForSlot tuple page.schemaHistory ⟨page.id, headers.heap.slotCount⟩
      (headers.heap.slotCount + 1) with
  | error e =>
    cases e with
    | fault => exact absurd hc validateTupleForSlot_safe
    | error check =>
      rw [Edit.run_of_bind_error (by rfl)]
      exact .invalidTuple hn hc
  | ok =>
    rw [Edit.run_of_bind_ok (by rfl)]
    by_cases hs : tuple.length + heapPageSlotEntryEncodedSize ≤
        headers.heap.upper.toNat - headers.heap.lower.toNat
    swap
    · rw [Edit.run_of_bind_error (Check.require_neg hs)]
      exact .insufficientSpace hn hc (Nat.lt_of_not_le hs)
    have hs' : tuple.length + 8 ≤ headers.heap.upper.toNat - headers.heap.lower.toNat := hs
    have hsmall : headers.heap.lower.toNat + heapPageSlotEntryEncodedSize ≤ 0xFFFF ∧
        headers.heap.upper.toNat - tuple.length ≤ 0xFFFF := by
      change headers.heap.lower.toNat + 8 ≤ 65535 ∧ _
      omega
    have hslot := (insertedSlot headers.heap tuple).length_image
    have hheader := (insertedHeader headers.heap tuple).length_image
    have htuple : headers.heap.upper.toNat - tuple.length + tuple.length ≤ pageSize := by
      change _ ≤ 8192
      omega
    have hentry : headers.heap.lower.toNat + (insertedSlot headers.heap tuple).image.length ≤
        pageSize := by
      rw [hslot]
      change _ + 8 ≤ 8192
      omega
    have hheader' : heapPageHeaderOffset + (insertedHeader headers.heap tuple).image.length ≤
        pageSize := by
      rw [hheader]
      decide
    rw [Edit.run_of_bind_ok (Check.require_pos hs), Edit.run_of_bind_ok (Check.require_pos hsmall),
      Edit.run_of_bind_ok (Check.present_eq_ok.mpr (encodeSlot_fresh _)),
      Edit.run_of_bind_ok (Check.present_eq_ok.mpr (encodeHeader_fresh _)),
      run_put_bind htuple]
    refine Eq.subst (motive := InsertOutcome page bytes headers.heap tuple) ?_ (.done hn hc hs)
    refine Eq.symm ((run_put_bind hentry).trans ((run_put_bind hheader').trans ?_))
    rfl

end Insert

section TupleChecks

variable {tuple : List UInt8} {history : HeapTupleSchemaHistory} {rid : Rid}
  {slotCount slotCount' : UInt16}

/-- The previous version named by a header may be named from `rid`. -/
def PreviousAllowed (header : TupleHeader) (rid : Rid) (slotCount : UInt16) : Prop :=
  header.prevPageNo = invalidPageNo ∨ header.prevPageNo ≠ 0 ∧
    ¬ (header.prevPageNo = rid.page.pageNo ∧ header.prevSlot = rid.slot) ∧
    ¬ (header.prevPageNo = rid.page.pageNo ∧ slotCount ≤ header.prevSlot)

instance {header : TupleHeader} : Decidable (PreviousAllowed header rid slotCount) :=
  inferInstanceAs (Decidable (_ ∨ _))

lemma validateTupleForSlot_eq_ok : validateTupleForSlot tuple history rid slotCount = .ok () ↔
    ∃ header, decodeTupleHeader tuple = .ok header ∧
      (∃ layout, history.resolve header.schemaVersion = some layout ∧
        ∃ validated, validateTuple layout tuple = .ok validated) ∧
      (header.xmin ≠ invalidTxnId ∧ header.xmax ≠ frozenTxnId ∧
        (header.xmax ≠ invalidTxnId ∨ header.cmax = ⟨0⟩)) ∧
      PreviousAllowed header rid slotCount := by
  rw [validateTupleForSlot, Check.bind_eq_ok]
  simp only [Span.report_eq_ok, Check.present_bind]
  refine exists_congr fun header => and_congr_right fun _ => ?_
  constructor
  · rintro ⟨layout, hl, h⟩
    obtain ⟨validated, hvalid, h⟩ := Check.bind_eq_ok.mp h
    obtain ⟨htxn, h⟩ := Check.require_bind.mp h
    exact ⟨⟨layout, hl, validated, Span.report_eq_ok.mp hvalid⟩, htxn, Check.require_eq_ok.mp h⟩
  · rintro ⟨⟨layout, hl, validated, hvalid⟩, htxn, hprev⟩
    refine ⟨layout, hl, Check.bind_eq_ok.mpr ⟨validated, Span.report_eq_ok.mpr hvalid, ?_⟩⟩
    exact Check.require_bind.mpr ⟨htxn, Check.require_eq_ok.mpr hprev⟩

lemma validateTupleForSlot_mono (hle : slotCount ≤ slotCount')
    (h : validateTupleForSlot tuple history rid slotCount = .ok ()) :
    validateTupleForSlot tuple history rid slotCount' = .ok () := by
  obtain ⟨header, hd, hl, ht, hp⟩ := validateTupleForSlot_eq_ok.mp h
  refine validateTupleForSlot_eq_ok.mpr ⟨header, hd, hl, ht, ?_⟩
  refine hp.imp_right fun hp => ⟨hp.1, hp.2.1, fun hout => hp.2.2 ⟨hout.1, ?_⟩⟩
  exact UInt16.le_trans hle hout.2

lemma validateTupleForSlot_length (h : validateTupleForSlot tuple history rid slotCount = .ok ()) :
    tupleHeaderEncodedSize ≤ tuple.length := by
  obtain ⟨header, hd, -⟩ := validateTupleForSlot_eq_ok.mp h
  have := (decodeTupleHeader_eq_ok.mp hd).2.length_le
  rwa [TupleHeader.length_image] at this

end TupleChecks

section Chain

variable {slots slots' : List HeapSlotEntry} {head : SlotId} {path : List SlotId} {k : ℕ}

lemma FreeChain.congr (h : FreeChain slots head path)
    (hkeep : ∀ (k : ℕ) (slot : HeapSlotEntry), slots[k]? = some slot → slot.state = .unused →
      slots'[k]? = some slot) (hu : ∀ k, isUnusedAt slots' k = isUnusedAt slots k) :
    FreeChain slots' head path := by
  have hmembers := h.members
  refine ⟨?_, h.nodup, fun id => by rw [hu, h.members]⟩
  have hpath : ∀ slotId ∈ path, isUnusedAt slots slotId.toNat = true := fun id => (hmembers id).mp
  have hw := h.walks
  clear h hmembers
  induction hw with
  | stop => exact .stop
  | next hc hs hp ih =>
    obtain ⟨slot, hslot, hstate⟩ := isUnusedAt_iff.mp (hpath _ (List.mem_cons_self ..))
    obtain rfl := Option.some.inj (hs.symm.trans hslot)
    exact .next hc (hkeep _ _ hs hstate) (ih fun id hid => hpath id (List.mem_cons_of_mem _ hid))

lemma isUnusedAt_append {slot : HeapSlotEntry} (hs : slot.state ≠ .unused) :
    isUnusedAt (slots ++ [slot]) k = isUnusedAt slots k := by
  rw [isUnusedAt, isUnusedAt]
  rcases Nat.lt_trichotomy k slots.length with hk | rfl | hk
  · rw [List.getElem?_append_left hk]
  · rw [List.getElem?_append_right (Nat.le_refl _), Nat.sub_self, List.getElem?_eq_none (Nat.le_refl _)]
    simp [hs]
  · rw [List.getElem?_eq_none (by rw [List.length_append, List.length_singleton]; omega),
      List.getElem?_eq_none hk.le]

end Chain

section Inserted

variable {pageNo : PageNo} {page : HeapPage} {bytes : PageBytes} {headers : HeapPageHeaders}
  {slots : List HeapSlotEntry} {tuple : List UInt8}

structure Roomy (headers : HeapPageHeaders) (slots : List HeapSlotEntry) (tuple : List UInt8) :
    Prop where
  nonempty : 0 < tuple.length
  lower : headers.heap.lower.toNat = 48 + 8 * slots.length
  upper : headers.heap.upper.toNat ≤ 8192
  room : tuple.length + 8 ≤ headers.heap.upper.toNat - headers.heap.lower.toNat
  count : headers.heap.slotCount.toNat = slots.length

namespace Roomy

variable (h : Roomy headers slots tuple)
include h

lemma toNat_offset : (insertedSlot headers.heap tuple).tupleOffset.toNat =
    headers.heap.upper.toNat - tuple.length := by
  have := h.upper
  exact UInt16.toNat_ofNat_of_lt' (by rw [UInt16.size]; omega)

lemma toNat_length : (insertedSlot headers.heap tuple).tupleLength.toNat = tuple.length := by
  have := h.upper
  have := h.room
  exact UInt16.toNat_ofNat_of_lt' (by rw [UInt16.size]; omega)

lemma toNat_lower : (insertedHeader headers.heap tuple).lower.toNat =
    headers.heap.lower.toNat + 8 := by
  have := h.upper
  have := h.room
  refine UInt16.toNat_ofNat_of_lt' ?_
  change headers.heap.lower.toNat + 8 < 65536
  omega

lemma toNat_upper : (insertedHeader headers.heap tuple).upper.toNat =
    headers.heap.upper.toNat - tuple.length :=
  h.toNat_offset

lemma toNat_slotCount : (insertedHeader headers.heap tuple).slotCount.toNat = slots.length + 1 := by
  have := h.upper
  have := h.room
  have := h.lower
  rw [insertedHeader, UInt16.toNat_add, h.count]
  change (slots.length + 1) % 65536 = slots.length + 1
  omega

lemma stop : (insertedSlot headers.heap tuple).stop = headers.heap.upper.toNat := by
  have := h.room
  rw [HeapSlotEntry.stop, h.toNat_offset, h.toNat_length]
  omega

lemma slice_of_disjoint {offset count : ℕ}
    (hheader : offset + count ≤ 32 ∨ 48 ≤ offset)
    (hentry : offset + count ≤ headers.heap.lower.toNat ∨ headers.heap.lower.toNat + 8 ≤ offset)
    (htuple : offset + count ≤ headers.heap.upper.toNat - tuple.length ∨
      headers.heap.upper.toNat ≤ offset) :
    (inserted headers.heap tuple bytes).slice offset count = bytes.slice offset count := by
  have hu := h.upper
  have hr := h.room
  have hl := h.lower
  have hslot : (insertedSlot headers.heap tuple).image.length = 8 := HeapSlotEntry.length_image _
  have himage : (insertedHeader headers.heap tuple).image.length = 16 := HeapPageHeader.length_image _
  rw [inserted, PageBytes.slice_overwrite_of_disjoint, PageBytes.slice_overwrite_of_disjoint,
    PageBytes.slice_overwrite_of_disjoint]
  · change _ ≤ 8192
    omega
  · omega
  · change _ ≤ 8192
    omega
  · omega
  · rw [himage]
    decide
  · change _ ≤ 32 ∨ 32 + _ ≤ _
    omega

omit h in
lemma slice_header : (inserted headers.heap tuple bytes).slice heapPageHeaderOffset
    heapPageHeaderEncodedSize = (insertedHeader headers.heap tuple).image := by
  have himage := HeapPageHeader.length_image (insertedHeader headers.heap tuple)
  rw [inserted, ← himage, PageBytes.slice_overwrite_self]
  rw [himage]
  decide

lemma slice_entry : (inserted headers.heap tuple bytes).slice (slotOffset slots.length)
    heapPageSlotEntryEncodedSize = (insertedSlot headers.heap tuple).image := by
  have hu := h.upper
  have hr := h.room
  have hl := h.lower
  have hslot := HeapSlotEntry.length_image (insertedSlot headers.heap tuple)
  have hat : slotOffset slots.length = headers.heap.lower.toNat := by
    rw [hl]
    change 48 + slots.length * 8 = _
    omega
  rw [inserted, PageBytes.slice_overwrite_of_disjoint, hat, ← hslot, PageBytes.slice_overwrite_self]
  · rw [hslot]
    change _ + 8 ≤ 8192
    omega
  · rw [HeapPageHeader.length_image]
    decide
  · rw [HeapPageHeader.length_image]
    right
    change 48 ≤ 48 + _
    omega

lemma slice_tuple : (inserted headers.heap tuple bytes).slice
    (headers.heap.upper.toNat - tuple.length) tuple.length = tuple := by
  have hu := h.upper
  have hr := h.room
  have hl := h.lower
  have hslot : (insertedSlot headers.heap tuple).image.length = 8 := HeapSlotEntry.length_image _
  have himage : (insertedHeader headers.heap tuple).image.length = 16 := HeapPageHeader.length_image _
  rw [inserted, PageBytes.slice_overwrite_of_disjoint, PageBytes.slice_overwrite_of_disjoint,
    PageBytes.slice_overwrite_self]
  · change _ ≤ 8192
    omega
  · change _ ≤ 8192
    omega
  · omega
  · rw [himage]
    decide
  · right
    rw [himage]
    change 48 ≤ _
    omega

end Roomy

lemma HeapSlotEntry.Canonical.mono {slot : HeapSlotEntry} {upper upper' : UInt16}
    (h : slot.Canonical upper) (hle : upper'.toNat ≤ upper.toNat) : slot.Canonical upper' := by
  unfold HeapSlotEntry.Canonical at h ⊢
  cases hs : slot.state with
  | unused =>
    rw [hs] at h
    exact h
  | redirectReserved =>
    rw [hs] at h
    exact h
  | normal =>
    rw [hs] at h
    exact ⟨h.1, h.2.1, hle.trans h.2.2.1, h.2.2.2⟩
  | dead =>
    rw [hs] at h
    exact ⟨h.1, h.2.imp_right fun h => ⟨h.1, hle.trans h.2.1, h.2.2⟩⟩

lemma slotOffset_eq {k : ℕ} : slotOffset k = 48 + 8 * k := by
  change 48 + k * 8 = 48 + 8 * k
  rw [Nat.mul_comm]

lemma getElem?_concat {α : Type} {xs : List α} {x y : α} {k : ℕ} (h : (xs ++ [x])[k]? = some y) :
    xs[k]? = some y ∨ k = xs.length ∧ y = x := by
  rcases Nat.lt_trichotomy k xs.length with hk | rfl | hk
  · rw [List.getElem?_append_left hk] at h
    exact .inl h
  · rw [List.getElem?_append_right (Nat.le_refl _), Nat.sub_self] at h
    exact .inr ⟨rfl, (Option.some.inj h).symm⟩
  · rw [List.getElem?_eq_none (by rw [List.length_append, List.length_singleton]; omega)] at h
    cases h

lemma LocallyValid.roomy (hv : LocallyValid pageNo bytes headers slots)
    (hlen : 0 < tuple.length) (hs : tuple.length + heapPageSlotEntryEncodedSize ≤
      headers.heap.upper.toNat - headers.heap.lower.toNat) : Roomy headers slots tuple :=
  ⟨hlen, hv.lower, hv.upper, hs, hv.count⟩

lemma LocallyValid.inserted (hv : LocallyValid pageNo bytes headers slots)
    (h : Roomy headers slots tuple) :
    LocallyValid pageNo (inserted headers.heap tuple bytes)
      ⟨headers.common, insertedHeader headers.heap tuple⟩
      (slots ++ [insertedSlot headers.heap tuple]) where
  commonStored := by
    have hl := h.lower
    have hu := h.upper
    have hr := h.room
    have hcommon : commonPageHeaderEncodedSize = 32 := rfl
    rw [h.slice_of_disjoint (.inl (by omega)) (.inl (by omega)) (.inl (by omega))]
    exact hv.commonStored
  pageType := hv.pageType
  ownNumber := hv.ownNumber
  ordinary := hv.ordinary
  headerSize := hv.headerSize
  formatVersion := hv.formatVersion
  flags := hv.flags
  reserved16 := hv.reserved16
  heapStored := Roomy.slice_header
  reserved := hv.reserved
  count := by rw [h.toNat_slotCount, List.length_append, List.length_singleton]
  lower := by
    rw [h.toNat_lower, h.lower, List.length_append, List.length_singleton]
    change _ = 48 + 8 * (slots.length + 1)
    omega
  order := by
    have := h.room
    rw [h.toNat_lower, h.toNat_upper]
    omega
  upper := by
    have := h.upper
    rw [h.toNat_upper]
    change _ ≤ 8192
    omega
  stored := by
    intro k slot hk
    have hl := h.lower
    have hr := h.room
    rcases getElem?_concat hk with hk | ⟨rfl, rfl⟩
    · have hlt := (List.getElem?_eq_some_iff.mp hk).1
      rw [h.slice_of_disjoint, hv.stored k slot hk]
      · rw [slotOffset_eq]
        omega
      · rw [slotOffset_eq]
        change 48 + 8 * (0 + k) + 8 ≤ _ ∨ _
        omega
      · rw [slotOffset_eq]
        change 48 + 8 * (0 + k) + 8 ≤ _ ∨ _
        omega
    · rw [Nat.zero_add, h.slice_entry]
  canonical := by
    intro slot hslot
    have hu : (insertedHeader headers.heap tuple).upper.toNat ≤ headers.heap.upper.toNat := by
      rw [h.toNat_upper]
      omega
    rcases List.mem_append.mp hslot with hslot | hslot
    · exact (hv.canonical slot hslot).mono hu
    · obtain rfl := List.mem_singleton.mp hslot
      have hlen := h.toNat_length
      have hne := h.nonempty
      refine ⟨rfl, fun hz => ?_, h.toNat_offset.symm ▸ h.toNat_upper.le, h.stop.trans_le h.upper⟩
      rw [hz, UInt16.toNat_zero] at hlen
      omega
  disjoint := by
    refine List.pairwise_append.mpr ⟨hv.disjoint, List.pairwise_singleton .., ?_⟩
    intro a ha b hb hra _
    obtain rfl := List.mem_singleton.mp hb
    exact .inr (h.stop.trans_le ((hv.canonical a ha).owns hra).2.1.2.1)
  freeChain := by
    obtain ⟨path, hpath⟩ := hv.freeChain
    refine ⟨path, hpath.congr (fun k slot hk _ => ?_) fun k => isUnusedAt_append (by simp [insertedSlot])⟩
    rw [List.getElem?_append_left (List.getElem?_eq_some_iff.mp hk).1, hk]

lemma TuplesValid.inserted (ht : TuplesValid page bytes headers.heap.slotCount slots)
    (hv : LocallyValid page.id.pageNo bytes headers slots) (h : Roomy headers slots tuple)
    (hc : validateTupleForSlot tuple page.schemaHistory ⟨page.id, headers.heap.slotCount⟩
      (headers.heap.slotCount + 1) = .ok ()) :
    TuplesValid page (inserted headers.heap tuple bytes)
      (insertedHeader headers.heap tuple).slotCount (slots ++ [insertedSlot headers.heap tuple]) := by
  intro k slot hk hr
  have hl := h.lower
  rcases getElem?_concat hk with hk | ⟨rfl, rfl⟩
  · have hmem := List.mem_of_getElem? hk
    obtain ⟨-, hstart, hstop⟩ := ((hv.canonical slot hmem).owns hr).2.1
    have ho := hv.order
    rw [h.slice_of_disjoint (.inr (by omega)) _ (.inr hstart)]
    · refine validateTupleForSlot_mono ?_ (ht k slot hk hr)
      rw [UInt16.le_iff_toNat_le, h.toNat_slotCount, h.count]
      omega
    · have := h.room
      omega
  · have hid : UInt16.ofNat slots.length = headers.heap.slotCount := by
      rw [← h.count, UInt16.ofNat_toNat]
    rw [h.toNat_offset, h.toNat_length, h.slice_tuple, hid]
    exact hc

end Inserted

def HeapSlotEntry.killed (slot : HeapSlotEntry) : HeapSlotEntry := { slot with state := .dead }

def marked (slotId : SlotId) (slot : HeapSlotEntry) (bytes : PageBytes) : PageBytes :=
  bytes.overwrite (slotOffset slotId.toNat) slot.killed.image

inductive MarkDeadOutcome (bytes : PageBytes) (slots : List HeapSlotEntry) (slotId : SlotId) :
    Except (Exit HeapPageMarkDeadFailure) Unit × PageBytes → Prop
  | outOfRange (h : slots.length ≤ slotId.toNat) :
    MarkDeadOutcome bytes slots slotId (.error (.error ⟨.slotOutOfRange, .none⟩), bytes)
  | alreadyDead {slot : HeapSlotEntry} (hs : slots[slotId.toNat]? = some slot)
    (h : slot.state = .dead) :
    MarkDeadOutcome bytes slots slotId (.error (.error ⟨.alreadyDead, .none⟩), bytes)
  | invalidSlotState {slot : HeapSlotEntry} (hs : slots[slotId.toNat]? = some slot)
    (h : slot.state = .unused) :
    MarkDeadOutcome bytes slots slotId (.error (.error ⟨.invalidSlotState, .none⟩), bytes)
  | done {slot : HeapSlotEntry} (hs : slots[slotId.toNat]? = some slot) (h : slot.state = .normal) :
    MarkDeadOutcome bytes slots slotId (.ok (), marked slotId slot bytes)

section MarkDead

variable {page : HeapPage} {bytes : PageBytes} {headers : HeapPageHeaders}
  {slots : List HeapSlotEntry} {slot : HeapSlotEntry} {slotId : SlotId} {pageNo : PageNo} {k : ℕ}

lemma markDead_invalid {failure : HeapPageValidationFailure}
    (h : page.validateStructure bytes = .error (.error failure)) :
    Edit.run (page.markDead slotId) bytes =
      (.error (.error ⟨.pageInvalid, failure.code⟩), bytes) := by
  rw [HeapPage.markDead, Edit.run_get_bind]
  exact Edit.run_of_bind_error (by rw [h]; rfl)

lemma LocallyValid.lt_room (hv : LocallyValid pageNo bytes headers slots)
    (hs : slots[k]? = some slot) : k < maxHeapPageSlotCount := by
  have hl : headers.heap.lower.toNat = 48 + 8 * slots.length := hv.lower
  have ho := hv.order
  have hu : headers.heap.upper.toNat ≤ 8192 := hv.upper
  have hk := (List.getElem?_eq_some_iff.mp hs).1
  change k < 1018
  omega

lemma LocallyValid.readSlot (hv : LocallyValid pageNo bytes headers slots)
    (hs : slots[k]? = some slot) : readSlot bytes k = .ok slot := by
  have h := hv.stored k slot hs
  rw [Nat.zero_add] at h
  exact (readSlot_eq_ok (hv.lt_room hs)).mpr h

theorem markDead_outcome (hv : LocallyValid page.id.pageNo bytes headers slots) :
    MarkDeadOutcome bytes slots slotId (Edit.run (page.markDead slotId) bytes) := by
  have hstructure := validateStructure_eq_ok.mpr ⟨slots, hv⟩
  have hcount := hv.count
  rw [HeapPage.markDead, Edit.run_get_bind, Edit.run_of_bind_ok (Span.report_eq_ok.mpr hstructure)]
  by_cases hlt : slotId < headers.heap.slotCount
  swap
  · rw [Edit.run_of_bind_error (Check.require_neg hlt)]
    rw [UInt16.lt_iff_toNat_lt] at hlt
    exact .outOfRange (by omega)
  rw [Edit.run_of_bind_ok (Check.require_pos hlt)]
  rw [UInt16.lt_iff_toNat_lt, hcount] at hlt
  have hs : slots[slotId.toNat]? = some slots[slotId.toNat] := List.getElem?_eq_getElem hlt
  generalize slots[slotId.toNat] = slot at hs
  have hcanonical := hv.canonical slot (List.mem_of_getElem? hs)
  rw [Edit.run_of_bind_ok (Span.report_eq_ok.mpr (hv.readSlot hs))]
  cases hstate : slot.state with
  | dead =>
    rw [Edit.run_of_bind_error (Check.require_neg (not_not.mpr rfl))]
    exact .alreadyDead hs hstate
  | unused =>
    rw [Edit.run_of_bind_ok (Check.require_pos (by simp)),
      Edit.run_of_bind_error (Check.require_neg (by simp))]
    exact .invalidSlotState hs hstate
  | redirectReserved =>
    rw [HeapSlotEntry.Canonical, hstate] at hcanonical
    exact hcanonical.elim
  | normal =>
    rw [Edit.run_of_bind_ok (Check.require_pos (by simp)),
      Edit.run_of_bind_ok (Check.require_pos rfl),
      Edit.run_of_bind_ok (Check.present_eq_ok.mpr (encodeSlot_fresh _)), run_put]
    · exact .done hs hstate
    · rw [HeapSlotEntry.length_image]
      exact slotOffset_fits (hv.lt_room hs)

lemma set_getElem? {α : Type} {xs : List α} {x y : α} {i : ℕ} (h : (xs.set i x)[k]? = some y) :
    k = i ∧ y = x ∨ k ≠ i ∧ xs[k]? = some y := by
  rw [List.getElem?_set] at h
  split_ifs at h with hi hlt
  · exact .inl ⟨hi.symm, (Option.some.inj h).symm⟩
  · exact .inr ⟨Ne.symm hi, h⟩

lemma isUnusedAt_set {i : ℕ} {slot' : HeapSlotEntry} (hs : slots[i]? = some slot)
    (h : slot.state ≠ .unused) (h' : slot'.state ≠ .unused) :
    isUnusedAt (slots.set i slot') k = isUnusedAt slots k := by
  rw [isUnusedAt, isUnusedAt, List.getElem?_set]
  split_ifs with hi hlt
  · subst hi
    rw [hs]
    simp [h, h']
  · subst hi
    exact absurd (List.getElem?_eq_some_iff.mp hs).1 hlt
  · rfl

lemma Canonical.killed {upper : UInt16} (h : slot.Canonical upper) (hn : slot.state = .normal) :
    slot.killed.Canonical upper := by
  unfold HeapSlotEntry.Canonical at h
  rw [hn] at h
  exact ⟨h.1, .inr h.2⟩

lemma pairwise_set {R : HeapSlotEntry → HeapSlotEntry → Prop} {i : ℕ} {slot' : HeapSlotEntry}
    (hs : slots[i]? = some slot) (h : slots.Pairwise R) (hleft : ∀ a, R slot a → R slot' a)
    (hright : ∀ a, R a slot → R a slot') : (slots.set i slot').Pairwise R := by
  rw [List.pairwise_iff_getElem] at h ⊢
  obtain ⟨hi, hget⟩ := List.getElem?_eq_some_iff.mp hs
  intro a b ha hb hab
  rw [List.length_set] at ha hb
  have hR := h a b ha hb hab
  rw [List.getElem_set, List.getElem_set]
  split_ifs with hia hib hib
  · omega
  · subst hia
    rw [hget] at hR
    exact hleft _ hR
  · subst hib
    rw [hget] at hR
    exact hright _ hR
  · exact hR

section Marked

variable (hv : LocallyValid pageNo bytes headers slots) (hs : slots[slotId.toNat]? = some slot)
include hv hs

lemma slice_marked {offset count : ℕ} (h : offset + count ≤ slotOffset slotId.toNat ∨
    slotOffset slotId.toNat + heapPageSlotEntryEncodedSize ≤ offset) :
    (marked slotId slot bytes).slice offset count = bytes.slice offset count := by
  have hlen := slot.killed.length_image
  rw [marked, PageBytes.slice_overwrite_of_disjoint]
  · rw [hlen]
    exact slotOffset_fits (hv.lt_room hs)
  · rw [hlen]
    exact h

lemma LocallyValid.slotOffset_bounds :
    48 ≤ slotOffset slotId.toNat ∧ slotOffset slotId.toNat + 8 ≤ headers.heap.lower.toNat := by
  have hl : headers.heap.lower.toNat = 48 + 8 * slots.length := hv.lower
  have hk := (List.getElem?_eq_some_iff.mp hs).1
  rw [slotOffset_eq]
  omega

lemma LocallyValid.marked (hn : slot.state = .normal) :
    LocallyValid pageNo (marked slotId slot bytes) headers
      (slots.set slotId.toNat slot.killed) where
  commonStored := by
    have hb := hv.slotOffset_bounds hs
    have hkeep : (DBlusBlus.marked slotId slot bytes).slice 0 32 = bytes.slice 0 32 :=
      slice_marked hv hs (.inl (by omega))
    exact hkeep.trans hv.commonStored
  pageType := hv.pageType
  ownNumber := hv.ownNumber
  ordinary := hv.ordinary
  headerSize := hv.headerSize
  formatVersion := hv.formatVersion
  flags := hv.flags
  reserved16 := hv.reserved16
  heapStored := by
    have hb := hv.slotOffset_bounds hs
    have hkeep : (DBlusBlus.marked slotId slot bytes).slice 32 16 = bytes.slice 32 16 :=
      slice_marked hv hs (.inl (by omega))
    exact hkeep.trans hv.heapStored
  reserved := hv.reserved
  count := by rw [List.length_set, hv.count]
  lower := by rw [List.length_set, hv.lower]
  order := hv.order
  upper := hv.upper
  stored := by
    intro k other hk
    rcases set_getElem? hk with ⟨rfl, rfl⟩ | ⟨hne, hk⟩
    · have hlen := slot.killed.length_image
      rw [Nat.zero_add, DBlusBlus.marked, ← hlen, PageBytes.slice_overwrite_self]
      rw [hlen]
      exact slotOffset_fits (hv.lt_room hs)
    · rw [slice_marked hv hs, hv.stored k other hk]
      rw [slotOffset_eq, slotOffset_eq]
      change 48 + 8 * (0 + k) + 8 ≤ _ ∨ _ + 8 ≤ 48 + 8 * (0 + k)
      omega
  canonical := by
    intro other hother
    obtain ⟨k, hk⟩ := List.mem_iff_getElem?.mp hother
    rcases set_getElem? hk with ⟨-, rfl⟩ | ⟨-, hk⟩
    · exact Canonical.killed (hv.canonical slot (List.mem_of_getElem? hs)) hn
    · exact hv.canonical other (List.mem_of_getElem? hk)
  disjoint := by
    have hr : slot.killed.Retained → slot.Retained := fun h => ⟨by rw [hn]; simp, h.2⟩
    exact pairwise_set hs hv.disjoint (fun a h h₁ h₂ => h (hr h₁) h₂)
      fun a h h₁ h₂ => h h₁ (hr h₂)
  freeChain := by
    obtain ⟨path, hpath⟩ := hv.freeChain
    have hu : slot.state ≠ .unused := by
      rw [hn]
      simp
    refine ⟨path, hpath.congr (fun k other hk hstate => ?_)
      fun k => isUnusedAt_set hs hu (by simp [HeapSlotEntry.killed])⟩
    rw [List.getElem?_set, if_neg, hk]
    rintro rfl
    obtain rfl := Option.some.inj (hs.symm.trans hk)
    exact hu hstate

end Marked

lemma TuplesValid.marked (ht : TuplesValid page bytes headers.heap.slotCount slots)
    (hv : LocallyValid page.id.pageNo bytes headers slots) (hs : slots[slotId.toNat]? = some slot)
    (hn : slot.state = .normal) :
    TuplesValid page (marked slotId slot bytes) headers.heap.slotCount
      (slots.set slotId.toNat slot.killed) := by
  have hb := hv.slotOffset_bounds hs
  have ho := hv.order
  have hold {k : ℕ} {other : HeapSlotEntry} (hk : slots[k]? = some other) (hr : other.Retained) :
      validateTupleForSlot ((DBlusBlus.marked slotId slot bytes).slice other.tupleOffset.toNat
        other.tupleLength.toNat) page.schemaHistory ⟨page.id, UInt16.ofNat k⟩
          headers.heap.slotCount = .ok () := by
    have hstart := ((hv.canonical other (List.mem_of_getElem? hk)).owns hr).2.1.2.1
    rw [slice_marked hv hs (.inr (show _ + 8 ≤ _ by omega))]
    exact ht k other hk hr
  intro k other hk hr
  rcases set_getElem? hk with ⟨rfl, rfl⟩ | ⟨-, hk⟩
  · have hr' : slot.Retained := ⟨by rw [hn]; simp, hr.2⟩
    have h := hold hs hr'
    exact h
  · exact hold hk hr

end MarkDead

end DBlusBlus
