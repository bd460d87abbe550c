import DBlusBlus.Heap.FreeChain
import DBlusBlus.Tuple.Decode

/-! `Validate` and `ValidateStructure` decide the local validity of a heap page. -/

namespace DBlusBlus

open Span

/-- What a page says about itself: its headers, its slots, and that they fit together. -/
structure LocallyValid (pageNo : PageNo) (bytes : PageBytes) (headers : HeapPageHeaders)
    (slots : List HeapSlotEntry) : Prop where
  commonStored : bytes.slice 0 commonPageHeaderEncodedSize = headers.common.image
  pageType : headers.common.pageType = PageType.heapData
  ownNumber : headers.common.pageNo = pageNo
  ordinary : IsValidHeapPageNumber pageNo
  headerSize : headers.common.headerSize = UInt16.ofNat heapPageTotalHeaderSize
  formatVersion : headers.common.formatVersion = heapPageFormatVersion
  flags : headers.common.flags = 0
  reserved16 : headers.common.reserved16 = 0
  heapStored : bytes.slice heapPageHeaderOffset heapPageHeaderEncodedSize = headers.heap.image
  reserved : headers.heap.reserved = 0
  count : headers.heap.slotCount.toNat = slots.length
  lower : headers.heap.lower.toNat =
    heapPageTotalHeaderSize + heapPageSlotEntryEncodedSize * slots.length
  order : headers.heap.lower.toNat ≤ headers.heap.upper.toNat
  upper : headers.heap.upper.toNat ≤ pageSize
  stored : StoredFrom bytes 0 slots
  canonical : ∀ slot ∈ slots, slot.Canonical headers.heap.upper
  disjoint : slots.Pairwise fun a b => a.Retained → b.Retained → a.Apart b
  freeChain : ∃ path, FreeChain slots headers.heap.freeSlotHead path

/-- Every retained tuple is valid where it is. -/
def TuplesValid (page : HeapPage) (bytes : PageBytes) (slotCount : UInt16)
    (slots : List HeapSlotEntry) : Prop :=
  ∀ (k : ℕ) (slot : HeapSlotEntry), slots[k]? = some slot → slot.Retained →
    validateTupleForSlot (bytes.slice slot.tupleOffset.toNat slot.tupleLength.toNat)
      page.schemaHistory ⟨page.id, UInt16.ofNat k⟩ slotCount = .ok ()

section Headers

variable {bytes : PageBytes} {common : CommonPageHeader} {heap : HeapPageHeader} {pageNo : PageNo}

lemma header_eq_some : bytes.header = some common ↔
    bytes.slice 0 commonPageHeaderEncodedSize = common.image := by
  rw [PageBytes.header, PageBytes.subspan_eq_slice, decodeCommonPageHeader_eq_some]
  constructor
  · intro hp
    exact (hp.eq_of_length (by rw [CommonPageHeader.length_image, PageBytes.length_slice])).symm
  · intro he
    rw [he]

lemma heapHeader_eq {ε : Type} : (HeapPage.header bytes : Except (Exit ε) _) =
    .ok (decodeHeapPageHeader (bytes.slice heapPageHeaderOffset heapPageHeaderEncodedSize)) := by
  rw [HeapPage.header, PageBytes.read_eq (by decide), Check.ok_bind]
  rfl

lemma heapHeader_eq_some :
    decodeHeapPageHeader (bytes.slice heapPageHeaderOffset heapPageHeaderEncodedSize) = some heap ↔
      bytes.slice heapPageHeaderOffset heapPageHeaderEncodedSize = heap.image := by
  rw [decodeHeapPageHeader_eq_some]
  constructor
  · intro hp
    exact (hp.eq_of_length (by rw [HeapPageHeader.length_image, PageBytes.length_slice])).symm
  · intro he
    rw [he]

lemma validateCommonHeader_eq_none : validateCommonHeader common pageNo = .none ↔
    common.pageType = PageType.heapData ∧ common.pageNo = pageNo ∧ IsValidHeapPageNumber pageNo ∧
      common.headerSize = UInt16.ofNat heapPageTotalHeaderSize ∧
      common.formatVersion = heapPageFormatVersion ∧ common.flags = 0 ∧ common.reserved16 = 0 := by
  unfold validateCommonHeader
  split_ifs <;> simp_all

lemma validateHeapHeaderGeometry_eq_none : validateHeapHeaderGeometry heap = .none ↔
    heap.reserved = 0 ∧ heap.lower.toNat =
      heapPageTotalHeaderSize + heapPageSlotEntryEncodedSize * heap.slotCount.toNat ∧
      heap.lower.toNat ≤ heap.upper.toNat ∧ heap.upper.toNat ≤ pageSize := by
  have hsize : heapPageTotalHeaderSize = 48 := rfl
  have hentry : heapPageSlotEntryEncodedSize = 8 := rfl
  have hpage : pageSize = 8192 := rfl
  have hdir : heapPageSlotDirectoryOffset = 48 := rfl
  unfold validateHeapHeaderGeometry
  dsimp only
  rw [hsize, hentry, hpage, hdir]
  split_ifs with h₁ h₂ h₃ h₄ h₅ h₆
  · simp [h₁]
  · simp only [false_iff]
    omega
  · simp only [false_iff]
    omega
  · rw [UInt16.lt_iff_toNat_lt] at h₄
    simp only [false_iff]
    omega
  · rw [UInt16.lt_iff_toNat_lt] at h₄
    simp only [false_iff]
    omega
  · simp only [false_iff]
    omega
  · rw [UInt16.lt_iff_toNat_lt] at h₄
    simp only [true_iff]
    refine ⟨not_not.mp h₁, ?_⟩
    omega

end Headers

section Tuples

variable {bytes : PageBytes} {page : HeapPage} {slotCount upper : UInt16} {slot : HeapSlotEntry}
  {slots done rest : List HeapSlotEntry}

lemma HeapSlotEntry.Canonical.owns (h : slot.Canonical upper) (hr : slot.Retained) :
    slot.aux = 0 ∧ slot.OwnsRange upper ∧ (slot.state = .normal ∨ slot.state = .dead) := by
  unfold HeapSlotEntry.Canonical at h
  cases hs : slot.state with
  | unused => exact absurd hs hr.1
  | redirectReserved =>
    rw [hs] at h
    exact h.elim
  | normal =>
    rw [hs] at h
    exact ⟨h.1, h.2, .inl rfl⟩
  | dead =>
    rw [hs] at h
    exact ⟨h.1, h.2.resolve_left fun hz => hr.2 hz.2, .inr rfl⟩

lemma not_retained : ¬ slot.Retained ↔ slot.state = .unused ∨ slot.tupleLength = 0 := by
  rw [HeapSlotEntry.Retained, not_and_or, not_not, not_not]

lemma validateRetainedTuples_eq_ok (hsplit : slots = done ++ rest)
    (hroom : ∀ slot ∈ rest, slot.Retained → slot.stop ≤ pageSize) :
    validateRetainedTuples bytes page.id page.schemaHistory slotCount (SlotDirectory.ofSlots slots)
      rest.length done.length = .ok () ↔
      ∀ (k : ℕ) (slot : HeapSlotEntry), rest[k]? = some slot → slot.Retained →
        validateTupleForSlot (bytes.slice slot.tupleOffset.toNat slot.tupleLength.toNat)
          page.schemaHistory ⟨page.id, UInt16.ofNat (done.length + k)⟩ slotCount = .ok () := by
  induction rest generalizing done with
  | nil => simp [validateRetainedTuples]
  | cons slot rest ih =>
    have hget : Span.get (SlotDirectory.ofSlots slots).slots done.length =
        (.ok slot : Except (Exit HeapPageValidationFailure) _) := by
      rw [Span.get_eq_ok, SlotDirectory.ofSlots, hsplit,
        List.getElem?_append_right (Nat.le_refl _), Nat.sub_self]
      rfl
    have hnext : validateRetainedTuples bytes page.id page.schemaHistory slotCount
        (SlotDirectory.ofSlots slots) rest.length (done.length + 1) = .ok () ↔
        ∀ (k : ℕ) (slot : HeapSlotEntry), rest[k]? = some slot → slot.Retained →
          validateTupleForSlot (bytes.slice slot.tupleOffset.toNat slot.tupleLength.toNat)
            page.schemaHistory ⟨page.id, UInt16.ofNat (done.length + (k + 1))⟩ slotCount =
              .ok () := by
      have hstep : done.length + 1 = (done ++ [slot]).length := by simp
      rw [hstep, ih (by rw [hsplit, List.append_assoc]; rfl)
        fun other ho => hroom other (List.mem_cons_of_mem _ ho), ← hstep]
      simp only [Nat.add_assoc, Nat.add_comm 1]
    have hcons : (∀ (k : ℕ) (other : HeapSlotEntry), (slot :: rest)[k]? = some other →
        other.Retained → validateTupleForSlot (bytes.slice other.tupleOffset.toNat
          other.tupleLength.toNat) page.schemaHistory
            ⟨page.id, UInt16.ofNat (done.length + k)⟩ slotCount = .ok ()) ↔
        (slot.Retained → validateTupleForSlot (bytes.slice slot.tupleOffset.toNat
          slot.tupleLength.toNat) page.schemaHistory ⟨page.id, UInt16.ofNat done.length⟩ slotCount =
            .ok ()) ∧ validateRetainedTuples bytes page.id page.schemaHistory slotCount
              (SlotDirectory.ofSlots slots) rest.length (done.length + 1) = .ok () := by
      rw [hnext]
      constructor
      · exact fun h => ⟨h 0 slot rfl, fun k => h (k + 1)⟩
      · rintro ⟨hhere, hrest⟩ k other hk hr
        cases k with
        | zero =>
          obtain rfl := Option.some.inj hk
          exact hhere hr
        | succ k => exact hrest k other hk hr
    rw [hcons, List.length_cons, validateRetainedTuples, hget, Check.ok_bind]
    by_cases hr : slot.Retained
    · rw [if_neg (fun h => not_retained.mpr h hr),
        PageBytes.read_eq (hroom slot (List.mem_cons_self ..) hr), Check.ok_bind, Check.bind_eq_ok]
      simp only [Span.report_eq_ok, hr, true_imp_iff]
      constructor
      · rintro ⟨_, h, hrest⟩
        exact ⟨h, hrest⟩
      · rintro ⟨h, hrest⟩
        exact ⟨(), h, hrest⟩
    · rw [if_pos (not_retained.mp hr)]
      exact (and_iff_right fun h => absurd h hr).symm

end Tuples

section Validate

variable {bytes : PageBytes} {page : HeapPage} {headers : HeapPageHeaders}
  {slots : List HeapSlotEntry}

lemma LocallyValid.room {pageNo : PageNo} (h : LocallyValid pageNo bytes headers slots) :
    slots.length ≤ maxHeapPageSlotCount := by
  have hl := h.lower
  have ho := h.order
  have hu := h.upper
  change _ = 48 + 8 * slots.length at hl
  change _ ≤ 8192 at hu
  change slots.length ≤ 1018
  omega

section Passes

variable {heap : HeapPageHeader} {directory : SlotDirectory}

lemma slotCount_room (hl : heap.lower.toNat = heapPageTotalHeaderSize +
      heapPageSlotEntryEncodedSize * heap.slotCount.toNat)
    (ho : heap.lower.toNat ≤ heap.upper.toNat) (hu : heap.upper.toNat ≤ pageSize) :
    heap.slotCount.toNat ≤ maxHeapPageSlotCount ∧ 0 < heap.upper.toNat := by
  change _ = 48 + 8 * heap.slotCount.toNat at hl
  change _ ≤ 8192 at hu
  change _ ≤ 1018 ∧ _
  omega

lemma decodeSlotDirectory_eq_ok (hroom : heap.slotCount.toNat ≤ maxHeapPageSlotCount)
    (hpos : 0 < heap.upper.toNat) :
    decodeSlots bytes heap.upper heap.slotCount.toNat 0 {} = .ok directory ↔
      ∃ slots : List HeapSlotEntry, slots.length = heap.slotCount.toNat ∧
        StoredFrom bytes 0 slots ∧ (∀ slot ∈ slots, slot.Canonical heap.upper) ∧
        directory = SlotDirectory.ofSlots slots := by
  have h : decodeSlots bytes heap.upper heap.slotCount.toNat 0 {} = .ok directory ↔ _ :=
    decodeSlots_eq_ok [] (by rw [List.length_nil, Nat.zero_add]; exact hroom)
  rw [h]
  simp only [validateSlotDescriptor_eq_none hpos, List.length_nil, List.nil_append]

lemma passes_eq_ok {tupleChecks : TupleChecks} {result : HeapPageHeaders}
    (hl : heap.lower.toNat = heapPageTotalHeaderSize +
      heapPageSlotEntryEncodedSize * heap.slotCount.toNat)
    (ho : heap.lower.toNat ≤ heap.upper.toNat) (hu : heap.upper.toNat ≤ pageSize) :
    (do
      let directory ← decodeSlots bytes heap.upper heap.slotCount.toNat 0 {}
      checkRetainedRangesDisjoint directory
      if tupleChecks = .all then
        validateRetainedTuples bytes page.id page.schemaHistory heap.slotCount directory
          heap.slotCount.toNat 0
      validateFreeSlotChain heap.slotCount directory heap.freeSlotHead
      return headers : Except (Exit HeapPageValidationFailure) HeapPageHeaders) = .ok result ↔
      ∃ slots : List HeapSlotEntry, heap.slotCount.toNat = slots.length ∧ StoredFrom bytes 0 slots ∧
        (∀ slot ∈ slots, slot.Canonical heap.upper) ∧
        (slots.Pairwise fun a b => a.Retained → b.Retained → a.Apart b) ∧
        (∃ path, FreeChain slots heap.freeSlotHead path) ∧
        (tupleChecks = .all → TuplesValid page bytes heap.slotCount slots) ∧ headers = result := by
  obtain ⟨hroom, hpos⟩ := slotCount_room hl ho hu
  rw [Check.bind_eq_ok]
  simp only [decodeSlotDirectory_eq_ok hroom hpos]
  have hrest {slots : List HeapSlotEntry} (hlen : slots.length = heap.slotCount.toNat)
      (hc : ∀ slot ∈ slots, slot.Canonical heap.upper) :
      (do
        checkRetainedRangesDisjoint (SlotDirectory.ofSlots slots)
        if tupleChecks = .all then
          validateRetainedTuples bytes page.id page.schemaHistory heap.slotCount
            (SlotDirectory.ofSlots slots) heap.slotCount.toNat 0
        validateFreeSlotChain heap.slotCount (SlotDirectory.ofSlots slots) heap.freeSlotHead
        return headers : Except (Exit HeapPageValidationFailure) HeapPageHeaders) = .ok result ↔
        (slots.Pairwise fun a b => a.Retained → b.Retained → a.Apart b) ∧
        (∃ path, FreeChain slots heap.freeSlotHead path) ∧
        (tupleChecks = .all → TuplesValid page bytes heap.slotCount slots) ∧ headers = result := by
    have hmax : slots.length ≤ maxHeapPageSlotCount := hlen.trans_le hroom
    have htuples : validateRetainedTuples bytes page.id page.schemaHistory heap.slotCount
        (SlotDirectory.ofSlots slots) heap.slotCount.toNat 0 = .ok () ↔
          TuplesValid page bytes heap.slotCount slots := by
      have h : validateRetainedTuples bytes page.id page.schemaHistory heap.slotCount
          (SlotDirectory.ofSlots slots) slots.length ([] : List HeapSlotEntry).length = .ok () ↔ _ :=
        validateRetainedTuples_eq_ok (List.nil_append slots).symm
          fun slot hs hr => ((hc slot hs).owns hr).2.1.2.2
      rw [← hlen]
      simpa only [List.length_nil, Nat.zero_add, TuplesValid] using h
    have hchain : (validateFreeSlotChain heap.slotCount (SlotDirectory.ofSlots slots)
        heap.freeSlotHead >>= fun _ => (pure headers :
          Except (Exit HeapPageValidationFailure) HeapPageHeaders)) = .ok result ↔
        (∃ path, FreeChain slots heap.freeSlotHead path) ∧ headers = result := by
      rw [Check.bind_eq_ok, ← validateFreeSlotChain_eq_ok hlen.symm hmax]
      exact ⟨fun ⟨_, h, hr⟩ => ⟨h, Except.ok.inj hr⟩, fun ⟨h, hr⟩ => ⟨(), h, congrArg Except.ok hr⟩⟩
    rw [Check.bind_eq_ok, ← checkRetainedRangesDisjoint_eq_ok hmax]
    by_cases hall : tupleChecks = .all
    · simp only [hall, if_true, true_imp_iff, ← htuples]
      constructor
      · rintro ⟨_, hd, h⟩
        obtain ⟨_, ht, h⟩ := Check.bind_eq_ok.mp h
        obtain ⟨hf, hr⟩ := hchain.mp h
        exact ⟨hd, hf, ht, hr⟩
      · rintro ⟨hd, hf, ht, hr⟩
        exact ⟨(), hd, Check.bind_eq_ok.mpr ⟨(), ht, hchain.mpr ⟨hf, hr⟩⟩⟩
    · simp only [hall, if_false, false_imp_iff, true_and]
      constructor
      · rintro ⟨_, hd, h⟩
        exact ⟨hd, hchain.mp h⟩
      · rintro ⟨hd, h⟩
        exact ⟨(), hd, hchain.mpr h⟩
  constructor
  · rintro ⟨-, ⟨slots, hlen, hst, hc, rfl⟩, h⟩
    exact ⟨slots, hlen.symm, hst, hc, (hrest hlen hc).mp h⟩
  · rintro ⟨slots, hlen, hst, hc, h⟩
    exact ⟨_, ⟨slots, hlen.symm, hst, hc, rfl⟩, (hrest hlen.symm hc).mpr h⟩

end Passes

theorem validateWith_eq_ok {tupleChecks : TupleChecks} :
    page.validateWith bytes tupleChecks = .ok headers ↔
      ∃ slots, LocallyValid page.id.pageNo bytes headers slots ∧
        (tupleChecks = .all → TuplesValid page bytes headers.heap.slotCount slots) := by
  rw [HeapPage.validateWith]
  simp only [Check.present_bind, Check.require_bind, header_eq_some, heapHeader_eq, Check.ok_bind,
    heapHeader_eq_some, validateCommonHeader_eq_none, validateHeapHeaderGeometry_eq_none]
  constructor
  · rintro ⟨common, hcommon, ⟨h₁, h₂, h₃, h₄, h₅, h₆, h₇⟩, heap, hheap, ⟨hr, hl, ho, hu⟩, h⟩
    obtain ⟨slots, hlen, hst, hc, hd, hf, ht, rfl⟩ := (passes_eq_ok hl ho hu).mp h
    exact ⟨slots, ⟨hcommon, h₁, h₂, h₃, h₄, h₅, h₆, h₇, hheap, hr, hlen, by rw [hl, hlen], ho, hu,
      hst, hc, hd, hf⟩, ht⟩
  · rintro ⟨slots, hv, ht⟩
    have hl := hv.lower
    rw [← hv.count] at hl
    refine ⟨headers.common, hv.commonStored, ⟨hv.pageType, hv.ownNumber, hv.ordinary, hv.headerSize,
      hv.formatVersion, hv.flags, hv.reserved16⟩, headers.heap, hv.heapStored,
      ⟨hv.reserved, hl, hv.order, hv.upper⟩, ?_⟩
    exact (passes_eq_ok hl hv.order hv.upper).mpr
      ⟨slots, hv.count, hv.stored, hv.canonical, hv.disjoint, hv.freeChain, ht, rfl⟩

lemma validateStructure_eq_ok : page.validateStructure bytes = .ok headers ↔
    ∃ slots, LocallyValid page.id.pageNo bytes headers slots := by
  rw [HeapPage.validateStructure, validateWith_eq_ok]
  simp

end Validate

section Safety

variable {bytes : PageBytes} {page : HeapPage} {slotCount upper : UInt16} {tuple : List UInt8}
  {slots done rest : List HeapSlotEntry} {remaining : ℕ} {rid : Rid}

lemma HeapTupleSchemaHistory.resolve_built {history : HeapTupleSchemaHistory} {version : SchemaVer}
    {layout : TuplePhysicalLayout} (h : history.resolve version = some layout) :
    ∃ columns version, Built columns version layout := by
  rw [HeapTupleSchemaHistory.resolve] at h
  split at h
  · cases h
  · obtain ⟨columns, built, hbuild⟩ := history.built layout (List.mem_of_find?_eq_some h)
    exact ⟨columns, built, buildTuplePhysicalLayout_built hbuild⟩

lemma validateTupleForSlot_safe : Safe (validateTupleForSlot tuple page.schemaHistory rid slotCount) := by
  refine (decodeTupleHeader_safe tuple).report.bind fun header _ => Safe.present.bind ?_
  intro layout hl
  rw [Check.present_eq_ok] at hl
  obtain ⟨columns, version, hb⟩ := HeapTupleSchemaHistory.resolve_built hl
  exact (validateTuple_safe hb).report.bind fun _ _ => Safe.require.bind fun _ _ => Safe.require

lemma decodeSlots_safe (hroom : done.length + remaining ≤ maxHeapPageSlotCount) :
    Safe (decodeSlots bytes upper remaining done.length (SlotDirectory.ofSlots done)) := by
  induction remaining generalizing done with
  | zero => exact Safe.ok
  | succ remaining ih =>
    have hlt : done.length < maxHeapPageSlotCount := by omega
    have hread : Safe (readSlot bytes done.length) := readSlot_safe hlt
    cases hs : readSlot bytes done.length with
    | ok slot =>
      rw [decodeSlots_slot hlt hs]
      have hstep : done.length + 1 = (done ++ [slot]).length := by simp
      rw [hstep]
      exact Safe.require.bind fun _ _ => ih (by rw [← hstep]; omega)
    | error e =>
      rw [hs] at hread
      rw [decodeSlots, hs]
      exact hread.report.bind fun _ h => by cases e <;> cases h

lemma validateRetainedTuples_safe (hsplit : slots = done ++ rest)
    (hroom : ∀ slot ∈ rest, slot.Retained → slot.stop ≤ pageSize) :
    Safe (validateRetainedTuples bytes page.id page.schemaHistory slotCount
      (SlotDirectory.ofSlots slots) rest.length done.length) := by
  induction rest generalizing done with
  | nil => exact Safe.ok
  | cons slot rest ih =>
    have hnext : Safe (validateRetainedTuples bytes page.id page.schemaHistory slotCount
        (SlotDirectory.ofSlots slots) rest.length (done.length + 1)) := by
      have hstep : done.length + 1 = (done ++ [slot]).length := by simp
      rw [hstep]
      exact ih (by rw [hsplit, List.append_assoc]; rfl)
        fun other ho => hroom other (List.mem_cons_of_mem _ ho)
    have hget : (SlotDirectory.ofSlots slots).slots[done.length]? = some slot := by
      rw [SlotDirectory.ofSlots, hsplit, List.getElem?_append_right (Nat.le_refl _), Nat.sub_self]
      rfl
    refine (Safe.get (List.getElem?_eq_some_iff.mp hget).1).bind fun other hother => ?_
    rw [Span.get_eq_ok, hget] at hother
    obtain rfl := Option.some.inj hother
    split
    · exact hnext
    · rename_i hr
      exact (PageBytes.read_safe (hroom slot (List.mem_cons_self ..)
        (not_not.mp (mt not_retained.mp hr)))).bind
          fun _ _ => validateTupleForSlot_safe.report.bind fun _ _ => hnext

lemma isUnused_safe {slotId : SlotId} (hcount : slotCount.toNat = slots.length)
    (h : slots.length ≤ maxHeapPageSlotCount) :
    Safe (isUnused slotCount (SlotDirectory.ofSlots slots) slotId) := by
  rw [isUnused_eq hcount h]
  exact Safe.ok

lemma checkFreeSlotLinks_safe {index : ℕ} (hcount : slotCount.toNat = slots.length)
    (h : slots.length ≤ maxHeapPageSlotCount) (hroom : index + remaining ≤ slots.length) :
    Safe (checkFreeSlotLinks slotCount (SlotDirectory.ofSlots slots) remaining index) := by
  induction remaining generalizing index with
  | zero => exact Safe.ok
  | succ remaining ih =>
    have hnext : Safe (checkFreeSlotLinks slotCount (SlotDirectory.ofSlots slots) remaining
        (index + 1)) := ih (by omega)
    refine (Safe.get (by rw [length_unusedSlots h]; omega)).bind fun unused _ => ?_
    split
    · refine (Safe.get (show index < slots.length by omega)).bind fun slot _ => ?_
      split
      · exact (isUnused_safe hcount h).bind fun _ _ => Safe.require.bind fun _ _ => hnext
      · exact hnext
    · exact hnext

lemma checkMembership_safe {index : ℕ} {visited : List Bool}
    (h : slots.length ≤ maxHeapPageSlotCount) (hv : visited.length = maxHeapPageSlotCount)
    (hroom : index + remaining ≤ maxHeapPageSlotCount) :
    Safe (checkMembership (SlotDirectory.ofSlots slots) visited remaining index) := by
  induction remaining generalizing index with
  | zero => exact Safe.ok
  | succ remaining ih =>
    exact (Safe.get (by rw [length_unusedSlots h]; omega)).bind fun _ _ =>
      (Safe.get (by omega)).bind fun _ _ => Safe.require.bind fun _ _ => ih (by omega)

lemma validateFreeSlotChain_safe {head : SlotId} (hcount : slotCount.toNat = slots.length)
    (h : slots.length ≤ maxHeapPageSlotCount) :
    Safe (validateFreeSlotChain slotCount (SlotDirectory.ofSlots slots) head) := by
  refine (checkFreeSlotLinks_safe hcount h (by omega)).bind fun _ hlinks => ?_
  have hclosed : LinksClosed slots := by
    rw [hcount] at hlinks
    exact (checkFreeSlotLinks_eq_ok hcount h (List.nil_append slots).symm).mp hlinks
  have hwalk (hc : head = invalidSlotId ∨ isUnusedAt slots head.toNat = true) : Safe (do
      let visited ← walkFreeSlots (SlotDirectory.ofSlots slots).slots (maxHeapPageSlotCount + 1) head
        (List.replicate maxHeapPageSlotCount false)
      if visited ≠ (SlotDirectory.ofSlots slots).unusedSlots then
        checkMembership (SlotDirectory.ofSlots slots) visited slotCount.toNat 0
      else return ()) := by
    refine (walkFreeSlots_safe hclosed ?_ walk_start hc).bind fun visited hvisited => ?_
    · rw [List.length_replicate]
      exact h
    · obtain ⟨path, -, -, -, rfl⟩ := (walkFreeSlots_eq_ok walk_start).mp hvisited
      split
      · exact checkMembership_safe h (by rw [length_markAll, List.length_replicate]) (by omega)
      · exact Safe.ok
  dsimp only
  split
  · rw [isUnused_eq hcount h, Check.ok_bind]
    refine Safe.require.bind fun _ hlinked => ?_
    rw [Check.require_eq_ok] at hlinked
    exact hwalk (.inr hlinked)
  · rename_i hne
    exact hwalk (.inl (not_not.mp hne))

theorem validateWith_safe {tupleChecks : TupleChecks} :
    Safe (page.validateWith bytes tupleChecks) := by
  refine Safe.present.bind fun common _ => Safe.require.bind fun _ _ => ?_
  rw [heapHeader_eq, Check.ok_bind]
  refine Safe.present.bind fun heap _ => Safe.require.bind fun _ hg => ?_
  rw [Check.require_eq_ok, validateHeapHeaderGeometry_eq_none] at hg
  obtain ⟨-, hl, ho, hu⟩ := hg
  obtain ⟨hroom, hpos⟩ := slotCount_room hl ho hu
  have hdecode : Safe (decodeSlots bytes heap.upper heap.slotCount.toNat
      ([] : List HeapSlotEntry).length (SlotDirectory.ofSlots [])) :=
    decodeSlots_safe (by rw [List.length_nil, Nat.zero_add]; exact hroom)
  refine Safe.bind hdecode fun directory hd => ?_
  obtain ⟨slots, hlen, -, hc, rfl⟩ := (decodeSlotDirectory_eq_ok hroom hpos).mp hd
  have hmax : slots.length ≤ maxHeapPageSlotCount := hlen.trans_le hroom
  have hend : Safe (do
      validateFreeSlotChain heap.slotCount (SlotDirectory.ofSlots slots) heap.freeSlotHead
      return (⟨common, heap⟩ : HeapPageHeaders)) :=
    (validateFreeSlotChain_safe hlen.symm hmax).bind fun _ _ => Safe.ok
  have hdisjoint : Safe (checkRetainedRangesDisjoint (SlotDirectory.ofSlots slots)) := by
    rw [checkRetainedRangesDisjoint_eq hmax]
    exact checkNeighbours_safe
  refine hdisjoint.bind fun _ _ => ?_
  dsimp only
  split
  · have htuples : Safe (validateRetainedTuples bytes page.id page.schemaHistory heap.slotCount
        (SlotDirectory.ofSlots slots) slots.length ([] : List HeapSlotEntry).length) :=
      validateRetainedTuples_safe (List.nil_append slots).symm
        fun slot hs hr => ((hc slot hs).owns hr).2.1.2.2
    rw [hlen] at htuples
    exact Safe.bind htuples fun _ _ => hend
  · exact hend

end Safety

section Overlap

variable {bytes : PageBytes} {page : HeapPage} {slotCount upper : UInt16} {tuple : List UInt8}
  {directory : SlotDirectory} {remaining index : ℕ} {rid : Rid} {head : SlotId}
  {history : HeapTupleSchemaHistory}

def NotOverlap (failure : HeapPageValidationFailure) : Prop :=
  failure.code ≠ .overlappingTupleRanges

lemma slotDecodeError_ne {e : HeapSlotEntryDecodeError} :
    slotDecodeError e ≠ .overlappingTupleRanges := by
  cases e <;> simp [slotDecodeError]

lemma validateSlotDescriptor_ne {slot : HeapSlotEntry} :
    validateSlotDescriptor slot upper ≠ .overlappingTupleRanges := by
  unfold validateSlotDescriptor
  cases slot.state with
  | redirectReserved => simp
  | _ =>
    dsimp only
    split_ifs <;> simp

lemma validateCommonHeader_ne {common : CommonPageHeader} {pageNo : PageNo} :
    validateCommonHeader common pageNo ≠ .overlappingTupleRanges := by
  unfold validateCommonHeader
  split_ifs <;> simp

lemma validateHeapHeaderGeometry_ne {heap : HeapPageHeader} :
    validateHeapHeaderGeometry heap ≠ .overlappingTupleRanges := by
  unfold validateHeapHeaderGeometry
  dsimp only
  split_ifs <;> simp

lemma validateTupleForSlot_raises : Raises (fun check => check.error ≠ .overlappingTupleRanges)
    (validateTupleForSlot tuple history rid slotCount) := by
  refine (Raises.report fun _ _ => by simp).bind fun _ _ => ?_
  refine (Raises.present fun _ => by simp).bind fun _ _ => ?_
  refine (Raises.report fun _ _ => by simp).bind fun _ _ => ?_
  exact (Raises.require fun _ => by simp).bind fun _ _ => Raises.require fun _ => by simp

lemma decodeSlots_raises : Raises NotOverlap (decodeSlots bytes upper remaining index directory) := by
  induction remaining generalizing index directory with
  | zero => exact Raises.ok
  | succ remaining ih =>
    have hread : Raises NotOverlap (report (fun e => slotFailure (slotDecodeError e)
        (UInt16.ofNat index)) (readSlot bytes index)) := Raises.report fun _ _ => slotDecodeError_ne
    refine Raises.bind hread fun slot _ => ?_
    refine Raises.push.bind fun slots _ => ?_
    have hvalid : Raises NotOverlap (Check.require (validateSlotDescriptor slot upper = .none)
        (.error (slotFailure (validateSlotDescriptor slot upper) (UInt16.ofNat index)))) :=
      Raises.require fun _ => validateSlotDescriptor_ne
    refine Raises.bind hvalid fun _ _ => ?_
    split
    · exact Raises.write.bind fun _ _ => ih
    · split
      · exact Raises.push.bind fun _ _ => ih
      · exact ih

lemma validateRetainedTuples_raises {pageId : PageId} :
    Raises NotOverlap (validateRetainedTuples bytes pageId history slotCount directory remaining
      index) := by
  induction remaining generalizing index with
  | zero => exact Raises.ok
  | succ remaining ih =>
    refine Raises.get.bind fun slot _ => ?_
    split
    · exact ih
    · refine Raises.bind ?_ fun tuple _ => ?_
      · rw [PageBytes.read]
        split
        · exact Raises.ok
        · exact Raises.fault
      · have htuple : Raises NotOverlap (report (fun check => ⟨check.error, UInt16.ofNat index,
            invalidSlotId, check.tupleError, check.tupleHeaderError⟩) (validateTupleForSlot tuple
              history ⟨pageId, UInt16.ofNat index⟩ slotCount)) :=
          Raises.report fun check h => validateTupleForSlot_raises check h
        exact Raises.bind htuple fun _ _ => ih

lemma isUnused_raises {slotId : SlotId} : Raises NotOverlap (isUnused slotCount directory slotId) := by
  rw [isUnused]
  split
  · exact Raises.get
  · exact Raises.ok

lemma checkFreeSlotLinks_raises :
    Raises NotOverlap (checkFreeSlotLinks slotCount directory remaining index) := by
  induction remaining generalizing index with
  | zero => exact Raises.ok
  | succ remaining ih =>
    refine Raises.get.bind fun unused _ => ?_
    split
    · refine Raises.get.bind fun slot _ => ?_
      split
      · exact isUnused_raises.bind fun _ _ =>
          (Raises.require fun _ => by simp [NotOverlap, slotFailure]).bind fun _ _ => ih
      · exact ih
    · exact ih

lemma walkFreeSlots_raises {slots : List HeapSlotEntry} {current : SlotId} {visited : List Bool} :
    Raises NotOverlap (walkFreeSlots slots remaining current visited) := by
  induction remaining generalizing current visited with
  | zero => exact Raises.fault
  | succ remaining ih =>
    rw [walkFreeSlots]
    split
    · exact Raises.ok
    · exact Raises.get.bind fun _ _ =>
        (Raises.require fun _ => by simp [NotOverlap, slotFailure]).bind fun _ _ =>
          Raises.write.bind fun _ _ => Raises.get.bind fun _ _ => ih

lemma checkMembership_raises {visited : List Bool} :
    Raises NotOverlap (checkMembership directory visited remaining index) := by
  induction remaining generalizing index with
  | zero => exact Raises.ok
  | succ remaining ih =>
    exact Raises.get.bind fun _ _ => Raises.get.bind fun _ _ =>
      (Raises.require fun _ => by simp [NotOverlap, slotFailure]).bind fun _ _ => ih

lemma validateFreeSlotChain_raises :
    Raises NotOverlap (validateFreeSlotChain slotCount directory head) := by
  refine checkFreeSlotLinks_raises.bind fun _ _ => ?_
  have hwalk : Raises NotOverlap (do
      let visited ← walkFreeSlots directory.slots (maxHeapPageSlotCount + 1) head
        (List.replicate maxHeapPageSlotCount false)
      if visited ≠ directory.unusedSlots then
        checkMembership directory visited slotCount.toNat 0
      else return ()) := by
    refine walkFreeSlots_raises.bind fun visited _ => ?_
    split
    · exact checkMembership_raises
    · exact Raises.ok
  dsimp only
  split
  · exact isUnused_raises.bind fun _ _ =>
      (Raises.require fun _ => by simp [NotOverlap, slotFailure]).bind fun _ _ => hwalk
  · exact hwalk

/-- The two slots of the failure exist, and their ranges have a byte in common. -/
def NamesOverlap (bytes : PageBytes) (failure : HeapPageValidationFailure) : Prop :=
  ∃ a b : HeapSlotEntry, readSlot bytes failure.otherSlotId.toNat = .ok a ∧
    readSlot bytes failure.slotId.toNat = .ok b ∧ failure.slotId ≠ failure.otherSlotId ∧
    a.Retained ∧ b.Retained ∧ ∃ k, (a.tupleOffset.toNat ≤ k ∧ k < a.stop) ∧
      (b.tupleOffset.toNat ≤ k ∧ k < b.stop)

lemma NotOverlap.imp {failure : HeapPageValidationFailure} (h : NotOverlap failure)
    (hc : failure.code = .overlappingTupleRanges) : NamesOverlap bytes failure :=
  absurd hc h

lemma validateWith_overlap {tupleChecks : TupleChecks} :
    Raises (fun failure => failure.code = .overlappingTupleRanges → NamesOverlap bytes failure)
      (page.validateWith bytes tupleChecks) := by
  refine (Raises.present fun _ => by simp).bind fun common _ => ?_
  refine (Raises.require fun _ hc => absurd hc validateCommonHeader_ne).bind fun _ _ => ?_
  rw [heapHeader_eq, Check.ok_bind]
  refine (Raises.present fun _ => by simp).bind fun heap _ => ?_
  refine (Raises.require fun _ hc => absurd hc validateHeapHeaderGeometry_ne).bind fun _ hg => ?_
  rw [Check.require_eq_ok, validateHeapHeaderGeometry_eq_none] at hg
  obtain ⟨-, hl, ho, hu⟩ := hg
  obtain ⟨hroom, hpos⟩ := slotCount_room hl ho hu
  refine Raises.bind (fun e h => NotOverlap.imp (decodeSlots_raises e h)) fun directory hd => ?_
  obtain ⟨slots, hlen, hst, -, rfl⟩ := (decodeSlotDirectory_eq_ok hroom hpos).mp hd
  have hmax : slots.length ≤ maxHeapPageSlotCount := hlen.trans_le hroom
  have hread {k : ℕ} {slot : HeapSlotEntry} (hk : slots[k]? = some slot) :
      readSlot bytes k = .ok slot := by
    rw [readSlot_eq_ok ((List.getElem?_eq_some_iff.mp hk).1.trans_le hmax), ← hst k slot hk,
      Nat.zero_add]
  refine Raises.bind (fun failure herr _ => ?_) fun _ _ => ?_
  · obtain ⟨a, b, ha, hb, hne, hra, hrb, hle, hlt⟩ := checkRetainedRangesDisjoint_eq_error hmax herr
    have hpos : b.tupleLength.toNat ≠ 0 := fun hz => hrb.2 (UInt16.toNat_inj.mp hz)
    refine ⟨a, b, hread ha, hread hb, hne, hra, hrb, b.tupleOffset.toNat, ⟨hle, hlt⟩, Nat.le_refl _, ?_⟩
    rw [HeapSlotEntry.stop]
    omega
  have hend : Raises (fun failure => failure.code = .overlappingTupleRanges →
      NamesOverlap bytes failure) (do
        validateFreeSlotChain heap.slotCount (SlotDirectory.ofSlots slots) heap.freeSlotHead
        return (⟨common, heap⟩ : HeapPageHeaders)) :=
    Raises.bind (fun e h => NotOverlap.imp (validateFreeSlotChain_raises e h)) fun _ _ => Raises.ok
  dsimp only
  split
  · exact Raises.bind (fun e h => NotOverlap.imp (validateRetainedTuples_raises e h)) fun _ _ => hend
  · exact hend

end Overlap

theorem heapPage_validation (page : HeapPage) (bytes : PageBytes) :
    (∀ headers, page.validateStructure bytes = .ok headers ↔
      ∃ slots, LocallyValid page.id.pageNo bytes headers slots) ∧
    (∀ headers, page.validate bytes = .ok headers ↔
      ∃ slots, LocallyValid page.id.pageNo bytes headers slots ∧
        TuplesValid page bytes headers.heap.slotCount slots) ∧
    (Safe (page.validateStructure bytes) ∧ Safe (page.validate bytes)) ∧
    ∀ failure, failure.code = .overlappingTupleRanges →
      page.validateStructure bytes = .error (.error failure) ∨
        page.validate bytes = .error (.error failure) → NamesOverlap bytes failure := by
  refine ⟨fun _ => validateStructure_eq_ok, fun headers => ?_,
    ⟨validateWith_safe, validateWith_safe⟩, ?_⟩
  · rw [HeapPage.validate, validateWith_eq_ok]
    simp only [true_imp_iff]
  · rintro failure hc (herr | herr)
    · exact validateWith_overlap failure herr hc
    · exact validateWith_overlap failure herr hc

end DBlusBlus
