import DBlusBlus.BufferPool.Sections
import DBlusBlus.Heap.SlotMap
import DBlusBlus.Page.Finalize

/-! A page that is changed through the controller is accepted again, also when it has been written
and read back. -/

namespace DBlusBlus

open Span

inductive PageStep (page : HeapPage) (bytes : PageBytes) (headers : HeapPageHeaders)
    (slots : List HeapSlotEntry) : PageBytes → HeapPageHeaders → List HeapSlotEntry → Prop
  | same : PageStep page bytes headers slots bytes headers slots
  | inserted {tuple : List UInt8} (hroomy : Roomy headers slots tuple)
    (hc : validateTupleForSlot tuple page.schemaHistory ⟨page.id, headers.heap.slotCount⟩
      (headers.heap.slotCount + 1) = .ok ()) :
    PageStep page bytes headers slots (inserted headers.heap tuple bytes)
      ⟨headers.common, insertedHeader headers.heap tuple⟩ (slots ++ [insertedSlot headers.heap tuple])
  | marked {slotId : SlotId} {slot : HeapSlotEntry} (hs : slots[slotId.toNat]? = some slot)
    (hn : slot.state = .normal) : PageStep page bytes headers slots (marked slotId slot bytes) headers
      (slots.set slotId.toNat slot.killed)
  | compacted {plan : CompactionPlan} {bytes' : PageBytes}
    (hstate : ∀ slot ∈ slots, slot.state = .normal ∨ slot.state = .dead) (hp : PlanFor slots plan)
    (ha : Applied headers slots plan bytes bytes') : PageStep page bytes headers slots bytes'
      ⟨headers.common, compactedHeader headers.heap plan.newUpper⟩ plan.plannedSlots

section Steps

variable {page : HeapPage} {bytes bytes' : PageBytes} {headers headers' : HeapPageHeaders}
  {slots slots' : List HeapSlotEntry}

lemma perform_pageStep (call : HeapPageCall) (hv : LocallyValid page.id.pageNo bytes headers slots) :
    ∃ headers' slots', PageStep page bytes headers slots (page.perform call bytes).2 headers' slots' := by
  cases call with
  | insert tuple =>
    have houtcome : InsertOutcome page bytes headers.heap tuple
        (Edit.run (page.insert tuple) bytes) := insert_outcome hv
    rw [HeapPage.perform]
    generalize Edit.run (page.insert tuple) bytes = result at houtcome ⊢
    cases houtcome with
    | done hn hc hs =>
      have hlen : 48 ≤ tuple.length := validateTupleForSlot_length hc
      exact ⟨_, _, .inserted (hv.roomy (show 0 < tuple.length by omega) hs) hc⟩
    | _ => exact ⟨_, _, .same⟩
  | markDead slotId =>
    have houtcome : MarkDeadOutcome bytes slots slotId (Edit.run (page.markDead slotId) bytes) :=
      markDead_outcome hv
    rw [HeapPage.perform]
    generalize Edit.run (page.markDead slotId) bytes = result at houtcome ⊢
    cases houtcome with
    | done hs hn => exact ⟨_, _, .marked hs hn⟩
    | _ => exact ⟨_, _, .same⟩
  | compact =>
    have houtcome := compact_outcome hv
    rw [HeapPage.perform]
    generalize Edit.run page.compact bytes = result at houtcome ⊢
    cases houtcome with
    | done hstate hplan hp ha => exact ⟨_, _, .compacted hstate hp ha⟩
    | _ => exact ⟨_, _, .same⟩

lemma PageStep.valid (h : PageStep page bytes headers slots bytes' headers' slots')
    (hv : LocallyValid page.id.pageNo bytes headers slots) :
    LocallyValid page.id.pageNo bytes' headers' slots' := by
  cases h with
  | same => exact hv
  | inserted hroomy hc => exact hv.inserted hroomy
  | marked hs hn => exact hv.marked hs hn
  | compacted hstate hp ha => exact hv.compacted hp hstate ha

lemma PageStep.tuplesValid (h : PageStep page bytes headers slots bytes' headers' slots')
    (hv : LocallyValid page.id.pageNo bytes headers slots)
    (ht : TuplesValid page bytes headers.heap.slotCount slots) :
    TuplesValid page bytes' headers'.heap.slotCount slots' := by
  cases h with
  | same => exact ht
  | inserted hroomy hc => exact ht.inserted hv hroomy hc
  | marked hs hn => exact ht.marked hv hs hn
  | compacted hstate hp ha => exact ht.compacted hv hp hstate ha

lemma performAll_accepted (calls : List HeapPageCall)
    (hv : LocallyValid page.id.pageNo bytes headers slots)
    (ht : TuplesValid page bytes headers.heap.slotCount slots) :
    ∃ headers' slots', LocallyValid page.id.pageNo (page.performAll calls bytes).2 headers' slots' ∧
      TuplesValid page (page.performAll calls bytes).2 headers'.heap.slotCount slots' := by
  induction calls generalizing bytes headers slots with
  | nil => exact ⟨_, _, hv, ht⟩
  | cons call calls ih =>
    obtain ⟨_, _, hstep⟩ := perform_pageStep call hv
    exact ih (hstep.valid hv) (hstep.tuplesValid hv ht)

end Steps

section Checksum

variable {page : HeapPage} {bytes : PageBytes} {headers : HeapPageHeaders}
  {slots : List HeapSlotEntry} {pageNo : PageNo} {offset count : ℕ}

def HeapPageHeaders.withChecksum (headers : HeapPageHeaders) (checksum : UInt32) : HeapPageHeaders :=
  { headers with common := { headers.common with checksumCrc32c := checksum } }

lemma withChecksum_image (common : CommonPageHeader) (checksum : UInt32) :
    CommonPageHeader.image { common with checksumCrc32c := checksum } =
      (common.fields.take 4).flatten ++ (littleEndianBytes 4 checksum.toBitVec ++
        (common.fields.drop 5).flatten) := by
  simp [CommonPageHeader.image, CommonPageHeader.fields]

structure Resealed (bytes bytes' : PageBytes) (checksum : UInt32) : Prop where
  slice : ∀ {offset count : ℕ}, offset + count ≤ 16 ∨ 20 ≤ offset →
    bytes'.slice offset count = bytes.slice offset count
  stored : bytes'.slice 16 4 = littleEndianBytes 4 checksum.toBitVec

section Resealed

variable {bytes' : PageBytes} {checksum : UInt32} (h : Resealed bytes bytes' checksum)
include h

lemma Resealed.common {common : CommonPageHeader}
    (hc : bytes.slice 0 commonPageHeaderEncodedSize = common.image) :
    bytes'.slice 0 commonPageHeaderEncodedSize =
      CommonPageHeader.image { common with checksumCrc32c := checksum } := by
  have hsplit (bytes : PageBytes) : bytes.slice 0 (16 + (4 + 12)) =
      bytes.slice 0 16 ++ (bytes.slice 16 4 ++ bytes.slice 20 12) := by
    rw [PageBytes.slice_add, PageBytes.slice_add]
  have hold : bytes.slice 0 (16 + (4 + 12)) = common.image := hc
  have himage : common.image = _ := withChecksum_image common common.checksumCrc32c
  have hfront : (common.fields.take 4).flatten.length = 16 := by
    simp [CommonPageHeader.fields]
  change bytes'.slice 0 (16 + (4 + 12)) = _
  rw [hsplit] at hold ⊢
  rw [himage] at hold
  obtain ⟨h₁, h₂⟩ := List.append_inj hold (by rw [PageBytes.length_slice, hfront])
  obtain ⟨-, h₃⟩ := List.append_inj h₂ (by rw [PageBytes.length_slice, littleEndianBytes_length])
  rw [h.slice (.inl (Nat.le_refl 16)), h.slice (.inr (Nat.le_refl 20)), h₁, h₃, h.stored,
    withChecksum_image]

lemma LocallyValid.resealed (hv : LocallyValid pageNo bytes headers slots) :
    LocallyValid pageNo bytes' (headers.withChecksum checksum) slots where
  commonStored := h.common hv.commonStored
  pageType := hv.pageType
  ownNumber := hv.ownNumber
  ordinary := hv.ordinary
  headerSize := hv.headerSize
  formatVersion := hv.formatVersion
  flags := hv.flags
  reserved16 := hv.reserved16
  heapStored := (h.slice (.inr (by decide))).trans hv.heapStored
  reserved := hv.reserved
  count := hv.count
  lower := hv.lower
  order := hv.order
  upper := hv.upper
  stored := by
    intro k slot hk
    rw [h.slice, hv.stored k slot hk]
    rw [slotOffset_eq]
    exact .inr (by omega)
  canonical := hv.canonical
  disjoint := hv.disjoint
  freeChain := hv.freeChain

lemma TuplesValid.resealed (ht : TuplesValid page bytes headers.heap.slotCount slots)
    (hv : LocallyValid page.id.pageNo bytes headers slots) :
    TuplesValid page bytes' headers.heap.slotCount slots := by
  intro k slot hk hr
  have hstart := ((hv.canonical slot (List.mem_of_getElem? hk)).owns hr).2.1.2.1
  have ho := hv.order
  have hl : headers.heap.lower.toNat = 48 + 8 * slots.length := hv.lower
  rw [h.slice (.inr (by omega))]
  exact ht k slot hk hr

end Resealed

lemma resealed_finalize :
    Resealed bytes (finalizePageChecksum bytes) (computePageChecksum bytes) :=
  ⟨slice_finalize, slice_finalize_checksum⟩

/-- `Validate` as the validator of the file that owns the page. -/
def heapPageValidator (schemaHistory : HeapTupleSchemaHistory) : BufferPool.PageValidator :=
  fun page => match HeapPage.validate ⟨page.id, schemaHistory⟩ page.bytes with
    | .ok _ => .valid
    | .error _ => .corrupt

end Checksum

section Theorem

variable {page : HeapPage} {bytes : PageBytes} {headers : HeapPageHeaders}

lemma validate_accepts : (∃ headers, page.validate bytes = .ok headers) ↔
    ∃ headers slots, LocallyValid page.id.pageNo bytes headers slots ∧
      TuplesValid page bytes headers.heap.slotCount slots := by
  simp only [HeapPage.validate, validateWith_eq_ok, true_imp_iff]

lemma Resealed.accepted {final : PageBytes} {checksum : UInt32} {slots : List HeapSlotEntry}
    {verifyChecksum : Bool} (h : Resealed bytes final checksum)
    (hverified : verifyPageChecksum final = true)
    (hv : LocallyValid page.id.pageNo bytes headers slots)
    (ht : TuplesValid page bytes headers.heap.slotCount slots) :
    BufferPool.validateLoadedPage ⟨page.id, final⟩ (heapPageValidator page.schemaHistory)
      verifyChecksum = .valid := by
  have hvfinal := hv.resealed h
  have htfinal := TuplesValid.resealed h ht hv
  obtain ⟨_, hfinal⟩ := validate_accepts.mpr ⟨_, _, hvfinal, htfinal⟩
  rw [BufferPool.validateLoadedPage, hverified, Bool.not_true, Bool.and_false, if_neg (by simp)]
  dsimp only
  rw [header_eq_some.mpr hvfinal.commonStored]
  dsimp only
  rw [if_neg (not_not.mpr hvfinal.ownNumber), heapPageValidator]
  dsimp only
  rw [hfinal]

end Theorem

end DBlusBlus
