import DBlusBlus.Heap.Compact

/-! A compaction is exact. -/

namespace DBlusBlus

open Span Packing

def normalBytes (slots : List HeapSlotEntry) : ℕ :=
  (slots.map fun slot => if slot.state = .normal then slot.tupleLength.toNat else 0).sum

/-- What a compaction does with the slots of a page. -/
structure Compacted (bytes bytes' : PageBytes) (slots slots' : List HeapSlotEntry)
    (upper' : UInt16) : Prop where
  length : slots'.length = slots.length
  upper : upper'.toNat = pageSize - normalBytes slots
  common : bytes'.slice 0 commonPageHeaderEncodedSize = bytes.slice 0 commonPageHeaderEncodedSize
  normal : ∀ (k : ℕ) (slot : HeapSlotEntry), slots[k]? = some slot → slot.state = .normal →
    ∃ offset, slots'[k]? = some { slot with tupleOffset := offset } ∧
      bytes'.slice offset.toNat slot.tupleLength.toNat =
        bytes.slice slot.tupleOffset.toNat slot.tupleLength.toNat
  dead : ∀ (k : ℕ) (slot : HeapSlotEntry), slots[k]? = some slot → slot.state = .dead →
    slots'[k]? = some ⟨0, 0, .dead, 0⟩
  order : ∀ (i j : ℕ) (a b a' b' : HeapSlotEntry), slots[i]? = some a → slots[j]? = some b →
    a.state = .normal → b.state = .normal → a.tupleOffset < b.tupleOffset →
    slots'[i]? = some a' → slots'[j]? = some b' → a'.stop ≤ b'.tupleOffset.toNat
  cover : ∀ k, upper'.toNat ≤ k → k < pageSize → ∃ (i : ℕ) (slot' : HeapSlotEntry),
    slots'[i]? = some slot' ∧ slot'.state = .normal ∧ slot'.tupleOffset.toNat ≤ k ∧ k < slot'.stop

def MovesClear (slots : List HeapSlotEntry) (plan : CompactionPlan) : Prop :=
  plan.liveOrder.Pairwise fun first later => ∀ planned slot : HeapSlotEntry,
    plan.plannedSlots[first.toNat]? = some planned → slots[later.toNat]? = some slot →
      slot.stop ≤ planned.tupleOffset.toNat

section Total

variable {slots : List HeapSlotEntry} {slot : HeapSlotEntry}

lemma slotAt_concat {k : ℕ} (h : k < slots.length) : slotAt (slots ++ [slot]) k = slotAt slots k := by
  rw [slotAt, slotAt, List.getElem?_append_left h]

lemma total_livePayloads (h : slots.length ≤ maxHeapPageSlotCount) :
    total (livePayloads slots) = normalBytes slots := by
  have hsum : total (livePayloads slots) =
      ((liveIds slots).map fun slotId => (slotAt slots slotId.toNat).tupleLength.toNat).sum := by
    rw [total, ((perm_livePayloads slots).map _).sum_eq, List.map_map]
    rfl
  rw [hsum, normalBytes]
  clear hsum
  induction slots using List.reverseRecOn with
  | nil => rfl
  | append_singleton slots slot ih =>
    have hlen : slots.length < maxHeapPageSlotCount := by
      rw [List.length_append, List.length_singleton] at h
      omega
    have hids : (liveIds slots).map (fun slotId => (slotAt (slots ++ [slot])
        slotId.toNat).tupleLength.toNat) =
        (liveIds slots).map fun slotId => (slotAt slots slotId.toNat).tupleLength.toNat := by
      refine List.map_congr_left fun slotId hid => ?_
      obtain ⟨other, ho, -⟩ := (mem_liveIds hlen.le).mp hid
      rw [slotAt_concat (List.getElem?_eq_some_iff.mp ho).1]
    rw [liveIds_concat, List.map_append, List.sum_append, List.map_singleton, List.sum_singleton,
      ← ih hlen.le, ← hids]
    split
    · rename_i hn
      have hlast : slotAt (slots ++ [slot]) slots.length = slot :=
        slotAt_eq (by rw [List.getElem?_append_right (Nat.le_refl _), Nat.sub_self]; rfl)
      rw [List.map_append, List.sum_append, List.map_singleton, List.sum_singleton,
        toNat_slotId hlen, hlast]
    · rw [Nat.add_zero]

end Total

section Compacted

variable {page : HeapPage} {bytes bytes' : PageBytes} {headers : HeapPageHeaders}
  {slots : List HeapSlotEntry} {plan : CompactionPlan} {pageNo : PageNo}

lemma PlanFor.movesClear (hp : PlanFor slots plan) (hv : LocallyValid pageNo bytes headers slots) :
    MovesClear slots plan := by
  have hclear := placed_clear hv.below
  have hkeys : (placed pageSize (livePayloads slots)).map Prod.fst = livePayloads slots :=
    placed_map_fst
  rw [MovesClear, hp.liveOrder, ← hkeys, List.map_map, List.pairwise_map]
  refine hclear.imp_of_mem ?_
  intro pd qd hpd hqd hle planned slot hplanned hslot
  obtain ⟨x, -, -, -, -, hx, hxs⟩ := hp.place hv hpd
  obtain ⟨y, hy, -, hysource, hylength, -, -⟩ := hp.place hv hqd
  obtain rfl := Option.some.inj (hx.symm.trans hplanned)
  obtain rfl := Option.some.inj (hy.symm.trans hslot)
  rw [HeapSlotEntry.stop, ← hysource, ← hylength, hxs]
  exact hle

theorem Applied.compacted (hv : LocallyValid pageNo bytes headers slots) (hp : PlanFor slots plan)
    (hstate : ∀ slot ∈ slots, slot.state = .normal ∨ slot.state = .dead)
    (ha : Applied headers slots plan bytes bytes') :
    Compacted bytes bytes' slots plan.plannedSlots (UInt16.ofNat plan.newUpper) where
  length := hp.length
  upper := by rw [hp.toNat_newUpper, total_livePayloads hv.room]
  common := ha.common
  normal := by
    intro k slot hs hn
    have hlt : k < plan.plannedSlots.length := by
      rw [hp.length]
      exact (List.getElem?_eq_some_iff.mp hs).1
    obtain ⟨other, ho, ⟨-, pd, hpd, -, hsource, hlength, hplanned, hsmall⟩ | ⟨hd, -⟩⟩ :=
      hp.planned hv hstate (List.getElem?_eq_getElem hlt)
    · obtain rfl := Option.some.inj (hs.symm.trans ho)
      refine ⟨_, (List.getElem?_eq_getElem hlt).trans (congrArg some hplanned), ?_⟩
      rw [hsmall, ← hlength, ← hsource]
      exact ha.slice hv hpd
    · obtain rfl := Option.some.inj (hs.symm.trans ho)
      rw [hn] at hd
      cases hd
  dead := by
    intro k slot hs hd
    have hc := hv.canonical slot (List.mem_of_getElem? hs)
    unfold HeapSlotEntry.Canonical at hc
    rw [hd] at hc
    rw [hp.dead k slot hs hd, hc.1]
  order := by
    intro i j a b a' b' ha hb han hbn hlt ha' hb'
    obtain ⟨x, hx, ⟨-, pd, hpd, -, hxsource, hxlength, rfl, hxs⟩ | ⟨hd, -⟩⟩ :=
      hp.planned hv hstate ha'
    swap
    · obtain rfl := Option.some.inj (ha.symm.trans hx)
      rw [han] at hd
      cases hd
    obtain ⟨y, hy, ⟨-, qd, hqd, -, hysource, hylength, rfl, hys⟩ | ⟨hd, -⟩⟩ :=
      hp.planned hv hstate hb'
    swap
    · obtain rfl := Option.some.inj (hb.symm.trans hy)
      rw [hbn] at hd
      cases hd
    obtain rfl := Option.some.inj (ha.symm.trans hx)
    obtain rfl := Option.some.inj (hb.symm.trans hy)
    rw [UInt16.lt_iff_toNat_lt, ← hxsource, ← hysource] at hlt
    rw [HeapSlotEntry.stop, hxs, hys, ← hxlength]
    exact placed_monotone hv.below hpd hqd hlt
  cover := by
    intro k hle hlt
    rw [hp.toNat_newUpper] at hle
    obtain ⟨pd, hpd, hin⟩ := placed_cover hv.below hle hlt
    obtain ⟨slot, -, hn, -, hlength, hplanned, hsmall⟩ := hp.place hv hpd
    refine ⟨pd.1.key.toNat, _, hplanned, hn, ?_⟩
    rw [HeapSlotEntry.stop, hsmall, ← hlength]
    exact hin

lemma normalBytes_compacted {slots' : List HeapSlotEntry} {upper' : UInt16}
    (h : Compacted bytes bytes' slots slots' upper')
    (hstate : ∀ slot ∈ slots, slot.state = .normal ∨ slot.state = .dead) :
    normalBytes slots' = normalBytes slots := by
  rw [normalBytes, normalBytes]
  refine congrArg List.sum (List.ext_getElem? fun k => ?_)
  rw [List.getElem?_map, List.getElem?_map]
  rcases hk : slots[k]? with _ | slot
  · have hlen := List.getElem?_eq_none_iff.mp hk
    rw [List.getElem?_eq_none (h.length ▸ hlen)]
  · rcases hstate slot (List.mem_of_getElem? hk) with hn | hd
    · obtain ⟨offset, hs', -⟩ := h.normal k slot hk hn
      rw [hs']
      rfl
    · rw [h.dead k slot hk hd, Option.map_some, Option.map_some, hd]
      rfl

theorem Applied.stays (hv : LocallyValid page.id.pageNo bytes headers slots)
    (hp : PlanFor slots plan) (hstate : ∀ slot ∈ slots, slot.state = .normal ∨ slot.state = .dead)
    (ha : Applied headers slots plan bytes bytes') :
    Edit.run page.compact bytes' = (.ok (), bytes') := by
  have hv' := hv.compacted hp hstate ha
  have hc := ha.compacted hv hp hstate
  have hbytes := total_livePayloads hv.room
  have hbytes' := total_livePayloads hv'.room
  rw [normalBytes_compacted hc hstate] at hbytes'
  have htotal := hv.total_le
  have hupper : (UInt16.ofNat plan.newUpper).toNat + total (livePayloads plan.plannedSlots) =
      pageSize := by
    rw [hc.upper, hbytes']
    omega
  have houtcome := compact_outcome hv'
  generalize hrun : Edit.run page.compact bytes' = result at houtcome
  cases houtcome with
  | unsupported hk hs =>
    obtain ⟨slot, -, ⟨hn, pd, -, -, -, -, rfl, -⟩ | ⟨-, rfl⟩⟩ := hp.planned hv hstate hk
    · exact absurd (hn.symm.trans hs) (by simp)
    · exact absurd hs (by simp)
  | @done plan' bytes'' hstate' _ hp' ha' =>
    have hslots : plan'.plannedSlots = plan.plannedSlots := by
      refine List.ext_getElem? fun k => ?_
      rcases hk : plan'.plannedSlots[k]? with _ | slot''
      · rw [List.getElem?_eq_none_iff, hp'.length] at hk
        rw [List.getElem?_eq_none hk]
      · obtain ⟨slot', hs', ⟨-, pd, hpd, -, hsource, -, rfl, -⟩ | ⟨hd, rfl⟩⟩ :=
          hp'.planned hv' hstate' hk
        · have htight := placed_tight hv'.below hv'.source_ge hupper hpd
          rw [hs', htight, hsource, UInt16.ofNat_toNat]
        · obtain ⟨slot, -, ⟨hn, qd, -, -, -, -, rfl, -⟩ | ⟨-, rfl⟩⟩ := hp.planned hv hstate hs'
          · exact absurd (hn.symm.trans hd) (by simp)
          · exact hs'.symm
    have hnew : plan'.newUpper = plan.newUpper := by
      rw [hp'.newUpper, hp.newUpper, hbytes', hbytes]
    have hstored := ha'.stored
    have hheader := ha'.heapStored
    have hlower : headers.heap.lower.toNat = 48 + 8 * slots.length := hv.lower
    rw [hslots] at hstored
    rw [hnew] at hheader
    suffices h : bytes'' = bytes' by rw [h]
    refine PageBytes.ext_byteAt fun k hk => ?_
    rcases Nat.lt_or_ge k 32 with h | h
    · exact PageBytes.byteAt_of_slice ha'.common (Nat.zero_le _) (by rw [Nat.zero_add]; exact h)
    rcases Nat.lt_or_ge k 48 with h₂ | h₂
    · exact PageBytes.byteAt_of_slice (hheader.trans ha.heapStored.symm) h h₂
    rcases Nat.lt_or_ge k headers.heap.lower.toNat with h₃ | h₃
    · have hlt : (k - 48) / 8 < plan.plannedSlots.length := by
        rw [hp.length]
        omega
      have hget := List.getElem?_eq_getElem hlt
      refine PageBytes.byteAt_of_slice ((hstored _ _ hget).trans (ha.stored _ _ hget).symm) ?_ ?_
      · rw [slotOffset_eq]
        omega
      · rw [slotOffset_eq]
        change k < _ + 8
        omega
    · rw [ha'.moved k h₃, moveAll_tight hv'.below hv'.source_ge hupper]

end Compacted

section Theorem

variable {page : HeapPage} {bytes : PageBytes} {headers : HeapPageHeaders}

theorem compact_exact (h : page.validateStructure bytes = .ok headers) :
    ∃ slots, LocallyValid page.id.pageNo bytes headers slots ∧
      ((∃ (k : ℕ) (slot : HeapSlotEntry), slots[k]? = some slot ∧ slot.state = .unused ∧
        (∀ (j : ℕ) (other : HeapSlotEntry), slots[j]? = some other → j < k →
          other.state ≠ .unused) ∧
        Edit.run page.compact bytes =
          (.error (.error ⟨.unsupportedSlotState, .none, UInt16.ofNat k⟩), bytes)) ∨
      (∀ slot ∈ slots, slot.state ≠ .unused) ∧ ∃ plan bytes',
        planCompaction bytes headers.heap.lower headers.heap.slotCount = .ok plan ∧
        MovesClear slots plan ∧
        Edit.run page.compact bytes = (.ok (), bytes') ∧
        LocallyValid page.id.pageNo bytes'
          ⟨headers.common, { headers.heap with upper := UInt16.ofNat plan.newUpper }⟩
          plan.plannedSlots ∧
        Compacted bytes bytes' slots plan.plannedSlots (UInt16.ofNat plan.newUpper) ∧
        Edit.run page.compact bytes' = (.ok (), bytes')) := by
  obtain ⟨slots, hv⟩ := validateStructure_eq_ok.mp h
  refine ⟨slots, hv, ?_⟩
  have houtcome := compact_outcome hv
  generalize hrun : Edit.run page.compact bytes = result at houtcome
  cases houtcome with
  | unsupported hk hs hfirst => exact .inl ⟨_, _, hk, hs, hfirst, rfl⟩
  | @done plan bytes' hstate hplan hp ha =>
    refine .inr ⟨fun slot hslot => ?_, plan, bytes', hplan, hp.movesClear hv, rfl,
      hv.compacted hp hstate ha, ha.compacted hv hp hstate, ha.stays hv hp hstate⟩
    rcases hstate slot hslot with hn | hd
    · rw [hn]
      simp
    · rw [hd]
      simp

end Theorem

def samplePage : HeapPage := ⟨⟨⟨1⟩, 1⟩, ⟨[], by simp⟩⟩

def sampleHeaders : HeapPageHeaders := ⟨initialCommon 1 0, ⟨3, invalidSlotId, 72, 8100, 0, 0⟩⟩

/-- Two live tuples around one that is dead. -/
def sampleSlots : List HeapSlotEntry :=
  [⟨8100, 10, .normal, 0⟩, ⟨8150, 12, .dead, 0⟩, ⟨8120, 20, .normal, 0⟩]

def sampleBytes : PageBytes :=
  PageBytes.zero.overwrite 0 (sampleHeaders.common.image ++ sampleHeaders.heap.image ++
    (sampleSlots.map HeapSlotEntry.image).flatten)

set_option maxRecDepth 20000 in
lemma sampleBytes_valid : samplePage.validateStructure sampleBytes = .ok sampleHeaders := by
  have h : (match samplePage.validateStructure sampleBytes with
    | .ok headers => decide (headers = sampleHeaders)
    | .error _ => false) = true := by decide +kernel
  generalize samplePage.validateStructure sampleBytes = result at h ⊢
  cases result with
  | error e => cases h
  | ok headers => rw [decide_eq_true_iff.mp h]

set_option maxRecDepth 20000 in
lemma sampleBytes_compacts : (Edit.run samplePage.compact sampleBytes).1.isOk = true := by
  decide +kernel

theorem compact_exact_sample : ∃ bytes' : PageBytes,
    Edit.run samplePage.compact sampleBytes = (.ok (), bytes') ∧
    Edit.run samplePage.compact bytes' = (.ok (), bytes') := by
  obtain ⟨slots, -, ⟨_, _, -, -, -, hrun⟩ | ⟨-, plan, bytes', -, -, hrun, -, -, hagain⟩⟩ :=
    compact_exact sampleBytes_valid
  · have h := sampleBytes_compacts
    rw [hrun] at h
    cases h
  · exact ⟨bytes', hrun, hagain⟩

end DBlusBlus
