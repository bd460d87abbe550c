import DBlusBlus.Heap.Mutate
import DBlusBlus.Library.Packing

/-! The compaction of a valid page. -/

namespace DBlusBlus

open Span Packing

/-- The entry after a compaction, but for the place of a live tuple. -/
def HeapSlotEntry.reclaimed (slot : HeapSlotEntry) : HeapSlotEntry :=
  match slot.state with
  | .dead => { slot with tupleOffset := 0, tupleLength := 0 }
  | _ => slot

def isNormalAt (slots : List HeapSlotEntry) (k : ℕ) : Bool :=
  slots[k]?.any fun slot => decide (slot.state = .normal)

def liveIds (slots : List HeapSlotEntry) : List SlotId :=
  ((List.range slots.length).filter fun k => isNormalAt slots k).map UInt16.ofNat

def CompactionPlan.ofSlots (slots : List HeapSlotEntry) : CompactionPlan where
  plannedSlots := slots.map HeapSlotEntry.reclaimed
  sourceOffsets := slots.map HeapSlotEntry.tupleOffset
  sourceLengths := slots.map HeapSlotEntry.tupleLength
  liveOrder := liveIds slots

section Plan

variable {bytes : PageBytes} {slots done rest : List HeapSlotEntry} {slot : HeapSlotEntry}
  {remaining k : ℕ} {slotId : SlotId}

lemma isNormalAt_iff : isNormalAt slots k = true ↔
    ∃ slot, slots[k]? = some slot ∧ slot.state = .normal := by
  rw [isNormalAt, Option.any_eq_true]
  simp only [decide_eq_true_iff]

lemma liveIds_concat : liveIds (done ++ [slot]) =
    if slot.state = .normal then liveIds done ++ [UInt16.ofNat done.length] else liveIds done := by
  have hold : (List.range done.length).filter (fun k => isNormalAt (done ++ [slot]) k) =
      (List.range done.length).filter fun k => isNormalAt done k := by
    refine List.filter_congr fun k hk => ?_
    rw [isNormalAt, isNormalAt, List.getElem?_append_left (List.mem_range.mp hk)]
  have hnew : isNormalAt (done ++ [slot]) done.length = decide (slot.state = .normal) := by
    rw [isNormalAt, List.getElem?_append_right (Nat.le_refl _), Nat.sub_self]
    rfl
  rw [liveIds, List.length_append, List.length_singleton, List.range_succ, List.filter_append, hold,
    List.map_append, List.filter_singleton, hnew]
  by_cases h : slot.state = .normal
  · rw [if_pos h, decide_eq_true h]
    rfl
  · rw [if_neg h, decide_eq_false h]
    exact List.append_nil _

lemma mem_liveIds (h : slots.length ≤ maxHeapPageSlotCount) :
    slotId ∈ liveIds slots ↔ ∃ slot, slots[slotId.toNat]? = some slot ∧ slot.state = .normal := by
  rw [liveIds, List.mem_map]
  simp only [List.mem_filter, List.mem_range, isNormalAt_iff]
  constructor
  · rintro ⟨k, ⟨hk, hs⟩, rfl⟩
    rwa [toNat_slotId (hk.trans_le h)]
  · rintro ⟨slot, hs, hn⟩
    have hlt := (List.getElem?_eq_some_iff.mp hs).1
    exact ⟨slotId.toNat, ⟨hlt, slot, hs, hn⟩, UInt16.ofNat_toNat⟩

lemma nodup_liveIds (h : slots.length ≤ maxHeapPageSlotCount) : (liveIds slots).Nodup := by
  refine List.Nodup.map_on (fun a ha b hb hab => ?_) (List.nodup_range.filter _)
  have ha' := List.mem_range.mp (List.mem_filter.mp ha).1
  have hb' := List.mem_range.mp (List.mem_filter.mp hb).1
  rw [← toNat_slotId (ha'.trans_le h), ← toNat_slotId (hb'.trans_le h), hab]

lemma planSlots_slot (hroom : done.length < maxHeapPageSlotCount)
    (hs : readSlot bytes done.length = .ok slot) (hstate : slot.state = .normal ∨ slot.state = .dead) :
    planSlots bytes (remaining + 1) done.length (CompactionPlan.ofSlots done) =
      planSlots bytes remaining (done.length + 1) (CompactionPlan.ofSlots (done ++ [slot])) := by
  have hlive : (liveIds done).length ≤ done.length := by
    rw [liveIds, List.length_map]
    exact (List.length_filter_le ..).trans (List.length_range).le
  rw [planSlots, hs]
  simp only [CompactionPlan.ofSlots]
  change (Span.push maxHeapPageSlotCount _ slot.reclaimed >>= _) = _
  rw [Span.push_eq (by rwa [List.length_map]), Check.ok_bind,
    Span.push_eq (by rwa [List.length_map]), Check.ok_bind,
    Span.push_eq (by rwa [List.length_map]), Check.ok_bind, liveIds_concat, List.map_append,
    List.map_append, List.map_append]
  rcases hstate with hstate | hstate
  · rw [hstate]
    dsimp only
    rw [Span.push_eq (hlive.trans_lt hroom), Check.ok_bind, if_pos rfl]
    rfl
  · rw [hstate]
    dsimp only
    rw [if_neg (by simp)]
    rfl

lemma planSlots_unused (hroom : done.length < maxHeapPageSlotCount)
    (hs : readSlot bytes done.length = .ok slot) (hstate : slot.state = .unused) :
    planSlots bytes (remaining + 1) done.length (CompactionPlan.ofSlots done) =
      .error (.error ⟨.unsupportedSlotState, .none, UInt16.ofNat done.length⟩) := by
  rw [planSlots, hs]
  simp only [CompactionPlan.ofSlots]
  change (Span.push maxHeapPageSlotCount _ slot.reclaimed >>= _) = _
  rw [Span.push_eq (by rwa [List.length_map]), Check.ok_bind,
    Span.push_eq (by rwa [List.length_map]), Check.ok_bind,
    Span.push_eq (by rwa [List.length_map]), Check.ok_bind, hstate]

lemma planSlots_append (done : List HeapSlotEntry)
    (hroom : (done ++ rest).length ≤ maxHeapPageSlotCount) (hst : StoredFrom bytes done.length rest)
    (hstate : ∀ slot ∈ rest, slot.state = .normal ∨ slot.state = .dead) :
    planSlots bytes (rest.length + remaining) done.length (CompactionPlan.ofSlots done) =
      planSlots bytes remaining (done ++ rest).length (CompactionPlan.ofSlots (done ++ rest)) := by
  induction rest generalizing done with
  | nil => rw [List.append_nil, List.length_nil, Nat.zero_add]
  | cons slot rest ih =>
    obtain ⟨hs, hst⟩ := storedFrom_cons.mp hst
    have hstep : done.length + 1 = (done ++ [slot]).length := by simp
    have happend : done ++ slot :: rest = (done ++ [slot]) ++ rest := by
      rw [List.append_assoc]
      rfl
    have hlt : done.length < maxHeapPageSlotCount := by
      rw [List.length_append, List.length_cons] at hroom
      omega
    rw [List.length_cons, show rest.length + 1 + remaining = rest.length + remaining + 1 by omega,
      planSlots_slot hlt ((readSlot_eq_ok hlt).mpr hs) (hstate slot (List.mem_cons_self ..)), hstep,
      happend]
    rw [happend] at hroom
    exact ih _ hroom (hstep ▸ hst) fun other ho => hstate other (List.mem_cons_of_mem _ ho)

end Plan

namespace LiveRange

variable {a b c : LiveRange}

instance : Std.Total Before where
  total a b := by
    unfold Before
    simp only [UInt16.lt_iff_toNat_lt, UInt16.le_iff_toNat_le, ← UInt16.toNat_inj]
    omega

instance : IsTrans LiveRange Before where
  trans a b c := by
    unfold Before
    simp only [UInt16.lt_iff_toNat_lt, UInt16.le_iff_toNat_le, ← UInt16.toNat_inj]
    omega

lemma Before.offset_le (h : a.Before b) : b.sourceOffset.toNat ≤ a.sourceOffset.toNat := by
  rcases h with h | ⟨h, -⟩
  · rw [UInt16.lt_iff_toNat_lt] at h
    exact h.le
  · rw [h]

end LiveRange

def slotAt (slots : List HeapSlotEntry) (k : ℕ) : HeapSlotEntry := slots[k]?.getD ⟨0, 0, .unused, 0⟩

def liveRangesOf (slots : List HeapSlotEntry) : List LiveRange :=
  (liveIds slots).map fun slotId => ⟨(slotAt slots slotId.toNat).tupleOffset, slotId⟩

def livePayload (slots : List HeapSlotEntry) (slotId : SlotId) : Payload SlotId :=
  ⟨slotId, (slotAt slots slotId.toNat).tupleOffset.toNat,
    (slotAt slots slotId.toNat).tupleLength.toNat⟩

/-- The live tuples, the last one of the page first. -/
def livePayloads (slots : List HeapSlotEntry) : List (Payload SlotId) :=
  (((liveRangesOf slots).insertionSort LiveRange.Before).map LiveRange.slotId).map (livePayload slots)

section Order

variable {slots : List HeapSlotEntry} {slot : HeapSlotEntry} {upper : UInt16} {k : ℕ}
  {slotId : SlotId} {p : Payload SlotId}

lemma slotAt_eq (h : slots[k]? = some slot) : slotAt slots k = slot := by
  rw [slotAt, h]
  rfl

lemma liveRanges_eq {ids : List SlotId} (h : ∀ slotId ∈ ids, slotId.toNat < slots.length) :
    liveRanges (slots.map HeapSlotEntry.tupleOffset) ids =
      .ok (ids.map fun slotId => ⟨(slotAt slots slotId.toNat).tupleOffset, slotId⟩) := by
  induction ids with
  | nil => rfl
  | cons slotId ids ih =>
    have hs : slots[slotId.toNat]? = some (slots.get ⟨slotId.toNat, h slotId (List.mem_cons_self ..)⟩) :=
      List.getElem?_eq_getElem _
    have hget : (slots.map HeapSlotEntry.tupleOffset)[slotId.toNat]? =
        some (slotAt slots slotId.toNat).tupleOffset := by
      rw [List.getElem?_map, hs, slotAt_eq hs]
      rfl
    rw [liveRanges, Span.get_eq_ok.mpr hget, Check.ok_bind,
      ih fun other ho => h other (List.mem_cons_of_mem _ ho)]
    rfl

lemma perm_livePayloads (slots : List HeapSlotEntry) :
    (livePayloads slots).Perm ((liveIds slots).map (livePayload slots)) := by
  have h := (List.perm_insertionSort LiveRange.Before (liveRangesOf slots)).map LiveRange.slotId
  rw [liveRangesOf, List.map_map, show LiveRange.slotId ∘ (fun slotId : SlotId => (⟨(slotAt slots
    slotId.toNat).tupleOffset, slotId⟩ : LiveRange)) = id from rfl, List.map_id] at h
  exact h.map _

lemma mem_livePayloads (h : slots.length ≤ maxHeapPageSlotCount) : p ∈ livePayloads slots ↔
    ∃ slot, slots[p.key.toNat]? = some slot ∧ slot.state = .normal ∧
      p.source = slot.tupleOffset.toNat ∧ p.length = slot.tupleLength.toNat := by
  rw [(perm_livePayloads slots).mem_iff, List.mem_map]
  constructor
  · rintro ⟨slotId, hid, rfl⟩
    obtain ⟨slot, hs, hn⟩ := (mem_liveIds h).mp hid
    exact ⟨slot, hs, hn, by rw [livePayload, slotAt_eq hs], by rw [livePayload, slotAt_eq hs]⟩
  · rintro ⟨slot, hs, hn, hsource, hlength⟩
    refine ⟨p.key, (mem_liveIds h).mpr ⟨slot, hs, hn⟩, ?_⟩
    rw [livePayload, slotAt_eq hs, ← hsource, ← hlength]

lemma nodup_keys (h : slots.length ≤ maxHeapPageSlotCount) :
    ((livePayloads slots).map Payload.key).Nodup := by
  have hperm := (perm_livePayloads slots).map Payload.key
  rw [List.map_map, show Payload.key ∘ livePayload slots = id from rfl, List.map_id] at hperm
  exact hperm.nodup_iff.mpr (nodup_liveIds h)

lemma apart_of_ne (hd : slots.Pairwise fun a b => a.Retained → b.Retained → a.Apart b) {i j : ℕ}
    {a b : HeapSlotEntry} (hij : i ≠ j) (ha : slots[i]? = some a) (hb : slots[j]? = some b)
    (hra : a.Retained) (hrb : b.Retained) : a.Apart b := by
  obtain ⟨hi, rfl⟩ := List.getElem?_eq_some_iff.mp ha
  obtain ⟨hj, rfl⟩ := List.getElem?_eq_some_iff.mp hb
  rw [List.pairwise_iff_getElem] at hd
  rcases Nat.lt_or_gt_of_ne hij with h | h
  · exact hd i j hi hj h hra hrb
  · exact (hd j i hj hi h hrb hra).symm

lemma HeapSlotEntry.Canonical.normal (h : slot.Canonical upper) (hn : slot.state = .normal) :
    slot.aux = 0 ∧ slot.OwnsRange upper := by
  unfold HeapSlotEntry.Canonical at h
  rwa [hn] at h

lemma HeapSlotEntry.Canonical.retained (h : slot.Canonical upper) (hn : slot.state = .normal) :
    slot.Retained :=
  ⟨by rw [hn]; simp, (h.normal hn).2.1⟩

lemma HeapSlotEntry.OwnsRange.pos (h : slot.OwnsRange upper) : 0 < slot.tupleLength.toNat :=
  Nat.pos_of_ne_zero fun hz => h.1 (UInt16.toNat_inj.mp hz)

lemma below_livePayloads (h : slots.length ≤ maxHeapPageSlotCount)
    (hc : ∀ slot ∈ slots, slot.Canonical upper)
    (hd : slots.Pairwise fun a b => a.Retained → b.Retained → a.Apart b) :
    Below pageSize (livePayloads slots) := by
  have hsorted := List.pairwise_insertionSort LiveRange.Before (liveRangesOf slots)
  have hmem : ∀ range ∈ (liveRangesOf slots).insertionSort LiveRange.Before,
      ∃ slot, slots[range.slotId.toNat]? = some slot ∧ slot.state = .normal ∧
        range.sourceOffset = slot.tupleOffset := by
    intro range hr
    obtain ⟨slotId, hid, rfl⟩ := List.mem_map.mp ((List.mem_insertionSort _).mp hr)
    obtain ⟨slot, hs, hn⟩ := (mem_liveIds h).mp hid
    exact ⟨slot, hs, hn, by rw [slotAt_eq hs]⟩
  have hids : ((liveRangesOf slots).insertionSort LiveRange.Before).Pairwise
      fun a b => a.slotId ≠ b.slotId := by
    have hnodup := nodup_keys h
    rw [livePayloads, List.map_map, show Payload.key ∘ livePayload slots = id from rfl, List.map_id] at hnodup
    exact List.pairwise_map.mp hnodup
  refine below_of_pairwise ?_ fun p hp => ?_
  · rw [livePayloads, List.map_map, List.pairwise_map]
    refine (hsorted.and hids).imp_of_mem ?_
    rintro a b ha hb ⟨hle, hne⟩
    obtain ⟨x, hx, hxn, hxo⟩ := hmem a ha
    obtain ⟨y, hy, hyn, hyo⟩ := hmem b hb
    have hcx := hc x (List.mem_of_getElem? hx)
    have hcy := hc y (List.mem_of_getElem? hy)
    have hapart := apart_of_ne hd (fun he => hne (UInt16.toNat_inj.mp he)) hx hy
      (hcx.retained hxn) (hcy.retained hyn)
    have hoff := hle.offset_le
    rw [hxo, hyo] at hoff
    have hpos := (hcx.normal hxn).2.pos
    change (slotAt slots b.slotId.toNat).tupleOffset.toNat +
      (slotAt slots b.slotId.toNat).tupleLength.toNat ≤ (slotAt slots a.slotId.toNat).tupleOffset.toNat
    rw [slotAt_eq hx, slotAt_eq hy]
    rw [HeapSlotEntry.Apart, HeapSlotEntry.stop, HeapSlotEntry.stop] at hapart
    omega
  · obtain ⟨slot, hs, hn, hsource, hlength⟩ := (mem_livePayloads h).mp hp
    rw [Payload.stop, hsource, hlength]
    exact ((hc slot (List.mem_of_getElem? hs)).normal hn).2.2.2

end Order

def Sources (plan : CompactionPlan) (ps : List (Payload SlotId)) : Prop :=
  ∀ p ∈ ps, plan.sourceOffsets[p.key.toNat]? = some (UInt16.ofNat p.source) ∧
    plan.sourceLengths[p.key.toNat]? = some (UInt16.ofNat p.length) ∧
    p.key.toNat < plan.plannedSlots.length

section Pack

variable {plan : CompactionPlan} {ps : List (Payload SlotId)} {slots : List HeapSlotEntry}
  {slot : HeapSlotEntry} {upper lower slotCount : UInt16} {bytes : PageBytes}

lemma toNat_small {n : ℕ} (h : n ≤ pageSize) : (UInt16.ofNat n).toNat = n := by
  have h : n ≤ 8192 := h
  exact UInt16.toNat_ofNat_of_lt' (by rw [UInt16.size]; omega)

lemma write_singleton {ε γ : Type} {xs : List γ} {y : γ} {i : ℕ} (h : i < xs.length) :
    (Span.write xs i [y] : Except (Exit ε) _) = .ok (xs.set i y) := by
  rw [Span.write_eq (show i + [y].length ≤ _ from h), splice_singleton h]

/-- The packing loop puts every slot where the library puts its payload. -/
lemma packSlots_eq (plan : CompactionPlan) (hb : Below plan.newUpper ps) (hu : plan.newUpper ≤ pageSize)
    (hkeys : (ps.map Payload.key).Nodup) (hs : Sources plan ps) :
    ∃ planned : List HeapSlotEntry,
      packSlots (ps.map Payload.key) plan =
        .ok { plan with plannedSlots := planned, newUpper := plan.newUpper - total ps } ∧
      planned.length = plan.plannedSlots.length ∧
      (∀ pd ∈ placed plan.newUpper ps, ∀ slot, plan.plannedSlots[pd.1.key.toNat]? = some slot →
        planned[pd.1.key.toNat]? = some { slot with tupleOffset := UInt16.ofNat pd.2 }) ∧
      ∀ k, (∀ p ∈ ps, p.key.toNat ≠ k) → planned[k]? = plan.plannedSlots[k]? := by
  induction ps generalizing plan with
  | nil => exact ⟨plan.plannedSlots, rfl, rfl, by simp [placed], fun _ _ => rfl⟩
  | cons p ps ih =>
    obtain ⟨hoffset, hlength, hlt⟩ := hs p (List.mem_cons_self ..)
    obtain ⟨hfresh, hkeys⟩ := List.nodup_cons.mp hkeys
    have hstop := hb.1
    rw [Payload.stop] at hstop
    have hu' : plan.newUpper ≤ 8192 := hu
    have hsource := toNat_small (show p.source ≤ 8192 by omega)
    have hlen := toNat_small (show p.length ≤ 8192 by omega)
    have hnew : (plan.newUpper + 2 ^ 64 - (UInt16.ofNat p.length).toNat) % 2 ^ 64 =
        plan.newUpper - p.length := by
      rw [hlen]
      omega
    have hget : plan.plannedSlots[p.key.toNat]? = some plan.plannedSlots[p.key.toNat] :=
      List.getElem?_eq_getElem hlt
    generalize plan.plannedSlots[p.key.toNat] = slot at hget
    obtain ⟨planned, hpack, hplen, hplaced, hkeep⟩ := ih { plan with
      plannedSlots := plan.plannedSlots.set p.key.toNat
        { slot with tupleOffset := UInt16.ofNat (plan.newUpper - p.length) }
      newUpper := plan.newUpper - p.length } hb.tail (by dsimp only; omega) hkeys
      fun q hq => by
        obtain ⟨ho, hl, hqlt⟩ := hs q (List.mem_cons_of_mem _ hq)
        exact ⟨ho, hl, by rwa [List.length_set]⟩
    refine ⟨planned, ?_, by rw [hplen, List.length_set], fun pd hpd other ho => ?_, fun k hk => ?_⟩
    · rw [List.map_cons, packSlots, Span.get_eq_ok.mpr hlength, Check.ok_bind,
        Span.get_eq_ok.mpr hoffset, Check.ok_bind, hnew, Check.require_pos (by rw [hsource]; omega),
        Check.ok_bind, Span.get_eq_ok.mpr hget, Check.ok_bind, write_singleton hlt, Check.ok_bind, hpack, total_cons, Nat.sub_sub]
    · rcases List.mem_cons.mp hpd with rfl | hpd
      · obtain rfl := Option.some.inj (hget.symm.trans ho)
        rw [hkeep]
        · rw [List.getElem?_set_self hlt]
        · intro q hq he
          exact hfresh (List.mem_map.mpr ⟨q, hq, UInt16.toNat_inj.mp he⟩)
      · refine hplaced pd hpd other ?_
        rw [List.getElem?_set_ne, ho]
        intro he
        exact hfresh (List.mem_map.mpr ⟨pd.1, mem_of_placed hpd, (UInt16.toNat_inj.mp he).symm⟩)
    · rw [hkeep k fun q hq => hk q (List.mem_cons_of_mem _ hq)]
      exact List.getElem?_set_ne (hk p (List.mem_cons_self ..))

end Pack

structure PlanFor (slots : List HeapSlotEntry) (plan : CompactionPlan) : Prop where
  sourceOffsets : plan.sourceOffsets = slots.map HeapSlotEntry.tupleOffset
  sourceLengths : plan.sourceLengths = slots.map HeapSlotEntry.tupleLength
  liveOrder : plan.liveOrder = (livePayloads slots).map Payload.key
  newUpper : plan.newUpper = pageSize - total (livePayloads slots)
  length : plan.plannedSlots.length = slots.length
  moved : ∀ pd ∈ placed pageSize (livePayloads slots), ∀ slot, slots[pd.1.key.toNat]? = some slot →
    plan.plannedSlots[pd.1.key.toNat]? = some { slot with tupleOffset := UInt16.ofNat pd.2 }
  dead : ∀ (k : ℕ) (slot : HeapSlotEntry), slots[k]? = some slot → slot.state = .dead →
    plan.plannedSlots[k]? = some ⟨0, 0, .dead, slot.aux⟩

section PlanCompaction

variable {slots : List HeapSlotEntry} {headers : HeapPageHeaders} {bytes : PageBytes}
  {pageNo : PageNo}

lemma LocallyValid.below (hv : LocallyValid pageNo bytes headers slots) :
    Below pageSize (livePayloads slots) :=
  below_livePayloads hv.room hv.canonical hv.disjoint

lemma LocallyValid.source_ge (hv : LocallyValid pageNo bytes headers slots) :
    ∀ p ∈ livePayloads slots, headers.heap.upper.toNat ≤ p.source := by
  intro p hp
  obtain ⟨slot, hs, hn, hsource, -⟩ := (mem_livePayloads hv.room).mp hp
  rw [hsource]
  exact ((hv.canonical slot (List.mem_of_getElem? hs)).normal hn).2.2.1

lemma LocallyValid.total_le (hv : LocallyValid pageNo bytes headers slots) :
    headers.heap.upper.toNat + total (livePayloads slots) ≤ pageSize :=
  hv.below.room hv.source_ge hv.upper

theorem planCompaction_eq (hv : LocallyValid pageNo bytes headers slots)
    (hstate : ∀ slot ∈ slots, slot.state = .normal ∨ slot.state = .dead) :
    ∃ plan, planCompaction bytes headers.heap.lower headers.heap.slotCount = .ok plan ∧
      PlanFor slots plan := by
  have hroom := hv.room
  have hfirst : planSlots bytes (slots.length + 0) ([] : List HeapSlotEntry).length
      (CompactionPlan.ofSlots []) = .ok (CompactionPlan.ofSlots slots) :=
    planSlots_append [] hroom hv.stored hstate
  have hids : ∀ slotId ∈ liveIds slots, slotId.toNat < slots.length := by
    intro slotId hid
    obtain ⟨slot, hs, -⟩ := (mem_liveIds hroom).mp hid
    exact (List.getElem?_eq_some_iff.mp hs).1
  have hlookup {p : Payload SlotId} (hp : p ∈ livePayloads slots) :
      Sources (CompactionPlan.ofSlots slots) [p] := by
    intro q hq
    obtain rfl := List.mem_singleton.mp hq
    obtain ⟨slot, hs, -, hsource, hlength⟩ := (mem_livePayloads hroom).mp hp
    simp only [CompactionPlan.ofSlots, List.getElem?_map, List.length_map, hs, Option.map_some]
    rw [hsource, hlength, UInt16.ofNat_toNat, UInt16.ofNat_toNat]
    exact ⟨rfl, rfl, (List.getElem?_eq_some_iff.mp hs).1⟩
  obtain ⟨planned, hpack, hlen, hplaced, hkeep⟩ := packSlots_eq
    ⟨slots.map HeapSlotEntry.reclaimed, slots.map HeapSlotEntry.tupleOffset,
      slots.map HeapSlotEntry.tupleLength, (livePayloads slots).map Payload.key, pageSize⟩
    hv.below (Nat.le_refl _) (nodup_keys hroom) fun p hp => hlookup hp p (List.mem_singleton_self _)
  refine ⟨⟨planned, slots.map HeapSlotEntry.tupleOffset, slots.map HeapSlotEntry.tupleLength,
    (livePayloads slots).map Payload.key, pageSize - total (livePayloads slots)⟩, ?_,
    ⟨rfl, rfl, rfl, rfl, hlen.trans (List.length_map ..), fun pd hpd slot hs => ?_,
      fun k slot hs hdead => ?_⟩⟩
  · have horder : ((liveRangesOf slots).insertionSort LiveRange.Before).map LiveRange.slotId =
        (livePayloads slots).map Payload.key := by
      rw [livePayloads, List.map_map, show Payload.key ∘ livePayload slots = id from rfl, List.map_id]
    have htotal := hv.total_le
    have hle := hv.order
    rw [planCompaction, hv.count]
    refine (congrArg (· >>= _) hfirst).trans ?_
    rw [Check.ok_bind]
    simp only [CompactionPlan.ofSlots]
    rw [liveRanges_eq hids, Check.ok_bind, show (liveIds slots).map (fun slotId => (⟨(slotAt slots
      slotId.toNat).tupleOffset, slotId⟩ : LiveRange)) = liveRangesOf slots from rfl, horder, hpack,
      Check.ok_bind, Check.require_pos (by dsimp only; omega), Check.ok_bind]
    rfl
  · refine hplaced pd hpd slot ?_
    obtain ⟨other, ho, hn, -⟩ := (mem_livePayloads hroom).mp (mem_of_placed hpd)
    obtain rfl := Option.some.inj (hs.symm.trans ho)
    dsimp only
    rw [List.getElem?_map, hs, Option.map_some, HeapSlotEntry.reclaimed, hn]
  · dsimp only at hkeep ⊢
    rw [hkeep k, List.getElem?_map, hs, Option.map_some, HeapSlotEntry.reclaimed, hdead]
    rintro p hp rfl
    obtain ⟨other, ho, hn, -⟩ := (mem_livePayloads hroom).mp hp
    obtain rfl := Option.some.inj (hs.symm.trans ho)
    rw [hdead] at hn
    cases hn

lemma planCompaction_unused (hv : LocallyValid pageNo bytes headers slots) {k : ℕ}
    {slot : HeapSlotEntry} (hk : slots[k]? = some slot) (hs : slot.state = .unused)
    (hfirst : ∀ (j : ℕ) (other : HeapSlotEntry), slots[j]? = some other → j < k →
      other.state ≠ .unused) :
    planCompaction bytes headers.heap.lower headers.heap.slotCount =
      .error (.error ⟨.unsupportedSlotState, .none, UInt16.ofNat k⟩) := by
  have hlt := (List.getElem?_eq_some_iff.mp hk).1
  have hlen : (slots.take k).length = k := List.length_take_of_le hlt.le
  have hroom := hv.room
  have hstate : ∀ other ∈ slots.take k, other.state = .normal ∨ other.state = .dead := by
    intro other ho
    obtain ⟨j, hj⟩ := List.mem_iff_getElem?.mp ho
    have hjk := (List.getElem?_eq_some_iff.mp hj).1
    rw [hlen] at hjk
    rw [List.getElem?_take_of_lt hjk] at hj
    have hne := hfirst j other hj hjk
    have hc := hv.canonical other (List.mem_of_getElem? hj)
    unfold HeapSlotEntry.Canonical at hc
    cases hstate : other.state with
    | unused => exact absurd hstate hne
    | normal => exact .inl rfl
    | dead => exact .inr rfl
    | redirectReserved =>
      rw [hstate] at hc
      exact hc.elim
  have hstored : StoredFrom bytes 0 (slots.take k) := by
    intro j other hj
    have hjk := (List.getElem?_eq_some_iff.mp hj).1
    rw [hlen] at hjk
    rw [List.getElem?_take_of_lt hjk] at hj
    exact hv.stored j other hj
  have hplan : planSlots bytes ((slots.take k).length + (slots.length - k - 1 + 1))
      ([] : List HeapSlotEntry).length (CompactionPlan.ofSlots []) =
        .error (.error ⟨.unsupportedSlotState, .none, UInt16.ofNat k⟩) := by
    rw [planSlots_append [] (by rw [List.nil_append, hlen]; omega) hstored hstate, List.nil_append,
      planSlots_unused (by rw [hlen]; omega) _ hs, hlen]
    rw [hlen]
    exact hv.readSlot hk
  rw [planCompaction, hv.count]
  rw [hlen, show k + (slots.length - k - 1 + 1) = slots.length by omega] at hplan
  exact (congrArg (· >>= _) hplan).trans rfl

end PlanCompaction

section Apply

variable {bytes : PageBytes} {slots : List HeapSlotEntry} {plan : CompactionPlan}
  {ps : List (Payload SlotId)} {limit : ℕ} {encoded : List (List UInt8)} {index k : ℕ}

lemma encodeSlots_eq : encodeSlots index slots = .ok (slots.map HeapSlotEntry.image) := by
  induction slots generalizing index with
  | nil => rfl
  | cons slot slots ih =>
    rw [encodeSlots, encodeSlot_fresh, ih]
    rfl

lemma encodeCompactedMetadata_eq {header : HeapPageHeader} : encodeCompactedMetadata plan header =
    .ok (plan.plannedSlots.map HeapSlotEntry.image, header.image) := by
  rw [encodeCompactedMetadata, encodeSlots_eq, encodeHeader_fresh]
  rfl

lemma byteAt_move {destination source count : ℕ} (hd : destination + count ≤ pageSize) :
    (bytes.overwrite destination (bytes.slice source count)).byteAt k =
      move destination source count bytes.byteAt k := by
  rw [PageBytes.byteAt_overwrite (by rwa [PageBytes.length_slice]), PageBytes.length_slice, move]
  split
  · rename_i h
    rw [PageBytes.slice_getElem?, if_pos (by omega)]
    rfl
  · rfl

lemma run_move_bind {ε β : Type} {destination source count : ℕ} {f : Unit → Edit PageBytes ε β}
    (hs : source + count ≤ pageSize) (hd : destination + count ≤ pageSize) :
    Edit.run (PageBytes.move destination source count >>= f) bytes =
      Edit.run (f ()) (bytes.overwrite destination (bytes.slice source count)) := by
  refine Edit.run_update_bind ?_
  rw [PageBytes.read_eq hs, Check.ok_bind, PageBytes.write_eq (by rwa [PageBytes.length_slice])]

lemma moveTuples_run (bytes : PageBytes) (hb : Below limit ps) (hl : limit ≤ pageSize) (hs : Sources plan ps)
    (hp : ∀ pd ∈ placed limit ps, ∃ slot, plan.plannedSlots[pd.1.key.toNat]? = some slot ∧
      slot.tupleOffset.toNat = pd.2) :
    ∃ bytes', Edit.run (moveTuples plan (ps.map Payload.key)) bytes = (.ok (), bytes') ∧
      ∀ k, bytes'.byteAt k = moveAll limit ps bytes.byteAt k := by
  induction ps generalizing limit bytes with
  | nil => exact ⟨bytes, rfl, fun _ => rfl⟩
  | cons p ps ih =>
    obtain ⟨hoffset, hlength, -⟩ := hs p (List.mem_cons_self ..)
    obtain ⟨slot, hslot, hplace⟩ := hp _ (List.mem_cons_self ..)
    have hstop := hb.1
    rw [Payload.stop] at hstop
    have hsource := toNat_small (show p.source ≤ pageSize by omega)
    have hlen := toNat_small (show p.length ≤ pageSize by omega)
    have hrest (bytes : PageBytes) := ih bytes hb.tail (by omega)
      (fun q hq => hs q (List.mem_cons_of_mem _ hq)) fun pd hpd => hp pd (List.mem_cons_of_mem _ hpd)
    dsimp only at hplace
    rw [List.map_cons, moveTuples, Edit.run_of_bind_ok (Span.get_eq_ok.mpr hlength),
      Edit.run_of_bind_ok (Span.get_eq_ok.mpr hslot),
      Edit.run_of_bind_ok (Span.get_eq_ok.mpr hoffset)]
    by_cases hmove : 0 < (UInt16.ofNat p.length).toNat ∧ slot.tupleOffset ≠ UInt16.ofNat p.source
    · rw [if_pos hmove, hplace, hsource, hlen, run_move_bind (by omega) (by omega)]
      obtain ⟨bytes', hrun, hbytes⟩ := hrest (bytes.overwrite (limit - p.length)
        (bytes.slice p.source p.length))
      refine ⟨bytes', hrun, fun k => ?_⟩
      rw [hbytes, moveAll]
      congr 1
      funext j
      exact byteAt_move (by omega)
    · rw [if_neg hmove]
      obtain ⟨bytes', hrun, hbytes⟩ := hrest bytes
      refine ⟨bytes', hrun, fun k => ?_⟩
      have hstay : move (limit - p.length) p.source p.length bytes.byteAt = bytes.byteAt := by
        rw [hlen, not_and_or, not_not, ← UInt16.toNat_inj, hplace, hsource] at hmove
        rcases hmove with hz | he
        · funext j
          rw [move, if_neg (by omega)]
        · rw [he, move_self]
      rw [hbytes, moveAll, hstay]

lemma writeSlots_run (bytes : PageBytes) (index : ℕ)
    (hroom : index + encoded.length ≤ maxHeapPageSlotCount)
    (hlen : ∀ entry ∈ encoded, entry.length = heapPageSlotEntryEncodedSize) :
    ∃ bytes', Edit.run (writeSlots index encoded) bytes = (.ok (), bytes') ∧
      (∀ (k : ℕ) (entry : List UInt8), encoded[k]? = some entry →
        bytes'.slice (slotOffset (index + k)) heapPageSlotEntryEncodedSize = entry) ∧
      ∀ offset count, offset + count ≤ slotOffset index ∨ slotOffset (index + encoded.length) ≤ offset →
        bytes'.slice offset count = bytes.slice offset count := by
  induction encoded generalizing index bytes with
  | nil => exact ⟨bytes, rfl, by simp, fun _ _ _ => rfl⟩
  | cons entry encoded ih =>
    rw [List.length_cons] at hroom
    have hentry : entry.length = 8 := hlen entry (List.mem_cons_self ..)
    have hfits : slotOffset index + entry.length ≤ pageSize := by
      rw [hentry]
      exact slotOffset_fits (by omega)
    obtain ⟨bytes', hrun, hwritten, hkeep⟩ := ih
      (bytes.overwrite (slotOffset index) entry) (index + 1) (by omega)
      fun other ho => hlen other (List.mem_cons_of_mem _ ho)
    refine ⟨bytes', ?_, fun k other hk => ?_, fun offset count h => ?_⟩
    · rw [writeSlots, run_put_bind hfits, hrun]
    · cases k with
      | zero =>
        obtain rfl := Option.some.inj hk
        have hafter : (bytes.overwrite (slotOffset index) entry).slice (slotOffset index)
            entry.length = entry := PageBytes.slice_overwrite_self hfits
        rw [hentry] at hafter
        rw [Nat.add_zero, hkeep]
        · exact hafter
        · rw [slotOffset_eq, slotOffset_eq]
          exact .inl (by change 48 + 8 * index + 8 ≤ _; omega)
      | succ k =>
        rw [show index + (k + 1) = index + 1 + k by omega]
        exact hwritten k other hk
    · rw [slotOffset_eq, slotOffset_eq, List.length_cons] at h
      rw [hkeep, PageBytes.slice_overwrite_of_disjoint hfits]
      · rw [hentry, slotOffset_eq]
        omega
      · rw [slotOffset_eq, slotOffset_eq]
        omega

end Apply

def compactedHeader (heap : HeapPageHeader) (newUpper : ℕ) : HeapPageHeader :=
  { heap with upper := UInt16.ofNat newUpper }

structure Applied (headers : HeapPageHeaders) (slots : List HeapSlotEntry) (plan : CompactionPlan)
    (bytes bytes' : PageBytes) : Prop where
  common : bytes'.slice 0 commonPageHeaderEncodedSize = bytes.slice 0 commonPageHeaderEncodedSize
  heapStored : bytes'.slice heapPageHeaderOffset heapPageHeaderEncodedSize =
    (compactedHeader headers.heap plan.newUpper).image
  stored : StoredFrom bytes' 0 plan.plannedSlots
  moved : ∀ k, headers.heap.lower.toNat ≤ k →
    bytes'.byteAt k = moveAll pageSize (livePayloads slots) bytes.byteAt k

inductive CompactOutcome (bytes : PageBytes) (headers : HeapPageHeaders)
    (slots : List HeapSlotEntry) : Except (Exit HeapPageCompactFailure) Unit × PageBytes → Prop
  | unsupported {k : ℕ} {slot : HeapSlotEntry} (hk : slots[k]? = some slot)
    (hs : slot.state = .unused) (hfirst : ∀ (j : ℕ) (other : HeapSlotEntry), slots[j]? = some other →
      j < k → other.state ≠ .unused) : CompactOutcome bytes headers slots
        (.error (.error ⟨.unsupportedSlotState, .none, UInt16.ofNat k⟩), bytes)
  | done {plan : CompactionPlan} {bytes' : PageBytes}
    (hstate : ∀ slot ∈ slots, slot.state = .normal ∨ slot.state = .dead)
    (hplan : planCompaction bytes headers.heap.lower headers.heap.slotCount = .ok plan)
    (hp : PlanFor slots plan) (ha : Applied headers slots plan bytes bytes') :
    CompactOutcome bytes headers slots (.ok (), bytes')

section Compact

variable {page : HeapPage} {bytes bytes' : PageBytes} {headers : HeapPageHeaders}
  {slots : List HeapSlotEntry} {plan : CompactionPlan} {pageNo : PageNo} {k : ℕ}

namespace PageBytes

lemma byteAt_of_slice {offset count : ℕ} (h : bytes'.slice offset count = bytes.slice offset count)
    (hle : offset ≤ k) (hlt : k < offset + count) : bytes'.byteAt k = bytes.byteAt k := by
  have h := congrArg (fun s => s[k - offset]?) h
  rw [slice_getElem?, slice_getElem?, if_pos (by omega), if_pos (by omega),
    show offset + (k - offset) = k by omega] at h
  exact Option.some.inj h

lemma ext_byteAt (h : ∀ k < pageSize, bytes'.byteAt k = bytes.byteAt k) : bytes' = bytes := by
  funext i
  have hi := h i i.isLt
  rwa [byteAt, byteAt, dif_pos i.isLt, dif_pos i.isLt] at hi

end PageBytes

lemma compact_invalid {failure : HeapPageValidationFailure}
    (h : page.validateStructure bytes = .error (.error failure)) :
    Edit.run page.compact bytes =
      (.error (.error ⟨.pageInvalid, failure.code, invalidSlotId⟩), bytes) := by
  rw [HeapPage.compact, Edit.run_get_bind]
  exact Edit.run_of_bind_error (by rw [h]; rfl)

lemma unused_or_live (hv : LocallyValid pageNo bytes headers slots) :
    (∃ (k : ℕ) (slot : HeapSlotEntry), slots[k]? = some slot ∧ slot.state = .unused ∧
      ∀ (j : ℕ) (other : HeapSlotEntry), slots[j]? = some other → j < k → other.state ≠ .unused) ∨
    ∀ slot ∈ slots, slot.state = .normal ∨ slot.state = .dead := by
  by_cases h : ∃ k, isUnusedAt slots k = true
  · left
    obtain ⟨slot, hs, hu⟩ := isUnusedAt_iff.mp (Nat.find_spec h)
    refine ⟨Nat.find h, slot, hs, hu, fun j other hj hlt hunused => ?_⟩
    exact Nat.find_min h hlt (isUnusedAt_iff.mpr ⟨other, hj, hunused⟩)
  · right
    intro slot hslot
    obtain ⟨k, hk⟩ := List.mem_iff_getElem?.mp hslot
    have hc := hv.canonical slot hslot
    unfold HeapSlotEntry.Canonical at hc
    cases hstate : slot.state with
    | unused => exact absurd ⟨k, isUnusedAt_iff.mpr ⟨slot, hk, hstate⟩⟩ h
    | normal => exact .inl rfl
    | dead => exact .inr rfl
    | redirectReserved =>
      rw [hstate] at hc
      exact hc.elim

lemma PlanFor.sources (hp : PlanFor slots plan) (hroom : slots.length ≤ maxHeapPageSlotCount) :
    Sources plan (livePayloads slots) := by
  intro p hmem
  obtain ⟨slot, hs, -, hsource, hlength⟩ := (mem_livePayloads hroom).mp hmem
  rw [hp.sourceOffsets, hp.sourceLengths, hp.length, List.getElem?_map, List.getElem?_map, hs,
    hsource, hlength, UInt16.ofNat_toNat, UInt16.ofNat_toNat]
  exact ⟨rfl, rfl, (List.getElem?_eq_some_iff.mp hs).1⟩

lemma PlanFor.place (hp : PlanFor slots plan) (hv : LocallyValid pageNo bytes headers slots)
    {pd : Payload SlotId × ℕ} (hpd : pd ∈ placed pageSize (livePayloads slots)) :
    ∃ slot, slots[pd.1.key.toNat]? = some slot ∧ slot.state = .normal ∧
      pd.1.source = slot.tupleOffset.toNat ∧ pd.1.length = slot.tupleLength.toNat ∧
      plan.plannedSlots[pd.1.key.toNat]? = some { slot with tupleOffset := UInt16.ofNat pd.2 } ∧
      (UInt16.ofNat pd.2).toNat = pd.2 := by
  obtain ⟨slot, hs, hn, hsource, hlength⟩ := (mem_livePayloads hv.room).mp (mem_of_placed hpd)
  have hbounds := placed_bounds hv.below hpd
  exact ⟨slot, hs, hn, hsource, hlength, hp.moved pd hpd slot hs, toNat_small (by omega)⟩

theorem compact_outcome (hv : LocallyValid page.id.pageNo bytes headers slots) :
    CompactOutcome bytes headers slots (Edit.run page.compact bytes) := by
  have hstructure := validateStructure_eq_ok.mpr ⟨slots, hv⟩
  rw [HeapPage.compact, Edit.run_get_bind, Edit.run_of_bind_ok (Span.report_eq_ok.mpr hstructure)]
  rcases unused_or_live hv with ⟨k, slot, hk, hs, hfirst⟩ | hstate
  · rw [Edit.run_of_bind_error (planCompaction_unused hv hk hs hfirst)]
    exact .unsupported hk hs hfirst
  obtain ⟨plan, hplan, hp⟩ := planCompaction_eq hv hstate
  have hroom : slots.length ≤ 1018 := hv.room
  have hlower : headers.heap.lower.toNat = 48 + 8 * slots.length := hv.lower
  have hheader : (compactedHeader headers.heap plan.newUpper).image.length = 16 :=
    HeapPageHeader.length_image _
  have hfits : heapPageHeaderOffset + (compactedHeader headers.heap plan.newUpper).image.length ≤
      pageSize := by
    rw [hheader]
    decide
  obtain ⟨moved, hmoves, hmoved⟩ := moveTuples_run bytes hv.below (Nat.le_refl _)
    (hp.sources hv.room) fun pd hpd => by
      obtain ⟨slot, -, -, -, -, hplanned, hsmall⟩ := hp.place hv hpd
      exact ⟨_, hplanned, hsmall⟩
  have hentries : 0 + (plan.plannedSlots.map HeapSlotEntry.image).length ≤ maxHeapPageSlotCount := by
    rw [List.length_map, hp.length, Nat.zero_add]
    exact hv.room
  have hlengths : ∀ entry ∈ plan.plannedSlots.map HeapSlotEntry.image,
      entry.length = heapPageSlotEntryEncodedSize := by
    intro entry hentry
    obtain ⟨slot, -, rfl⟩ := List.mem_map.mp hentry
    exact slot.length_image
  obtain ⟨written, hwrites, hwritten, hkeep⟩ := writeSlots_run moved 0 hentries hlengths
  rw [List.length_map, hp.length, Nat.zero_add, slotOffset_eq, slotOffset_eq] at hkeep
  rw [Edit.run_of_bind_ok hplan, Edit.run_of_bind_ok encodeCompactedMetadata_eq]
  dsimp only
  rw [applyCompaction, hp.liveOrder, Edit.run_bind_ok hmoves, Edit.run_bind_ok hwrites]
  refine Eq.subst (motive := CompactOutcome bytes headers slots) (run_put hfits).symm
    (.done hstate hplan hp ⟨?_, ?_, ?_, ?_⟩)
  · have hlow : ∀ k < 32, moved.byteAt k = bytes.byteAt k := by
      intro k hk
      have htotal := hv.total_le
      have ho := hv.order
      rw [hmoved, moveAll_outside hv.below (by omega)]
    rw [PageBytes.slice_overwrite_of_disjoint hfits (.inl (by decide))]
    refine (hkeep 0 32 (by omega)).trans (PageBytes.slice_congr fun i hi => ?_)
    rw [Nat.zero_add]
    exact hlow i hi
  · have hself : (written.overwrite heapPageHeaderOffset
        (compactedHeader headers.heap plan.newUpper).image).slice heapPageHeaderOffset
          (compactedHeader headers.heap plan.newUpper).image.length = _ :=
      PageBytes.slice_overwrite_self hfits
    rw [hheader] at hself
    exact hself
  · intro k slot hk
    have hlt := (List.getElem?_eq_some_iff.mp hk).1
    rw [PageBytes.slice_overwrite_of_disjoint hfits]
    · exact hwritten k slot.image (by rw [List.getElem?_map, hk]; rfl)
    · rw [hheader, slotOffset_eq]
      right
      change 48 ≤ _
      omega
  · intro k hk
    by_cases hpage : k < 8192
    · rw [← hmoved k]
      refine PageBytes.byteAt_of_slice (?_ : _ = moved.slice k 1) (Nat.le_refl _) (by omega)
      rw [PageBytes.slice_overwrite_of_disjoint hfits, hkeep k 1 (by omega)]
      rw [hheader]
      right
      change 48 ≤ k
      omega
    · rw [moveAll_outside hv.below (.inr (Nat.le_of_not_lt hpage)), PageBytes.byteAt, PageBytes.byteAt,
        dif_neg hpage, dif_neg hpage]

section Result

variable (hv : LocallyValid pageNo bytes headers slots) (hp : PlanFor slots plan)
include hv hp

omit hv in
lemma PlanFor.toNat_newUpper : (UInt16.ofNat plan.newUpper).toNat =
    pageSize - total (livePayloads slots) := by
  rw [hp.newUpper]
  exact toNat_small (Nat.sub_le ..)

lemma PlanFor.planned (hstate : ∀ slot ∈ slots, slot.state = .normal ∨ slot.state = .dead)
    {slot' : HeapSlotEntry} (h : plan.plannedSlots[k]? = some slot') :
    ∃ slot, slots[k]? = some slot ∧ (slot.state = .normal ∧
      (∃ pd ∈ placed pageSize (livePayloads slots), pd.1.key.toNat = k ∧
        pd.1.source = slot.tupleOffset.toNat ∧ pd.1.length = slot.tupleLength.toNat ∧
        slot' = { slot with tupleOffset := UInt16.ofNat pd.2 } ∧
        (UInt16.ofNat pd.2).toNat = pd.2) ∨
      slot.state = .dead ∧ slot' = ⟨0, 0, .dead, 0⟩) := by
  have hlt := (List.getElem?_eq_some_iff.mp h).1
  rw [hp.length] at hlt
  have hs : slots[k]? = some slots[k] := List.getElem?_eq_getElem hlt
  generalize slots[k] = slot at hs
  have hcanonical := hv.canonical slot (List.mem_of_getElem? hs)
  have hk := toNat_slotId (hlt.trans_le hv.room)
  refine ⟨slot, hs, ?_⟩
  rcases hstate slot (List.mem_of_getElem? hs) with hn | hd
  · have hmem : (⟨UInt16.ofNat k, slot.tupleOffset.toNat, slot.tupleLength.toNat⟩ : Payload SlotId) ∈
        livePayloads slots :=
      (mem_livePayloads hv.room).mpr ⟨slot, by rw [hk, hs], hn, rfl, rfl⟩
    obtain ⟨d, hpd⟩ := exists_placed pageSize hmem
    obtain ⟨other, ho, -, hsource, hlength, hplanned, hsmall⟩ := hp.place hv hpd
    rw [hk, hs] at ho
    obtain rfl := Option.some.inj ho
    rw [hk, h] at hplanned
    exact .inl ⟨hn, _, hpd, hk, hsource, hlength, Option.some.inj hplanned, hsmall⟩
  · have hplanned := hp.dead k slot hs hd
    unfold HeapSlotEntry.Canonical at hcanonical
    rw [hd] at hcanonical
    rw [h, hcanonical.1] at hplanned
    exact .inr ⟨hd, Option.some.inj hplanned⟩

omit hp in
lemma Applied.slice (ha : Applied headers slots plan bytes bytes') {pd : Payload SlotId × ℕ}
    (hpd : pd ∈ placed pageSize (livePayloads slots)) :
    bytes'.slice pd.2 pd.1.length = bytes.slice pd.1.source pd.1.length := by
  have hbounds := placed_bounds hv.below hpd
  have htotal := hv.total_le
  have ho := hv.order
  rw [PageBytes.slice, PageBytes.slice, List.ofFn_inj]
  funext i
  rw [ha.moved _ (by omega), moveAll_placed hv.below hpd i.isLt]

theorem LocallyValid.compacted (hstate : ∀ slot ∈ slots, slot.state = .normal ∨ slot.state = .dead)
    (ha : Applied headers slots plan bytes bytes') :
    LocallyValid pageNo bytes' ⟨headers.common, compactedHeader headers.heap plan.newUpper⟩
      plan.plannedSlots where
  commonStored := ha.common.trans hv.commonStored
  pageType := hv.pageType
  ownNumber := hv.ownNumber
  ordinary := hv.ordinary
  headerSize := hv.headerSize
  formatVersion := hv.formatVersion
  flags := hv.flags
  reserved16 := hv.reserved16
  heapStored := ha.heapStored
  reserved := hv.reserved
  count := by rw [hp.length]; exact hv.count
  lower := by rw [hp.length]; exact hv.lower
  order := by
    have htotal := hv.total_le
    have ho := hv.order
    rw [compactedHeader, hp.toNat_newUpper]
    change headers.heap.lower.toNat ≤ _
    omega
  upper := by
    rw [compactedHeader, hp.toNat_newUpper]
    exact Nat.sub_le ..
  stored := ha.stored
  canonical := by
    intro slot' hslot'
    obtain ⟨k, hk⟩ := List.mem_iff_getElem?.mp hslot'
    obtain ⟨slot, hs, ⟨hn, pd, hpd, -, -, hlength, rfl, hsmall⟩ | ⟨-, rfl⟩⟩ :=
      hp.planned hv hstate hk
    · have hc := (hv.canonical slot (List.mem_of_getElem? hs)).normal hn
      have hbounds := placed_bounds hv.below hpd
      unfold HeapSlotEntry.Canonical
      dsimp only
      rw [hn]
      refine ⟨hc.1, hc.2.1, ?_, ?_⟩
      · rw [compactedHeader, hp.toNat_newUpper, hsmall]
        exact hbounds.1
      · rw [HeapSlotEntry.stop, hsmall, ← hlength]
        exact hbounds.2.1
    · exact ⟨rfl, .inl ⟨rfl, rfl⟩⟩
  disjoint := by
    rw [List.pairwise_iff_getElem]
    intro i j hi hj hij hri hrj
    have hgi := List.getElem?_eq_getElem hi
    have hgj := List.getElem?_eq_getElem hj
    generalize plan.plannedSlots[i] = a at hgi hri ⊢
    generalize plan.plannedSlots[j] = b at hgj hrj ⊢
    obtain ⟨x, -, ⟨-, pd, hpd, hki, -, hxl, rfl, hxs⟩ | ⟨-, rfl⟩⟩ := hp.planned hv hstate hgi
    swap
    · exact absurd rfl hri.2
    obtain ⟨y, -, ⟨-, qd, hqd, hkj, -, hyl, rfl, hys⟩ | ⟨-, rfl⟩⟩ := hp.planned hv hstate hgj
    swap
    · exact absurd rfl hrj.2
    have hne : pd ≠ qd := by
      rintro rfl
      omega
    have hapart := placed_apart hv.below hpd hqd hne
    rw [HeapSlotEntry.Apart, HeapSlotEntry.stop, HeapSlotEntry.stop, hxs, hys, ← hxl, ← hyl]
    exact hapart
  freeChain := by
    obtain ⟨path, hpath⟩ := hv.freeChain
    refine ⟨path, hpath.congr (fun k slot hk hu => ?_) fun k => ?_⟩
    · rcases hstate slot (List.mem_of_getElem? hk) with h | h <;> rw [hu] at h <;> cases h
    · have hold : isUnusedAt slots k = false := by
        rw [Bool.eq_false_iff]
        intro h
        obtain ⟨slot, hs, hu⟩ := isUnusedAt_iff.mp h
        rcases hstate slot (List.mem_of_getElem? hs) with h | h <;> rw [hu] at h <;> cases h
      rw [hold, Bool.eq_false_iff]
      intro h
      obtain ⟨slot', hs', hu⟩ := isUnusedAt_iff.mp h
      obtain ⟨slot, -, ⟨hn, pd, -, -, -, -, rfl, -⟩ | ⟨-, rfl⟩⟩ := hp.planned hv hstate hs'
      · exact absurd (hn.symm.trans hu) (by simp)
      · exact absurd hu (by simp)

end Result

lemma TuplesValid.compacted (ht : TuplesValid page bytes headers.heap.slotCount slots)
    (hv : LocallyValid page.id.pageNo bytes headers slots) (hp : PlanFor slots plan)
    (hstate : ∀ slot ∈ slots, slot.state = .normal ∨ slot.state = .dead)
    (ha : Applied headers slots plan bytes bytes') :
    TuplesValid page bytes' headers.heap.slotCount plan.plannedSlots := by
  intro k slot' hk hr
  obtain ⟨slot, hs, ⟨hn, pd, hpd, -, hsource, hlength, rfl, hsmall⟩ | ⟨-, rfl⟩⟩ :=
    hp.planned hv hstate hk
  · dsimp only
    rw [hsmall, ← hlength, ha.slice hv hpd, hsource, hlength]
    exact ht k slot hs ((hv.canonical slot (List.mem_of_getElem? hs)).retained hn)
  · exact absurd rfl hr.2

end Compact

end DBlusBlus
