import DBlusBlus.Heap.Directory

/-! The chain of free slots: the link checks and the guarded walk accept exactly the chains that
visit each UNUSED slot once. -/

namespace DBlusBlus

open Span

def isUnusedAt (slots : List HeapSlotEntry) (k : ℕ) : Bool :=
  slots[k]?.any fun slot => decide (slot.state = .unused)

/-- Following `aux` from `current` visits the path and stops. -/
inductive Walks (slots : List HeapSlotEntry) : SlotId → List SlotId → Prop
  | stop : Walks slots invalidSlotId []
  | next {current : SlotId} {slot : HeapSlotEntry} {path : List SlotId}
    (hc : current ≠ invalidSlotId) (hs : slots[current.toNat]? = some slot)
    (hp : Walks slots slot.aux path) : Walks slots current (current :: path)

structure FreeChain (slots : List HeapSlotEntry) (head : SlotId) (path : List SlotId) : Prop where
  walks : Walks slots head path
  nodup : path.Nodup
  members : ∀ slotId, slotId ∈ path ↔ isUnusedAt slots slotId.toNat = true

def LinksClosed (slots : List HeapSlotEntry) : Prop :=
  ∀ slot ∈ slots, slot.state = .unused →
    slot.aux = invalidSlotId ∨ isUnusedAt slots slot.aux.toNat = true

section Walk

variable {slots : List HeapSlotEntry} {slot : HeapSlotEntry} {current slotId : SlotId}
  {path : List SlotId} {visited final : List Bool} {rounds k : ℕ}

lemma splice_singleton {γ : Type} {xs : List γ} {y : γ} {i : ℕ} (h : i < xs.length) :
    Codec.splice xs i [y] = xs.set i y := by
  rw [List.set_eq_take_append_cons_drop, if_pos h, Codec.splice, List.append_assoc]
  rfl

lemma isUnusedAt_iff : isUnusedAt slots k = true ↔
    ∃ slot, slots[k]? = some slot ∧ slot.state = .unused := by
  rw [isUnusedAt, Option.any_eq_true]
  simp only [decide_eq_true_iff]

lemma isUnusedAt_lt (h : isUnusedAt slots k = true) : k < slots.length := by
  obtain ⟨slot, hs, -⟩ := isUnusedAt_iff.mp h
  exact (List.getElem?_eq_some_iff.mp hs).1

lemma Walks.unused (h : Walks slots current path) (hl : LinksClosed slots)
    (hc : current = invalidSlotId ∨ isUnusedAt slots current.toNat = true) :
    ∀ slotId ∈ path, isUnusedAt slots slotId.toNat = true := by
  induction h with
  | stop => simp
  | next hne hs hp ih =>
    have hu := hc.resolve_left hne
    obtain ⟨slot', hs', hstate⟩ := isUnusedAt_iff.mp hu
    obtain rfl := Option.some.inj (hs.symm.trans hs')
    intro slotId hmem
    rcases List.mem_cons.mp hmem with rfl | hmem
    · exact hu
    · exact ih (hl _ (List.mem_of_getElem? hs) hstate) slotId hmem

lemma Walks.head (h : Walks slots current path) : current = invalidSlotId ∨ current ∈ path := by
  cases h with
  | stop => exact .inl rfl
  | next => exact .inr (List.mem_cons_self ..)

lemma Walks.link (h : Walks slots current path) (hmem : slotId ∈ path)
    (hs : slots[slotId.toNat]? = some slot) : slot.aux = invalidSlotId ∨ slot.aux ∈ path := by
  induction h with
  | stop => simp at hmem
  | next hne hs' hp ih =>
    rcases List.mem_cons.mp hmem with rfl | hmem
    · obtain rfl := Option.some.inj (hs.symm.trans hs')
      exact hp.head.imp_right (List.mem_cons_of_mem _)
    · exact (ih hmem).imp_right (List.mem_cons_of_mem _)

def markAll (visited : List Bool) (path : List SlotId) : List Bool :=
  path.foldl (fun visited slotId => visited.set slotId.toNat true) visited

lemma markAll_getElem? (h : k < visited.length) : (markAll visited path)[k]? = some true ↔
    visited[k]? = some true ∨ ∃ slotId ∈ path, slotId.toNat = k := by
  induction path generalizing visited with
  | nil => simp [markAll]
  | cons slotId path ih =>
    have hset : markAll visited (slotId :: path) =
      markAll (visited.set slotId.toNat true) path := rfl
    rw [hset, ih (by rwa [List.length_set]), List.getElem?_set]
    simp only [List.mem_cons, exists_eq_or_imp]
    by_cases hk : slotId.toNat = k
    · simp [hk, h]
    · simp [hk]

lemma length_markAll : (markAll visited path).length = visited.length := by
  induction path generalizing visited with
  | nil => rfl
  | cons slotId path ih => exact ih.trans List.length_set

lemma count_set_lt (h : visited[k]? = some false) :
    (visited.set k true).count false + 1 = visited.count false := by
  obtain ⟨hk, hv⟩ := List.getElem?_eq_some_iff.mp h
  have hpos : 0 < visited.count false := List.count_pos_iff.mpr (List.mem_of_getElem? h)
  rw [List.count_set hk, hv]
  simp
  omega

lemma walkFreeSlots_next (hc : current ≠ invalidSlotId) (hv : visited[current.toNat]? = some false)
    (hs : slots[current.toNat]? = some slot) :
    walkFreeSlots slots (rounds + 1) current visited =
      walkFreeSlots slots rounds slot.aux (visited.set current.toNat true) := by
  have hlt := (List.getElem?_eq_some_iff.mp hv).1
  rw [walkFreeSlots, if_neg hc, Span.get_eq_ok.mpr hv, Check.ok_bind, Check.require_pos rfl,
    Check.ok_bind, Span.write_eq (show current.toNat + [true].length ≤ _ from hlt), Check.ok_bind,
    Span.get_eq_ok.mpr hs, Check.ok_bind, splice_singleton hlt]

lemma walkFreeSlots_eq_ok (hr : visited.count false < rounds) :
    walkFreeSlots slots rounds current visited = .ok final ↔ ∃ path, Walks slots current path ∧
      path.Nodup ∧ (∀ slotId ∈ path, visited[slotId.toNat]? = some false) ∧
      final = markAll visited path := by
  induction rounds generalizing current visited with
  | zero => omega
  | succ rounds ih =>
    by_cases hc : current = invalidSlotId
    · subst hc
      rw [walkFreeSlots, if_pos rfl]
      constructor
      · intro h
        exact ⟨[], .stop, List.nodup_nil, by simp, (Except.ok.inj h).symm⟩
      · rintro ⟨path, hp, -, -, rfl⟩
        cases hp with
        | stop => rfl
        | next hne => exact absurd rfl hne
    have hnext {slot : HeapSlotEntry} (hv : visited[current.toNat]? = some false)
        (hs : slots[current.toNat]? = some slot) :
        walkFreeSlots slots (rounds + 1) current visited = .ok final ↔
          ∃ path, Walks slots slot.aux path ∧ path.Nodup ∧
            (∀ slotId ∈ path, (visited.set current.toNat true)[slotId.toNat]? = some false) ∧
            final = markAll (visited.set current.toNat true) path := by
      rw [walkFreeSlots_next hc hv hs]
      refine ih ?_
      have := count_set_lt hv
      omega
    have hunseen {id : SlotId} (hlt : current.toNat < visited.length) :
        (visited.set current.toNat true)[id.toNat]? = some false ↔
          id ≠ current ∧ visited[id.toNat]? = some false := by
      rw [List.getElem?_set]
      by_cases he : current.toNat = id.toNat
      · rw [if_pos he, if_pos hlt]
        simp [UInt16.toNat_inj.mp he]
      · rw [if_neg he]
        exact (and_iff_right fun h => he (by rw [h])).symm
    constructor
    · intro h
      have hsteps := h
      rw [walkFreeSlots, if_neg hc, Span.get_bind] at hsteps
      obtain ⟨seen, hv, hsteps⟩ := hsteps
      obtain ⟨rfl, hrest⟩ := Check.require_bind.mp hsteps
      obtain ⟨marked, -, hlast⟩ := Check.bind_eq_ok.mp hrest
      obtain ⟨slot, hs, -⟩ := Span.get_bind.mp hlast
      have hlt := (List.getElem?_eq_some_iff.mp hv).1
      obtain ⟨path, hp, hn, hu, rfl⟩ := (hnext hv hs).mp h
      simp only [hunseen hlt] at hu
      refine ⟨current :: path, .next hc hs hp, ?_, ?_, rfl⟩
      · exact List.nodup_cons.mpr ⟨fun hmem => (hu current hmem).1 rfl, hn⟩
      · intro id hid
        rcases List.mem_cons.mp hid with rfl | hid
        · exact hv
        · exact (hu id hid).2
    · rintro ⟨path, hp, hn, hu, rfl⟩
      cases hp with
      | stop => exact absurd rfl hc
      | @next _ slot path _ hs hp =>
        have hv := hu current (List.mem_cons_self ..)
        have hlt := (List.getElem?_eq_some_iff.mp hv).1
        obtain ⟨hnot, hn⟩ := List.nodup_cons.mp hn
        refine (hnext hv hs).mpr ⟨path, hp, hn, fun id hid => ?_, rfl⟩
        rw [hunseen hlt]
        exact ⟨fun he => hnot (by rwa [← he]), hu id (List.mem_cons_of_mem _ hid)⟩

lemma walkFreeSlots_safe (hl : LinksClosed slots) (hlen : slots.length ≤ visited.length)
    (hr : visited.count false < rounds)
    (hc : current = invalidSlotId ∨ isUnusedAt slots current.toNat = true) :
    Safe (walkFreeSlots slots rounds current visited) := by
  induction rounds generalizing current visited with
  | zero => omega
  | succ rounds ih =>
    rcases eq_or_ne current invalidSlotId with rfl | hne
    · rw [walkFreeSlots, if_pos rfl]
      exact Safe.ok
    · have hu := hc.resolve_left hne
      have hlt := isUnusedAt_lt hu
      obtain ⟨slot, hs, hstate⟩ := isUnusedAt_iff.mp hu
      obtain ⟨seen, hseen⟩ : ∃ seen, visited[current.toNat]? = some seen :=
        ⟨_, List.getElem?_eq_getElem (hlt.trans_le hlen)⟩
      cases seen with
      | true =>
        rw [walkFreeSlots, if_neg hne, Span.get_eq_ok.mpr hseen, Check.ok_bind,
          Check.require_neg (by simp), Check.error_bind]
        exact Safe.error
      | false =>
        rw [walkFreeSlots_next hne hseen hs]
        have := count_set_lt hseen
        refine ih ?_ (by omega) (hl slot (List.mem_of_getElem? hs) hstate)
        rwa [List.length_set]

end Walk

section Chain

variable {slots done rest : List HeapSlotEntry} {slot : HeapSlotEntry} {slotId head : SlotId}
  {slotCount : UInt16} {path : List SlotId} {visited : List Bool} {k : ℕ}

lemma unusedSlots_getElem? (h : slots.length ≤ maxHeapPageSlotCount)
    (hk : k < maxHeapPageSlotCount) :
    (SlotDirectory.ofSlots slots).unusedSlots[k]? = some (isUnusedAt slots k) := by
  rw [SlotDirectory.ofSlots, isUnusedAt]
  by_cases hlt : k < slots.length
  · rw [List.getElem?_append_left (by rwa [List.length_map]), List.getElem?_map,
      List.getElem?_eq_getElem hlt]
    rfl
  · rw [List.getElem?_append_right (by rw [List.length_map]; omega), List.getElem?_replicate,
      if_pos (by rw [List.length_map]; omega), List.getElem?_eq_none (by omega)]
    rfl

lemma length_unusedSlots (h : slots.length ≤ maxHeapPageSlotCount) :
    (SlotDirectory.ofSlots slots).unusedSlots.length = maxHeapPageSlotCount := by
  rw [SlotDirectory.ofSlots, List.length_append, List.length_map, List.length_replicate]
  omega

lemma isUnused_eq (hcount : slotCount.toNat = slots.length)
    (h : slots.length ≤ maxHeapPageSlotCount) :
    isUnused slotCount (SlotDirectory.ofSlots slots) slotId = .ok (isUnusedAt slots slotId.toNat) := by
  rw [isUnused]
  split
  · rename_i hlt
    rw [UInt16.lt_iff_toNat_lt] at hlt
    exact Span.get_eq_ok.mpr (unusedSlots_getElem? h (by omega))
  · rename_i hge
    rw [UInt16.lt_iff_toNat_lt] at hge
    rw [isUnusedAt, List.getElem?_eq_none (by omega)]
    rfl

lemma checkFreeSlotLinks_eq_ok (hcount : slotCount.toNat = slots.length)
    (h : slots.length ≤ maxHeapPageSlotCount) (hsplit : slots = done ++ rest) :
    checkFreeSlotLinks slotCount (SlotDirectory.ofSlots slots) rest.length done.length = .ok () ↔
      ∀ slot ∈ rest, slot.state = .unused →
        slot.aux = invalidSlotId ∨ isUnusedAt slots slot.aux.toNat = true := by
  induction rest generalizing done with
  | nil => simp [checkFreeSlotLinks]
  | cons slot rest ih =>
    have hlt : done.length < slots.length := by
      rw [hsplit, List.length_append, List.length_cons]
      omega
    have hget : slots[done.length]? = some slot := by
      rw [hsplit, List.getElem?_append_right (Nat.le_refl _), Nat.sub_self]
      rfl
    have hunused : isUnusedAt slots done.length = decide (slot.state = .unused) := by
      rw [isUnusedAt, hget]
      rfl
    have hnext : checkFreeSlotLinks slotCount (SlotDirectory.ofSlots slots) rest.length
        (done.length + 1) = .ok () ↔ ∀ slot ∈ rest, slot.state = .unused →
          slot.aux = invalidSlotId ∨ isUnusedAt slots slot.aux.toNat = true := by
      have hstep : done.length + 1 = (done ++ [slot]).length := by simp
      rw [hstep]
      exact ih (by rw [hsplit, List.append_assoc]; rfl)
    rw [List.forall_mem_cons, ← hnext, List.length_cons, checkFreeSlotLinks,
      Span.get_eq_ok.mpr (unusedSlots_getElem? h (by omega)), Check.ok_bind, hunused]
    by_cases hu : slot.state = .unused
    · have hslot : Span.get (SlotDirectory.ofSlots slots).slots done.length =
          (.ok slot : Except (Exit HeapPageValidationFailure) _) := Span.get_eq_ok.mpr hget
      rw [if_pos (decide_eq_true hu), hslot, Check.ok_bind]
      by_cases ha : slot.aux = invalidSlotId
      · rw [if_neg (not_not.mpr ha)]
        exact (and_iff_right fun _ => .inl ha).symm
      · rw [if_pos ha, isUnused_eq hcount h, Check.ok_bind, Check.require_bind]
        simp only [hu, true_imp_iff, ha, false_or]
    · rw [if_neg (by simpa using hu)]
      exact (and_iff_right fun hu' => absurd hu' hu).symm

lemma checkMembership_eq_ok (h : slots.length ≤ maxHeapPageSlotCount)
    (hv : visited.length = maxHeapPageSlotCount) {remaining index : ℕ}
    (hroom : index + remaining ≤ maxHeapPageSlotCount) :
    checkMembership (SlotDirectory.ofSlots slots) visited remaining index = .ok () ↔
      ∀ k, index ≤ k → k < index + remaining → isUnusedAt slots k = true →
        visited[k]? = some true := by
  induction remaining generalizing index with
  | zero =>
    rw [checkMembership]
    exact iff_of_true rfl fun k _ _ => by omega
  | succ remaining ih =>
    obtain ⟨seen, hseen⟩ : ∃ seen, visited[index]? = some seen :=
      ⟨_, List.getElem?_eq_getElem (by omega)⟩
    rw [checkMembership, Span.get_eq_ok.mpr (unusedSlots_getElem? h (by omega)), Check.ok_bind,
      Span.get_eq_ok.mpr hseen, Check.ok_bind, Check.require_bind, ih (by omega)]
    constructor
    · rintro ⟨hhere, hrest⟩ k hle hlt hu
      rcases Nat.eq_or_lt_of_le hle with rfl | hgt
      · rw [hseen]
        cases seen with
        | true => rfl
        | false => exact absurd ⟨hu, rfl⟩ hhere
      · exact hrest k hgt (by omega) hu
    · intro hall
      refine ⟨?_, fun k hle hlt hu => hall k (by omega) (by omega) hu⟩
      rintro ⟨hu, rfl⟩
      have := hall index (Nat.le_refl _) (by omega) hu
      rw [hseen] at this
      cases this

lemma FreeChain.closed (h : FreeChain slots head path) (hlen : slots.length ≤ maxHeapPageSlotCount) :
    LinksClosed slots := by
  intro slot hmem hstate
  obtain ⟨k, hk⟩ := List.mem_iff_getElem?.mp hmem
  have hlt := (List.getElem?_eq_some_iff.mp hk).1
  have hto := toNat_slotId (hlt.trans_le hlen)
  have hpath : UInt16.ofNat k ∈ path := by
    rw [h.members, hto]
    exact isUnusedAt_iff.mpr ⟨slot, hk, hstate⟩
  exact (h.walks.link hpath (by rwa [hto])).imp_right (h.members _).mp

lemma walk_start : (List.replicate maxHeapPageSlotCount false).count false <
    maxHeapPageSlotCount + 1 := by
  rw [List.count_replicate_self]
  exact Nat.lt_succ_self _

/-- What the walk marks is the path, so a complete path marks every UNUSED slot. -/
lemma marks_complete (hv : visited = markAll (List.replicate maxHeapPageSlotCount false) path)
    (hlen : slots.length ≤ maxHeapPageSlotCount) :
    (∀ k, isUnusedAt slots k = true → visited[k]? = some true) ↔
      ∀ slotId, isUnusedAt slots slotId.toNat = true → slotId ∈ path := by
  have hmark {k : ℕ} (hk : k < maxHeapPageSlotCount) :
      visited[k]? = some true ↔ ∃ slotId ∈ path, slotId.toNat = k := by
    rw [hv, markAll_getElem? (by rwa [List.length_replicate]), List.getElem?_replicate, if_pos hk]
    simp
  constructor
  · intro h slotId hu
    have hk := (isUnusedAt_lt hu).trans_le hlen
    obtain ⟨other, hmem, heq⟩ := (hmark hk).mp (h _ hu)
    rwa [← UInt16.toNat_inj.mp heq]
  · intro h k hu
    have hk := (isUnusedAt_lt hu).trans_le hlen
    have hto := toNat_slotId hk
    exact (hmark hk).mpr ⟨_, h (UInt16.ofNat k) (by rwa [hto]), hto⟩

lemma validateFreeSlotChain_eq_ok (hcount : slotCount.toNat = slots.length)
    (h : slots.length ≤ maxHeapPageSlotCount) :
    validateFreeSlotChain slotCount (SlotDirectory.ofSlots slots) head = .ok () ↔
      ∃ path, FreeChain slots head path := by
  have hlinks : checkFreeSlotLinks slotCount (SlotDirectory.ofSlots slots) slotCount.toNat 0 =
      .ok () ↔ LinksClosed slots := by
    rw [hcount]
    exact checkFreeSlotLinks_eq_ok hcount h (List.nil_append slots).symm
  have hhead {f : Except (Exit HeapPageValidationFailure) Unit} :
      (if head ≠ invalidSlotId then
        isUnused slotCount (SlotDirectory.ofSlots slots) head >>= fun linked =>
          Check.require (linked = true) (.error (slotFailure .invalidFreeSlotHead head)) >>=
            fun _ => f
      else f) = .ok () ↔
        (head = invalidSlotId ∨ isUnusedAt slots head.toNat = true) ∧ f = .ok () := by
    by_cases hne : head = invalidSlotId
    · rw [if_neg (not_not.mpr hne)]
      exact (and_iff_right (.inl hne)).symm
    · rw [if_pos hne, isUnused_eq hcount h, Check.ok_bind, Check.require_bind]
      simp only [hne, false_or]
  have hwalk {final : List Bool} : walkFreeSlots (SlotDirectory.ofSlots slots).slots
      (maxHeapPageSlotCount + 1) head (List.replicate maxHeapPageSlotCount false) = .ok final ↔
      ∃ path, Walks slots head path ∧ path.Nodup ∧ (∀ slotId ∈ path,
        (List.replicate maxHeapPageSlotCount false)[slotId.toNat]? = some false) ∧
        final = markAll (List.replicate maxHeapPageSlotCount false) path :=
    walkFreeSlots_eq_ok walk_start
  have hlast {final : List Bool} (hf : final.length = maxHeapPageSlotCount) :
      (if final ≠ (SlotDirectory.ofSlots slots).unusedSlots then
        checkMembership (SlotDirectory.ofSlots slots) final slotCount.toNat 0
      else (pure () : Except (Exit HeapPageValidationFailure) Unit)) = .ok () ↔
        ∀ k, isUnusedAt slots k = true → final[k]? = some true := by
    split
    · rw [checkMembership_eq_ok h hf (by omega)]
      constructor
      · intro hall k hu
        exact hall k (Nat.zero_le _) (by rw [Nat.zero_add, hcount]; exact isUnusedAt_lt hu) hu
      · exact fun hall k _ _ hu => hall k hu
    · rename_i heq
      refine iff_of_true rfl fun k hu => ?_
      rw [not_not.mp heq, unusedSlots_getElem? h ((isUnusedAt_lt hu).trans_le h), hu]
  rw [validateFreeSlotChain, Check.bind_eq_ok]
  dsimp only
  simp only [hlinks, hhead]
  constructor
  · rintro ⟨-, hclosed, hok, hrest⟩
    obtain ⟨final, hw, hend⟩ := Check.bind_eq_ok.mp hrest
    obtain ⟨path, hp, hn, -, hfinal⟩ := hwalk.mp hw
    have hf : final.length = maxHeapPageSlotCount := by
      rw [hfinal, length_markAll, List.length_replicate]
    have hall := (marks_complete hfinal h).mp ((hlast hf).mp hend)
    exact ⟨path, hp, hn, fun id => ⟨hp.unused hclosed hok id, hall id⟩⟩
  · rintro ⟨path, hc⟩
    refine ⟨(), hc.closed h, hc.walks.head.imp_right (hc.members _).mp, ?_⟩
    refine Check.bind_eq_ok.mpr ⟨_, hwalk.mpr ⟨path, hc.walks, hc.nodup, fun id hid => ?_, rfl⟩, ?_⟩
    · rw [List.getElem?_replicate, if_pos]
      exact (isUnusedAt_lt ((hc.members id).mp hid)).trans_le h
    · refine (hlast (by rw [length_markAll, List.length_replicate])).mpr ?_
      exact (marks_complete rfl h).mpr fun id hu => (hc.members id).mpr hu

end Chain

end DBlusBlus
