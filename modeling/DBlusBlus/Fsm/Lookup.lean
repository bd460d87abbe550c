import Mathlib.Data.Prod.Lex
import DBlusBlus.Fsm.CandidateIndex
import DBlusBlus.Heap.Atomic

/-! The candidate index finds the smallest page with room, and there is room. -/

namespace DBlusBlus

open Span

section Categories

variable {freeBytes tupleBytes : ℕ} {category category' : UInt8}

lemma fsmCategoryForFreeBytes_toNat (h : 8 < freeBytes) :
    (fsmCategoryForFreeBytes freeBytes).toNat = min (freeBytes - 8) 8135 * 255 / 8135 := by
  unfold fsmCategoryForFreeBytes
  have hb : ¬ min freeBytes fsmMaxContiguousFreeBytes ≤ heapPageSlotEntryEncodedSize := by
    change ¬ min freeBytes 8144 ≤ 8
    omega
  dsimp only
  rw [if_neg hb, UInt8.toNat_ofNat_of_lt']
  · change min (min freeBytes 8144 - 8) 8135 * 255 / 8135 = _
    omega
  · change min (min freeBytes 8144 - 8) 8135 * 255 / 8135 < 256
    omega

lemma minimumUsable_le (h : 8 < freeBytes) :
    fsmCategoryMinimumUsableBytes (fsmCategoryForFreeBytes freeBytes) + 8 ≤ freeBytes := by
  have hc := fsmCategoryForFreeBytes_toNat h
  unfold fsmCategoryMinimumUsableBytes
  dsimp only
  rw [hc]
  change (min (freeBytes - 8) 8135 * 255 / 8135 * 8135 + 255 - 1) / 255 + 8 ≤ freeBytes
  omega

lemma minimumUsable_mono (h : category ≤ category') :
    fsmCategoryMinimumUsableBytes category ≤ fsmCategoryMinimumUsableBytes category' := by
  rw [UInt8.le_iff_toNat_le] at h
  change (category.toNat * 8135 + 255 - 1) / 255 ≤ (category'.toNat * 8135 + 255 - 1) / 255
  omega

lemma minimumCategory_usable (hpos : 0 < tupleBytes)
    (h : minimumFsmCategoryForTupleBytes tupleBytes = .ok category) :
    0 < category.toNat ∧ tupleBytes ≤ fsmCategoryMinimumUsableBytes category := by
  unfold minimumFsmCategoryForTupleBytes at h
  split_ifs at h with hbig hz
  · omega
  have hbig : ¬ 8135 < tupleBytes := hbig
  have hc : category.toNat = (tupleBytes - 1) * 255 / 8135 + 1 := by
    rw [← Except.ok.inj h]
    refine UInt8.toNat_ofNat_of_lt' ?_
    change (tupleBytes - 1) * 255 / 8135 + 1 < 256
    omega
  change _ ∧ tupleBytes ≤ (category.toNat * 8135 + 255 - 1) / 255
  omega

theorem category_room (hpos : 0 < tupleBytes)
    (hmin : minimumFsmCategoryForTupleBytes tupleBytes = .ok category)
    (hle : category ≤ fsmCategoryForFreeBytes freeBytes) : tupleBytes + 8 ≤ freeBytes := by
  obtain ⟨hc, hr⟩ := minimumCategory_usable hpos hmin
  have hfree : 8 < freeBytes := by
    by_contra hsmall
    have hzero : fsmCategoryForFreeBytes freeBytes = 0 := by
      unfold fsmCategoryForFreeBytes
      exact if_pos (show min freeBytes 8144 ≤ 8 by omega)
    rw [hzero, UInt8.le_iff_toNat_le, UInt8.toNat_zero] at hle
    omega
  have hmono := minimumUsable_mono hle
  have hroom := minimumUsable_le hfree
  omega

lemma minimumCategory_eq_error : minimumFsmCategoryForTupleBytes tupleBytes =
    .error .tupleTooLarge ↔ 8135 < tupleBytes := by
  unfold minimumFsmCategoryForTupleBytes
  split_ifs with h hz
  · exact iff_of_true rfl h
  · exact iff_of_false (by simp) h
  · exact iff_of_false (by simp) h

end Categories

namespace FsmCandidateIndex

def bucketInserted (index : FsmCandidateIndex) (category : UInt8) (pageNo : PageNo) :
    FsmCandidateIndex :=
  { index with
    buckets := Function.update index.buckets category (insert pageNo (index.buckets category)) }

def bucketErased (index : FsmCandidateIndex) (category : UInt8) (pageNo : PageNo) :
    FsmCandidateIndex :=
  { index with
    buckets := Function.update index.buckets category ((index.buckets category).erase pageNo) }

def Tracks (index : FsmCandidateIndex) : Prop :=
  ∀ pageNo category, pageNo ∈ index.buckets category ↔
    index.pageCategories.lookup pageNo = some category

section Calls

variable {index : FsmCandidateIndex} {pageNo other : PageNo} {category existing : UInt8}
  {allocations : Allocations} {allocates : Bool}

lemma tracks_empty : Tracks empty := by
  intro pageNo category
  simp [empty]

lemma run_insertInBucket (h : allocates = true) :
    Edit.run (insertInBucket allocates category pageNo) index =
      (.ok (decide (pageNo ∉ index.buckets category)), index.bucketInserted category pageNo) := by
  rw [insertInBucket, Edit.run_of_bind_ok (Check.require_pos h)]
  rfl

lemma run_insertInBucket_throws (h : ¬ allocates = true) :
    Edit.run (insertInBucket allocates category pageNo) index =
      (.error (.error .badAlloc), index) := by
  rw [insertInBucket]
  exact Edit.run_of_bind_error (Check.require_neg h)

lemma run_eraseFromBucket (h : pageNo ∈ index.buckets category) :
    Edit.run (eraseFromBucket category pageNo) index =
      (.ok 1, index.bucketErased category pageNo) := by
  change (Except.ok (if pageNo ∈ index.buckets category then 1 else 0), _) = _
  rw [if_pos h]
  rfl

lemma mem_bucketInserted {c : UInt8} : other ∈ (index.bucketInserted category pageNo).buckets c ↔
    other ∈ index.buckets c ∨ c = category ∧ other = pageNo := by
  rw [bucketInserted]
  dsimp only
  by_cases h : c = category
  · subst h
    rw [Function.update_self, Finset.mem_insert]
    simp only [true_and]
    exact or_comm
  · rw [Function.update_of_ne h]
    simp only [h, false_and, or_false]

lemma mem_bucketErased {c : UInt8} : other ∈ (index.bucketErased category pageNo).buckets c ↔
    other ∈ index.buckets c ∧ ¬ (c = category ∧ other = pageNo) := by
  rw [bucketErased]
  dsimp only
  by_cases h : c = category
  · subst h
    rw [Function.update_self, Finset.mem_erase]
    simp only [true_and]
    exact and_comm
  · rw [Function.update_of_ne h]
    simp only [h, false_and, not_false_eq_true, and_true]

def assigned (pageNo : PageNo) (category : Option UInt8) (tracked : PageNo → Option UInt8) :
    PageNo → Option UInt8 :=
  fun other => if other = pageNo then category else tracked other

def categories (index : FsmCandidateIndex) : PageNo → Option UInt8 :=
  fun pageNo => index.pageCategories.lookup pageNo

/-- A call on a sound index fails and changes nothing, or does what it says. -/
inductive Outcome (index : FsmCandidateIndex) (admitted : Prop) (after : PageNo → Option UInt8) :
    Except (Exit FsmIndexExit) Unit × FsmCandidateIndex → Prop
  | failed (exit : FsmIndexExit) (h : ¬ admitted) :
    Outcome index admitted after (.error (.error exit), index)
  | done {index' : FsmCandidateIndex} (ht : Tracks index') (hc : index'.categories = after) :
    Outcome index admitted after (.ok (), index')

lemma erase_insert_absent (h : index.pageCategories.lookup pageNo = none) :
    (index.pageCategories.insert pageNo category).erase pageNo = index.pageCategories := by
  have hmem : pageNo ∉ index.pageCategories := fun hm => by
    rw [← AList.lookup_isSome, h] at hm
    cases hm
  refine AList.ext ?_
  change List.kerase pageNo (index.pageCategories.insert pageNo category).entries = _
  rw [AList.entries_insert_of_notMem hmem]
  exact List.kerase_cons_eq rfl

theorem upsert_outcome (ht : Tracks index) :
    Outcome index (IsValidHeapPageNumber pageNo ∧ allocations = ⟨true, true⟩)
      (assigned pageNo (some category) index.categories)
      (Edit.run (upsert allocations pageNo category) index) := by
  rw [upsert]
  by_cases hp : IsValidHeapPageNumber pageNo
  swap
  · rw [Edit.run_of_bind_error (Check.require_neg hp)]
    exact .failed _ fun h => hp h.1
  rw [Edit.run_of_bind_ok (Check.require_pos hp), Edit.run_get_bind]
  rcases hl : index.pageCategories.lookup pageNo with _ | existing
  · dsimp only
    by_cases hm : allocations.map = true
    swap
    · rw [Edit.run_of_bind_error (Check.require_neg hm)]
      exact .failed _ fun h => hm (by rw [h.2])
    have hnew : Edit.run (setPageCategory pageNo category) index = (.ok (),
      ⟨index.buckets, index.pageCategories.insert pageNo category⟩) := rfl
    rw [Edit.run_of_bind_ok (Check.require_pos hm), Edit.run_bind_ok hnew]
    by_cases hb : allocations.bucket = true
    swap
    · rw [Edit.run_bind_error (Edit.run_onError_error (run_insertInBucket_throws hb))]
      have hundone : (Edit.run (erasePageCategory pageNo)
          ⟨index.buckets, index.pageCategories.insert pageNo category⟩).2 = index := by
        change (⟨index.buckets, (index.pageCategories.insert pageNo category).erase pageNo⟩ :
          FsmCandidateIndex) = index
        rw [erase_insert_absent hl]
      rw [hundone]
      exact .failed _ fun h => hb (by rw [h.2])
    have habsent : pageNo ∉ index.buckets category := by
      rw [ht, hl]
      simp
    rw [Edit.run_bind_ok (Edit.run_onError_ok (run_insertInBucket hb)),
      decide_eq_true habsent]
    refine .done (fun q c => ?_) (funext fun q => ?_)
    · rw [mem_bucketInserted]
      change q ∈ index.buckets c ∨ _ ↔ (index.pageCategories.insert pageNo category).lookup q = _
      rw [Table.lookup_insert, ht]
      split_ifs with hq
      · subst hq
        rw [hl]
        simp only [reduceCtorEq, and_true, false_or, Option.some.injEq]
        exact eq_comm
      · simp only [hq, and_false, or_false]
    · exact Table.lookup_insert ..
  · dsimp only
    by_cases he : existing = category
    · subst he
      rw [if_pos rfl, Check.require_pos ((ht _ _).mpr hl)]
      refine .done ht (funext fun q => ?_)
      rw [assigned]
      split_ifs with hq
      · rw [hq]
        exact hl
      · rfl
    rw [if_neg he]
    by_cases hb : allocations.bucket = true
    swap
    · rw [Edit.run_bind_error (run_insertInBucket_throws hb)]
      exact .failed _ fun h => hb (by rw [h.2])
    have habsent : pageNo ∉ index.buckets category := by
      rw [ht, hl]
      simp [he]
    have hpresent : pageNo ∈ (index.bucketInserted category pageNo).buckets existing :=
      mem_bucketInserted.mpr (.inl ((ht _ _).mpr hl))
    rw [Edit.run_bind_ok (run_insertInBucket hb), decide_eq_true habsent,
      Edit.run_of_bind_ok (Check.require_pos rfl), Edit.run_bind_ok (run_eraseFromBucket hpresent),
      Edit.run_of_bind_ok (Check.require_pos rfl)]
    refine .done (fun q c => ?_) (funext fun q => ?_)
    · change q ∈ ((index.bucketInserted category pageNo).bucketErased existing pageNo).buckets c ↔
        (index.pageCategories.insert pageNo category).lookup q = _
      rw [mem_bucketErased, mem_bucketInserted, Table.lookup_insert, ht]
      split_ifs with hq
      · subst hq
        rw [hl, Option.some.injEq, Option.some.injEq]
        constructor
        · rintro ⟨h | ⟨h, -⟩, hne⟩
          · exact absurd ⟨h.symm, rfl⟩ hne
          · exact h.symm
        · rintro rfl
          exact ⟨.inr ⟨rfl, rfl⟩, fun h => he h.1.symm⟩
      · simp only [hq, and_false, or_false, not_false_eq_true, and_true]
    · exact Table.lookup_insert ..

theorem remove_outcome (ht : Tracks index) :
    Outcome index (IsValidHeapPageNumber pageNo) (assigned pageNo none index.categories)
      (Edit.run (remove pageNo) index) := by
  rw [remove]
  by_cases hp : IsValidHeapPageNumber pageNo
  swap
  · rw [Edit.run_of_bind_error (Check.require_neg hp)]
    exact .failed _ hp
  rw [Edit.run_of_bind_ok (Check.require_pos hp), Edit.run_get_bind]
  rcases hl : index.pageCategories.lookup pageNo with _ | existing
  · refine .done ht (funext fun q => ?_)
    rw [assigned]
    split_ifs with hq
    · rw [hq]
      exact hl
    · rfl
  · dsimp only
    rw [Edit.run_bind_ok (run_eraseFromBucket ((ht _ _).mpr hl)),
      Edit.run_of_bind_ok (Check.require_pos rfl)]
    refine .done (fun q c => ?_) (funext fun q => ?_)
    · change q ∈ (index.bucketErased existing pageNo).buckets c ↔
        (index.pageCategories.erase pageNo).lookup q = _
      rw [mem_bucketErased, Table.lookup_erase, ht]
      split_ifs with hq
      · subst hq
        rw [hl, Option.some.injEq]
        simp only [and_true, iff_false, not_and, not_not]
        exact Eq.symm
      · simp only [hq, and_false, not_false_eq_true, and_true]
    · exact Table.lookup_erase ..

end Calls

section Search

variable {index : FsmCandidateIndex} {tracked : PageNo → Option UInt8} {minimum : UInt8}
  {first remaining tupleBytes : ℕ}

inductive SearchOutcome (index : FsmCandidateIndex) (first : ℕ) : Option PageNo → Prop
  | none (h : ∀ c q, first ≤ c.toNat → q ∉ index.buckets c) : SearchOutcome index first .none
  | found {p : PageNo} {category : UInt8} (hc : first ≤ category.toNat)
    (hbefore : ∀ c q, first ≤ c.toNat → c < category → q ∉ index.buckets c)
    (hp : p ∈ index.buckets category) (hle : ∀ q ∈ index.buckets category, p ≤ q) :
    SearchOutcome index first (some p)

lemma searchBuckets_outcome (h : first + remaining = 256) :
    SearchOutcome index first (index.searchBuckets remaining first) := by
  induction remaining generalizing first with
  | zero =>
    refine .none fun c q hc => ?_
    have hlt := c.toNat_lt
    omega
  | succ remaining ih =>
    have hfirst : (UInt8.ofNat first).toNat = first := UInt8.toNat_ofNat_of_lt' (by
      change first < 256
      omega)
    rw [searchBuckets]
    split_ifs with hne
    · refine .found hfirst.ge (fun c q hc hlt => ?_) (Finset.min'_mem _ hne)
        fun q hq => Finset.min'_le _ q hq
      rw [UInt8.lt_iff_toNat_lt, hfirst] at hlt
      omega
    · rw [Finset.not_nonempty_iff_eq_empty] at hne
      have hskip {c : UInt8} (q : PageNo) (hc : first ≤ c.toNat) (hc' : ¬ first + 1 ≤ c.toNat) :
          q ∉ index.buckets c := by
        have heq : c = UInt8.ofNat first := UInt8.toNat_inj.mp (by omega)
        rw [heq, hne]
        exact Finset.notMem_empty q
      have hrest : SearchOutcome index (first + 1) (index.searchBuckets remaining (first + 1)) :=
        ih (by omega)
      generalize index.searchBuckets remaining (first + 1) = result at hrest ⊢
      cases hrest with
      | none h =>
        refine .none fun c q hc => ?_
        by_cases hc' : first + 1 ≤ c.toNat
        · exact h c q hc'
        · exact hskip q hc hc'
      | found hc hbefore hp hle =>
        refine .found (Nat.le_of_succ_le hc) (fun c q hc hlt => ?_) hp hle
        by_cases hc' : first + 1 ≤ c.toNat
        · exact hbefore c q hc' hlt
        · exact hskip q hc hc'

/-- The tracked page with the smallest category that is large enough, and the smallest number
there. -/
inductive Candidate (tracked : PageNo → Option UInt8) (minimum : UInt8) : Option PageNo → Prop
  | none (h : ∀ p c, tracked p = some c → c < minimum) : Candidate tracked minimum .none
  | least {p : PageNo} {c : UInt8}
    (h : IsLeast {x : Lex (UInt8 × PageNo) |
      minimum ≤ (ofLex x).1 ∧ tracked (ofLex x).2 = some (ofLex x).1} (toLex (c, p))) :
    Candidate tracked minimum (some p)

theorem findCandidate_candidate (ht : Tracks index)
    (hmin : minimumFsmCategoryForTupleBytes tupleBytes = .ok minimum) :
    ∃ result, index.findCandidate tupleBytes = .ok result ∧
      Candidate index.categories minimum result := by
  have hlt := minimum.toNat_lt
  have houtcome : SearchOutcome index minimum.toNat
      (index.searchBuckets (256 - minimum.toNat) minimum.toNat) :=
    searchBuckets_outcome (by omega)
  refine ⟨index.searchBuckets (256 - minimum.toNat) minimum.toNat, ?_, ?_⟩
  · rw [findCandidate, hmin]
  generalize index.searchBuckets (256 - minimum.toNat) minimum.toNat = result at houtcome ⊢
  cases houtcome with
  | none h =>
    refine .none fun p c hp => ?_
    by_contra hc
    rw [UInt8.not_lt, UInt8.le_iff_toNat_le] at hc
    exact h c p hc ((ht p c).mpr hp)
  | @found p category hc hbefore hp hle =>
    refine .least (c := category) ⟨⟨UInt8.le_iff_toNat_le.mpr hc, (ht _ _).mp hp⟩, ?_⟩
    rintro x ⟨hmin', hx⟩
    have hbucket := (ht _ _).mpr hx
    rw [Prod.Lex.le_iff]
    change category < _ ∨ category = _ ∧ p ≤ _
    rcases lt_trichotomy (ofLex x).1.toNat category.toNat with hlow | heq | hhigh
    · exact absurd hbucket (hbefore _ _ (UInt8.le_iff_toNat_le.mp hmin')
        (UInt8.lt_iff_toNat_lt.mpr hlow))
    · have hsame : (ofLex x).1 = category := UInt8.toNat_inj.mp heq
      rw [hsame] at hbucket
      exact .inr ⟨hsame.symm, hle _ hbucket⟩
    · exact .inl (UInt8.lt_iff_toNat_lt.mpr hhigh)

lemma findCandidate_error :
    index.findCandidate tupleBytes = .error .tupleRequestTooLarge ↔ 8135 < tupleBytes := by
  rw [← minimumCategory_eq_error, findCandidate]
  cases h : minimumFsmCategoryForTupleBytes tupleBytes with
  | ok => simp
  | error e => cases e; simp

lemma Candidate.category {p : PageNo} (h : Candidate tracked minimum (some p)) :
    ∃ c, minimum ≤ c ∧ tracked p = some c := by
  cases h with
  | @least _ c h => exact ⟨c, h.1⟩

end Search

inductive FsmIndexCall
  | upsert (allocations : Allocations) (pageNo : PageNo) (category : UInt8)
  | remove (pageNo : PageNo)
  | clear

namespace FsmIndexCall

def perform : FsmIndexCall → Edit FsmCandidateIndex FsmIndexExit Unit
  | .upsert allocations pageNo category => FsmCandidateIndex.upsert allocations pageNo category
  | .remove pageNo => FsmCandidateIndex.remove pageNo
  | .clear => FsmCandidateIndex.clear

/-- The page number is one of a heap page, and the containers find memory. -/
def Admitted : FsmIndexCall → Prop
  | .upsert allocations pageNo _ => IsValidHeapPageNumber pageNo ∧ allocations = ⟨true, true⟩
  | .remove pageNo => IsValidHeapPageNumber pageNo
  | .clear => True

def effect : FsmIndexCall → (PageNo → Option UInt8) → PageNo → Option UInt8
  | .upsert _ pageNo category, tracked => assigned pageNo (some category) tracked
  | .remove pageNo, tracked => assigned pageNo none tracked
  | .clear, _ => fun _ => none

theorem perform_outcome {index : FsmCandidateIndex} (ht : Tracks index) (call : FsmIndexCall) :
    Outcome index call.Admitted (call.effect index.categories) (Edit.run call.perform index) := by
  cases call with
  | upsert allocations pageNo category => exact upsert_outcome ht
  | remove pageNo => exact remove_outcome ht
  | clear => exact .done tracks_empty rfl

end FsmIndexCall

/-- The index after some calls, whether they fail or not. -/
def performed (calls : List FsmIndexCall) : FsmCandidateIndex :=
  calls.foldl (fun index call => (Edit.run call.perform index).2) empty

lemma performed_append (calls : List FsmIndexCall) (call : FsmIndexCall) :
    performed (calls ++ [call]) = (Edit.run call.perform (performed calls)).2 := by
  rw [performed, List.foldl_append]
  rfl

theorem performed_tracks (calls : List FsmIndexCall) : Tracks (performed calls) := by
  induction calls using List.reverseRecOn with
  | nil => exact tracks_empty
  | append_singleton calls call ih =>
    have h := call.perform_outcome ih
    rw [performed_append]
    generalize Edit.run call.perform (performed calls) = result at h ⊢
    cases h with
    | failed => exact ih
    | done ht => exact ht

/-- The index says of every page how much room it has. -/
def Current (index : FsmCandidateIndex) (pages : PageNo → HeapPage × PageBytes) : Prop :=
  ∀ pageNo category, index.categories pageNo = some category →
    ∃ headers, (pages pageNo).1.validateStructure (pages pageNo).2 = .ok headers ∧
      category = fsmCategoryForFreeBytes (headers.heap.upper.toNat - headers.heap.lower.toNat)

theorem Current.insert {index : FsmCandidateIndex} {pages : PageNo → HeapPage × PageBytes}
    {tuple : List UInt8} {pageNo : PageNo} (hcurrent : Current index pages) (ht : Tracks index)
    (hpos : 0 < tuple.length) (hfind : index.findCandidate tuple.length = .ok (some pageNo))
    (failure : HeapPageInsertFailure)
    (hfail : (Edit.run ((pages pageNo).1.insert tuple) (pages pageNo).2).1 =
      .error (.error failure)) : failure.code ≠ .insufficientSpace := by
  cases hmin : minimumFsmCategoryForTupleBytes tuple.length with
  | error e =>
    cases e
    have hlarge : index.findCandidate tuple.length = .error .tupleRequestTooLarge :=
      findCandidate_error.mpr (minimumCategory_eq_error.mp hmin)
    rw [hfind] at hlarge
    cases hlarge
  | ok minimum =>
    obtain ⟨result, hresult, hcandidate⟩ := findCandidate_candidate ht hmin
    rw [hfind] at hresult
    obtain rfl := Except.ok.inj hresult
    obtain ⟨category, hle, hcategory⟩ := hcandidate.category
    obtain ⟨headers, hvalid, rfl⟩ := hcurrent pageNo category hcategory
    have hroom := category_room hpos hmin hle
    obtain ⟨slots, hv⟩ := validateStructure_eq_ok.mp hvalid
    have h : InsertOutcome (pages pageNo).1 (pages pageNo).2 headers.heap tuple
        (Edit.run ((pages pageNo).1.insert tuple) (pages pageNo).2) := insert_outcome hv
    generalize Edit.run ((pages pageNo).1.insert tuple) (pages pageNo).2 = result at h hfail
    cases h with
    | tooLarge =>
      cases hfail
      simp
    | invalidTuple =>
      cases hfail
      simp
    | insufficientSpace hn hc hs =>
      change _ < tuple.length + 8 at hs
      omega
    | done => cases hfail

/-- What the index returns is what a sorted reference would, after any calls. -/
theorem fsmCandidateIndex_lookup (calls : List FsmIndexCall) :
    Tracks (performed calls) ∧
      (∀ call : FsmIndexCall, Outcome (performed calls) call.Admitted
        (call.effect (performed calls).categories) (Edit.run call.perform (performed calls))) ∧
      (∀ tupleBytes, (performed calls).findCandidate tupleBytes = .error .tupleRequestTooLarge ↔
        8135 < tupleBytes) ∧
      (∀ tupleBytes ≤ 8135, ∃ minimum result,
        minimumFsmCategoryForTupleBytes tupleBytes = .ok minimum ∧
        (performed calls).findCandidate tupleBytes = .ok result ∧
        Candidate (performed calls).categories minimum result) ∧
      ∀ pages tuple pageNo failure, Current (performed calls) pages → 0 < tuple.length →
        (performed calls).findCandidate tuple.length = .ok (some pageNo) →
        (Edit.run ((pages pageNo).1.insert tuple) (pages pageNo).2).1 =
          .error (.error failure) → failure.code ≠ .insufficientSpace := by
  have ht := performed_tracks calls
  refine ⟨ht, fun call => call.perform_outcome ht, fun _ => findCandidate_error,
    fun tupleBytes h => ?_, fun pages tuple pageNo failure hcurrent hpos hfind =>
      hcurrent.insert ht hpos hfind failure⟩
  cases hmin : minimumFsmCategoryForTupleBytes tupleBytes with
  | error e =>
    cases e
    exact absurd (minimumCategory_eq_error.mp hmin) (Nat.not_lt.mpr h)
  | ok minimum =>
    obtain ⟨result, hresult, hcandidate⟩ := findCandidate_candidate ht hmin
    exact ⟨minimum, result, rfl, hresult, hcandidate⟩

end FsmCandidateIndex

end DBlusBlus
