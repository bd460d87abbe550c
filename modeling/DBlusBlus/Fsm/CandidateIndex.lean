import Mathlib.Data.Finset.Max
import DBlusBlus.Fsm.Page
import DBlusBlus.Library.Table

/-! The index of a relation's pages by free space category. -/

namespace DBlusBlus

open Span

instance : LinearOrder PageNo where
  le_refl := UInt64.le_refl
  le_trans _ _ _ := UInt64.le_trans
  le_antisymm _ _ := UInt64.le_antisymm
  le_total := UInt64.le_total
  lt_iff_le_not_ge _ _ := by
    rw [UInt64.lt_iff_toNat_lt, UInt64.le_iff_toNat_le, UInt64.le_iff_toNat_le]
    omega
  toDecidableLE := inferInstance
  toDecidableEq := inferInstance
  toDecidableLT := inferInstance

inductive FsmCandidateIndexError
  | invalidPageNumber | tupleRequestTooLarge
deriving DecidableEq

/-- How a call ends when it does not return: with an error, or with the exception of an allocation. -/
inductive FsmIndexExit
  | failed (error : FsmCandidateIndexError)
  | badAlloc
deriving DecidableEq

structure FsmCandidateIndex where
  buckets : UInt8 → Finset PageNo
  pageCategories : AList fun _ : PageNo => UInt8

/-- Whether the container insertions of one call find memory. -/
structure Allocations where
  map : Bool
  bucket : Bool
deriving DecidableEq

namespace FsmCandidateIndex

def empty : FsmCandidateIndex := ⟨fun _ => ∅, ∅⟩

variable (index : FsmCandidateIndex)

/-- `buckets_[category].insert(page_no)`, and whether the page was absent. -/
def insertInBucket (allocates : Bool) (category : UInt8) (pageNo : PageNo) :
    Edit FsmCandidateIndex FsmIndexExit Bool := do
  Edit.of (Check.require (allocates = true) (.error .badAlloc))
  let index ← get
  set { index with buckets :=
    Function.update index.buckets category (insert pageNo (index.buckets category)) }
  return decide (pageNo ∉ index.buckets category)

/-- `buckets_[category].erase(page_no)`: the number of pages erased. -/
def eraseFromBucket (category : UInt8) (pageNo : PageNo) :
    Edit FsmCandidateIndex FsmIndexExit ℕ := do
  let index ← get
  set { index with buckets :=
    Function.update index.buckets category ((index.buckets category).erase pageNo) }
  return if pageNo ∈ index.buckets category then 1 else 0

def setPageCategory (pageNo : PageNo) (category : UInt8) :
    Edit FsmCandidateIndex FsmIndexExit Unit := do
  let index ← get
  set { index with pageCategories := index.pageCategories.insert pageNo category }

def erasePageCategory (pageNo : PageNo) : Edit FsmCandidateIndex FsmIndexExit Unit := do
  let index ← get
  set { index with pageCategories := index.pageCategories.erase pageNo }

def upsert (allocations : Allocations) (pageNo : PageNo) (category : UInt8) :
    Edit FsmCandidateIndex FsmIndexExit Unit := do
  Edit.of (Check.require (IsValidHeapPageNumber pageNo) (.error (.failed .invalidPageNumber)))
  let index ← get
  match index.pageCategories.lookup pageNo with
  | none =>
    Edit.of (Check.require (allocations.map = true) (.error .badAlloc))
    setPageCategory pageNo category
    let insertedInBucket ← Edit.onError (insertInBucket allocations.bucket category pageNo)
      (erasePageCategory pageNo)
    Edit.of (Check.require (insertedInBucket = true) .fault)
  | some existing =>
    if existing = category then
      Edit.of (Check.require (pageNo ∈ index.buckets category) .fault)
    else
      let insertedInNewBucket ← insertInBucket allocations.bucket category pageNo
      Edit.of (Check.require (insertedInNewBucket = true) .fault)
      let erased ← eraseFromBucket existing pageNo
      Edit.of (Check.require (erased = 1) .fault)
      setPageCategory pageNo category

def remove (pageNo : PageNo) : Edit FsmCandidateIndex FsmIndexExit Unit := do
  Edit.of (Check.require (IsValidHeapPageNumber pageNo) (.error (.failed .invalidPageNumber)))
  let index ← get
  match index.pageCategories.lookup pageNo with
  | none => return ()
  | some existing =>
    let erased ← eraseFromBucket existing pageNo
    Edit.of (Check.require (erased = 1) .fault)
    erasePageCategory pageNo

/-- The loop of `FindCandidate`, with `remaining` categories from `category` on. -/
def searchBuckets : (remaining category : ℕ) → Option PageNo
  | 0, _ => none
  | remaining + 1, category =>
    if h : (index.buckets (UInt8.ofNat category)).Nonempty then
      some ((index.buckets (UInt8.ofNat category)).min' h)
    else searchBuckets remaining (category + 1)

def findCandidate (requiredTupleBytes : ℕ) : Except FsmCandidateIndexError (Option PageNo) :=
  match minimumFsmCategoryForTupleBytes requiredTupleBytes with
  | .error .tupleTooLarge => .error .tupleRequestTooLarge
  | .ok minimumCategory =>
    .ok (index.searchBuckets (fsmCategoryMax + 1 - minimumCategory.toNat) minimumCategory.toNat)

def clear : Edit FsmCandidateIndex FsmIndexExit Unit := set empty

def size : ℕ := index.pageCategories.entries.length

end FsmCandidateIndex

end DBlusBlus
