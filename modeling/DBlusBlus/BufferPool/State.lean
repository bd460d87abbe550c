import DBlusBlus.BufferPool.Error
import DBlusBlus.Page.Checksum
import Mathlib.Data.List.AList
import Mathlib.Data.List.FinRange

/-! The buffer pool's own state: frames, replacement clock, page table, file registry and loads. -/

namespace DBlusBlus.BufferPool

inductive PageValidationOutcome
  | valid | corrupt | unsupportedFormat
deriving DecidableEq

abbrev PageValidator := Page → PageValidationOutcome

/-- `none` is an empty function object. The result is the verdict and the bytes left in the page. -/
abbrev PageInitializer := Option (Page → Bool × PageBytes)

inductive RetireDisposition
  | flushDirty | discardDirty
deriving DecidableEq

inductive FrameState
  | free | loading | resident | evicting
deriving DecidableEq

inductive FrameIoState
  | none | readInProgress | writebackInProgress
deriving DecidableEq

/-- Holders of a frame's `std::shared_mutex`. -/
structure Latch where
  shared : ℕ
  exclusive : Bool
deriving DecidableEq

/-- The pin count is checked against a 32-bit bound before every increment, and the source asserts
that the 64-bit generation never overflows, so the counters are natural numbers. -/
structure BufferFrame where
  page : Page
  state : FrameState
  ioState : FrameIoState
  pinCount : ℕ
  dirty : Bool
  modificationGeneration : ℕ
  bindingEpoch : ℕ
  latch : Latch

def BufferFrame.initial : BufferFrame :=
  ⟨Page.unbound, .free, .none, 0, false, 0, 0, ⟨0, false⟩⟩

inductive PageTableEntryState
  | loadIntent | loading | resident | evicting
deriving DecidableEq

inductive FileState
  | active | retiring
deriving DecidableEq

structure FileEntry where
  state : FileState
  validator : PageValidator
  publishedPageCount : PageNo
  newPageInProgress : Bool

/-- Names one `LoadOperation` object; the source shares the object by pointer. -/
abbrev LoadId := ℕ

structure LoadOperation (N : ℕ) where
  claims : ℕ
  done : Bool
  frameId : Option (Fin N)
  error : BufferError

structure PageTableEntry (N : ℕ) where
  state : PageTableEntryState
  frameId : Fin N
  load : Option LoadId
deriving DecidableEq

structure ClockReplacer (N : ℕ) where
  referenced : Fin N → Bool
  hand : Fin N
  lastPassVisits : ℕ

structure BufferPoolOptions where
  maxPinCount : ℕ
  observer : Bool

/-- The constructor raises the configured bound to at least one pin. -/
def BufferPoolOptions.pinLimit (opts : BufferPoolOptions) : ℕ := max opts.maxPinCount 1

/-- What the pool mutex protects. The head of `freeList` is the back of the source's vector. -/
structure Pool (N : ℕ) where
  frames : Fin N → BufferFrame
  freeList : List (Fin N)
  replacer : ClockReplacer N
  pageTable : AList fun _ : PageId => PageTableEntry N
  files : AList fun _ : FileId => FileEntry
  quiescing : Bool
  loads : LoadId → LoadOperation N
  nextLoad : LoadId

variable {N : ℕ}

def ClockReplacer.setReferenced (r : ClockReplacer N) (f : Fin N) : ClockReplacer N :=
  { r with referenced := Function.update r.referenced f true }

def ClockReplacer.clearReferenced (r : ClockReplacer N) (f : Fin N) : ClockReplacer N :=
  { r with referenced := Function.update r.referenced f false }

def LoadOperation.initial : LoadOperation N := ⟨0, false, none, BufferError.default⟩

variable [NeZero N]

def Pool.initial : Pool N where
  frames _ := BufferFrame.initial
  freeList := List.finRange N
  replacer := ⟨fun _ => false, 0, 0⟩
  pageTable := ∅
  files := ∅
  quiescing := false
  loads _ := LoadOperation.initial
  nextLoad := 0

namespace ClockReplacer

def visit (eligible : Fin N → Bool) : ℕ → ClockReplacer N → Option (Fin N) × ClockReplacer N
  | 0, r => (none, r)
  | steps + 1, r =>
    let f := r.hand
    let r := { r with hand := r.hand + 1, lastPassVisits := r.lastPassVisits + 1 }
    if eligible f = false then visit eligible steps r
    else if r.referenced f then visit eligible steps (r.clearReferenced f)
    else (some f, r)

def findCandidate (r : ClockReplacer N) (eligible : Fin N → Bool) :
    Option (Fin N) × ClockReplacer N :=
  visit eligible (2 * N) { r with lastPassVisits := 0 }

lemma visit_eligible {eligible : Fin N → Bool} {steps : ℕ} {r r' : ClockReplacer N} {f : Fin N}
    (h : visit eligible steps r = (some f, r')) : eligible f = true := by
  induction steps generalizing r with
  | zero => simp [visit] at h
  | succ steps ih =>
    simp only [visit] at h
    split at h
    · exact ih h
    · split at h
      · exact ih h
      · simp_all

lemma findCandidate_eligible {r r' : ClockReplacer N} {eligible : Fin N → Bool} {f : Fin N}
    (h : r.findCandidate eligible = (some f, r')) : eligible f = true :=
  visit_eligible h

end ClockReplacer

end DBlusBlus.BufferPool
