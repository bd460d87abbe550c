import DBlusBlus.BufferPool.Loads

/-! The bytes that a load or a construction left in a frame, and the checks that they passed. -/

namespace DBlusBlus.BufferPool

open Accounting Transition

variable {N : ℕ} {T V : Type}

inductive Origin
  | blank | loaded | constructed | written
deriving DecidableEq

structure LoadHistory (N : ℕ) where
  reads : LoadId → ℕ
  origin : Fin N → Origin

namespace LoadHistory

def initial : LoadHistory N := ⟨fun _ => 0, fun _ => .blank⟩

def setOrigin (history : LoadHistory N) (f : Fin N) (origin : Origin) : LoadHistory N :=
  { history with origin := Function.update history.origin f origin }

def countRead (history : LoadHistory N) (load : LoadId) : LoadHistory N :=
  { history with reads := Function.update history.reads load (history.reads load + 1) }

@[simp] lemma countRead_reads (history : LoadHistory N) (load : LoadId) :
    (history.countRead load).reads =
      Function.update history.reads load (history.reads load + 1) :=
  rfl

@[simp] lemma setOrigin_origin (history : LoadHistory N) (f : Fin N) (origin : Origin) :
    (history.setOrigin f origin).origin = Function.update history.origin f origin :=
  rfl

def record (history : LoadHistory N) (w : World N T V) (a : T × Choice T V) (_ : World N T V) :
    LoadHistory N :=
  match a.2, w.pc a.1 with
  | .readPage _ _, .readPage _ _ load f _ => (history.countRead load).setOrigin f .loaded
  | .run, .newPageBuild _ _ f _ => history.setOrigin f .constructed
  | .guard (.mutate v _), _ =>
    match w.guards a.1 v with
    | some g => history.setOrigin g.frameId .written
    | none => history
  | _, _ => history

end LoadHistory

/-- The checks of `ValidateLoadedPage`. -/
structure Passed (validator : PageValidator) (verifyChecksum : Bool) (page : Page) : Prop where
  checksum : verifyChecksum = true → verifyPageChecksum page.bytes = true
  header : ∃ header, page.bytes.header = some header ∧ header.pageNo = page.id.pageNo
  accepted : validator page = .valid

lemma validateLoadedPage_valid {page : Page} {validator : PageValidator} {verifyChecksum : Bool}
    (h : validateLoadedPage page validator verifyChecksum = .valid) :
    Passed validator verifyChecksum page := by
  simp only [validateLoadedPage] at h
  split at h
  · cases h
  · rename_i hc
    split at h
    · cases h
    · rename_i header hh
      split at h
      · cases h
      · rename_i hn
        refine ⟨fun hv => ?_, ⟨header, hh, by simpa using hn⟩, h⟩
        simpa [hv] using hc

def Origin.Vouched (origin : Origin) (validator : PageValidator) (page : Page) : Prop :=
  match origin with
  | .blank => False
  | .loaded => Passed validator true page
  | .constructed => Passed validator false page
  | .written => True

def Pool.validator (pool : Pool N) (file : FileId) : Option PageValidator :=
  (pool.files.lookup file).map FileEntry.validator

def Pc.filling : Pc N V → Option (PageId × Fin N)
  | .readPage page _ _ f _ | .finishLoad page _ _ f _ _ | .newPageBuild page _ f _
  | .newPageFinish page f _ _ => some (page, f)
  | _ => none

def Pc.Filled (pool : Pool N) (history : LoadHistory N) : Pc N V → Prop
  | .readPage page _ _ _ validator | .newPageBuild page _ _ validator =>
    pool.validator page.fileId = some validator
  | .finishLoad page _ _ f (.ok ()) outcome => history.origin f = .loaded ∧
    ∃ validator, pool.validator page.fileId = some validator ∧
      outcome = validateLoadedPage (pool.frames f).page validator true
  | .newPageFinish page f true outcome => history.origin f = .constructed ∧
    ∃ validator, pool.validator page.fileId = some validator ∧
      outcome = validateLoadedPage (pool.frames f).page validator false
  | _ => True

section Filled

variable {pool pool' : Pool N} {history history' : LoadHistory N} {pc : Pc N V} {page : PageId}
  {f : Fin N}

lemma Pc.filling_mem (loads : LoadId → LoadOperation N) (h : pc.filling = some (page, f)) :
    ∃ load, Resource.entry page (.loading f load) ∈ pc.resources loads := by
  cases pc
  case readPage load _ _ | finishLoad load _ _ _ =>
    cases h
    exact ⟨some load, by simp [Pc.resources]⟩
  case newPageBuild | newPageFinish =>
    cases h
    exact ⟨none, by simp [Pc.resources]⟩
  all_goals cases h

lemma Pc.filled_of_none (h : pc.filling = none) : pc.Filled pool history := by
  cases pc
  case readPage | finishLoad | newPageBuild | newPageFinish => cases h
  all_goals trivial

lemma Pc.filling_of_idle (h : pc.isIdle = true) : pc.filling = none := by
  obtain ⟨last, rfl⟩ := Pc.exists_idle h
  rfl

lemma startCall_filling (call : Call) : (startCall call : Pc N V).filling = none := by
  cases call with
  | registerFile file validator =>
    rw [startCall]
    split <;> rfl
  | _ => rfl

lemma startCall_claimed (call : Call) : (startCall call : Pc N V).claimed = none := by
  cases call with
  | registerFile file validator =>
    rw [startCall]
    split <;> rfl
  | _ => rfl

lemma Pc.Filled.congr (h : pc.Filled pool history)
    (hv : ∀ page f validator, pc.filling = some (page, f) →
      pool.validator page.fileId = some validator → pool'.validator page.fileId = some validator)
    (hf : ∀ page f, pc.filling = some (page, f) →
      (pool'.frames f).page = (pool.frames f).page ∧ history'.origin f = history.origin f) :
    pc.Filled pool' history' := by
  cases pc
  case readPage page _ _ f validator => exact hv page f validator rfl h
  case newPageBuild page _ f validator => exact hv page f validator rfl h
  case finishLoad page _ _ f read outcome =>
    cases read with
    | error => trivial
    | ok =>
      obtain ⟨ho, validator, hk, hout⟩ := h
      obtain ⟨hp, ho'⟩ := hf page f rfl
      exact ⟨ho'.trans ho, validator, hv page f validator rfl hk, by rw [hp]; exact hout⟩
  case newPageFinish page f built outcome =>
    cases built with
    | false => trivial
    | true =>
      obtain ⟨ho, validator, hk, hout⟩ := h
      obtain ⟨hp, ho'⟩ := hf page f rfl
      exact ⟨ho'.trans ho, validator, hv page f validator rfl hk, by rw [hp]; exact hout⟩
  all_goals trivial

end Filled

section Moves

variable [NeZero N] {pool pool' : Pool N} {pc pc' : Pc N V} {limit : ℕ} {opts : BufferPoolOptions}

lemma Move.validator (h : pool.WellFormed limit) (hr : Ready pool pc)
    (hm : Move opts pool pc pool' pc') {page : PageId} {entry : PageTableEntry N}
    (he : pool.pageTable.lookup page = some entry) :
    pool'.validator page.fileId = pool.validator page.fileId := by
  rw [Pool.validator, Pool.validator]
  rcases hm.file (hr.not_missing h) page.fileId with heq | ⟨_, _, _, _, hn, _⟩ | ⟨-, -, hn, -⟩ |
    ⟨known, new, hk, hnew, hu⟩
  · rw [heq]
  · obtain ⟨known, hk, -⟩ := h.addressed page entry he
    rw [hk] at hn
    cases hn
  · rw [hn page rfl] at he
    cases he
  · rw [hk, hnew, Option.map_some, Option.map_some, hu.validator]

lemma Move.filled {history : LoadHistory N} (hm : Move opts pool pc pool' pc') :
    pc'.Filled pool' history := by
  cases hm with
  | quiet replacer hq =>
    cases hq with
    | @matchingEnd status caller => cases caller <;> cases status <;> trivial
    | @flushSettled page caller => cases caller <;> trivial
    | @unpinNone f assignment => cases assignment <;> trivial
    | _ => trivial
  | bindLoad _ hf => simp [Pc.Filled, Pool.validator, bindFrame, hf]
  | bindNew he =>
    simp only [Pc.Filled, Pool.validator]
    split <;> simp [bindFrame, he]
  | @failWriteback _ _ _ _ caller => cases caller <;> trivial
  | @unpin f assignment => cases assignment <;> trivial
  | _ => trivial

end Moves

end DBlusBlus.BufferPool
