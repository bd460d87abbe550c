import DBlusBlus.BufferPool.Step

/-! What one critical section can do. Every later argument about the pool cases on these moves. -/

namespace DBlusBlus.BufferPool

variable {N : ℕ} {V : Type}

def flushReturnPc (page : PageId) (status : BufferStatus) : FlushCaller → Pc N V
  | .flushPage => .idle (.flushPage page status)
  | .matching rest firstFailure caller =>
    .flushMatching rest
      (match firstFailure with | .ok () => status | .error error => .error error) caller

def matchingEndPc (status : BufferStatus) : MatchingCaller → Pc N V
  | .flushFile file => .idle (.flushFile file status)
  | .flushAll => .idle (.flushAll status)
  | .shutdown => .idle (.shutdown status)
  | .retireFile file =>
    match status with
    | .ok () => .retireReset file
    | .error error => .idle (.retireFile file (.error error))

def unpinPc : Option (GuardVar V × GuardVar V) → Pc N V
  | none => .idle .guardReleased
  | some (destination, source) => .takeFrom destination source

-- `FlushPageLocked` has nothing to write for the page.
def Settled (pool : Pool N) (page : PageId) : Prop :=
  ∀ entry, pool.pageTable.lookup page = some entry →
    entry.state = .loadIntent ∨ entry.state = .loading ∨
      (entry.state = .resident ∧ (pool.frames entry.frameId).dirty = false)

-- Moves that leave frames, free list, page table, files and loads as they are.
inductive Quiet (pool : Pool N) : Pc N V → Pc N V → Prop
  | registerFailed {file validator count error} :
    Quiet pool (.registerFile file validator count) (.idle (.registerFile file (.error error)))
  | retireUnknown {file disposition} : pool.files.lookup file = none →
    Quiet pool (.retireFile file disposition) (.idle (.retireFile file (.error (makeError
      .fileOrPageNotFound .retireFile ⟨file, invalidPageNo⟩
      "FileId is not registered with this BufferPool"))))
  | retireAgain {file disposition entry} : pool.files.lookup file = some entry →
    entry.state = .retiring →
    Quiet pool (.retireFile file disposition) (.retireDrain file disposition)
  | drainWait {file disposition} :
    Quiet pool (.retireDrain file disposition) (.retireDrain file disposition)
  | drainFlush {file entry} : pool.files.lookup file = some entry →
    fileDrained pool file entry = true →
    Quiet pool (.retireDrain file .flushDirty)
      (.flushMatching (dirtyPages pool (some file)) (.ok ()) (.retireFile file))
  | drainDiscard {file entry} : pool.files.lookup file = some entry →
    fileDrained pool file entry = true →
    Quiet pool (.retireDrain file .discardDirty) (.retireReset file)
  | pinFailed {page mode hitNotified error} :
    Quiet pool (.pinPage page mode hitNotified) (.idle (.fetch page mode (.error error)))
  | hitNotified {page mode hitNotified} :
    Quiet pool (.pinPage page mode hitNotified) (.pinPage page mode true)
  | pinWait {page mode hitNotified} :
    Quiet pool (.pinPage page mode hitNotified) (.pinPage page mode hitNotified)
  | joinWait {page mode load} :
    Quiet pool (.joinLoad page mode load) (.joinLoad page mode load)
  | joinPinned {page mode load f} : (pool.loads load).done = true →
    (pool.loads load).frameId = some f →
    Quiet pool (.joinLoad page mode load) (.makeGuard (.fetch page mode (.ok ())) f mode)
  | joinFailed {page mode load} : (pool.loads load).done = true →
    (pool.loads load).frameId = none →
    Quiet pool (.joinLoad page mode load)
      (.idle (.fetch page mode (.error (pool.loads load).error)))
  | noFrame {requester candidateNotified error} :
    Quiet pool (.acquireFrame requester candidateNotified) (.requestFailed requester error)
  | candidateFound {requester candidateNotified f} :
    Quiet pool (.acquireFrame requester candidateNotified)
      (.candidateObserved requester f (pool.frames f).page.id)
  | candidateLost {requester f victim} :
    Quiet pool (.candidateObserved requester f victim) (.acquireFrame requester true)
  | newPageCount {file init f entry} : pool.files.lookup file = some entry →
    Quiet pool (.frameAcquired (.newPage file init) f)
      (.newPageCount file init f entry.publishedPageCount)
  | turnFailed {file init error} :
    Quiet pool (.newPageTurn file init) (.idle (.newPage file (.error error)))
  | turnWait {file init} : Quiet pool (.newPageTurn file init) (.newPageTurn file init)
  | flushPageCall {page} : Quiet pool (.flushPageCall page) (.flushPage page .flushPage)
  | flushFileUnknown {file error} :
    Quiet pool (.flushFileCall file) (.idle (.flushFile file (.error error)))
  | flushFile {file} : file ∈ pool.files →
    Quiet pool (.flushFileCall file)
      (.flushMatching (dirtyPages pool (some file)) (.ok ()) (.flushFile file))
  | flushAll :
    Quiet pool .flushAllCall (.flushMatching (dirtyPages pool none) (.ok ()) .flushAll)
  | shutdownWait : Quiet pool .shutdownDrain .shutdownDrain
  | shutdownFlush : poolDrained pool = true →
    Quiet pool .shutdownDrain (.flushMatching (dirtyPages pool none) (.ok ()) .shutdown)
  | matchingNext {page rest status caller} :
    Quiet pool (.flushMatching (page :: rest) status caller)
      (.flushPage page (.matching rest status caller))
  | matchingEnd {status caller} :
    Quiet pool (.flushMatching [] status caller) (matchingEndPc status caller)
  | flushSettled {page caller} : Settled pool page →
    Quiet pool (.flushPage page caller) (flushReturnPc page (.ok ()) caller)
  | flushWait {page caller} : Quiet pool (.flushPage page caller) (.flushPage page caller)
  | unpinNone {f assignment} : (pool.frames f).pinCount = 0 →
    Quiet pool (.unpin f assignment) (unpinPc assignment)

-- A key that the section looks up with `at`, or through a reference, is gone.
def Missing (pool : Pool N) : Pc N V → Prop
  | .retireDrain file _ => pool.files.lookup file = none
  | .acquireFrame _ _ => ∃ f, isVictimEligible pool f = true ∧
    pool.pageTable.lookup (pool.frames f).page.id = none
  | .candidateObserved _ f _ => isVictimEligible pool f = true ∧
    pool.pageTable.lookup (pool.frames f).page.id = none
  | .frameAcquired (.fetch page _ _) _ =>
    pool.pageTable.lookup page = none ∨ pool.files.lookup page.fileId = none
  | .frameAcquired (.newPage file _) _ => pool.files.lookup file = none
  | .requestFailed (.newPage file _) _ => pool.files.lookup file = none
  | .finishLoad page _ _ _ _ _ =>
    pool.pageTable.lookup page = none ∨ pool.files.lookup page.fileId = none
  | .newPageReserved file _ _ _ => pool.files.lookup file = none
  | .newPageFinish page _ _ _ =>
    pool.pageTable.lookup page = none ∨ pool.files.lookup page.fileId = none
  | .finishWrite (.evict _ _ victim) _ => pool.pageTable.lookup victim = none
  | _ => False

def Fetchable (pool : Pool N) (page : PageId) : Prop := checkFetchable pool page = .ok ()

inductive Move [NeZero N] (opts : BufferPoolOptions) (pool : Pool N) :
    Pc N V → Pool N → Pc N V → Prop
  | quiet {pc pc'} (replacer : ClockReplacer N) : Quiet pool pc pc' →
    Move opts pool pc { pool with replacer := replacer } pc'
  | fault {pc pool' f} : Missing pool pc →
    (∀ file, pool'.files.lookup file = none → pool.files.lookup file = none) →
    Move opts pool pc pool' (.idle (.fault f))
  | registerFile {file validator count} : pool.quiescing = false → file ∉ pool.files →
    Move opts pool (.registerFile file validator count)
      (pool.setFile file ⟨.active, validator, count, false⟩)
      (.idle (.registerFile file (.ok ())))
  | beginRetire {file disposition entry} : pool.files.lookup file = some entry →
    entry.state = .active →
    Move opts pool (.retireFile file disposition)
      (pool.setFile file { entry with state := .retiring }) (.retireDrain file disposition)
  | resetRetired {file page entry} : pool.pageTable.lookup page = some entry →
    page.fileId = file →
    Move opts pool (.retireReset file)
      (((pool.eraseEntry page).resetFrame entry.frameId).releaseFrameToFreeList entry.frameId)
      (.retireReset file)
  | closeFile {file} : (∀ page, page.fileId = file → pool.pageTable.lookup page = none) →
    Move opts pool (.retireReset file) { pool with files := pool.files.erase file }
      (.idle (.retireFile file (.ok ())))
  | quiesce : Move opts pool .shutdownCall { pool with quiescing := true } .shutdownDrain
  | claimFrame {requester candidateNotified f rest} : pool.freeList = f :: rest →
    Move opts pool (.acquireFrame requester candidateNotified) { pool with freeList := rest }
      (.frameAcquired requester f)
  | installIntent {page mode hitNotified} : Fetchable pool page →
    pool.pageTable.lookup page = none →
    Move opts pool (.pinPage page mode hitNotified)
      { (pool.setEntry page ⟨.loadIntent, 0, some pool.nextLoad⟩).setLoad pool.nextLoad
          { LoadOperation.initial with claims := 1 } with nextLoad := pool.nextLoad + 1 }
      (.acquireFrame (.fetch page mode pool.nextLoad) false)
  | pinHit {page mode hitNotified entry} : Fetchable pool page →
    pool.pageTable.lookup page = some entry → entry.state = .resident →
    (pool.frames entry.frameId).pinCount < opts.pinLimit →
    Move opts pool (.pinPage page mode hitNotified)
      ((pool.setFrame entry.frameId { pool.frames entry.frameId with
        pinCount := (pool.frames entry.frameId).pinCount + 1 }).setReferenced entry.frameId)
      (.makeGuard (.fetch page mode (.ok ())) entry.frameId mode)
  | claimLoad {page mode hitNotified entry load} : Fetchable pool page →
    pool.pageTable.lookup page = some entry →
    entry.state = .loadIntent ∨ entry.state = .loading → entry.load = some load →
    (pool.loads load).claims < opts.pinLimit →
    Move opts pool (.pinPage page mode hitNotified)
      (pool.setLoad load { pool.loads load with claims := (pool.loads load).claims + 1 })
      (.joinLoad page mode load)
  | reserveVictim {pc requester f entry} (replacer : ClockReplacer N) :
    (∃ n, pc = .acquireFrame requester n) ∨ (∃ v, pc = .candidateObserved requester f v) →
    isVictimEligible pool f = true →
    pool.pageTable.lookup (pool.frames f).page.id = some entry →
    Move opts pool pc
      { (pool.setFrame f { pool.frames f with state := .evicting }).setEntry
          (pool.frames f).page.id { entry with state := .evicting } with replacer := replacer }
      (.victimReserved requester f (pool.frames f).page.id)
  | startEviction {requester f victim} : (pool.frames f).dirty = true →
    Move opts pool (.victimReserved requester f victim)
      (pool.setFrame f { pool.frames f with ioState := .writebackInProgress })
      (.writePage (.evict requester f victim)
        (finalizePageChecksum (pool.frames f).page.bytes))
  | dropClean {requester f victim} : (pool.frames f).dirty = false →
    Move opts pool (.victimReserved requester f victim)
      ((pool.eraseEntry victim).resetFrame f) (.frameAcquired requester f)
  | finishEviction {requester f victim} :
    Move opts pool (.finishWrite (.evict requester f victim) (.ok ()))
      (((pool.setFrame f { pool.frames f with ioState := .none }).eraseEntry victim).resetFrame f)
      (.frameAcquired requester f)
  | restoreVictim {requester f victim error entry} : pool.pageTable.lookup victim = some entry →
    Move opts pool (.finishWrite (.evict requester f victim) (.error error))
      ((pool.setFrame f { pool.frames f with state := .resident, ioState := .none }).setEntry
        victim { entry with state := .resident })
      (.requestFailed requester
        { error with message := "eviction writeback failed: " ++ error.message })
  | failIntent {page mode load error} :
    Move opts pool (.requestFailed (.fetch page mode load) error)
      ((pool.eraseEntry page).setLoad load { pool.loads load with
        error := { error with operation := .fetchPage }, done := true })
      (.idle (.fetch page mode (.error { error with operation := .fetchPage })))
  | endTurn {file init error entry} : pool.files.lookup file = some entry →
    Move opts pool (.requestFailed (.newPage file init) error)
      (pool.setFile file { entry with newPageInProgress := false })
      (.idle (.newPage file (.error { error with operation := .newPage })))
  | bindLoad {page mode load f entry file} : pool.pageTable.lookup page = some entry →
    pool.files.lookup page.fileId = some file →
    Move opts pool (.frameAcquired (.fetch page mode load) f)
      ((bindFrame pool f page .readInProgress).setEntry page
        { entry with state := .loading, frameId := f })
      (.readPage page mode load f file.validator)
  | failLoad {page mode load f read outcome error} :
    loadFailure pool page read outcome = .ok (some error) →
    Move opts pool (.finishLoad page mode load f read outcome)
      ((((pool.resetFrame f).releaseFrameToFreeList f).eraseEntry page).setLoad load
        { pool.loads load with error := { error with operation := .fetchPage }, done := true })
      (.idle (.fetch page mode (.error { error with operation := .fetchPage })))
  | publishLoad {page mode load f read outcome entry} :
    loadFailure pool page read outcome = .ok none → pool.pageTable.lookup page = some entry →
    Move opts pool (.finishLoad page mode load f read outcome)
      ((((pool.setFrame f { pool.frames f with
        state := .resident, ioState := .none,
        pinCount := (pool.loads load).claims }).setReferenced f).setEntry page
          { entry with state := .resident, load := none }).setLoad load
        { pool.loads load with frameId := some f, done := true })
      (.makeGuard (.fetch page mode (.ok ())) f mode)
  | claimTurn {file init entry} : pool.quiescing = false → pool.files.lookup file = some entry →
    entry.state = .active → entry.newPageInProgress = false →
    Move opts pool (.newPageTurn file init)
      (pool.setFile file { entry with newPageInProgress := true })
      (.acquireFrame (.newPage file init) false)
  | returnFrame {file init f pageNo entry error} : pool.files.lookup file = some entry →
    Move opts pool (.newPageReserved file init f pageNo)
      ((pool.releaseFrameToFreeList f).setFile file { entry with newPageInProgress := false })
      (.idle (.newPage file (.error error)))
  | bindNew {file init f pageNo entry} : pool.files.lookup file = some entry → pageNo ≠ 0 →
    pageNo = entry.publishedPageCount →
    Move opts pool (.newPageReserved file init f (.ok pageNo))
      (if (⟨file, pageNo⟩ : PageId) ∈ pool.pageTable then bindFrame pool f ⟨file, pageNo⟩ .none
        else (bindFrame pool f ⟨file, pageNo⟩ .none).setEntry ⟨file, pageNo⟩ ⟨.loading, f, none⟩)
      (.newPageBuild ⟨file, pageNo⟩ init f entry.validator)
  | failNew {page f built outcome entry} : pool.files.lookup page.fileId = some entry →
    built = false ∨ outcome ≠ .valid ∨ entry.state ≠ .active →
    Move opts pool (.newPageFinish page f built outcome)
      ((((pool.eraseEntry page).resetFrame f).releaseFrameToFreeList f).setFile page.fileId
        { entry with newPageInProgress := false })
      (.idle (.newPage page.fileId (.error
        (if entry.state ≠ .active then
          makeError .fileRetiredOrClosing .newPage page "file began retiring during page creation"
        else makeError .internalInvariantFailure .newPage page
          "page initializer did not produce a valid page"))))
  | publishNew {page f outcome entry tableEntry} : pool.files.lookup page.fileId = some entry →
    outcome = .valid → entry.state = .active →
    pool.pageTable.lookup page = some tableEntry →
    Move opts pool (.newPageFinish page f true outcome)
      ((((pool.setFrame f { pool.frames f with
        state := .resident, pinCount := 1, dirty := true,
        modificationGeneration := (pool.frames f).modificationGeneration + 1 }).setReferenced
          f).setEntry page { tableEntry with state := .resident }).setFile page.fileId
        { entry with publishedPageCount := page.pageNo + 1, newPageInProgress := false })
      (.makeGuard (.newPage page.fileId (.ok page.pageNo)) f .exclusive)
  | startWriteback {page caller entry} : pool.pageTable.lookup page = some entry →
    entry.state = .resident → (pool.frames entry.frameId).dirty = true →
    (pool.frames entry.frameId).ioState = .none →
    Move opts pool (.flushPage page caller)
      (pool.setFrame entry.frameId
        { pool.frames entry.frameId with ioState := .writebackInProgress })
      (.latchForCopy entry.frameId (pool.frames entry.frameId).page.id
        (pool.frames entry.frameId).bindingEpoch caller)
  | finishWriteback {f page bindingEpoch copiedGeneration caller} :
    Move opts pool (.finishWrite (.flush f page bindingEpoch copiedGeneration caller) (.ok ()))
      (pool.setFrame f { pool.frames f with
        ioState := .none
        dirty := if (pool.frames f).page.id = page ∧ (pool.frames f).bindingEpoch = bindingEpoch ∧
            (pool.frames f).modificationGeneration = copiedGeneration then false
          else (pool.frames f).dirty })
      (.flushPage page caller)
  | failWriteback {f page bindingEpoch copiedGeneration caller error} :
    Move opts pool
      (.finishWrite (.flush f page bindingEpoch copiedGeneration caller) (.error error))
      (pool.setFrame f { pool.frames f with ioState := .none })
      (flushReturnPc page (.error error) caller)
  | unpin {f assignment} : (pool.frames f).pinCount ≠ 0 →
    Move opts pool (.unpin f assignment)
      (pool.setFrame f { pool.frames f with pinCount := (pool.frames f).pinCount - 1 })
      (unpinPc assignment)

section Inversion

variable {opts : BufferPoolOptions} {pool : Pool N}

lemma Quiet.move [NeZero N] {pc pc' : Pc N V} (h : Quiet pool pc pc') :
    Move opts pool pc pool pc' :=
  Move.quiet pool.replacer h

lemma flushReturn_pc (page : PageId) (status : BufferStatus) (caller : FlushCaller) :
    (flushReturn pool page status caller : Turn N V).pc = flushReturnPc page status caller ∧
      (flushReturn pool page status caller : Turn N V).pool = pool := by
  cases caller <;> exact ⟨rfl, rfl⟩

lemma isVictimEligible_iff (f : Fin N) : isVictimEligible pool f = true ↔
    (pool.frames f).state = .resident ∧ (pool.frames f).pinCount = 0 ∧
      (pool.frames f).ioState = .none ∧
      ∃ entry, pool.files.lookup (pool.frames f).page.id.fileId = some entry ∧
        entry.state = .active := by
  rw [isVictimEligible]
  split
  · simp_all
    tauto
  · cases pool.files.lookup (pool.frames f).page.id.fileId <;> simp_all

lemma loadFailure_fault {page : PageId} {read : DiskStatus} {outcome : PageValidationOutcome}
    {f : Fault} (h : loadFailure pool page read outcome = .error f) :
    pool.files.lookup page.fileId = none := by
  simp only [loadFailure] at h
  split at h
  · cases h
  · cases h
  · cases h
  · split at h
    · assumption
    · split at h <;> cases h

lemma loadFailure_none {page : PageId} {read : DiskStatus} {outcome : PageValidationOutcome}
    (h : loadFailure pool page read outcome = .ok none) : read = .ok () ∧ outcome = .valid ∧
      ∃ entry, pool.files.lookup page.fileId = some entry ∧ entry.state = .active := by
  simp only [loadFailure] at h
  split at h
  · cases h
  · cases h
  · cases h
  · split at h
    · cases h
    · split at h
      · cases h
      · rename_i entry he ha
        exact ⟨rfl, rfl, entry, he, by simpa using ha⟩

variable [NeZero N]

lemma registerFile_move (file : FileId) (validator : PageValidator) (count : PageNo)
    {turn : Turn N V} (h : registerFile pool file validator count = turn) :
    Move opts pool (.registerFile file validator count) turn.pool turn.pc := by
  subst h
  rw [registerFile]
  split
  · exact Quiet.registerFailed.move
  · split
    · exact Quiet.registerFailed.move
    · rename_i hq hf
      exact .registerFile (by simpa using hq) hf

lemma retireFile_move (file : FileId) (disposition : RetireDisposition)
    {turn : Turn N V} (h : retireFile pool file disposition = turn) :
    Move opts pool (.retireFile file disposition) turn.pool turn.pc := by
  subst h
  rw [retireFile]
  split
  · exact (Quiet.retireUnknown ‹_›).move
  · rename_i entry he
    split
    · exact .beginRetire he ‹_›
    · refine (Quiet.retireAgain he ?_).move
      cases hs : entry.state
      · contradiction
      · rfl

lemma retireDrain_move (file : FileId) (disposition : RetireDisposition)
    {turn : Turn N V} (h : retireDrain pool file disposition = turn) :
    Move opts pool (.retireDrain file disposition) turn.pool turn.pc := by
  subst h
  simp only [retireDrain]
  split
  · exact .fault ‹_› fun _ => id
  · rename_i entry he
    split
    · cases disposition with
      | flushDirty => exact (Quiet.drainFlush he ‹_›).move
      | discardDirty => exact (Quiet.drainDiscard he ‹_›).move
    · exact Quiet.drainWait.move

lemma retireReset_move (file : FileId) {turn : Turn N V} (h : retireReset pool file = turn) :
    Move opts pool (.retireReset file) turn.pool turn.pc := by
  subst h
  rw [retireReset]
  split
  · rename_i page entry hf
    have hm := List.mem_of_find?_eq_some hf
    have hp := List.find?_some hf
    exact .resetRetired (AList.mem_lookup_iff.mpr hm) (by simpa using hp)
  · rename_i hf
    refine .closeFile fun page hp => ?_
    by_contra hl
    obtain ⟨entry, he⟩ := Option.ne_none_iff_exists'.mp hl
    have := List.find?_eq_none.mp hf _ (AList.mem_lookup_iff.mp he)
    simp [hp] at this

lemma pinPage_move (page : PageId) (mode : LatchMode) (hitNotified : Bool)
    {turn : Turn N V} (h : pinPage opts pool page mode hitNotified = turn) :
    Move opts pool (.pinPage page mode hitNotified) turn.pool turn.pc := by
  subst h
  rw [pinPage]
  cases hf : checkFetchable pool page with
  | error error => exact Quiet.pinFailed.move
  | ok =>
    cases he : pool.pageTable.lookup page with
    | none => exact .installIntent hf he
    | some entry =>
      have claim (hs : entry.state = .loadIntent ∨ entry.state = .loading) :
          Move opts pool (.pinPage page mode hitNotified)
            (claimLoad opts pool page mode entry.load : Turn N V).pool
            (claimLoad opts pool page mode entry.load : Turn N V).pc := by
        simp only [claimLoad]
        cases hl : entry.load with
        | none => exact Quiet.pinFailed.move
        | some load =>
          dsimp only
          split
          · exact Quiet.pinFailed.move
          · exact .claimLoad hf he hs hl (by omega)
      cases hs : entry.state with
      | loadIntent => simpa only [hs] using claim (.inl hs)
      | loading => simpa only [hs] using claim (.inr hs)
      | evicting => simpa only [hs] using Quiet.pinWait.move
      | resident =>
        simp only [hs]
        split
        · exact Quiet.hitNotified.move
        · rw [pinResident]
          split
          · exact Quiet.pinFailed.move
          · exact .pinHit hf he hs (by omega)

lemma joinLoad_move (page : PageId) (mode : LatchMode) (load : LoadId)
    {turn : Turn N V} (h : joinLoad pool page mode load = turn) :
    Move opts pool (.joinLoad page mode load) turn.pool turn.pc := by
  subst h
  rw [joinLoad]
  split
  · split
    · exact (Quiet.joinPinned ‹_› ‹_›).move
    · exact (Quiet.joinFailed ‹_› ‹_›).move
  · exact Quiet.joinWait.move

lemma reserveVictim_move {pc : Pc N V} {requester : Requester} {f : Fin N}
    (replacer : ClockReplacer N) (he : isVictimEligible pool f = true)
    (hpc : (∃ n, pc = .acquireFrame requester n) ∨ ∃ v, pc = .candidateObserved requester f v)
    {turn : Turn N V}
    (h : reserveVictim { pool with replacer := replacer } requester f (pool.frames f).page.id = turn) :
    Move opts pool pc turn.pool turn.pc := by
  subst h
  rw [reserveVictim]
  dsimp only [Pool.setFrame]
  split
  · rename_i hl
    refine .fault ?_ fun _ => id
    rcases hpc with ⟨n, rfl⟩ | ⟨v, rfl⟩
    · exact ⟨f, he, hl⟩
    · exact ⟨he, hl⟩
  · exact .reserveVictim replacer hpc he ‹_›

lemma acquireFrame_move (requester : Requester) (candidateNotified : Bool)
    {turn : Turn N V} (h : acquireFrame opts pool requester candidateNotified = turn) :
    Move opts pool (.acquireFrame requester candidateNotified) turn.pool turn.pc := by
  subst h
  rw [acquireFrame]
  split
  · exact .claimFrame ‹_›
  · cases hc : pool.replacer.findCandidate (isVictimEligible pool) with
    | mk candidate replacer =>
      cases candidate with
      | none => exact .quiet replacer .noFrame
      | some f =>
        dsimp only
        split
        · exact .quiet replacer .candidateFound
        · exact reserveVictim_move replacer (ClockReplacer.findCandidate_eligible hc)
            (.inl ⟨_, rfl⟩) rfl

lemma candidateObserved_move (requester : Requester) (f : Fin N) (victim : PageId)
    {turn : Turn N V} (h : candidateObserved pool requester f victim = turn) :
    Move opts pool (.candidateObserved requester f victim) turn.pool turn.pc := by
  subst h
  rw [candidateObserved]
  split
  · exact Quiet.candidateLost.move
  · rename_i hn
    simp only [not_or, Bool.not_eq_false, not_not] at hn
    obtain ⟨he, rfl, -⟩ := hn
    exact reserveVictim_move pool.replacer he (.inr ⟨_, rfl⟩) rfl

lemma victimReserved_move (requester : Requester) (f : Fin N) (victim : PageId)
    {turn : Turn N V} (h : victimReserved pool requester f victim = turn) :
    Move opts pool (.victimReserved requester f victim) turn.pool turn.pc := by
  subst h
  rw [victimReserved]
  split
  · exact .startEviction ‹_›
  · rename_i hd
    exact .dropClean (by simpa using hd)

lemma finishEviction_move (requester : Requester) (f : Fin N) (victim : PageId)
    (written : BufferStatus) {turn : Turn N V}
    (h : finishEviction pool requester f victim written = turn) :
    Move opts pool (.finishWrite (.evict requester f victim) written) turn.pool turn.pc := by
  subst h
  simp only [finishEviction]
  cases written with
  | ok => exact .finishEviction
  | error error =>
    dsimp only [Pool.setFrame]
    split
    · exact .fault ‹_› fun _ => id
    · exact .restoreVictim ‹_›

lemma finishFailed_move {pc : Pc N V} {file : FileId} {error : BufferError}
    (hm : pool.files.lookup file = none → Missing pool pc)
    (hs : ∀ entry, pool.files.lookup file = some entry →
      Move opts pool pc (pool.setFile file { entry with newPageInProgress := false })
        (.idle (.newPage file (.error error))))
    {turn : Turn N V} (h : finishFailed pool file error = turn) :
    Move opts pool pc turn.pool turn.pc := by
  subst h
  rw [finishFailed]
  split
  · exact .fault (hm ‹_›) fun _ => id
  · exact hs _ ‹_›

lemma requestFailed_move (requester : Requester) (error : BufferError)
    {turn : Turn N V} (h : requestFailed pool requester error = turn) :
    Move opts pool (.requestFailed requester error) turn.pool turn.pc := by
  cases requester with
  | fetch page mode load =>
    subst h
    exact .failIntent
  | newPage file init => exact finishFailed_move id (fun _ => .endTurn) h

lemma frameAcquired_move (requester : Requester) (f : Fin N)
    {turn : Turn N V} (h : frameAcquired pool requester f = turn) :
    Move opts pool (.frameAcquired requester f) turn.pool turn.pc := by
  subst h
  simp only [frameAcquired]
  cases requester with
  | fetch page mode load =>
    dsimp only [bindFrame, Pool.setFrame]
    split
    · exact .fault (.inl ‹_›) fun _ => id
    · dsimp only [Pool.setEntry]
      split
      · exact .fault (.inr ‹_›) fun _ => id
      · exact .bindLoad ‹_› ‹_›
  | newPage file init =>
    dsimp only
    split
    · exact .fault ‹_› fun _ => id
    · exact (Quiet.newPageCount ‹_›).move

lemma finishLoad_move (page : PageId) (mode : LatchMode) (load : LoadId) (f : Fin N)
    (read : DiskStatus) (outcome : PageValidationOutcome) {turn : Turn N V}
    (h : finishLoad pool page mode load f read outcome = turn) :
    Move opts pool (.finishLoad page mode load f read outcome) turn.pool turn.pc := by
  subst h
  rw [finishLoad]
  split
  · exact .fault (.inr (loadFailure_fault ‹_›)) fun _ => id
  · exact .failLoad ‹_›
  · rw [publishLoad]
    dsimp only [Pool.setFrame, Pool.setReferenced]
    split
    · exact .fault (.inl ‹_›) fun _ => id
    · exact .publishLoad ‹_› ‹_›

lemma newPageTurn_move (file : FileId) (init : PageInitializer)
    {turn : Turn N V} (h : newPageTurn pool file init = turn) :
    Move opts pool (.newPageTurn file init) turn.pool turn.pc := by
  subst h
  rw [newPageTurn]
  dsimp only [newPageFailed]
  split
  · exact Quiet.turnFailed.move
  · rename_i hq
    split
    · exact Quiet.turnFailed.move
    · rename_i entry he
      split
      · exact Quiet.turnFailed.move
      · rename_i ha
        split
        · exact Quiet.turnWait.move
        · rename_i hn
          exact .claimTurn (by simpa using hq) he (by simpa using ha) (by simpa using hn)

lemma newPageReserved_move (file : FileId) (init : PageInitializer) (f : Fin N)
    (pageNo : DiskResult PageNo) {turn : Turn N V}
    (h : newPageReserved pool file init f pageNo = turn) :
    Move opts pool (.newPageReserved file init f pageNo) turn.pool turn.pc := by
  have returned (error : BufferError) :
      Move opts pool (.newPageReserved file init f pageNo)
        (finishFailed (pool.releaseFrameToFreeList f) file error : Turn N V).pool
        (finishFailed (pool.releaseFrameToFreeList f) file error : Turn N V).pc := by
    rw [finishFailed]
    dsimp only [Pool.releaseFrameToFreeList]
    split
    · exact .fault ‹_› fun _ => id
    · exact .returnFrame ‹_›
  subst h
  simp only [newPageReserved]
  cases pageNo with
  | error error => exact returned _
  | ok pageNo =>
    dsimp only
    split
    · exact .fault ‹_› fun _ => id
    · rename_i entry he
      split
      · exact returned _
      · rename_i hn
        simp only [not_or, not_not] at hn
        exact .bindNew he hn.1 hn.2

lemma newPageFinish_move (page : PageId) (f : Fin N) (built : Bool)
    (outcome : PageValidationOutcome) {turn : Turn N V}
    (h : newPageFinish pool page f built outcome = turn) :
    Move opts pool (.newPageFinish page f built outcome) turn.pool turn.pc := by
  subst h
  rw [newPageFinish]
  split
  · exact .fault (.inr ‹_›) fun _ => id
  · rename_i entry he
    split
    · rw [finishFailed]
      dsimp only [Pool.releaseFrameToFreeList, Pool.resetFrame, Pool.setFrame, Pool.eraseEntry]
      rw [he]
      exact .failNew he ‹_›
    · rename_i hn
      simp only [not_or, not_not, Bool.not_eq_false] at hn
      obtain ⟨rfl, ho, ha⟩ := hn
      dsimp only [Pool.setReferenced, Pool.setFrame]
      split
      · refine .fault (.inl ‹_›) fun file hf => ?_
        dsimp only [fault, Pool.setFile] at hf
        rw [Table.lookup_insert] at hf
        split at hf
        · cases hf
        · exact hf
      · exact .publishNew he ho ha ‹_›

lemma flushReturn_move {pc : Pc N V} {page : PageId} {caller : FlushCaller}
    (hs : Quiet pool pc (flushReturnPc page (.ok ()) caller)) {turn : Turn N V}
    (h : flushReturn pool page (.ok ()) caller = turn) :
    Move opts pool pc turn.pool turn.pc := by
  subst h
  rw [(flushReturn_pc page _ caller).1, (flushReturn_pc page _ caller).2]
  exact hs.move

lemma flushPage_move (page : PageId) (caller : FlushCaller)
    {turn : Turn N V} (h : flushPage pool page caller = turn) :
    Move opts pool (.flushPage page caller) turn.pool turn.pc := by
  subst h
  rw [flushPage]
  cases he : pool.pageTable.lookup page with
  | none =>
    refine flushReturn_move (Quiet.flushSettled fun entry h => ?_) rfl
    simp [he] at h
  | some entry =>
    have settled (hs : entry.state = .loadIntent ∨ entry.state = .loading ∨
        (entry.state = .resident ∧ (pool.frames entry.frameId).dirty = false)) :
        Settled pool page := by
      intro entry' h
      obtain rfl := Option.some.inj (he.symm.trans h)
      exact hs
    cases hs : entry.state with
    | loadIntent =>
      simpa only [hs] using flushReturn_move (.flushSettled (settled (.inl hs))) rfl
    | loading =>
      simpa only [hs] using flushReturn_move (.flushSettled (settled (.inr (.inl hs)))) rfl
    | evicting => simpa only [hs] using Quiet.flushWait.move
    | resident =>
      simp only [hs]
      split
      · exact flushReturn_move (.flushSettled (settled (.inr (.inr ⟨hs, ‹_›⟩)))) rfl
      · split
        · exact Quiet.flushWait.move
        · exact .startWriteback he hs (by simpa using ‹¬ (_ = false)›) (by simpa using ‹¬ (_ ≠ _)›)

lemma finishWriteback_move (f : Fin N) (page : PageId) (bindingEpoch copiedGeneration : ℕ)
    (caller : FlushCaller) (written : BufferStatus) {turn : Turn N V}
    (h : finishWriteback pool f page bindingEpoch copiedGeneration caller written = turn) :
    Move opts pool (.finishWrite (.flush f page bindingEpoch copiedGeneration caller) written)
      turn.pool turn.pc := by
  subst h
  simp only [finishWriteback]
  cases written with
  | ok =>
    dsimp only
    have hm : Move opts pool (.finishWrite (.flush f page bindingEpoch copiedGeneration caller)
        (.ok ())) _ (.flushPage page caller : Pc N V) := .finishWriteback
    split_ifs with hc
    · simpa only [hc, and_self, if_true] using hm
    · simpa only [if_neg hc] using hm
  | error error =>
    dsimp only
    rw [(flushReturn_pc page _ caller).1, (flushReturn_pc page _ caller).2]
    exact .failWriteback

lemma flushMatching_move (rest : List PageId) (firstFailure : BufferStatus)
    (caller : MatchingCaller) {turn : Turn N V}
    (h : flushMatching pool rest firstFailure caller = turn) :
    Move opts pool (.flushMatching rest firstFailure caller) turn.pool turn.pc := by
  subst h
  cases rest with
  | cons page rest => exact Quiet.matchingNext.move
  | nil =>
    have hm : Move opts pool (.flushMatching [] firstFailure caller) pool
        (matchingEndPc firstFailure caller : Pc N V) := Quiet.matchingEnd.move
    cases caller <;> cases firstFailure <;> exact hm

lemma flushFile_move (file : FileId) {turn : Turn N V} (h : flushFile pool file = turn) :
    Move opts pool (.flushFileCall file) turn.pool turn.pc := by
  subst h
  rw [flushFile]
  split
  · exact (Quiet.flushFile ‹_›).move
  · exact Quiet.flushFileUnknown.move

lemma shutdownDrain_move {turn : Turn N V} (h : shutdownDrain pool = turn) :
    Move opts pool .shutdownDrain turn.pool turn.pc := by
  subst h
  rw [shutdownDrain]
  split
  · exact (Quiet.shutdownFlush ‹_›).move
  · exact Quiet.shutdownWait.move

lemma unpin_move (f : Fin N) (assignment : Option (GuardVar V × GuardVar V))
    {turn : Turn N V} (h : unpin pool f assignment = turn) :
    Move opts pool (.unpin f assignment) turn.pool turn.pc := by
  subst h
  simp only [unpin]
  split
  · exact (Quiet.unpinNone ‹_›).move
  · exact .unpin ‹_›

theorem criticalSection_move {pc : Pc N V} {turn : Turn N V}
    (h : criticalSection opts pool pc = some turn) : Move opts pool pc turn.pool turn.pc := by
  unfold criticalSection at h
  split at h
  case h_1 => exact registerFile_move _ _ _ (Option.some.inj h)
  case h_2 => exact retireFile_move _ _ (Option.some.inj h)
  case h_3 => exact retireDrain_move _ _ (Option.some.inj h)
  case h_4 => exact retireReset_move _ (Option.some.inj h)
  case h_5 => exact pinPage_move _ _ _ (Option.some.inj h)
  case h_6 => exact joinLoad_move _ _ _ (Option.some.inj h)
  case h_7 => exact acquireFrame_move _ _ (Option.some.inj h)
  case h_8 => exact candidateObserved_move _ _ _ (Option.some.inj h)
  case h_9 => exact victimReserved_move _ _ _ (Option.some.inj h)
  case h_10 => exact frameAcquired_move _ _ (Option.some.inj h)
  case h_11 => exact requestFailed_move _ _ (Option.some.inj h)
  case h_12 => exact finishLoad_move _ _ _ _ _ _ (Option.some.inj h)
  case h_13 => exact newPageTurn_move _ _ (Option.some.inj h)
  case h_14 => exact newPageReserved_move _ _ _ _ (Option.some.inj h)
  case h_15 => exact newPageFinish_move _ _ _ _ (Option.some.inj h)
  case h_16 =>
    obtain rfl := Option.some.inj h
    exact Quiet.flushPageCall.move
  case h_17 => exact flushFile_move _ (Option.some.inj h)
  case h_18 =>
    obtain rfl := Option.some.inj h
    exact Quiet.flushAll.move
  case h_19 =>
    obtain rfl := Option.some.inj h
    exact .quiesce
  case h_20 => exact shutdownDrain_move (Option.some.inj h)
  case h_21 => exact flushMatching_move _ _ _ (Option.some.inj h)
  case h_22 => exact flushPage_move _ _ (Option.some.inj h)
  case h_23 => exact finishEviction_move _ _ _ _ (Option.some.inj h)
  case h_24 => exact finishWriteback_move _ _ _ _ _ _ (Option.some.inj h)
  case h_25 => exact unpin_move _ _ (Option.some.inj h)
  case h_26 => cases h

end Inversion

end DBlusBlus.BufferPool
