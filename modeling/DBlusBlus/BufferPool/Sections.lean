import DBlusBlus.BufferPool.Control
import DBlusBlus.Library.Table

/-! The critical sections of the pool, each from taking the mutex to giving it up. A section that
the source continues without unlocking ends with `hold`. -/

namespace DBlusBlus.BufferPool

inductive LockOp
  | unlock
  | hold
  -- `Notify`: the mutex is released around the callback when there is an observer.
  | notify
  | wait
deriving DecidableEq

structure Turn (N : ℕ) (V : Type) where
  pool : Pool N
  pc : Pc N V
  lock : LockOp
  notifyAll : Bool

variable {N : ℕ} {V : Type}

namespace Pool

variable (pool : Pool N)

@[simps] def setFrame (f : Fin N) (frame : BufferFrame) : Pool N :=
  { pool with frames := Function.update pool.frames f frame }

@[simps] def setEntry (page : PageId) (entry : PageTableEntry N) : Pool N :=
  { pool with pageTable := pool.pageTable.insert page entry }

@[simps] def eraseEntry (page : PageId) : Pool N :=
  { pool with pageTable := pool.pageTable.erase page }

@[simps] def setFile (file : FileId) (entry : FileEntry) : Pool N :=
  { pool with files := pool.files.insert file entry }

@[simps] def setLoad (load : LoadId) (operation : LoadOperation N) : Pool N :=
  { pool with loads := Function.update pool.loads load operation }

@[simps] def resetFrame (f : Fin N) : Pool N :=
  { pool.setFrame f { pool.frames f with
      page := Page.unbound, state := .free, ioState := .none, pinCount := 0, dirty := false } with
    replacer := pool.replacer.clearReferenced f }

@[simps] def releaseFrameToFreeList (f : Fin N) : Pool N :=
  { pool with freeList := f :: pool.freeList }

@[simps] def setReferenced (f : Fin N) : Pool N :=
  { pool with replacer := pool.replacer.setReferenced f }

end Pool

def fault (pool : Pool N) (f : Fault) : Turn N V := ⟨pool, .idle (.fault f), .unlock, false⟩

section Registry

variable (pool : Pool N)

def registerFile (file : FileId) (validator : PageValidator) (count : PageNo) : Turn N V :=
  let fail (code : BufferErrorCode) (message : String) : Turn N V :=
    ⟨pool, .idle (.registerFile file
      (.error (makeError code .registerFile ⟨file, invalidPageNo⟩ message))), .unlock, false⟩
  if pool.quiescing then fail .bufferPoolQuiescing "BufferPool is quiescing"
  else if file ∈ pool.files then
    fail .internalInvariantFailure "FileId is already registered with this BufferPool"
  else ⟨pool.setFile file ⟨.active, validator, count, false⟩, .idle (.registerFile file (.ok ())),
    .unlock, false⟩

def retireFile (file : FileId) (disposition : RetireDisposition) : Turn N V :=
  match pool.files.lookup file with
  | none => ⟨pool, .idle (.retireFile file (.error (makeError .fileOrPageNotFound .retireFile
      ⟨file, invalidPageNo⟩ "FileId is not registered with this BufferPool"))), .unlock, false⟩
  | some entry =>
    if entry.state = .active then
      ⟨pool.setFile file { entry with state := .retiring }, .retireDrain file disposition,
        .notify, true⟩
    else ⟨pool, .retireDrain file disposition, .hold, false⟩

def fileDrained (file : FileId) (entry : FileEntry) : Bool :=
  !entry.newPageInProgress && pool.pageTable.entries.all fun item =>
    item.1.fileId != file || (item.2.state == .resident &&
      (pool.frames item.2.frameId).pinCount == 0 &&
      (pool.frames item.2.frameId).ioState == .none)

def inScope (scope : Option FileId) (page : PageId) : Bool :=
  match scope with
  | none => true
  | some file => page.fileId == file

-- The snapshot that `FlushMatching` takes, sorted.
def dirtyPages (scope : Option FileId) : List PageId :=
  (pool.pageTable.entries.filterMap fun item =>
    if inScope scope item.1 && item.2.state == .resident && (pool.frames item.2.frameId).dirty
    then some item.1 else none).insertionSort PageId.le

def startMatching (caller : MatchingCaller) : Turn N V :=
  ⟨pool, .flushMatching (dirtyPages pool caller.scope) (.ok ()) caller, .hold, false⟩

def retireDrain (file : FileId) (disposition : RetireDisposition) : Turn N V :=
  match pool.files.lookup file with
  | none => fault pool .outOfRange
  | some entry =>
    if fileDrained pool file entry then
      match disposition with
      | .flushDirty => startMatching pool (.retireFile file)
      | .discardDirty => ⟨pool, .retireReset file, .hold, false⟩
    else ⟨pool, .retireDrain file disposition, .wait, false⟩

-- One round of the loop that removes the file's mappings, then the end of the registration.
def retireReset (file : FileId) : Turn N V :=
  match pool.pageTable.entries.find? fun item => item.1.fileId == file with
  | some ⟨page, entry⟩ =>
    ⟨((pool.eraseEntry page).resetFrame entry.frameId).releaseFrameToFreeList entry.frameId,
      .retireReset file, .hold, false⟩
  | none => ⟨{ pool with files := pool.files.erase file }, .idle (.retireFile file (.ok ())),
      .unlock, true⟩

end Registry

section Fetch

variable (opts : BufferPoolOptions) (pool : Pool N)

def checkFetchable (page : PageId) : BufferStatus :=
  let fail (code : BufferErrorCode) (message : String) : BufferStatus :=
    .error (makeError code .fetchPage page message)
  if pool.quiescing then fail .bufferPoolQuiescing "BufferPool is quiescing"
  else match pool.files.lookup page.fileId with
    | none => fail .fileOrPageNotFound "FileId is not registered with this BufferPool"
    | some entry =>
      if entry.state ≠ .active then fail .fileRetiredOrClosing "file is retiring"
      else if page.pageNo = 0 ∨ entry.publishedPageCount ≤ page.pageNo then
        fail .fileOrPageNotFound "page is not a published data page"
      else .ok ()

def fetchFailed (page : PageId) (mode : LatchMode) (error : BufferError) : Turn N V :=
  ⟨pool, .idle (.fetch page mode (.error error)), .unlock, false⟩

def pinResident (page : PageId) (mode : LatchMode) (f : Fin N) : Turn N V :=
  if opts.pinLimit ≤ (pool.frames f).pinCount then
    fetchFailed pool page mode
      (makeError .pinCountOverflow .fetchPage page "pin count is at its maximum")
  else
    ⟨(pool.setFrame f { pool.frames f with pinCount := (pool.frames f).pinCount + 1 }).setReferenced f,
      .makeGuard (.fetch page mode (.ok ())) f mode, .unlock, false⟩

-- `JoinLoad` up to its wait.
def claimLoad (page : PageId) (mode : LatchMode) (load : Option LoadId) : Turn N V :=
  match load with
  | none => fetchFailed pool page mode
      (makeError .fileOrPageNotFound .fetchPage page "page is not a published data page")
  | some load =>
    if opts.pinLimit ≤ (pool.loads load).claims then
      fetchFailed pool page mode
        (makeError .pinCountOverflow .fetchPage page "too many pending fetch claims")
    else ⟨pool.setLoad load { pool.loads load with claims := (pool.loads load).claims + 1 },
        .joinLoad page mode load, .hold, false⟩

def joinLoad (page : PageId) (mode : LatchMode) (load : LoadId) : Turn N V :=
  let operation := pool.loads load
  if operation.done then
    match operation.frameId with
    | some f => ⟨pool, .makeGuard (.fetch page mode (.ok ())) f mode, .unlock, false⟩
    | none => fetchFailed pool page mode operation.error
  else ⟨pool, .joinLoad page mode load, .wait, false⟩

variable [NeZero N]

-- `LoadPage` up to the first frame request.
def installIntent (page : PageId) (mode : LatchMode) : Turn N V :=
  let load := pool.nextLoad
  ⟨{ (pool.setEntry page ⟨.loadIntent, 0, some load⟩).setLoad load
      { LoadOperation.initial with claims := 1 } with nextLoad := load + 1 },
    .acquireFrame (.fetch page mode load) false, .notify, false⟩

def pinPage (page : PageId) (mode : LatchMode) (hitNotified : Bool) : Turn N V :=
  match checkFetchable pool page with
  | .error error => fetchFailed pool page mode error
  | .ok () =>
    match pool.pageTable.lookup page with
    | none => installIntent pool page mode
    | some entry =>
      match entry.state with
      | .resident =>
        if opts.observer && !hitNotified then ⟨pool, .pinPage page mode true, .notify, false⟩
        else pinResident opts pool page mode entry.frameId
      | .evicting => ⟨pool, .pinPage page mode hitNotified, .wait, false⟩
      | .loadIntent | .loading => claimLoad opts pool page mode entry.load

end Fetch

section Replacement

variable (opts : BufferPoolOptions) (pool : Pool N)

def isVictimEligible (f : Fin N) : Bool :=
  let frame := pool.frames f
  if frame.state ≠ .resident ∨ frame.pinCount ≠ 0 ∨ frame.ioState ≠ .none then false
  else match pool.files.lookup frame.page.id.fileId with
    | none => false
    | some entry => entry.state == .active

-- Victim reservation.
def reserveVictim (requester : Requester) (f : Fin N) (victim : PageId) : Turn N V :=
  let pool := pool.setFrame f { pool.frames f with state := .evicting }
  match pool.pageTable.lookup victim with
  | none => fault pool .outOfRange
  | some entry => ⟨pool.setEntry victim { entry with state := .evicting },
      .victimReserved requester f victim, .notify, false⟩

variable [NeZero N]

-- One round of the loop of `AcquireFrame`.
def acquireFrame (requester : Requester) (candidateNotified : Bool) : Turn N V :=
  match pool.freeList with
  | f :: rest => ⟨{ pool with freeList := rest }, .frameAcquired requester f, .hold, false⟩
  | [] =>
    let (candidate, replacer) := pool.replacer.findCandidate (isVictimEligible pool)
    let pool := { pool with replacer := replacer }
    match candidate with
    | none => ⟨pool, .requestFailed requester (makeError .noReplaceableFrame requester.operation
        requester.pageId "no frame is free or replaceable"), .hold, false⟩
    | some f =>
      if opts.observer && !candidateNotified then
        ⟨pool, .candidateObserved requester f (pool.frames f).page.id, .notify, false⟩
      else reserveVictim pool requester f (pool.frames f).page.id

omit [NeZero N]

def candidateObserved (requester : Requester) (f : Fin N) (victim : PageId) : Turn N V :=
  if isVictimEligible pool f = false ∨ (pool.frames f).page.id ≠ victim ∨ pool.freeList ≠ [] then
    ⟨pool, .acquireFrame requester true, .hold, false⟩
  else reserveVictim pool requester f victim

-- The old mapping goes first, then the identity of the frame.
def dropVictim (requester : Requester) (f : Fin N) (victim : PageId) : Turn N V :=
  ⟨(pool.eraseEntry victim).resetFrame f, .frameAcquired requester f, .hold, true⟩

def victimReserved (requester : Requester) (f : Fin N) (victim : PageId) : Turn N V :=
  let frame := pool.frames f
  if frame.dirty then
    ⟨pool.setFrame f { frame with ioState := .writebackInProgress },
      .writePage (.evict requester f victim) (finalizePageChecksum frame.page.bytes), .unlock, false⟩
  else dropVictim pool requester f victim

def finishEviction (requester : Requester) (f : Fin N) (victim : PageId) (written : BufferStatus) :
    Turn N V :=
  match written with
  | .ok () =>
    dropVictim (pool.setFrame f { pool.frames f with ioState := .none }) requester f victim
  | .error error =>
    let pool := pool.setFrame f { pool.frames f with state := .resident, ioState := .none }
    match pool.pageTable.lookup victim with
    | none => fault pool .outOfRange
    | some entry => ⟨pool.setEntry victim { entry with state := .resident },
        .requestFailed requester
          { error with message := "eviction writeback failed: " ++ error.message }, .hold, true⟩

end Replacement

section Load

variable (pool : Pool N)

-- The lambda `fail` of `LoadPage`; nothing follows its last notification.
def failLoad (page : PageId) (mode : LatchMode) (load : LoadId) (error : BufferError) : Turn N V :=
  let error := { error with operation := .fetchPage }
  ⟨(pool.eraseEntry page).setLoad load { pool.loads load with error := error, done := true },
    .idle (.fetch page mode (.error error)), .unlock, true⟩

-- The lambda `finish` of `NewPage` on its way out with an error.
def finishFailed (file : FileId) (error : BufferError) : Turn N V :=
  match pool.files.lookup file with
  | none => fault pool .danglingReference
  | some entry => ⟨pool.setFile file { entry with newPageInProgress := false },
      .idle (.newPage file (.error error)), .unlock, true⟩

def requestFailed (requester : Requester) (error : BufferError) : Turn N V :=
  match requester with
  | .fetch page mode load => failLoad pool page mode load error
  | .newPage file _ => finishFailed pool file { error with operation := .newPage }

def bindFrame (f : Fin N) (page : PageId) (ioState : FrameIoState) : Pool N :=
  let frame := pool.frames f
  pool.setFrame f { frame with
    bindingEpoch := frame.bindingEpoch + 1, page := Page.ofId page, state := .loading,
    ioState := ioState, dirty := false }

def frameAcquired (requester : Requester) (f : Fin N) : Turn N V :=
  match requester with
  | .fetch page mode load =>
    let pool := bindFrame pool f page .readInProgress
    match pool.pageTable.lookup page with
    | none => fault pool .outOfRange
    | some entry =>
      let pool := pool.setEntry page { entry with state := .loading, frameId := f }
      match pool.files.lookup page.fileId with
      | none => fault pool .outOfRange
      | some file => ⟨pool, .readPage page mode load f file.validator, .unlock, false⟩
  | .newPage file init =>
    match pool.files.lookup file with
    | none => fault pool .danglingReference
    | some entry => ⟨pool, .newPageCount file init f entry.publishedPageCount, .unlock, false⟩

def validateLoadedPage (page : Page) (validator : PageValidator) (verifyChecksum : Bool) :
    PageValidationOutcome :=
  if verifyChecksum && !verifyPageChecksum page.bytes then .corrupt
  else match page.bytes.header with
    | none => .corrupt
    | some header => if header.pageNo ≠ page.id.pageNo then .corrupt else validator page

-- The error of a finished load, if any. The registry is only read after the other checks.
def loadFailure (page : PageId) (read : DiskStatus) (outcome : PageValidationOutcome) :
    Except Fault (Option BufferError) :=
  match read, outcome with
  | .error error, _ =>
    .ok (some (makeError (readErrorCode error) .fetchPage page "page read failed" (some error)))
  | .ok (), .corrupt => .ok (some (makeError .corruptPage .fetchPage page "page failed validation"))
  | .ok (), .unsupportedFormat =>
    .ok (some (makeError .unsupportedPageFormat .fetchPage page "page uses an unsupported format"))
  | .ok (), .valid =>
    match pool.files.lookup page.fileId with
    | none => .error .outOfRange
    | some file =>
      if file.state ≠ .active then
        .ok (some (makeError .fileRetiredOrClosing .fetchPage page
          "file began retiring during load"))
      else .ok none

def publishLoad (page : PageId) (mode : LatchMode) (load : LoadId) (f : Fin N) : Turn N V :=
  let operation := pool.loads load
  let pool := (pool.setFrame f { pool.frames f with
    state := .resident, ioState := .none, pinCount := operation.claims }).setReferenced f
  match pool.pageTable.lookup page with
  | none => fault pool .outOfRange
  | some entry =>
    ⟨(pool.setEntry page { entry with state := .resident, load := none }).setLoad load
        { operation with frameId := some f, done := true },
      .makeGuard (.fetch page mode (.ok ())) f mode, .unlock, true⟩

def finishLoad (page : PageId) (mode : LatchMode) (load : LoadId) (f : Fin N) (read : DiskStatus)
    (outcome : PageValidationOutcome) : Turn N V :=
  match loadFailure pool page read outcome with
  | .error error => fault pool error
  | .ok (some error) =>
    failLoad ((pool.resetFrame f).releaseFrameToFreeList f) page mode load error
  | .ok none => publishLoad pool page mode load f

end Load

section NewPage

variable (pool : Pool N)

def newPageFailed (file : FileId) (error : BufferError) : Turn N V :=
  ⟨pool, .idle (.newPage file (.error error)), .unlock, false⟩

-- One round of the loop of `WaitForNewPageTurn`, and the claim of the turn after it.
def newPageTurn (file : FileId) (init : PageInitializer) : Turn N V :=
  let fail (code : BufferErrorCode) (message : String) : Turn N V :=
    newPageFailed pool file (makeError code .newPage ⟨file, invalidPageNo⟩ message)
  if pool.quiescing then fail .bufferPoolQuiescing "BufferPool is quiescing"
  else match pool.files.lookup file with
    | none => fail .fileOrPageNotFound "FileId is not registered with this BufferPool"
    | some entry =>
      if entry.state ≠ .active then fail .fileRetiredOrClosing "file is retiring"
      else if entry.newPageInProgress then ⟨pool, .newPageTurn file init, .wait, false⟩
      else ⟨pool.setFile file { entry with newPageInProgress := true },
        .acquireFrame (.newPage file init) false, .hold, false⟩

def newPageReserved (file : FileId) (init : PageInitializer) (f : Fin N)
    (pageNo : DiskResult PageNo) : Turn N V :=
  match pageNo with
  | .error error => finishFailed (pool.releaseFrameToFreeList f) file (makeError .rawIoFailure
      .newPage ⟨file, invalidPageNo⟩ "file extension failed" (some error))
  | .ok pageNo =>
    match pool.files.lookup file with
    | none => fault pool .danglingReference
    | some entry =>
      if pageNo = 0 ∨ pageNo ≠ entry.publishedPageCount then
        finishFailed (pool.releaseFrameToFreeList f) file (makeError .internalInvariantFailure
          .newPage ⟨file, pageNo⟩ "extension did not return the next page after the published bound")
      else
        let page : PageId := ⟨file, pageNo⟩
        let pool := bindFrame pool f page .none
        -- `emplace` keeps an entry that is already there.
        let pool := if page ∈ pool.pageTable then pool else pool.setEntry page ⟨.loading, f, none⟩
        ⟨pool, .newPageBuild page init f entry.validator, .unlock, false⟩

def newPageFinish (page : PageId) (f : Fin N) (built : Bool) (outcome : PageValidationOutcome) :
    Turn N V :=
  match pool.files.lookup page.fileId with
  | none => fault pool .danglingReference
  | some entry =>
    if built = false ∨ outcome ≠ .valid ∨ entry.state ≠ .active then
      finishFailed (((pool.eraseEntry page).resetFrame f).releaseFrameToFreeList f) page.fileId
        (if entry.state ≠ .active then
          makeError .fileRetiredOrClosing .newPage page "file began retiring during page creation"
        else makeError .internalInvariantFailure .newPage page
          "page initializer did not produce a valid page")
    else
      let frame := pool.frames f
      let entry := { entry with publishedPageCount := page.pageNo + 1 }
      let pool := (pool.setFrame f { frame with
        state := .resident, pinCount := 1, dirty := true,
        modificationGeneration := frame.modificationGeneration + 1 }).setReferenced f
      match pool.pageTable.lookup page with
      | none => fault (pool.setFile page.fileId entry) .outOfRange
      | some tableEntry =>
        ⟨(pool.setEntry page { tableEntry with state := .resident }).setFile page.fileId
            { entry with newPageInProgress := false },
          .makeGuard (.newPage page.fileId (.ok page.pageNo)) f .exclusive, .unlock, true⟩

end NewPage

section Flush

variable (pool : Pool N)

-- What the caller of `FlushPageLocked` does with its result.
def flushReturn (page : PageId) (status : BufferStatus) (caller : FlushCaller) : Turn N V :=
  match caller with
  | .flushPage => ⟨pool, .idle (.flushPage page status), .unlock, false⟩
  | .matching rest firstFailure caller =>
    ⟨pool, .flushMatching rest
      (match firstFailure with | .ok () => status | .error error => .error error) caller,
      .hold, false⟩

def flushPage (page : PageId) (caller : FlushCaller) : Turn N V :=
  match pool.pageTable.lookup page with
  | none => flushReturn pool page (.ok ()) caller
  | some entry =>
    match entry.state with
    | .loadIntent | .loading => flushReturn pool page (.ok ()) caller
    | .evicting => ⟨pool, .flushPage page caller, .wait, false⟩
    | .resident =>
      let f := entry.frameId
      let frame := pool.frames f
      if frame.dirty = false then flushReturn pool page (.ok ()) caller
      else if frame.ioState ≠ .none then ⟨pool, .flushPage page caller, .wait, false⟩
      else ⟨pool.setFrame f { frame with ioState := .writebackInProgress },
        .latchForCopy f frame.page.id frame.bindingEpoch caller, .unlock, false⟩

def finishWriteback (f : Fin N) (page : PageId) (bindingEpoch copiedGeneration : ℕ)
    (caller : FlushCaller) (written : BufferStatus) : Turn N V :=
  let frame := { pool.frames f with ioState := .none }
  let frame := match written with
    | .ok () =>
      if frame.page.id = page ∧ frame.bindingEpoch = bindingEpoch ∧
          frame.modificationGeneration = copiedGeneration then { frame with dirty := false }
      else frame
    | .error _ => frame
  let pool := pool.setFrame f frame
  match written with
  | .ok () => ⟨pool, .flushPage page caller, .hold, true⟩
  | .error error => { (flushReturn pool page (.error error) caller : Turn N V) with notifyAll := true }

def flushMatching (rest : List PageId) (firstFailure : BufferStatus) (caller : MatchingCaller) :
    Turn N V :=
  match rest with
  | page :: rest => ⟨pool, .flushPage page (.matching rest firstFailure caller), .hold, false⟩
  | [] =>
    match caller, firstFailure with
    | .flushFile file, status => ⟨pool, .idle (.flushFile file status), .unlock, false⟩
    | .flushAll, status => ⟨pool, .idle (.flushAll status), .unlock, false⟩
    | .shutdown, status => ⟨pool, .idle (.shutdown status), .unlock, false⟩
    | .retireFile file, .error error => ⟨pool, .idle (.retireFile file (.error error)), .unlock, false⟩
    | .retireFile file, .ok () => ⟨pool, .retireReset file, .hold, false⟩

def flushFile (file : FileId) : Turn N V :=
  if file ∈ pool.files then startMatching pool (.flushFile file)
  else ⟨pool, .idle (.flushFile file (.error (makeError .fileOrPageNotFound .flushPage
    ⟨file, invalidPageNo⟩ "FileId is not registered with this BufferPool"))), .unlock, false⟩

def poolDrained : Bool :=
  ((List.finRange N).all fun f =>
    (pool.frames f).pinCount == 0 && (pool.frames f).ioState == .none) &&
  (pool.pageTable.entries.all fun item => item.2.state == .resident) &&
  (pool.files.entries.all fun item => !item.2.newPageInProgress)

def shutdownDrain : Turn N V :=
  if poolDrained pool then startMatching pool .shutdown
  else ⟨pool, .shutdownDrain, .wait, false⟩

end Flush

section Guards

variable (pool : Pool N)

def unpin (f : Fin N) (assignment : Option (GuardVar V × GuardVar V)) : Turn N V :=
  let pc : Pc N V := match assignment with
    | none => .idle .guardReleased
    | some (destination, source) => .takeFrom destination source
  let frame := pool.frames f
  if frame.pinCount = 0 then ⟨pool, pc, .unlock, false⟩
  else ⟨pool.setFrame f { frame with pinCount := frame.pinCount - 1 }, pc, .unlock,
    frame.pinCount - 1 == 0⟩

def publishMutation (f : Fin N) : Pool N :=
  let frame := pool.frames f
  pool.setFrame f { frame with
    modificationGeneration := frame.modificationGeneration + 1, dirty := true }

end Guards

-- The critical section that a thread enters next, if it is about to enter one.
def criticalSection [NeZero N] (opts : BufferPoolOptions) (pool : Pool N) :
    Pc N V → Option (Turn N V)
  | .registerFile file validator count => some <| registerFile pool file validator count
  | .retireFile file disposition => some <| retireFile pool file disposition
  | .retireDrain file disposition => some <| retireDrain pool file disposition
  | .retireReset file => some <| retireReset pool file
  | .pinPage page mode hitNotified => some <| pinPage opts pool page mode hitNotified
  | .joinLoad page mode load => some <| joinLoad pool page mode load
  | .acquireFrame requester candidateNotified =>
    some <| acquireFrame opts pool requester candidateNotified
  | .candidateObserved requester f victim => some <| candidateObserved pool requester f victim
  | .victimReserved requester f victim => some <| victimReserved pool requester f victim
  | .frameAcquired requester f => some <| frameAcquired pool requester f
  | .requestFailed requester error => some <| requestFailed pool requester error
  | .finishLoad page mode load f read outcome => some <| finishLoad pool page mode load f read outcome
  | .newPageTurn file init => some <| newPageTurn pool file init
  | .newPageReserved file init f pageNo => some <| newPageReserved pool file init f pageNo
  | .newPageFinish page f built outcome => some <| newPageFinish pool page f built outcome
  | .flushPageCall page => some ⟨pool, .flushPage page .flushPage, .hold, false⟩
  | .flushFileCall file => some <| flushFile pool file
  | .flushAllCall => some <| startMatching pool .flushAll
  | .shutdownCall => some ⟨{ pool with quiescing := true }, .shutdownDrain, .hold, true⟩
  | .shutdownDrain => some <| shutdownDrain pool
  | .flushMatching rest firstFailure caller => some <| flushMatching pool rest firstFailure caller
  | .flushPage page caller => some <| flushPage pool page caller
  | .finishWrite (.evict requester f victim) written =>
    some <| finishEviction pool requester f victim written
  | .finishWrite (.flush f page bindingEpoch copiedGeneration caller) written =>
    some <| finishWriteback pool f page bindingEpoch copiedGeneration caller written
  | .unpin f assignment => some <| unpin pool f assignment
  | _ => none

end DBlusBlus.BufferPool
