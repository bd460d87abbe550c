import DBlusBlus.BufferPool.State

/-! Where a thread stands inside a pool operation. One constructor for every place at which the
source takes the pool mutex, keeps it across a loop, or works without it. -/

namespace DBlusBlus.BufferPool

inductive LatchMode
  | shared | exclusive
deriving DecidableEq

-- `out_of_range` is thrown by an `at` on a missing key; a dangling reference has no defined effect.
inductive Fault
  | outOfRange | danglingReference
deriving DecidableEq

inductive Outcome
  | started
  | registerFile (file : FileId) (status : BufferStatus)
  | retireFile (file : FileId) (status : BufferStatus)
  | fetch (page : PageId) (mode : LatchMode) (result : BufferStatus)
  | newPage (file : FileId) (result : BufferResult PageNo)
  | flushPage (page : PageId) (status : BufferStatus)
  | flushFile (file : FileId) (status : BufferStatus)
  | flushAll (status : BufferStatus)
  | shutdown (status : BufferStatus)
  | guardReleased
  | fault (fault : Fault)
deriving DecidableEq

inductive Call
  | registerFile (file : FileId) (validator : PageValidator)
  | retireFile (file : FileId) (disposition : RetireDisposition)
  | fetch (page : PageId) (mode : LatchMode)
  | newPage (file : FileId) (init : PageInitializer)
  | flushPage (page : PageId)
  | flushFile (file : FileId)
  | flushAll
  | shutdown

-- Who asked `AcquireFrame` for a frame.
inductive Requester
  | fetch (page : PageId) (mode : LatchMode) (load : LoadId)
  | newPage (file : FileId) (init : PageInitializer)

def Requester.operation : Requester → BufferOperation
  | .fetch _ _ _ => .fetchPage
  | .newPage _ _ => .newPage

def Requester.pageId : Requester → PageId
  | .fetch page _ _ => page
  | .newPage file _ => ⟨file, invalidPageNo⟩

-- The caller of `FlushMatching`.
inductive MatchingCaller
  | flushFile (file : FileId)
  | flushAll
  | shutdown
  | retireFile (file : FileId)
deriving DecidableEq

def MatchingCaller.scope : MatchingCaller → Option FileId
  | .flushFile file | .retireFile file => some file
  | .flushAll | .shutdown => none

def MatchingCaller.operation : MatchingCaller → BufferOperation
  | .flushFile _ | .flushAll => .flushPage
  | .shutdown => .shutdown
  | .retireFile _ => .retireFile

-- The caller of `FlushPageLocked`; the loop of `FlushMatching` keeps its other pages and first failure.
inductive FlushCaller
  | flushPage
  | matching (rest : List PageId) (firstFailure : BufferStatus) (caller : MatchingCaller)
deriving DecidableEq

def FlushCaller.operation : FlushCaller → BufferOperation
  | .flushPage => .flushPage
  | .matching _ _ caller => caller.operation

variable {N : ℕ}

-- The two users of `WriteStableImage`.
inductive Writer (N : ℕ)
  | evict (requester : Requester) (frame : Fin N) (victim : PageId)
  | flush (frame : Fin N) (page : PageId) (bindingEpoch copiedGeneration : ℕ) (caller : FlushCaller)

def Writer.pageId : Writer N → PageId
  | .evict _ _ victim => victim
  | .flush _ page _ _ _ => page

def Writer.operation : Writer N → BufferOperation
  | .evict requester _ _ => requester.operation
  | .flush _ _ _ _ caller => caller.operation

-- A guard variable of a thread; `none` is the temporary that a call returns its guard in.
abbrev GuardVar (V : Type) := Option V

inductive Pc (N : ℕ) (V : Type)
  | idle (last : Outcome)
  | registerPageCount (file : FileId) (validator : PageValidator)
  | registerFile (file : FileId) (validator : PageValidator) (count : PageNo)
  | retireFile (file : FileId) (disposition : RetireDisposition)
  | retireDrain (file : FileId) (disposition : RetireDisposition)
  | retireReset (file : FileId)
  | pinPage (page : PageId) (mode : LatchMode) (hitNotified : Bool)
  | joinLoad (page : PageId) (mode : LatchMode) (load : LoadId)
  | acquireFrame (requester : Requester) (candidateNotified : Bool)
  | candidateObserved (requester : Requester) (frame : Fin N) (victim : PageId)
  | victimReserved (requester : Requester) (frame : Fin N) (victim : PageId)
  | frameAcquired (requester : Requester) (frame : Fin N)
  | requestFailed (requester : Requester) (error : BufferError)
  | readPage (page : PageId) (mode : LatchMode) (load : LoadId) (frame : Fin N)
      (validator : PageValidator)
  | finishLoad (page : PageId) (mode : LatchMode) (load : LoadId) (frame : Fin N)
      (read : DiskStatus) (outcome : PageValidationOutcome)
  | newPageTurn (file : FileId) (init : PageInitializer)
  | newPageCount (file : FileId) (init : PageInitializer) (frame : Fin N) (published : PageNo)
  | newPageExtend (file : FileId) (init : PageInitializer) (frame : Fin N)
  | newPageReserved (file : FileId) (init : PageInitializer) (frame : Fin N)
      (pageNo : DiskResult PageNo)
  | newPageBuild (page : PageId) (init : PageInitializer) (frame : Fin N)
      (validator : PageValidator)
  | newPageFinish (page : PageId) (frame : Fin N) (built : Bool) (outcome : PageValidationOutcome)
  | makeGuard (result : Outcome) (frame : Fin N) (mode : LatchMode)
  | flushPageCall (page : PageId)
  | flushFileCall (file : FileId)
  | flushAllCall
  | shutdownCall
  | shutdownDrain
  | flushMatching (rest : List PageId) (firstFailure : BufferStatus) (caller : MatchingCaller)
  | flushPage (page : PageId) (caller : FlushCaller)
  | latchForCopy (frame : Fin N) (page : PageId) (bindingEpoch : ℕ) (caller : FlushCaller)
  | copyImage (frame : Fin N) (page : PageId) (bindingEpoch : ℕ) (caller : FlushCaller)
  | writePage (writer : Writer N) (image : PageBytes)
  | syncFile (writer : Writer N) (image : PageBytes)
  | finishWrite (writer : Writer N) (written : BufferStatus)
  | unpin (frame : Fin N) (assignment : Option (GuardVar V × GuardVar V))
  | takeFrom (destination source : GuardVar V)

end DBlusBlus.BufferPool
