import DBlusBlus.Library.Transition
import DBlusBlus.BufferPool.Sections

/-! Threads over one pool: who holds the mutex, who sleeps on the condition variable, the guards,
the page latches and the raw I/O calls. -/

namespace DBlusBlus.BufferPool

structure PageGuard (N : ℕ) where
  frameId : Fin N
  bindingEpoch : ℕ
  mode : LatchMode
deriving DecidableEq

-- The page files behind `PageIo`, as later calls see them.
structure Disk where
  bytes : PageId → PageBytes
  pageCount : FileId → PageNo

inductive GuardOp (T V : Type)
  | mutate (source : GuardVar V) (bytes : PageBytes)
  | markDirty (source : GuardVar V)
  | release (source : GuardVar V)
  | moveConstruct (destination source : GuardVar V)
  | moveAssign (destination source : GuardVar V)
  -- A move into a variable of another thread, at a moment at which both threads run user code.
  | pass (receiver : T) (destination source : GuardVar V)

-- What decides a step: nothing, a new call, the result of a `PageIo` call, or a spurious wakeup.
inductive Choice (T V : Type)
  | run
  | call (call : Call)
  | guard (op : GuardOp T V)
  | pageCount (result : DiskResult PageNo)
  | extendFile (result : DiskResult PageNo)
  | readPage (result : DiskStatus) (output : PageBytes)
  | writePage (result : DiskStatus) (torn : PageBytes)
  | syncFile (result : DiskStatus)
  | wake

structure World (N : ℕ) (T V : Type) where
  pool : Pool N
  mutex : Option T
  asleep : T → Bool
  pc : T → Pc N V
  guards : T → GuardVar V → Option (PageGuard N)
  disk : Disk

variable {N : ℕ} {T V : Type} [DecidableEq T] [DecidableEq V]

def Pc.isIdle : Pc N V → Bool
  | .idle _ => true
  | _ => false

omit [DecidableEq V] in
lemma Pc.exists_idle {pc : Pc N V} (h : pc.isIdle = true) : ∃ last, pc = .idle last := by
  cases pc
  case idle last => exact ⟨last, rfl⟩
  all_goals cases h

namespace World

variable (w : World N T V)

def setPc (t : T) (pc : Pc N V) : World N T V :=
  { w with pc := Function.update w.pc t pc }

def setGuard (t : T) (v : GuardVar V) (g : Option (PageGuard N)) : World N T V :=
  { w with guards := Function.update w.guards t (Function.update (w.guards t) v g) }

def setFrame (f : Fin N) (frame : BufferFrame) : World N T V :=
  { w with pool := w.pool.setFrame f frame }

-- The end of a critical section: wakeups first, then what becomes of the mutex.
def finish (opts : BufferPoolOptions) (t : T) (turn : Turn N V) : World N T V :=
  let asleep := if turn.notifyAll then fun _ => false else w.asleep
  { w with
    pool := turn.pool
    pc := Function.update w.pc t turn.pc
    asleep := if turn.lock = .wait then Function.update asleep t true else asleep
    mutex := match turn.lock with
      | .unlock | .wait => none
      | .hold => some t
      | .notify => if opts.observer then none else some t }

def canLock (t : T) : Prop := w.asleep t = false ∧ (w.mutex = none ∨ w.mutex = some t)

instance (t : T) : Decidable (w.canLock t) := inferInstanceAs (Decidable (_ ∧ _))

def latchFrame (f : Fin N) (latch : Latch) : World N T V :=
  w.setFrame f { w.pool.frames f with latch := latch }

end World

def Latch.canAcquire (latch : Latch) : LatchMode → Bool
  | .shared => !latch.exclusive
  | .exclusive => !latch.exclusive && latch.shared == 0

def Latch.acquire (latch : Latch) : LatchMode → Latch
  | .shared => { latch with shared := latch.shared + 1 }
  | .exclusive => { latch with exclusive := true }

def Latch.release (latch : Latch) : LatchMode → Latch
  | .shared => { latch with shared := latch.shared - 1 }
  | .exclusive => { latch with exclusive := false }

section Steps

variable (opts : BufferPoolOptions) (w : World N T V) (t : T)

def startCall : Call → Pc N V
  | .registerFile file validator =>
    if file = invalidFileId then
      .idle (.registerFile file (.error (makeError .fileOrPageNotFound .registerFile
        ⟨file, invalidPageNo⟩ "invalid FileId")))
    else .registerPageCount file validator
  | .retireFile file disposition => .retireFile file disposition
  | .fetch page mode => .pinPage page mode false
  | .newPage file init => .newPageTurn file init
  | .flushPage page => .flushPageCall page
  | .flushFile file => .flushFileCall file
  | .flushAll => .flushAllCall
  | .shutdown => .shutdownCall

-- A call needs a free place for the guard that it may return.
def callStep (call : Call) : Option (World N T V) :=
  if (w.pc t).isIdle ∧ w.guards t none = none then some (w.setPc t (startCall call)) else none

def releaseGuard (v : GuardVar V) (g : PageGuard N)
    (assignment : Option (GuardVar V × GuardVar V)) : World N T V :=
  ((w.setGuard t v none).latchFrame g.frameId
    ((w.pool.frames g.frameId).latch.release g.mode)).setPc t (.unpin g.frameId assignment)

omit [DecidableEq V] in
@[simp] lemma World.setPc_pc (pc : Pc N V) : (w.setPc t pc).pc t = pc := Function.update_self ..

omit [DecidableEq V] in
@[simp] lemma World.finish_pc (turn : Turn N V) : (w.finish opts t turn).pc t = turn.pc :=
  Function.update_self ..

omit [DecidableEq T] [DecidableEq V] in
lemma World.latchFrame_page (f : Fin N) (latch : Latch) (g : Fin N) :
    ((w.latchFrame f latch).pool.frames g).page = (w.pool.frames g).page := by
  by_cases hg : g = f
  · subst hg
    simp [World.latchFrame, World.setFrame]
  · simp [World.latchFrame, World.setFrame, hg]

lemma publishMutation_page (pool : Pool N) (f g : Fin N) :
    ((publishMutation pool f).frames g).page = (pool.frames g).page := by
  by_cases hg : g = f
  · subst hg
    simp [publishMutation]
  · simp [publishMutation, hg]

omit [DecidableEq V] in
lemma World.finish_pc_of_ne {opts : BufferPoolOptions} {w : World N T V} {t u : T} (hu : u ≠ t)
    (turn : Turn N V) : (w.finish opts t turn).pc u = w.pc u :=
  Function.update_of_ne hu ..

@[simp] lemma releaseGuard_pc (v : GuardVar V) (g : PageGuard N)
    (assignment : Option (GuardVar V × GuardVar V)) :
    (releaseGuard w t v g assignment).pc t = .unpin g.frameId assignment :=
  World.setPc_pc ..

def moveGuard (u : T) (destination source : GuardVar V) : World N T V :=
  (w.setGuard t source none).setGuard u destination (w.guards t source)

def guardStep (op : GuardOp T V) : Option (World N T V) :=
  if (w.pc t).isIdle then
    match op with
    | .mutate v bytes =>
      match w.guards t v with
      | some ⟨f, _, .exclusive⟩ =>
        some (w.setFrame f { w.pool.frames f with page := ⟨(w.pool.frames f).page.id, bytes⟩ })
      | _ => none
    | .markDirty v =>
      match w.guards t v with
      | some ⟨f, _, .exclusive⟩ =>
        if w.canLock t then some { w with pool := publishMutation w.pool f } else none
      | _ => none
    | .release v =>
      match w.guards t v with
      | some g => some (releaseGuard w t v g none)
      | none => some w
    | .moveConstruct destination source =>
      if w.guards t destination = none then some (moveGuard w t t destination source) else none
    | .moveAssign destination source =>
      if destination = source then some w
      else match w.guards t destination with
        | some g => some (releaseGuard w t destination g (some (destination, source)))
        | none => some (moveGuard w t t destination source)
    | .pass u destination source =>
      if u ≠ t ∧ (w.pc u).isIdle ∧ w.guards u destination = none then
        some (moveGuard w t u destination source)
      else none
  else none

-- The steps that a thread takes by itself: critical sections, latches, copies and construction.
def runStep [NeZero N] : Option (World N T V) :=
  match w.pc t with
  | .makeGuard result f mode =>
    let frame := w.pool.frames f
    if frame.latch.canAcquire mode then
      some (((w.latchFrame f (frame.latch.acquire mode)).setGuard t none
        (some ⟨f, frame.bindingEpoch, mode⟩)).setPc t (.idle result))
    else none
  | .latchForCopy f page bindingEpoch caller =>
    let frame := w.pool.frames f
    if frame.latch.canAcquire .shared then
      some ((w.latchFrame f (frame.latch.acquire .shared)).setPc t
        (.copyImage f page bindingEpoch caller))
    else none
  | .copyImage f page bindingEpoch caller =>
    let frame := w.pool.frames f
    some ((w.latchFrame f (frame.latch.release .shared)).setPc t
      (.writePage (.flush f page bindingEpoch frame.modificationGeneration caller)
        (finalizePageChecksum frame.page.bytes)))
  | .newPageBuild page init f validator =>
    let frame := w.pool.frames f
    match init with
    | none => some (w.setPc t (.newPageFinish page f false .corrupt))
    | some init =>
      let (built, bytes) := init frame.page
      let filled : Page := ⟨frame.page.id, bytes⟩
      let outcome := if built then validateLoadedPage filled validator false else .corrupt
      some ((w.setFrame f { frame with page := filled }).setPc t
        (.newPageFinish page f built outcome))
  | .takeFrom destination source =>
    some ((moveGuard w t t destination source).setPc t (.idle .guardReleased))
  | pc =>
    match criticalSection opts w.pool pc with
    | some turn => if w.canLock t then some (w.finish opts t turn) else none
    | none => none

def pageCountStep (result : DiskResult PageNo) : Option (World N T V) :=
  match w.pc t with
  | .registerPageCount file validator =>
    match result with
    | .ok count => some (w.setPc t (.registerFile file validator count))
    | .error error => some (w.setPc t (.idle (.registerFile file (.error (makeError
        (readErrorCode error) .registerFile ⟨file, invalidPageNo⟩
        "cannot determine the file's page count" (some error))))))
  | .newPageCount file init f published =>
    match result with
    | .error error => some (w.setPc t (.newPageReserved file init f (.error error)))
    | .ok physical =>
      if published < physical then
        some (w.setPc t (.newPageReserved file init f (.ok published)))
      else some (w.setPc t (.newPageExtend file init f))
  | _ => none

def extendFileStep (result : DiskResult PageNo) : Option (World N T V) :=
  match w.pc t with
  | .newPageExtend file init f =>
    let w := w.setPc t (.newPageReserved file init f result)
    match result with
    | .ok _ => some { w with disk := { w.disk with
        pageCount := Function.update w.disk.pageCount file (w.disk.pageCount file + 1) } }
    | .error _ => some w
  | _ => none

def readPageStep (result : DiskStatus) (output : PageBytes) : Option (World N T V) :=
  match w.pc t with
  | .readPage page mode load f validator =>
    let filled : Page := ⟨(w.pool.frames f).page.id, output⟩
    let outcome := match result with
      | .ok () => validateLoadedPage filled validator true
      | .error _ => .valid
    some ((w.setFrame f { w.pool.frames f with page := filled }).setPc t
      (.finishLoad page mode load f result outcome))
  | _ => none

-- A failed `WritePage` leaves arbitrary bytes on that page.
def writePageStep (result : DiskStatus) (torn : PageBytes) : Option (World N T V) :=
  match w.pc t with
  | .writePage writer image =>
    match result with
    | .ok () => some { w.setPc t (.syncFile writer image) with disk := { w.disk with
        bytes := Function.update w.disk.bytes writer.pageId image } }
    | .error error => some { w.setPc t (.finishWrite writer (.error (makeError .rawIoFailure
          writer.operation writer.pageId "page write failed" (some error)))) with
        disk := { w.disk with bytes := Function.update w.disk.bytes writer.pageId torn } }
  | _ => none

def syncFileStep (result : DiskStatus) : Option (World N T V) :=
  match w.pc t with
  | .syncFile writer _ =>
    match result with
    | .ok () => some (w.setPc t (.finishWrite writer (.ok ())))
    | .error error => some (w.setPc t (.finishWrite writer (.error (makeError .rawIoFailure
        writer.operation writer.pageId "page file synchronization failed" (some error)))))
  | _ => none

def step [NeZero N] : Choice T V → Option (World N T V)
  | .run => runStep opts w t
  | .call call => callStep w t call
  | .guard op => guardStep w t op
  | .pageCount result => pageCountStep w t result
  | .extendFile result => extendFileStep w t result
  | .readPage result output => readPageStep w t result output
  | .writePage result torn => writePageStep w t result torn
  | .syncFile result => syncFileStep w t result
  | .wake => some { w with asleep := Function.update w.asleep t false }

end Steps

def World.initial [NeZero N] (disk : Disk) : World N T V where
  pool := Pool.initial
  mutex := none
  asleep _ := false
  pc _ := .idle .started
  guards _ _ := none
  disk := disk

open Transition in
def poolSystem [NeZero N] (opts : BufferPoolOptions) : System (World N T V) (T × Choice T V) where
  initial w := ∃ disk, w = World.initial disk
  step w a := step opts w a.1 a.2

open Transition in
lemma run_initial [NeZero N] {opts : BufferPoolOptions}
    {ok : World N T V → T × Choice T V → Prop} (disk : Disk) :
    Run (poolSystem opts) ok (World.initial disk) :=
  .start ⟨disk, rfl⟩

end DBlusBlus.BufferPool
