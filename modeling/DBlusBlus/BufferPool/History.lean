import DBlusBlus.BufferPool.Transfers
import DBlusBlus.BufferPool.Creation

/-! A record of the images that writers publish and of those that become stable on disk. -/

namespace DBlusBlus.BufferPool

open Accounting Transition

variable {N : ℕ} {T V : Type} [DecidableEq V] {page : PageId} {f : Fin N}

/-- One published image: the page, the residency that held it, and its generation. -/
structure ImageName (N : ℕ) where
  page : PageId
  frame : Fin N
  bindingEpoch : ℕ
  generation : ℕ
deriving DecidableEq

def BufferFrame.imageName (frame : BufferFrame) (f : Fin N) : ImageName N :=
  ⟨frame.page.id, f, frame.bindingEpoch, frame.modificationGeneration⟩

/-- The image that a writer has copied. A victim is not modified while it is written. -/
def Writer.imageName (pool : Pool N) : Writer N → ImageName N
  | .evict _ f victim =>
    ⟨victim, f, (pool.frames f).bindingEpoch, (pool.frames f).modificationGeneration⟩
  | .flush f page bindingEpoch copiedGeneration _ => ⟨page, f, bindingEpoch, copiedGeneration⟩

/-- `published` holds the bytes of a frame at its last `MarkDirty`, `NewPage` publication or load,
and `unmarked` tells that a writer has changed them since. `stable` holds the image of a page that
was last read, or written and synchronized, and `left` what its last writer left. -/
structure History (N : ℕ) where
  published : Fin N → PageBytes
  unmarked : Fin N → Bool
  stable : PageId → PageBytes
  left : PageId → PageBytes
  mutations : List (ImageName N)
  synced : List (ImageName N)

/-- The bytes of a frame become those that fetches may see. -/
def BufferFrame.Publishes (frame frame' : BufferFrame) : Prop :=
  frame'.modificationGeneration ≠ frame.modificationGeneration ∨
    (frame.state = .loading ∧ frame'.state = .resident)

instance (frame frame' : BufferFrame) : Decidable (frame.Publishes frame') :=
  inferInstanceAs (Decidable (_ ∨ _))

namespace History

def initial (disk : Disk) : History N where
  published _ := PageBytes.zero
  unmarked _ := false
  stable := disk.bytes
  left := disk.bytes
  mutations := []
  synced := []

def recordUnmarked (unmarked : Fin N → Bool) (w : World N T V) (a : T × Choice T V)
    (w' : World N T V) (f : Fin N) : Bool :=
  if (w.pool.frames f).Publishes (w'.pool.frames f) then false
  else match a.2 with
    | .guard (.mutate v _) => unmarked f ||
      (w.guards a.1 v).any fun g => g.frameId == f && g.mode == .exclusive
    | _ => unmarked f

def recordStable (stable : PageId → PageBytes) (w : World N T V) (a : T × Choice T V) :
    PageId → PageBytes :=
  match a.2, w.pc a.1 with
  | .readPage (.ok ()) output, .readPage page _ _ _ _ => Function.update stable page output
  | .syncFile (.ok ()), .syncFile writer image => Function.update stable writer.pageId image
  | _, _ => stable

/-- What the guard that a step releases leaves, and what the initializer of a new page left. -/
def recordLeft (left : PageId → PageBytes) (w : World N T V) (a : T × Choice T V)
    (w' : World N T V) : PageId → PageBytes :=
  match a.2, w.pc a.1 with
  | .guard op, _ =>
    match op.releases.bind (w.guards a.1) with
    | some ⟨f, _, .exclusive⟩ =>
      Function.update left (w.pool.frames f).page.id (w.pool.frames f).page.bytes
    | _ => left
  | .run, .newPageFinish page f _ _ =>
    if (w'.pc a.1).created = some page then
      Function.update left page (w'.pool.frames f).page.bytes
    else left
  | _, _ => left

def recordSynced (synced : List (ImageName N)) (w : World N T V) (a : T × Choice T V) :
    List (ImageName N) :=
  match a.2, w.pc a.1 with
  | .syncFile (.ok ()), .syncFile writer _ => writer.imageName w.pool :: synced
  | _, _ => synced

def record (history : History N) (w : World N T V) (a : T × Choice T V) (w' : World N T V) :
    History N where
  published f :=
    if (w.pool.frames f).Publishes (w'.pool.frames f) then (w'.pool.frames f).page.bytes
    else history.published f
  unmarked := recordUnmarked history.unmarked w a w'
  stable := recordStable history.stable w a
  left := recordLeft history.left w a w'
  mutations := ((List.finRange N).filter fun f => (w'.pool.frames f).modificationGeneration ≠
    (w.pool.frames f).modificationGeneration).map (fun f => (w'.pool.frames f).imageName f) ++
      history.mutations
  synced := recordSynced history.synced w a

end History

def historySystem [NeZero N] [DecidableEq T] (opts : BufferPoolOptions) :
    System (World N T V × History N) (T × Choice T V) :=
  (poolSystem opts).track (fun w => History.initial w.disk) History.record

lemma historyRun_initial [NeZero N] [DecidableEq T] {opts : BufferPoolOptions}
    {ok : World N T V × History N → T × Choice T V → Prop} (disk : Disk) :
    Run (historySystem opts) ok (World.initial disk, .initial disk) :=
  .start ⟨⟨disk, rfl⟩, rfl⟩

section Conditions

/-- Writers call `MarkDirty` after their last change and before they give up their guard. -/
def MarksDirty (x : World N T V × History N) (a : T × Choice T V) : Prop :=
  match a.2 with
  | .guard op => ∀ g ∈ op.releases.bind (x.1.guards a.1), g.mode = .exclusive →
    x.2.unmarked g.frameId = false
  | _ => True

/-- A successful `ReadPage` returns the bytes of the page on disk. -/
def HonestRead (w : World N T V) (a : T × Choice T V) : Prop :=
  match a.2, w.pc a.1 with
  | .readPage (.ok ()) output, .readPage page _ _ _ _ => output = w.disk.bytes page
  | _, _ => True

/-- No file is retired with `DISCARD_DIRTY`. -/
def NoDiscard (a : T × Choice T V) : Prop :=
  match a.2 with
  | .call (.retireFile _ .discardDirty) => False
  | _ => True

instance (x : World N T V × History N) (a : T × Choice T V) : Decidable (MarksDirty x a) :=
  decidable_of_bool
    (match a.2 with
    | .guard op => decide (∀ g ∈ op.releases.bind (x.1.guards a.1), g.mode = .exclusive →
      x.2.unmarked g.frameId = false)
    | _ => true)
    (by unfold MarksDirty; split <;> simp [*])

instance (w : World N T V) (a : T × Choice T V) : Decidable (HonestRead w a) :=
  decidable_of_bool
    (match a.2, w.pc a.1 with
    | .readPage (.ok ()) output, .readPage page _ _ _ _ => decide (output = w.disk.bytes page)
    | _, _ => true)
    (by unfold HonestRead; split <;> simp [*])

instance (a : T × Choice T V) : Decidable (NoDiscard a) :=
  decidable_of_bool
    (match a.2 with
    | .call (.retireFile _ .discardDirty) => false
    | _ => true)
    (by unfold NoDiscard; split <;> simp [*])

end Conditions

end DBlusBlus.BufferPool
