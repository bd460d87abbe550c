import DBlusBlus.BufferPool.Invariant

/-! Every frame has exactly one owner: the free list, an in-flight call, or a page table entry. -/

namespace DBlusBlus.BufferPool

open Accounting Transition

variable {N : ℕ} {T V : Type}

/-- The pairs that the source documents as legal. -/
def FrameState.legal : FrameState → FrameIoState → Bool
  | .free, .none | .loading, .readInProgress | .loading, .none
  | .resident, .none | .resident, .writebackInProgress
  | .evicting, .none | .evicting, .writebackInProgress => true
  | _, _ => false

/-- The `FREE` frame that an in-flight `LoadPage` or `NewPage` has to itself. -/
def Pc.privateFrame : Pc N V → Option (Fin N)
  | .frameAcquired _ f | .newPageCount _ _ f _ | .newPageExtend _ _ f | .newPageReserved _ _ f _ =>
    some f
  | _ => none

def ExactlyOne (a b c : Prop) : Prop := (a ∧ ¬ b ∧ ¬ c) ∨ (¬ a ∧ b ∧ ¬ c) ∨ (¬ a ∧ ¬ b ∧ c)

namespace World

variable (w : World N T V) (f : Fin N)

def OnFreeList : Prop := (w.pool.frames f).state = .free ∧ w.pool.freeList.count f = 1

def HeldInPrivate : Prop :=
  (w.pool.frames f).state = .free ∧ f ∉ w.pool.freeList ∧ ∃! t, (w.pc t).privateFrame = some f

def BoundByEntry : Prop :=
  ∃ entry, w.pool.pageTable.lookup (w.pool.frames f).page.id = some entry ∧
    entry.state ≠ .loadIntent ∧ entry.state.frameState = (w.pool.frames f).state ∧
    entry.frameId = f ∧
    ∀ page other, w.pool.pageTable.lookup page = some other → other.state ≠ .loadIntent →
      other.frameId = f → page = (w.pool.frames f).page.id

structure Ownership : Prop where
  frame : ∀ f, ExactlyOne (w.OnFreeList f) (w.HeldInPrivate f) (w.BoundByEntry f)
  distinct : ∀ page page' entry entry', w.pool.pageTable.lookup page = some entry →
    w.pool.pageTable.lookup page' = some entry' → entry.state ≠ .loadIntent →
    entry'.state ≠ .loadIntent → entry.frameId = entry'.frameId → page = page'
  intent : ∀ page entry, w.pool.pageTable.lookup page = some entry → entry.state = .loadIntent →
    ∀ f, (w.pool.frames f).state ≠ .free → (w.pool.frames f).page.id ≠ page
  legal : ∀ f, (w.pool.frames f).state.legal (w.pool.frames f).ioState = true
  pinned : ∀ f, 0 < (w.pool.frames f).pinCount → (w.pool.frames f).state = .resident
  dirty : ∀ f, (w.pool.frames f).dirty = true →
    (w.pool.frames f).state = .resident ∨ (w.pool.frames f).state = .evicting

end World

lemma Requester.frame_notMem (requester : Requester) (f : Fin N) (role : FrameRole) :
    Resource.frame f role ∉ (requester.resources : List (Resource N)) := by
  cases requester <;> simp [Requester.resources]

lemma Writer.unbound_notMem (writer : Writer N) (f : Fin N) :
    Resource.frame f .unbound ∉ writer.resources := by
  cases writer <;> simp [Writer.resources, Requester.frame_notMem]

lemma LoadOperation.unbound_notMem (operation : LoadOperation N) (load : LoadId) (f : Fin N) :
    Resource.frame f .unbound ∉ operation.joiner load := by
  rw [joiner]
  split
  · split <;> simp
  · simp

lemma Pc.unbound_mem {pc : Pc N V} {loads : LoadId → LoadOperation N} {f : Fin N} :
    Resource.frame f .unbound ∈ pc.resources loads ↔ pc.privateFrame = some f := by
  cases pc <;>
    simp [Pc.resources, Pc.privateFrame, Requester.frame_notMem, Writer.unbound_notMem,
      LoadOperation.unbound_notMem, eq_comm]

variable [NeZero N] [DecidableEq T] [DecidableEq V] [Fintype T] [Fintype V]
  {opts : BufferPoolOptions} {w : World N T V} {f : Fin N}

namespace World.Inv

lemma heldInPrivate (h : w.Inv opts) (hs : (w.pool.frames f).state = .free)
    (hf : f ∉ w.pool.freeList) : w.HeldInPrivate f := by
  have hd := demand_unbound.mpr ⟨hs, hf⟩
  have hone : w.pool.demand (.frame f .unbound) ≤ 1 := unit_le_one
  obtain ⟨t | ⟨t, v⟩, hx⟩ := Balanced.holder h.accounted hd
  · refine ⟨hs, hf, t, Pc.unbound_mem.mp hx, fun u hu => ?_⟩
    have hm : Resource.frame f .unbound ∈ w.holding (.inl u) := Pc.unbound_mem.mpr hu
    exact Sum.inl.inj (Balanced.unique h.accounted hone hm hx)
  · exfalso
    revert hx
    rw [World.holding]
    cases w.guards t v with
    | none => simp [guardResources]
    | some g => cases hg : g.mode <;> simp [guardResources, LatchMode.role, hg]

omit [DecidableEq T] [DecidableEq V] in
lemma boundByEntry (h : w.Inv opts) (hs : (w.pool.frames f).state ≠ .free) :
    w.BoundByEntry f := by
  obtain ⟨entry, he, hi, hn⟩ := h.wellFormed.bindings.names hs
  have hb := (h.wellFormed.bindings.bound he hi).2
  refine ⟨entry, he, hi, hn ▸ hb.symm, hn, fun page other ho hoi hof => ?_⟩
  rw [← (h.wellFormed.bindings.bound ho hoi).1, hof]

lemma exactlyOne (h : w.Inv opts) (f : Fin N) :
    ExactlyOne (w.OnFreeList f) (w.HeldInPrivate f) (w.BoundByEntry f) := by
  by_cases hs : (w.pool.frames f).state = .free
  · have hb : ¬ w.BoundByEntry f := by
      rintro ⟨entry, -, hi, he, -⟩
      rw [hs] at he
      cases hst : entry.state <;> simp_all [PageTableEntryState.frameState]
    by_cases hf : f ∈ w.pool.freeList
    · exact .inl ⟨⟨hs, List.count_eq_one_of_mem h.wellFormed.nodup hf⟩, fun hp => hp.2.1 hf, hb⟩
    · exact .inr (.inl ⟨fun ho => hf (List.count_pos_iff.mp (by rw [ho.2]; exact Nat.one_pos)),
        h.heldInPrivate hs hf, hb⟩)
  · exact .inr (.inr ⟨fun ho => hs ho.1, fun hp => hs hp.1, h.boundByEntry hs⟩)

omit [DecidableEq T] [DecidableEq V] in
lemma legal (h : w.Inv opts) (f : Fin N) :
    (w.pool.frames f).state.legal (w.pool.frames f).ioState = true := by
  have writeback (hw : (w.pool.frames f).WritebackOk) : (w.pool.frames f).ioState = .none ∨
      (w.pool.frames f).ioState = .writebackInProgress := hw.imp_right And.left
  cases hs : (w.pool.frames f).state with
  | free =>
    rw [(h.wellFormed.free hs).2.1]
    rfl
  | loading =>
    obtain ⟨-, -, load, -, hio⟩ := h.wellFormed.loading hs
    rw [hio]
    cases load <;> rfl
  | resident => rcases writeback (h.wellFormed.resident hs).2.2 with hio | hio <;> rw [hio] <;> rfl
  | evicting => rcases writeback (h.wellFormed.evicting hs).2.2 with hio | hio <;> rw [hio] <;> rfl

end World.Inv

theorem frame_ownership (h : Run (poolSystem opts) OneLifecycle w) : w.Ownership := by
  have hi := inv_of_run (closesAlone_of_oneLifecycle h).1
  refine ⟨hi.exactlyOne, fun page page' entry entry' he he' hs hs' hf => ?_,
    fun page entry he hs f hf hid => ?_, hi.legal, fun f => hi.wellFormed.resident_of_pinned,
    fun f hd => ?_⟩
  · rw [← (hi.wellFormed.bindings.bound he hs).1, ← (hi.wellFormed.bindings.bound he' hs').1, hf]
  · obtain ⟨other, ho, hn, -⟩ := hi.wellFormed.bindings.names hf
    rw [hid, he] at ho
    exact hn (Option.some.inj ho ▸ hs)
  · cases hs : (w.pool.frames f).state with
    | free => simp [(hi.wellFormed.free hs).2.2.2] at hd
    | loading => simp [(hi.wellFormed.loading hs).2.1] at hd
    | resident => exact .inl rfl
    | evicting => exact .inr rfl

section Sample

instance sampleOneFrame : NeZero 1 := ⟨one_ne_zero⟩

instance sampleTwoFrames : NeZero 2 := ⟨two_ne_zero⟩

def sampleOptions : BufferPoolOptions := ⟨4, false⟩

def sampleFile : FileId := ⟨1⟩

def sampleDisk : Disk := ⟨fun _ => PageBytes.zero, fun _ => 1⟩

/-- Writes a page number below 256 into the header. -/
def sampleInitializer : PageInitializer :=
  some fun page => (true, fun i => if i.val = 24 then page.id.pageNo.toUInt8 else 0)

def sampleRegister (t : T) (count : PageNo) : List (T × Choice T V) :=
  [(t, .call (.registerFile sampleFile fun _ => .valid)), (t, .pageCount (.ok count)), (t, .run)]

/-- `NewPage` up to the point at which it asks for the physical page count. -/
def sampleNewPageStart (t : T) (init : PageInitializer) : List (T × Choice T V) :=
  [(t, .call (.newPage sampleFile init)), (t, .run), (t, .run), (t, .run)]

/-- A whole `NewPage` that extends the file, up to the guard in the temporary. -/
def sampleNewPage (t : T) (pageNo : PageNo) : List (T × Choice T V) :=
  sampleNewPageStart t sampleInitializer ++
    [(t, .pageCount (.ok pageNo)), (t, .extendFile (.ok pageNo)), (t, .run), (t, .run), (t, .run),
      (t, .run)]

def sampleRelease (t : T) : List (T × Choice T V) := [(t, .guard (.release none)), (t, .run)]

/-- The writeback of one dirty page, from the reserved frame to the check that follows it. -/
def sampleWriteback (t : T) : List (T × Choice T V) :=
  [(t, .run), (t, .run), (t, .writePage (.ok ()) PageBytes.zero), (t, .syncFile (.ok ())), (t, .run),
    (t, .run)]

def samplePrivate : List (Bool × Choice Bool Unit) :=
  sampleRegister false 1 ++ sampleNewPageStart false sampleInitializer

lemma samplePrivate_runs : (execute (poolSystem sampleOptions) OneLifecycle
    (World.initial sampleDisk : World 1 Bool Unit) samplePrivate).isSome := by decide +kernel

def samplePrivateWorld : World 1 Bool Unit := Option.get _ samplePrivate_runs

lemma samplePrivate_run : Run (poolSystem sampleOptions) OneLifecycle samplePrivateWorld :=
  (run_initial sampleDisk).of_execute samplePrivate_runs

theorem frame_ownership_private : samplePrivateWorld.HeldInPrivate 0 ∧
    samplePrivateWorld.Ownership :=
  ⟨(inv_of_run (closesAlone_of_oneLifecycle samplePrivate_run).1).heldInPrivate
    (by decide +kernel) (by decide +kernel), frame_ownership samplePrivate_run⟩


lemma sampleGuard_runs : (execute (poolSystem sampleOptions) OneLifecycle
    (World.initial sampleDisk : World 1 Bool Unit)
    (sampleRegister false 1 ++ sampleNewPage false 1)).isSome := by decide +kernel

def sampleGuardWorld : World 1 Bool Unit := Option.get _ sampleGuard_runs

lemma sampleGuard_run : Run (poolSystem sampleOptions) OneLifecycle sampleGuardWorld :=
  (run_initial sampleDisk).of_execute sampleGuard_runs

end Sample

end DBlusBlus.BufferPool
