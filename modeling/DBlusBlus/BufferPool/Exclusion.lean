import DBlusBlus.BufferPool.Lossless
import DBlusBlus.BufferPool.Ownership

/-! The bytes of a frame are never written by one party while another one reads or writes them, and
what a guard shows changes through that guard only. -/

namespace DBlusBlus.BufferPool

open Accounting Transition

variable {N : ℕ} {T V : Type}

inductive Access
  | read | write
  deriving DecidableEq

/-- The frame whose bytes a call reads or writes next. -/
def Pc.access : Pc N V → Option (Fin N × Access)
  | .readPage _ _ _ f _ | .newPageBuild _ _ f _ => some (f, .write)
  | .copyImage f _ _ _ | .victimReserved _ f _ => some (f, .read)
  | _ => none

def LatchMode.access : LatchMode → Access
  | .shared => .read
  | .exclusive => .write

/-- What each call, and each guard between the calls, may do to the bytes of a frame. -/
def World.access (w : World N T V) : Holder T V → Option (Fin N × Access)
  | .inl t => (w.pc t).access
  | .inr (t, v) => (w.guards t v).map fun g => (g.frameId, g.mode.access)

def mutatesThrough [DecidableEq T] [DecidableEq V] (t : T) (v : GuardVar V) (a : T × Choice T V) :
    Bool :=
  match a.2 with
  | .guard (.mutate x _) => decide (a.1 = t ∧ x = v)
  | _ => false

section Accesses

variable {pc : Pc N V} {f : Fin N}

lemma Pc.filling_of_write (h : pc.access = some (f, .write)) :
    ∃ page, pc.filling = some (page, f) := by
  cases pc <;> simp [access] at h
  case readPage => exact ⟨_, by rw [filling, h]⟩
  case newPageBuild => exact ⟨_, by rw [filling, h]⟩

lemma Pc.of_read (h : pc.access = some (f, .read)) :
    (∃ page bindingEpoch caller, pc = .copyImage f page bindingEpoch caller) ∨
      ∃ requester victim, pc = .victimReserved requester f victim := by
  cases pc <;> simp [access] at h
  case copyImage => exact .inl ⟨_, _, _, by rw [h]⟩
  case victimReserved => exact .inr ⟨_, _, by rw [h]⟩

end Accesses

namespace World.Inv

variable [DecidableEq T] [DecidableEq V] [NeZero N] [Fintype T] [Fintype V]
  {opts : BufferPoolOptions} {w w' : World N T V} {t u : T} {v x : GuardVar V} {f : Fin N}
  {g : PageGuard N} {choice : Choice T V}

lemma state_of_write (h : w.Inv opts) (ht : (w.pc t).access = some (f, .write)) :
    (w.pool.frames f).state = .loading := by
  obtain ⟨page, hf⟩ := Pc.filling_of_write ht
  exact (h.filling_loading hf).2

lemma copying (h : w.Inv opts) {page : PageId} {bindingEpoch : ℕ} {caller : FlushCaller}
    (ht : w.pc t = .copyImage f page bindingEpoch caller) :
    (w.pool.frames f).state = .resident ∧ (w.pool.frames f).ioState ≠ .none ∧
      (w.pool.frames f).latch.exclusive = false := by
  have hw : Resource.frame f (.writeback page bindingEpoch) ∈
      (w.pc t).resources w.pool.loads := by simp [ht, Pc.resources]
  have hs : Resource.frame f .shared ∈ (w.pc t).resources w.pool.loads := by
    simp [ht, Pc.resources]
  obtain ⟨hres, hio, -⟩ := demand_writeback.mp ((h.ready t).due _ hw)
  exact ⟨hres, hio, h.not_exclusive_of_shared hs⟩

lemma evicting (h : w.Inv opts) {requester : Requester} {victim : PageId}
    (ht : w.pc t = .victimReserved requester f victim) :
    (w.pool.frames f).state = .evicting := by
  have hv : Resource.frame f (.victim victim) ∈ (w.pc t).resources w.pool.loads := by
    simp [ht, Pc.resources]
  exact (demand_victim.mp ((h.ready t).due _ hv)).1

lemma guard_latched (h : w.Inv opts) (hg : w.guards t v = some g) :
    0 < w.pool.demand (.frame g.frameId g.mode.role) := by
  apply Balanced.pos h.accounted (x := .inr (t, v))
  simp [World.holding, hg, guardResources]

lemma guard_pinned (h : w.Inv opts) (hg : w.guards t v = some g) :
    0 < (w.pool.frames g.frameId).pinCount := by
  apply demand_pin.mp
  apply Balanced.pos h.accounted (x := .inr (t, v))
  simp [World.holding, hg, guardResources]

lemma guard_exclusive (h : w.Inv opts) (hg : w.guards t v = some g) (hm : g.mode = .exclusive) :
    (w.pool.frames g.frameId).latch.exclusive = true := by
  have hd := h.guard_latched hg
  rw [hm] at hd
  simpa [LatchMode.role, Pool.demand, BufferFrame.demand] using hd

/-- A guard that may write is the only guard of its frame. -/
lemma guard_alone {g' : PageGuard N} (h : w.Inv opts) (hg : w.guards t v = some g)
    (hm : g.mode = .exclusive) (hg' : w.guards u x = some g') (hf : g'.frameId = g.frameId) :
    (u, x) = (t, v) := by
  have hl := h.guard_exclusive hg hm
  have hd := h.guard_latched hg'
  rw [hf] at hd
  cases hm' : g'.mode with
  | shared =>
    simp [hm', LatchMode.role, Pool.demand, BufferFrame.demand, h.wellFormed.latched _ hl] at hd
  | exclusive =>
    have hle : w.pool.demand (.frame g.frameId .exclusive) ≤ 1 := unit_le_one
    have ht : Resource.frame g.frameId .exclusive ∈ w.holding (.inr (t, v)) := by
      simp [World.holding, hg, guardResources, hm, LatchMode.role]
    have hu : Resource.frame g.frameId .exclusive ∈ w.holding (.inr (u, x)) := by
      simp [World.holding, hg', guardResources, hm', hf, LatchMode.role]
    exact Sum.inr.inj (Balanced.unique h.accounted hle hu ht)

lemma call_alone {kind : Access} (h : w.Inv opts) (ht : (w.pc t).access = some (f, .write))
    (hu : (w.pc u).access = some (f, kind)) : u = t := by
  have hs := h.state_of_write ht
  cases kind with
  | write =>
    obtain ⟨page, hf⟩ := Pc.filling_of_write ht
    obtain ⟨page', hf'⟩ := Pc.filling_of_write hu
    exact h.filling_unique hf' hf
  | read =>
    rcases Pc.of_read hu with ⟨_, _, _, hpc⟩ | ⟨_, _, hpc⟩
    · have := (h.copying hpc).1
      simp [hs] at this
    · have := h.evicting hpc
      simp [hs] at this

lemma call_apart {kind kind' : Access} (h : w.Inv opts) (hg : w.guards t v = some g)
    (ht : kind = g.mode.access) (hu : (w.pc u).access = some (g.frameId, kind')) :
    kind = .read ∧ kind' = .read := by
  have hs := h.guard_resident hg
  cases kind' with
  | write =>
    have := h.state_of_write hu
    simp [hs] at this
  | read =>
    rcases Pc.of_read hu with ⟨_, _, _, hpc⟩ | ⟨_, _, hpc⟩
    · have hl := (h.copying hpc).2.2
      cases hm : g.mode with
      | shared => exact ⟨by rw [ht, hm]; rfl, rfl⟩
      | exclusive => simp [h.guard_exclusive hg hm] at hl
    · have := h.evicting hpc
      simp [hs] at this

/-- The page of a pinned frame changes by a mutation through a write guard of the frame only. -/
lemma page_of_pinned (h : w.Inv opts) (ha : Act opts w u choice w')
    (hp : 0 < (w.pool.frames f).pinCount) :
    (w'.pool.frames f).page = (w.pool.frames f).page ∨ ∃ x bytes bindingEpoch,
      choice = .guard (.mutate x bytes) ∧ w.guards u x = some ⟨f, bindingEpoch, .exclusive⟩ := by
  have hs := h.wellFormed.resident_of_pinned hp
  rcases ha.touches with ⟨turn, -, -, hm, rfl⟩ | ⟨ht, -⟩
  · have hstep := hm.frame h.wellFormed (h.ready u) f
    change (turn.pool.frames f).page = _ ∨ _
    generalize turn.pool.frames f = frame at hstep ⊢
    generalize turn.pc = pc' at hstep
    cases hstep with
    | bound hfree => simp [hs] at hfree
    | retired _ _ _ hpin =>
      rw [hpin] at hp
      cases hp
    | dropped _ hf | evicted _ hf | discarded _ hf => simp [hs] at hf
    | _ => exact .inl rfl
  · have ht := ht f
    generalize w'.pool.frames f = frame at ht ⊢
    cases ht with
    | mutated hc hg => exact .inr ⟨_, _, _, hc, hg⟩
    | filled hf =>
      have := (h.filling_loading hf).2
      simp [hs] at this
    | _ => exact .inl rfl

end World.Inv

section Runs

variable [DecidableEq T] [DecidableEq V] [NeZero N] [Fintype T] [Fintype V]
  {opts : BufferPoolOptions} {w w' : World N T V} {t : T} {v : GuardVar V} {f : Fin N}
  {g : PageGuard N}

/-- Whoever may write the bytes of a frame, a guard or a call, is the only one that may read or
write them. -/
theorem accesses_never_race {x y : Holder T V} {kind : Access}
    (h : Run (poolSystem opts) OneLifecycle w) (hx : w.access x = some (f, .write))
    (hy : w.access y = some (f, kind)) : y = x := by
  have hi := inv_of_run (closesAlone_of_oneLifecycle h).1
  cases x with
  | inl t =>
    cases y with
    | inl u => rw [hi.call_alone hx hy]
    | inr p =>
      obtain ⟨g, hg, he⟩ := Option.map_eq_some_iff.mp hy
      obtain ⟨rfl, rfl⟩ := Prod.mk.inj he
      cases (hi.call_apart hg rfl hx).2
  | inr p =>
    obtain ⟨g, hg, he⟩ := Option.map_eq_some_iff.mp hx
    obtain ⟨rfl, hm⟩ := Prod.mk.inj he
    cases y with
    | inl u => cases (hi.call_apart hg hm.symm hy).1
    | inr q =>
      obtain ⟨g', hg', he'⟩ := Option.map_eq_some_iff.mp hy
      have hmode : g.mode = .exclusive := by
        cases hk : g.mode with
        | shared => simp [hk, LatchMode.access] at hm
        | exclusive => rfl
      exact congrArg Sum.inr (hi.guard_alone hg hmode hg' (Prod.mk.inj he').1)

end Runs

section Sample

def sampleWriteGuard : PageGuard 1 := ⟨0, 1, .exclusive⟩

lemma sampleWriteGuard_access :
    sampleGuardWorld.access (.inr (false, none)) = some (0, .write) := by rfl

theorem accesses_never_race_writer : (.inr (false, none) : Holder Bool Unit) = .inr (false, none) :=
  accesses_never_race sampleGuard_run sampleWriteGuard_access sampleWriteGuard_access

def KeepsSample (w : World 1 Bool Unit) (a : Bool × Choice Bool Unit) : Prop :=
  OneLifecycle w a ∧ w.guards false none = some sampleWriteGuard ∧
    mutatesThrough false none a = false

instance (w : World 1 Bool Unit) (a : Bool × Choice Bool Unit) : Decidable (KeepsSample w a) :=
  inferInstanceAs (Decidable (_ ∧ _))

/-- A flush of the page has begun, and its writer marks it dirty once more. -/
def sampleKept : World 1 Bool Unit :=
  Option.get (execute (poolSystem sampleOptions) KeepsSample sampleGuardWorld
    [(true, .call (.flushPage ⟨sampleFile, 1⟩)), (true, .run), (true, .run),
      (false, .guard (.markDirty none))]) (by decide +kernel)

end Sample

end DBlusBlus.BufferPool
