import DBlusBlus.BufferPool.Lossless

/-! The pool between operations: every thread runs user code, with or without guards. -/

namespace DBlusBlus.BufferPool

open Accounting

variable {N : ℕ} {T V : Type} {page : PageId} {f : Fin N}

def World.AtRest (w : World N T V) : Prop := ∀ t, (w.pc t).isIdle = true

lemma guardResources_notMem {role : FrameRole}
    (hrole : role ≠ .pin ∧ role ≠ .shared ∧ role ≠ .exclusive) (g : Option (PageGuard N)) :
    Resource.frame f role ∉ guardResources g := by
  obtain ⟨hpin, hshared, hexclusive⟩ := hrole
  cases g with
  | none => simp [guardResources]
  | some g => cases hm : g.mode <;> simp [guardResources, LatchMode.role, *]

variable [NeZero N]

/-- What a page holds for its users: its resident bytes, or else its bytes on disk. -/
def World.content (w : World N T V) (page : PageId) : PageBytes :=
  match w.pool.pageTable.lookup page with
  | some entry =>
    if entry.state = .resident then (w.pool.frames entry.frameId).page.bytes
    else w.disk.bytes page
  | none => w.disk.bytes page

variable [Fintype T] [Fintype V] {opts : BufferPoolOptions} {w : World N T V}

namespace World.AtRest

lemma unclaimed (hr : w.AtRest) (h : w.Accounted) {r : Resource N}
    (hg : ∀ g, r ∉ guardResources g) : w.pool.demand r = 0 := by
  by_contra hd
  obtain ⟨t | ⟨t, v⟩, hx⟩ := Balanced.holder h (Nat.pos_of_ne_zero hd)
  · have hx : r ∈ (w.pc t).resources w.pool.loads := hx
    rw [Pc.resources_idle (hr t)] at hx
    cases hx
  · exact hg _ hx

lemma not_evicting (hr : w.AtRest) (h : w.Inv opts) : (w.pool.frames f).state ≠ .evicting := by
  intro hs
  by_cases hio : (w.pool.frames f).ioState = .none
  · have hd := demand_victim.mpr ⟨hs, hio, rfl⟩
    rw [hr.unclaimed h.accounted (guardResources_notMem (by simp))] at hd
    cases hd
  · have hd := demand_eviction.mpr ⟨hs, hio, rfl⟩
    rw [hr.unclaimed h.accounted (guardResources_notMem (by simp))] at hd
    cases hd

lemma no_io (hr : w.AtRest) (h : w.Inv opts) (hs : (w.pool.frames f).state = .resident) :
    (w.pool.frames f).ioState = .none := by
  by_contra hio
  have hd := demand_writeback.mpr ⟨hs, hio, rfl, rfl⟩
  rw [hr.unclaimed h.accounted (guardResources_notMem (by simp))] at hd
  cases hd

lemma resident (hr : w.AtRest) (h : w.Inv opts) (hu : (w.pool.frames f).InUse) :
    (w.pool.frames f).state = .resident :=
  hu.resolve_right (hr.not_evicting h)

lemma lookup (hr : w.AtRest) (h : w.Inv opts) (hu : (w.pool.frames f).InUse) :
    w.pool.pageTable.lookup (w.pool.frames f).page.id = some ⟨.resident, f, none⟩ :=
  (h.wellFormed.resident (hr.resident h hu)).1

lemma mapped (hr : w.AtRest) (h : w.Inv opts) {entry : PageTableEntry N}
    (he : w.pool.pageTable.lookup page = some entry) : entry = ⟨.resident, entry.frameId, none⟩ ∧
      (w.pool.frames entry.frameId).page.id = page ∧ (w.pool.frames entry.frameId).InUse := by
  have inUse (hu : (w.pool.frames entry.frameId).InUse)
      (hid : (w.pool.frames entry.frameId).page.id = page) : entry =
        ⟨.resident, entry.frameId, none⟩ := by
    have hl := hr.lookup h hu
    rw [hid, he] at hl
    exact Option.some.inj hl
  have unloaded (load : LoadId) (hl : entry.load = some load) : False := by
    obtain ⟨role, hd, -⟩ := h.wellFormed.licensed he hl
    rw [hr.unclaimed h.accounted fun g => guardResources_entry g] at hd
    cases hd
  cases hs : entry.state with
  | loadIntent =>
    obtain ⟨load, hl⟩ := Option.isSome_iff_exists.mp
      ((h.wellFormed.bindings.entry page entry he).intent hs).2
    exact (unloaded load hl).elim
  | loading =>
    have hd : 0 < w.pool.demand (.entry page (.loading entry.frameId entry.load)) :=
      demand_loading.mpr (by rw [he, ← hs])
    rw [hr.unclaimed h.accounted fun g => guardResources_entry g] at hd
    cases hd
  | resident =>
    obtain ⟨hid, hf⟩ := h.wellFormed.bound_resident he hs
    exact ⟨inUse (.inl hf) hid, hid, .inl hf⟩
  | evicting =>
    obtain ⟨hid, hf⟩ := h.wellFormed.bindings.bound he (by simp [hs])
    rw [hs] at hf
    exact absurd hf (hr.not_evicting h)

lemma no_turn (hr : w.AtRest) (h : w.Inv opts) {file : FileId} {entry : FileEntry}
    (he : w.pool.files.lookup file = some entry) : entry.newPageInProgress = false := by
  rw [← Bool.not_eq_true]
  intro hn
  have hd := demand_turn.mpr ⟨entry, he, hn⟩
  rw [hr.unclaimed h.accounted (by rintro (_ | _) <;> simp [guardResources])] at hd
  cases hd

lemma listed (hr : w.AtRest) (h : w.Inv opts) (hs : (w.pool.frames f).state = .free) :
    f ∈ w.pool.freeList := by
  by_contra hn
  have hd := demand_unbound.mpr ⟨hs, hn⟩
  rw [hr.unclaimed h.accounted (guardResources_notMem (by simp))] at hd
  cases hd

lemma pinCount [DecidableEq T] [DecidableEq V] (hr : w.AtRest) (h : w.Inv opts) (f : Fin N) :
    (w.pool.frames f).pinCount = w.validGuards f := by
  have hpending : w.pendingPins f = 0 := by
    refine Finset.card_eq_zero.mpr (Finset.filter_eq_empty_iff.mpr fun t _ ht => ?_)
    obtain ⟨last, hpc⟩ := Pc.exists_idle (hr t)
    rw [hpc] at ht
    cases ht
  have hreleased : w.releasedPins f = 0 := by
    refine Finset.card_eq_zero.mpr (Finset.filter_eq_empty_iff.mpr fun t _ ht => ?_)
    obtain ⟨last, hpc⟩ := Pc.exists_idle (hr t)
    rw [hpc] at ht
    cases ht
  rw [h.accounted.pinCount, hpending, hreleased]
  rfl

lemma content_shown (hr : w.AtRest) (h : w.Inv opts) (hu : (w.pool.frames f).InUse) :
    w.content (w.pool.frames f).page.id = (w.pool.frames f).page.bytes := by
  simp [World.content, hr.lookup h hu]

lemma content_away (hr : w.AtRest) (h : w.Inv opts) (haway : w.pool.Away page) :
    w.content page = w.disk.bytes page := by
  have hn : w.pool.pageTable.lookup page = none := by
    rw [Option.eq_none_iff_forall_ne_some]
    intro entry he
    obtain ⟨-, hid, hu⟩ := hr.mapped h he
    exact haway _ hu hid
  simp [World.content, hn]

end World.AtRest

end DBlusBlus.BufferPool
