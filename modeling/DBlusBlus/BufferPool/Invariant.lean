import DBlusBlus.BufferPool.Accounts
import DBlusBlus.BufferPool.Touch

/-! The invariant of the pool and its threads over every interleaving. -/

namespace DBlusBlus.BufferPool

open Accounting

variable {N : ℕ} {T V : Type}

def Pc.draining : Pc N V → Bool
  | .retireDrain _ _ | .retireReset _ | .shutdownDrain => true
  | _ => false

lemma startCall_draining (call : Call) : (startCall call : Pc N V).draining = false := by
  cases call with
  | registerFile file validator =>
    rw [startCall]
    split <;> rfl
  | _ => rfl

section Conditions

/-- No `RetireFile` call removes a registration under another one that still drains or flushes. -/
def ClosesAlone (w : World N T V) (a : T × Choice T V) : Prop :=
  match a.2, w.pc a.1 with
  | .run, .retireReset file => ∀ u, u ≠ a.1 → (w.pc u).retiring ≠ some file
  | _, _ => True

/-- Lifecycle calls of one file start one at a time. -/
def OneLifecycle (w : World N T V) (a : T × Choice T V) : Prop :=
  match a.2 with
  | .call call => ∀ u, ∀ file ∈ call.lifecycle, (w.pc u).lifecycle ≠ some file
  | _ => True

def World.Exclusive (w : World N T V) : Prop :=
  ∀ t u file, (w.pc t).lifecycle = some file → (w.pc u).lifecycle = some file → t = u

lemma World.Exclusive.closesAlone {w : World N T V} (h : w.Exclusive) (a : T × Choice T V) :
    ClosesAlone w a := by
  rw [ClosesAlone]
  split
  · rename_i file _ hpc
    intro u hu hr
    exact hu (h u a.1 file (Pc.lifecycle_of_retiring hr) (by rw [hpc]; rfl))
  · trivial

lemma ClosesAlone.not_retiring {w : World N T V} {t : T} {file : FileId} (h : ClosesAlone w (t, .run))
    (hpc : w.pc t = .retireReset file) {u : T} (hu : u ≠ t) : (w.pc u).retiring ≠ some file := by
  simp only [ClosesAlone, hpc] at h
  exact h u hu

end Conditions

structure Light (w w' : World N T V) (t : T) (choice : Choice T V) : Prop where
  touch : Touch w.pool w'.pool
  latched : (∀ f, (w.pool.frames f).latch.exclusive = true → (w.pool.frames f).latch.shared = 0) →
    ∀ f, (w'.pool.frames f).latch.exclusive = true → (w'.pool.frames f).latch.shared = 0
  mutex : w'.mutex = w.mutex
  others : ∀ u, u ≠ t → w'.pc u = w.pc u
  loop : ∀ loop, (w'.pc t).loop = some loop → (w.pc t).loop = some loop
  draining : (w'.pc t).draining = true → w'.pc t = w.pc t
  lifecycle : ∀ file, (w'.pc t).lifecycle = some file → (w.pc t).lifecycle = some file ∨
    ∃ call, choice = .call call ∧ call.lifecycle = some file

variable [DecidableEq T] {w w' : World N T V} {t : T} {choice : Choice T V}

lemma light_of_pc (pc : Pc N V) (hpc : w'.pc = Function.update w.pc t pc)
    (hpool : w'.pool = w.pool) (hm : w'.mutex = w.mutex)
    (hl : ∀ loop, pc.loop = some loop → (w.pc t).loop = some loop)
    (hd : pc.draining = true → pc = w.pc t)
    (hf : ∀ file, pc.lifecycle = some file → (w.pc t).lifecycle = some file ∨
      ∃ call, choice = .call call ∧ call.lifecycle = some file) : Light w w' t choice where
  touch := hpool ▸ Touch.refl _
  latched h := hpool ▸ h
  mutex := hm
  others u hu := by rw [hpc, Function.update_of_ne hu]
  loop := by rwa [hpc, Function.update_self]
  draining := by rwa [hpc, Function.update_self]
  lifecycle := by rwa [hpc, Function.update_self]

lemma light_of_frame (pc : Pc N V) (hpc : w'.pc = Function.update w.pc t pc)
    {f : Fin N} {frame : BufferFrame} (hpool : w'.pool = w.pool.setFrame f frame)
    (hm : w'.mutex = w.mutex) (ht : (w.pool.frames f).Touched frame)
    (hlatch : ((w.pool.frames f).latch.exclusive = true → (w.pool.frames f).latch.shared = 0) →
      frame.latch.exclusive = true → frame.latch.shared = 0)
    (hl : ∀ loop, pc.loop = some loop → (w.pc t).loop = some loop)
    (hd : pc.draining = true → pc = w.pc t)
    (hf : ∀ file, pc.lifecycle = some file → (w.pc t).lifecycle = some file) :
    Light w w' t choice where
  touch := hpool ▸ touch_setFrame ht
  latched h g := by
    rw [hpool, Pool.setFrame_frames, Function.update_apply]
    split
    · exact hlatch (h f)
    · exact h g
  mutex := hm
  others u hu := by rw [hpc, Function.update_of_ne hu]
  loop := by rwa [hpc, Function.update_self]
  draining := by rwa [hpc, Function.update_self]
  lifecycle file h := by
    rw [hpc, Function.update_self] at h
    exact .inl (hf file h)

lemma Latch.acquire_ok {latch : Latch} {mode : LatchMode} (hc : latch.canAcquire mode = true) :
    (latch.acquire mode).exclusive = true → (latch.acquire mode).shared = 0 := by
  cases mode <;> simp_all [Latch.canAcquire, Latch.acquire]

lemma Latch.release_ok {latch : Latch} (mode : LatchMode)
    (h : latch.exclusive = true → latch.shared = 0) :
    (latch.release mode).exclusive = true → (latch.release mode).shared = 0 := by
  cases mode with
  | shared =>
    intro he
    simp only [Latch.release] at he ⊢
    rw [h he]
  | exclusive => simp [Latch.release]

variable [DecidableEq V] [NeZero N] [Fintype T] [Fintype V] {opts : BufferPoolOptions}

/-- Every step is a critical section under the mutex, or a light step. -/
theorem Act.critical_or_light (h : w.Accounted) (ha : Act opts w t choice w') :
    (∃ turn, choice = .run ∧ w.canLock t ∧ criticalSection opts w.pool (w.pc t) = some turn ∧
      Move opts w.pool (w.pc t) turn.pool turn.pc ∧ w' = w.finish opts t turn) ∨
    Light w w' t choice := by
  have same (pc : Pc N V) (hpc : w.pc t = pc) : w.pc = Function.update w.pc t pc := by
    rw [← hpc, Function.update_eq_self]
  cases ha with
  | @critical turn hlock hcs hm => exact .inl ⟨turn, rfl, hlock, hcs, hm, rfl⟩
  | @grant result f mode hpc hc =>
    exact .inr (light_of_frame _ rfl rfl rfl ⟨rfl, rfl, rfl, rfl, rfl, .inl rfl⟩
      (fun _ => Latch.acquire_ok hc) (by simp [Pc.loop]) (by simp [Pc.draining])
      (by simp [Pc.lifecycle, Pc.loop]))
  | @latchForCopy f page bindingEpoch caller hpc hc =>
    exact .inr (light_of_frame _ rfl rfl rfl ⟨rfl, rfl, rfl, rfl, rfl, .inl rfl⟩
      (fun _ => Latch.acquire_ok hc) (fun _ hl => hpc ▸ hl) (by simp [Pc.draining])
      (fun _ hl => hpc ▸ hl))
  | @copyImage f page bindingEpoch caller hpc =>
    exact .inr (light_of_frame _ rfl rfl rfl ⟨rfl, rfl, rfl, rfl, rfl, .inl rfl⟩
      (Latch.release_ok _) (fun _ hl => hpc ▸ hl) (by simp [Pc.draining])
      (fun _ hl => hpc ▸ hl))
  | buildNone hpc =>
    exact .inr (light_of_pc _ rfl rfl rfl (by simp [Pc.loop]) (by simp [Pc.draining])
      (by simp [Pc.lifecycle, Pc.loop]))
  | build hpc =>
    exact .inr (light_of_frame _ rfl rfl rfl ⟨rfl, rfl, rfl, rfl, rfl, .inl rfl⟩ id
      (by simp [Pc.loop]) (by simp [Pc.draining]) (by simp [Pc.lifecycle, Pc.loop]))
  | takeFrom hpc =>
    exact .inr (light_of_pc _ rfl rfl rfl (by simp [Pc.loop]) (by simp [Pc.draining])
      (by simp [Pc.lifecycle, Pc.loop]))
  | @call call hi hn =>
    exact .inr (light_of_pc _ rfl rfl rfl (by simp [startCall_loop]) (by simp [startCall_draining])
      (fun _ hf => .inr ⟨call, rfl, startCall_lifecycle hf⟩))
  | mutate hi hg =>
    exact .inr (light_of_frame _ (same _ rfl) rfl rfl ⟨rfl, rfl, rfl, rfl, rfl, .inl rfl⟩ id
      (fun _ => id) (fun _ => rfl) (fun _ => id))
  | @markDirty v f epoch hi hlock hg =>
    have hpin : 0 < (w.pool.frames f).pinCount := by
      refine demand_pin.mp (Balanced.pos h (x := .inr (t, v)) ?_)
      simp [World.holding, hg, guardResources]
    exact .inr (light_of_frame _ (same _ rfl) rfl rfl ⟨rfl, rfl, rfl, rfl, rfl, .inr ⟨hpin, rfl⟩⟩
      id (fun _ => id) (fun _ => rfl) (fun _ => id))
  | release hi hg =>
    exact .inr (light_of_frame _ rfl rfl rfl ⟨rfl, rfl, rfl, rfl, rfl, .inl rfl⟩
      (Latch.release_ok _) (by simp [Pc.loop]) (by simp [Pc.draining])
      (by simp [Pc.lifecycle, Pc.loop]))
  | assign hi _ hg =>
    exact .inr (light_of_frame _ rfl rfl rfl ⟨rfl, rfl, rfl, rfl, rfl, .inl rfl⟩
      (Latch.release_ok _) (by simp [Pc.loop]) (by simp [Pc.draining])
      (by simp [Pc.lifecycle, Pc.loop]))
  | move =>
    exact .inr (light_of_pc _ (same _ rfl) rfl rfl (fun _ => id) (fun _ => rfl) (fun _ => .inl))
  | noGuard =>
    exact .inr (light_of_pc _ (same _ rfl) rfl rfl (fun _ => id) (fun _ => rfl) (fun _ => .inl))
  | registerCount hpc =>
    exact .inr (light_of_pc _ rfl rfl rfl (by simp [Pc.loop]) (by simp [Pc.draining])
      (fun _ hf => .inl (hpc ▸ hf)))
  | written hpc =>
    exact .inr (light_of_pc _ rfl rfl rfl (fun _ hl => hpc ▸ hl) (by simp [Pc.draining])
      (fun _ hf => .inl (hpc ▸ hf)))
  | writeFailed hpc =>
    exact .inr (light_of_pc _ rfl rfl rfl (fun _ hl => hpc ▸ hl) (by simp [Pc.draining])
      (fun _ hf => .inl (hpc ▸ hf)))
  | synced hpc =>
    exact .inr (light_of_pc _ rfl rfl rfl (fun _ hl => hpc ▸ hl) (by simp [Pc.draining])
      (fun _ hf => .inl (hpc ▸ hf)))
  | syncFailed hpc =>
    exact .inr (light_of_pc _ rfl rfl rfl (fun _ hl => hpc ▸ hl) (by simp [Pc.draining])
      (fun _ hf => .inl (hpc ▸ hf)))
  | readPage hpc =>
    exact .inr (light_of_frame _ rfl rfl rfl ⟨rfl, rfl, rfl, rfl, rfl, .inl rfl⟩ id
      (by simp [Pc.loop]) (by simp [Pc.draining]) (by simp [Pc.lifecycle, Pc.loop]))
  | wake =>
    exact .inr (light_of_pc _ (same _ rfl) rfl rfl (fun _ => id) (fun _ => rfl) (fun _ => .inl))
  | _ =>
    exact .inr (light_of_pc _ rfl rfl rfl (by simp [Pc.loop]) (by simp [Pc.draining])
      (by simp [Pc.lifecycle, Pc.loop]))

instance (w : World N T V) (a : T × Choice T V) : Decidable (ClosesAlone w a) :=
  decidable_of_bool
    (match a.2, w.pc a.1 with
    | .run, .retireReset file => decide (∀ u, u ≠ a.1 → (w.pc u).retiring ≠ some file)
    | _, _ => true)
    (by unfold ClosesAlone; split <;> simp [*])

structure World.Inv (opts : BufferPoolOptions) (w : World N T V) : Prop where
  wellFormed : w.pool.WellFormed opts.pinLimit
  accounted : w.Accounted
  vacant : ∀ t, w.Vacant t
  draining : ∀ t file disposition, w.pc t = .retireDrain file disposition →
    ∃ entry, w.pool.files.lookup file = some entry ∧ entry.state = .retiring
  quiescing : ∀ t, w.pc t = .shutdownDrain → w.pool.quiescing = true
  closed : ∀ t loop scope, (w.pc t).loop = some loop → loop.caller.drains = some scope →
    w.pool.Closed scope ∧ (loop.firstFailure = .ok () → w.pool.DirtyIn scope loop.rest)
  resetting : ∀ t file, w.pc t = .retireReset file →
    w.mutex = some t ∧ w.pool.Closed (some file) ∧ w.pool.Drained file

omit [DecidableEq T] [DecidableEq V] [Fintype T] [Fintype V] in
lemma Pool.WellFormed.licensed {pool : Pool N} {limit : ℕ} (h : pool.WellFormed limit)
    {page : PageId} {entry : PageTableEntry N} {load : LoadId}
    (he : pool.pageTable.lookup page = some entry) (hl : entry.load = some load) :
    ∃ role, 0 < pool.demand (.entry page role) ∧ role.licence page = .load load .loader := by
  cases hs : entry.state with
  | loadIntent =>
    refine ⟨.intent load, demand_intent.mpr ?_, rfl⟩
    have := ((h.bindings.entry page entry he).intent hs).1
    rw [he, ← hl, ← hs, ← this]
  | loading =>
    refine ⟨.loading entry.frameId (some load), demand_loading.mpr ?_, rfl⟩
    rw [he, ← hl, ← hs]
  | resident =>
    obtain ⟨hid, hf⟩ := h.bound_resident he hs
    have hb := (h.resident hf).1
    rw [hid, he] at hb
    rw [Option.some.inj hb] at hl
    cases hl
  | evicting =>
    obtain ⟨hid, hf⟩ := h.bindings.bound he (by simp [hs])
    rw [hs] at hf
    have hb := (h.evicting hf).1
    rw [hid, he] at hb
    rw [Option.some.inj hb] at hl
    cases hl

namespace World.Inv

lemma ready (h : w.Inv opts) (t : T) : Ready w.pool (w.pc t) where
  due r hr := by
    have hm : r ∈ w.holding (.inl t) := hr
    exact Balanced.pos h.accounted hm
  pending page entry load he hl := by
    obtain ⟨role, hd, hrole⟩ := h.wellFormed.licensed he hl
    obtain ⟨u | ⟨u, v⟩, hx⟩ := Balanced.holder h.accounted hd
    · have hm : role.licence page ∈ w.holding (.inl u) := Pc.licence_mem hx
      rw [hrole] at hm
      exact (demand_loader.mp (Balanced.pos h.accounted hm)).symm
    · exact absurd hx (guardResources_entry _)
  sole page entry he hs hl ht := by
    have hd : 0 < w.pool.demand (.entry page (.loading entry.frameId none)) := by
      rw [demand_loading, he, ← hs, ← hl]
    obtain ⟨u | ⟨u, v⟩, hx⟩ := Balanced.holder h.accounted hd
    · have hm : Resource.turn page.fileId ∈ w.holding (.inl u) := Pc.licence_mem hx
      have ht' : Resource.turn page.fileId ∈ w.holding (.inl t) := ht
      have hone : w.pool.demand (.turn page.fileId) ≤ 1 := by
        rw [Pool.demand]
        cases w.pool.files.lookup page.fileId with
        | none => exact Nat.zero_le _
        | some => exact unit_le_one
      obtain rfl := Sum.inl.inj (Balanced.unique h.accounted hone hm ht')
      exact hx
    · exact absurd hx (guardResources_entry _)
  retiring file disposition hpc := by
    obtain ⟨entry, he, -⟩ := h.draining t file disposition hpc
    exact ⟨entry, he⟩
  drained file hpc := (h.resetting t file hpc).2.2

omit [DecidableEq V] in
lemma step_light (h : w.Inv opts) (hl : Light w w' t choice) (hacc : w'.Accounted)
    (hv : ∀ u, w'.Vacant u) : w'.Inv opts := by
  have hloop (u : T) (loop : FlushLoop) (hu : (w'.pc u).loop = some loop) :
      (w.pc u).loop = some loop := by
    by_cases hut : u = t
    · subst hut
      exact hl.loop loop hu
    · rwa [hl.others u hut] at hu
  have hdrain (u : T) (hu : (w'.pc u).draining = true) : w'.pc u = w.pc u := by
    by_cases hut : u = t
    · subst hut
      exact hl.draining hu
    · exact hl.others u hut
  refine ⟨hl.touch.wellFormed h.wellFormed (hl.latched h.wellFormed.latched), hacc, hv, ?_, ?_, ?_,
    ?_⟩
  · intro u file disposition hu
    rw [hl.touch.files]
    rw [hdrain u (by rw [hu]; rfl)] at hu
    exact h.draining u file disposition hu
  · intro u hu
    rw [hl.touch.quiescing]
    rw [hdrain u (by rw [hu]; rfl)] at hu
    exact h.quiescing u hu
  · intro u loop scope hu hd
    obtain ⟨hc, hdirty⟩ := h.closed u loop scope (hloop u loop hu) hd
    exact ⟨hl.touch.closed hc, fun hf => (hl.touch.shrinks hc).dirtyIn (hdirty hf)⟩
  · intro u file hu
    rw [hdrain u (by rw [hu]; rfl)] at hu
    obtain ⟨hm, hc, hdr⟩ := h.resetting u file hu
    exact ⟨hl.mutex.trans hm, hl.touch.closed hc, hl.touch.drained hdr⟩

lemma resetting_of_critical (h : w.Inv opts) {turn : Turn N V} {file : FileId}
    (hcs : criticalSection opts w.pool (w.pc t) = some turn)
    (hm : Move opts w.pool (w.pc t) turn.pool turn.pc) (hpc : turn.pc = .retireReset file) :
    turn.lock = .hold ∧ turn.pool.Closed (some file) ∧ turn.pool.Drained file := by
  rw [hpc] at hm
  rcases hm.retireReset with ⟨entry, hold, he, hd⟩ | hold | hold
  · obtain ⟨known, hk, hr⟩ := h.draining t file _ hold
    obtain rfl := Option.some.inj (he.symm.trans hk)
    obtain ⟨hn, hdr⟩ := fileDrained_iff.mp hd
    rw [hold, criticalSection, retireDrain, he] at hcs
    simp only [hd, if_true, Option.some.injEq] at hcs
    subst hcs
    exact ⟨rfl, Pool.Closed.of_fileDrained he hr hn hdr⟩
  · obtain ⟨-, hc, hd⟩ := h.resetting t file hold
    rw [hold, criticalSection, retireReset] at hcs
    split at hcs
    · rename_i page entry hf
      obtain rfl := Option.some.inj hcs
      have he := AList.mem_lookup_iff.mpr (List.mem_of_find?_eq_some hf)
      have hp : page.fileId = file := by simpa using List.find?_some hf
      have hr := h.ready t
      refine ⟨rfl, ?_, hd.reset h.wellFormed he hp⟩
      refine ⟨hc.gate, hc.quiet, ?_⟩
      have hmove : Move opts w.pool (.retireReset file : Pc N V) _ (.retireReset file) :=
        .resetRetired he hp
      exact fun page entry => (hmove.shrinks h.wellFormed (hold ▸ hr) hc).frame hc
    · obtain rfl := Option.some.inj hcs
      cases hpc
  · obtain ⟨hc, hd⟩ := h.closed t ⟨[], .ok (), .retireFile file⟩ (some file) (by rw [hold]; rfl) rfl
    rw [hold, criticalSection] at hcs
    obtain rfl := Option.some.inj hcs
    exact ⟨rfl, hc, hc.drained h.wellFormed (hd rfl)⟩

lemma closed_of_critical (h : w.Inv opts) {turn : Turn N V}
    (hm : Move opts w.pool (w.pc t) turn.pool turn.pc) {loop : FlushLoop} {scope : Option FileId}
    (hl : turn.pc.loop = some loop) (hd : loop.caller.drains = some scope) :
    turn.pool.Closed scope ∧ (loop.firstFailure = .ok () → turn.pool.DirtyIn scope loop.rest) := by
  have hr := h.ready t
  have snapshot (hc : w.pool.Closed scope) : w.pool.DirtyIn scope (dirtyPages w.pool scope) :=
    fun page entry hp he hdirty =>
      mem_dirtyPages.mpr ⟨hp, entry, he, (hc.frame page entry hp he).1, hdirty⟩
  cases hm.loop h.wellFormed hl hd with
  | @retired file entry hpc he hdr hloop =>
    subst hloop
    obtain rfl := Option.some.inj hd
    obtain ⟨known, hk, hret⟩ := h.draining t file _ hpc
    obtain rfl := Option.some.inj (he.symm.trans hk)
    obtain ⟨hn, hq⟩ := fileDrained_iff.mp hdr
    have hc := (Pool.Closed.of_fileDrained he hret hn hq).1
    refine ⟨hm.closed h.wellFormed hr hc (by simp [hpc]), fun _ => ?_⟩
    exact (hm.shrinks h.wellFormed hr hc).dirtyIn (snapshot hc)
  | shutdown hpc hdr hloop =>
    subst hloop
    obtain rfl := Option.some.inj hd
    obtain ⟨hpins, hres, hn⟩ := poolDrained_iff.mp hdr
    have hc : w.pool.Closed none := ⟨h.quiescing t hpc, fun file entry _ => hn file entry,
      fun page entry _ he => ⟨hres page entry he, (hpins _).1⟩⟩
    refine ⟨hm.closed h.wellFormed hr hc (by simp [hpc]), fun _ => ?_⟩
    exact (hm.shrinks h.wellFormed hr hc).dirtyIn (snapshot hc)
  | @same old hold hcaller hok =>
    obtain ⟨hc, hdirty⟩ := h.closed t old scope hold (hcaller ▸ hd)
    refine ⟨hm.closed h.wellFormed hr hc fun file hpc => ?_, fun hf => ?_⟩
    · rw [hpc] at hold
      cases hold
    · obtain ⟨hf', hrest⟩ := hok hf
      exact (hm.shrinks h.wellFormed hr hc).dirtyIn (hrest ▸ hdirty hf')
  | @settled page old hold hcaller hok hs =>
    obtain ⟨hc, hdirty⟩ := h.closed t old scope hold (hcaller ▸ hd)
    refine ⟨hm.closed h.wellFormed hr hc fun file hpc => ?_, fun hf => ?_⟩
    · rw [hpc] at hold
      cases hold
    · obtain ⟨hf', hrest⟩ := hok hf
      exact (hm.shrinks h.wellFormed hr hc).dirtyIn ((hrest ▸ hdirty hf').settle hc hs)

lemma draining_of_critical (h : w.Inv opts) (hok : ClosesAlone w (t, .run)) {turn : Turn N V}
    (hm : Move opts w.pool (w.pc t) turn.pool turn.pc) {u : T} {file : FileId}
    {disposition : RetireDisposition} (hu : u ≠ t)
    (hpc : w.pc u = .retireDrain file disposition) :
    ∃ entry, turn.pool.files.lookup file = some entry ∧ entry.state = .retiring := by
  obtain ⟨entry, he, hret⟩ := h.draining u file disposition hpc
  rcases hm.file ((h.ready t).not_missing h.wellFormed) file with heq | ⟨_, _, _, _, hnone, _⟩ |
    ⟨hclose, -⟩ | ⟨known, entry', hk, he', hupdate⟩
  · exact ⟨entry, heq.trans he, hret⟩
  · rw [he] at hnone
    cases hnone
  · exact absurd (by rw [hpc]; rfl) (hok.not_retiring hclose hu)
  · obtain rfl := Option.some.inj (he.symm.trans hk)
    exact ⟨entry', he', hupdate.retiring hret⟩

lemma step_critical (h : w.Inv opts) (hok : ClosesAlone w (t, .run)) {turn : Turn N V} (hlock : w.canLock t)
    (hcs : criticalSection opts w.pool (w.pc t) = some turn)
    (hm : Move opts w.pool (w.pc t) turn.pool turn.pc)
    (hacc : (w.finish opts t turn).Accounted) (hv : ∀ u, (w.finish opts t turn).Vacant u) :
    (w.finish opts t turn).Inv opts := by
  have hr := h.ready t
  have hself : (w.finish opts t turn).pc t = turn.pc := Function.update_self ..
  have hothers (u : T) (hu : u ≠ t) : (w.finish opts t turn).pc u = w.pc u :=
    Function.update_of_ne hu ..
  refine ⟨hm.wellFormed h.wellFormed hr, hacc, hv, ?_, ?_, ?_, ?_⟩
  · intro u file disposition hu
    by_cases hut : u = t
    · subst hut
      rw [hself] at hu
      rw [hu] at hm
      rcases hm.retireDrain with hdone | ⟨hpc, hfiles⟩
      · exact hdone
      · obtain ⟨entry, he, hret⟩ := h.draining u file disposition hpc
        exact ⟨entry, (congrArg _ hfiles).trans he, hret⟩
    · rw [hothers u hut] at hu
      exact h.draining_of_critical hok hm hut hu
  · intro u hu
    by_cases hut : u = t
    · subst hut
      rw [hself] at hu
      rw [hu] at hm
      rcases hm.shutdownDrain with hdone | ⟨hpc, hq⟩
      · exact hdone
      · exact hq.trans (h.quiescing u hpc)
    · rw [hothers u hut] at hu
      exact hm.quiescing (hr.not_missing h.wellFormed) (h.quiescing u hu)
  · intro u loop scope hu hd
    by_cases hut : u = t
    · subst hut
      rw [hself] at hu
      exact h.closed_of_critical hm hu hd
    · rw [hothers u hut] at hu
      obtain ⟨hc, hdirty⟩ := h.closed u loop scope hu hd
      have hclose (file : FileId) (hpc : w.pc t = .retireReset file) : scope ≠ some file := by
        rintro rfl
        exact hok.not_retiring hpc hut (Pc.loop_retiring hu hd)
      refine ⟨hm.closed h.wellFormed hr hc hclose, fun hf => ?_⟩
      exact (hm.shrinks h.wellFormed hr hc).dirtyIn (hdirty hf)
  · intro u file hu
    by_cases hut : u = t
    · subst hut
      rw [hself] at hu
      obtain ⟨hl, hc, hd⟩ := h.resetting_of_critical hcs hm hu
      refine ⟨?_, hc, hd⟩
      simp [World.finish, hl]
    · rw [hothers u hut] at hu
      have hmutex := (h.resetting u file hu).1
      rcases hlock.2 with hn | hs
      · rw [hn] at hmutex
        cases hmutex
      · rw [hs] at hmutex
        exact absurd (Option.some.inj hmutex).symm hut

theorem step (h : w.Inv opts) (hok : ClosesAlone w (t, choice))
    (hs : BufferPool.step opts w t choice = some w') : w'.Inv opts := by
  have ha := step_act hs
  have hacc := ha.accounted h.accounted h.wellFormed (h.ready t) (h.vacant t)
  have hv (u : T) : w'.Vacant u := by
    by_cases hu : u = t
    · subst hu
      exact ha.vacant_self (h.vacant u)
    · exact ha.vacant_ne h.vacant hu
  rcases ha.critical_or_light h.accounted with ⟨turn, rfl, hlock, hcs, hm, rfl⟩ | hl
  · exact h.step_critical hok hlock hcs hm hacc hv
  · exact h.step_light hl hacc hv

lemma initial_wellFormed : (Pool.initial : Pool N).WellFormed opts.pinLimit where
  bindings := ⟨fun _ => ⟨rfl, rfl, rfl, rfl⟩, fun page entry h => by simp [Pool.initial] at h⟩
  nodup := List.nodup_finRange N
  listed _ _ := rfl
  latched _ _ := rfl
  claims _ := Nat.zero_le _
  fresh _ _ := rfl
  unfinished _ _ := rfl
  addressed page entry h := by simp [Pool.initial] at h

omit [DecidableEq T] [DecidableEq V] in
lemma initial_accounted (disk : Disk) : (World.initial disk : World N T V).Accounted := by
  intro r
  have hd : (World.initial disk : World N T V).pool.demand r = 0 := by
    cases r with
    | frame f role =>
      cases role <;>
        simp [World.initial, Pool.initial, Pool.demand, BufferFrame.demand, BufferFrame.initial]
    | entry page role => cases role <;> simp [World.initial, Pool.initial, Pool.demand, entryDemand]
    | turn file => simp [World.initial, Pool.initial, Pool.demand, turnDemand]
    | load load role =>
      cases role <;>
        simp [World.initial, Pool.initial, Pool.demand, LoadOperation.demand,
          LoadOperation.initial]
  rw [hd, total_eq_zero]
  rintro (t | ⟨t, v⟩)
  · rfl
  · rfl

omit [DecidableEq T] [DecidableEq V] in
theorem initial (disk : Disk) : (World.initial disk : World N T V).Inv opts where
  wellFormed := initial_wellFormed
  accounted := initial_accounted disk
  vacant t := vacant_of_idle rfl
  draining t file disposition h := by cases h
  quiescing t h := by cases h
  closed t loop scope h := by cases h
  resetting t file h := by cases h

end World.Inv

open Transition in
theorem inv_of_run (h : Run (poolSystem opts) ClosesAlone w) : w.Inv opts := by
  refine h.invariant ?_ fun s a s' hi hok hs => hi.step hok hs
  rintro s ⟨disk, rfl⟩
  exact World.Inv.initial disk

section OneLifecycle

instance (w : World N T V) (a : T × Choice T V) : Decidable (OneLifecycle w a) :=
  decidable_of_bool
    (match a.2 with
    | .call call => decide (∀ u, ∀ file ∈ call.lifecycle, (w.pc u).lifecycle ≠ some file)
    | _ => true)
    (by unfold OneLifecycle; split <;> simp [*])

lemma Act.lifecycle (h : w.Accounted) (ha : Act opts w t choice w') {u : T} {file : FileId}
    (hu : (w'.pc u).lifecycle = some file) : (w.pc u).lifecycle = some file ∨
      u = t ∧ ∃ call, choice = .call call ∧ call.lifecycle = some file := by
  by_cases hut : u = t
  · subst hut
    rcases ha.critical_or_light h with ⟨turn, -, -, -, hm, rfl⟩ | hl
    · have hself : (w.finish opts u turn).pc u = turn.pc := Function.update_self ..
      rw [hself] at hu
      exact .inl (hm.lifecycle hu)
    · exact (hl.lifecycle file hu).imp_right fun hc => ⟨rfl, hc⟩
  · rw [ha.others hut] at hu
    exact .inl hu

lemma World.Exclusive.step (h : w.Exclusive) (hacc : w.Accounted)
    (hok : OneLifecycle w (t, choice)) (ha : Act opts w t choice w') : w'.Exclusive := by
  have fresh {file : FileId} {call : Call} (hc : choice = .call call)
      (hf : call.lifecycle = some file) (x : T) : (w.pc x).lifecycle ≠ some file := by
    subst hc
    exact hok x file hf
  intro u x file hu hx
  rcases ha.lifecycle hacc hu with hu | ⟨rfl, call, hc, hf⟩
  · rcases ha.lifecycle hacc hx with hx | ⟨-, call, hc, hf⟩
    · exact h u x file hu hx
    · exact absurd hu (fresh hc hf u)
  · rcases ha.lifecycle hacc hx with hx | ⟨rfl, -⟩
    · exact absurd hx (fresh hc hf x)
    · rfl

open Transition in
/-- Calls that come one at a time never remove a registration under another one. -/
theorem closesAlone_of_oneLifecycle (h : Run (poolSystem opts) OneLifecycle w) :
    Run (poolSystem opts) ClosesAlone w ∧ w.Exclusive := by
  induction h with
  | start hi =>
    refine ⟨.start hi, ?_⟩
    obtain ⟨disk, rfl⟩ := hi
    rintro t u file ht -
    cases ht
  | @next w a w' _ hok hs ih =>
    obtain ⟨hrun, hex⟩ := ih
    exact ⟨.next hrun (hex.closesAlone a) hs,
      hex.step (inv_of_run hrun).accounted hok (step_act hs)⟩

end OneLifecycle

end DBlusBlus.BufferPool
