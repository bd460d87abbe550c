import DBlusBlus.BufferPool.FlushLoop

/-! Shutdown, flushing retirements and `FlushPage` never report success for an image that is not
durable. -/

namespace DBlusBlus.BufferPool

open Accounting Transition

variable {N : ℕ} {T V : Type} {page : PageId} {f : Fin N}

def Outcome.granted : Outcome → Bool
  | .fetch _ _ (.ok ()) | .newPage _ (.ok _) => true
  | _ => false

/-- Guards are made for successful fetches and new pages only. -/
def Pc.GrantsOnly : Pc N V → Prop
  | .makeGuard result _ _ => result.granted = true
  | _ => True

section Moves

variable [NeZero N] {pool pool' : Pool N} {pc pc' : Pc N V} {opts : BufferPoolOptions}

omit [NeZero N] in
lemma startCall_grantsOnly (call : Call) : (startCall call : Pc N V).GrantsOnly := by
  cases call with
  | registerFile file validator =>
    rw [startCall]
    split <;> trivial
  | _ => trivial

lemma Move.grantsOnly (hm : Move opts pool pc pool' pc') : pc'.GrantsOnly := by
  cases hm with
  | quiet replacer hq =>
    cases hq with
    | @matchingEnd status caller => cases caller <;> cases status <;> trivial
    | @flushSettled page caller => cases caller <;> trivial
    | @unpinNone f assignment => cases assignment <;> trivial
    | joinPinned => rfl
    | _ => trivial
  | pinHit | publishLoad | publishNew => rfl
  | @failWriteback _ _ _ _ caller => cases caller <;> trivial
  | @unpin f assignment => cases assignment <;> trivial
  | _ => trivial

lemma Move.not_granted {last : Outcome} (hm : Move opts pool pc pool' pc')
    (hpc : pc'.outcome = some last) : last.granted = false := by
  cases hm with
  | quiet replacer hq =>
    cases hq with
    | @matchingEnd status caller => cases caller <;> cases status <;> cases hpc <;> rfl
    | @flushSettled page caller =>
      cases caller <;> cases hpc
      rfl
    | @unpinNone f assignment =>
      cases assignment <;> cases hpc
      rfl
    | _ => first | (cases hpc; rfl) | cases hpc
  | @failWriteback _ _ _ _ caller =>
    cases caller <;> cases hpc
    rfl
  | @unpin f assignment =>
    cases assignment <;> cases hpc
    rfl
  | _ => first | (cases hpc; rfl) | cases hpc

lemma Move.returns_shutdown (hm : Move opts pool pc pool' pc')
    (hpc : pc'.outcome = some (.shutdown (.ok ()))) : pc = .flushMatching [] (.ok ()) .shutdown := by
  cases hm with
  | quiet replacer hq =>
    cases hq with
    | @matchingEnd status caller =>
      cases caller <;> cases status <;> cases hpc
      rfl
    | @flushSettled page caller => cases caller <;> cases hpc
    | @unpinNone f assignment => cases assignment <;> cases hpc
    | _ => cases hpc
  | @failWriteback _ _ _ _ caller => cases caller <;> cases hpc
  | @unpin f assignment => cases assignment <;> cases hpc
  | _ => cases hpc

lemma Move.returns_retireFile {file : FileId} (hm : Move opts pool pc pool' pc')
    (hpc : pc'.outcome = some (.retireFile file (.ok ()))) :
    (∀ page : PageId, page.fileId = file → pool'.pageTable.lookup page = none) ∧
      pool'.files.lookup file = none := by
  cases hm with
  | quiet replacer hq =>
    cases hq with
    | @matchingEnd status caller => cases caller <;> cases status <;> cases hpc
    | @flushSettled page caller => cases caller <;> cases hpc
    | @unpinNone f assignment => cases assignment <;> cases hpc
    | _ => cases hpc
  | closeFile hn =>
    cases hpc
    exact ⟨hn, by simp⟩
  | @failWriteback _ _ _ _ caller => cases caller <;> cases hpc
  | @unpin f assignment => cases assignment <;> cases hpc
  | _ => cases hpc

end Moves

section Steps

variable [DecidableEq T] [DecidableEq V] [NeZero N] [Fintype T] [Fintype V]
  {opts : BufferPoolOptions} {w w' : World N T V} {t u : T} {choice : Choice T V}
  {x y z : World N T V × History N}

omit [Fintype T] [Fintype V] in
lemma Act.grantsOnly (ha : Act opts w t choice w') (h : (w.pc t).GrantsOnly) :
    (w'.pc t).GrantsOnly := by
  cases ha with
  | critical hlock hcs hm =>
    rw [World.finish_pc]
    exact hm.grantsOnly
  | call =>
    rw [World.setPc_pc]
    exact startCall_grantsOnly _
  | mutate | markDirty | move | noGuard | wake => exact h
  | release | assign =>
    rw [releaseGuard_pc]
    trivial
  | written | writeFailed | extended => simp [World.setPc, Pc.GrantsOnly]
  | _ =>
    rw [World.setPc_pc]
    trivial

omit [Fintype T] [Fintype V] in
lemma grantsOnly_of_run (h : Run (poolSystem opts) (fun _ _ => True) w) (t : T) :
    (w.pc t).GrantsOnly := by
  refine pc_of_run ?_ ?_ h t
  · trivial
  · intro w w' t choice ha
    exact ha.grantsOnly

def ReturnsGuard (w w' : World N T V) (t : T) : Prop :=
  (w.pc t).isIdle = false ∧ ∃ last, (w'.pc t).outcome = some last ∧ last.granted = true

omit [Fintype T] [Fintype V] in
lemma Act.returnsGuard (ha : Act opts w t choice w') (hr : ReturnsGuard w w' u) :
    ∃ result f mode, w.pc u = .makeGuard result f mode := by
  obtain ⟨hidle, last, hl, hg⟩ := hr
  by_cases hu : u = t
  · subst hu
    cases ha with
    | critical hlock hcs hm =>
      rw [World.finish_pc] at hl
      rw [hm.not_granted hl] at hg
      cases hg
    | grant hpc => exact ⟨_, _, _, hpc⟩
    | call hi | mutate hi | markDirty hi | release hi | assign hi | move hi | noGuard hi =>
      rw [hi] at hidle
      cases hidle
    | wake =>
      have hpc : w.pc u = .idle last := Pc.outcome_some hl
      rw [hpc] at hidle
      cases hidle
    | takeFrom | registerCountFailed =>
      rw [World.setPc_pc] at hl
      cases hl
      cases hg
    | written | writeFailed | extended => simp [World.setPc, Pc.outcome] at hl
    | _ =>
      rw [World.setPc_pc] at hl
      cases hl
  · rw [ha.others hu] at hl
    rw [Pc.outcome_some hl] at hidle
    cases hidle

/-- What holds when `Shutdown` has returned success. -/
structure ShutDown (opts : BufferPoolOptions) (x : World N T V × History N) : Prop where
  unpinned : ∀ f, (x.1.pool.frames f).pinCount = 0
  resident : ∀ page entry, x.1.pool.pageTable.lookup page = some entry → entry.state = .resident
  clean : ∀ f, (x.1.pool.frames f).dirty = false
  durable : ∀ name ∈ x.2.mutations, x.2.IsSynced name
  rejects : ∀ z t choice w', Path (historySystem opts) KeepsDirty x z →
    step opts z.1 t choice = some w' → ∀ u, ¬ ReturnsGuard z.1 w' u

/-- What holds when `RetireFile` has returned success. -/
structure Retired (x : World N T V × History N) (file : FileId) : Prop where
  unregistered : x.1.pool.files.lookup file = none
  unmapped : ∀ page, page.fileId = file → x.1.pool.pageTable.lookup page = none
  unbound : ∀ f, (x.1.pool.frames f).state ≠ .free → (x.1.pool.frames f).page.id.fileId ≠ file
  durable : ∀ name ∈ x.2.mutations, name.page.fileId = file → x.2.IsSynced name

namespace World.Inv

omit [DecidableEq T] [DecidableEq V] in
lemma unpinned_of_closed (h : w.Inv opts) (hc : w.pool.Closed none) (f : Fin N) :
    (w.pool.frames f).pinCount = 0 := by
  by_contra hp
  have hs := h.wellFormed.resident_of_pinned (Nat.pos_of_ne_zero hp)
  exact hp (hc.frame _ _ rfl (h.wellFormed.resident hs).1).2

omit [DecidableEq T] [DecidableEq V] in
lemma clean_of_closed (h : w.Inv opts) (hc : w.pool.Closed none)
    (hd : w.pool.DirtyIn none []) (f : Fin N) : (w.pool.frames f).dirty = false := by
  cases hs : (w.pool.frames f).state with
  | free => exact (h.wellFormed.free hs).2.2.2
  | loading => exact (h.wellFormed.loading hs).2.1
  | resident =>
    rw [← Bool.not_eq_true]
    exact fun hdirty => List.not_mem_nil (hd _ _ rfl (h.wellFormed.resident hs).1 hdirty)
  | evicting =>
    have := (hc.frame _ _ rfl (h.wellFormed.evicting hs).1).1
    cases this

lemma no_guard_of_closed (h : w.Inv opts) (hc : w.pool.Closed none) {result : Outcome}
    {mode : LatchMode} : w.pc t ≠ .makeGuard result f mode := by
  intro hpc
  have hp := demand_pin.mp ((h.ready t).due (.frame f .pin)
    (by rw [hpc]; exact List.mem_cons_self ..))
  have := h.unpinned_of_closed hc f
  omega

lemma closed_step (h : w.Inv opts) (ha : Act opts w t choice w') (hc : w.pool.Closed none) :
    w'.pool.Closed none := by
  rcases ha.critical_or_light h.accounted with ⟨turn, -, -, -, hm, rfl⟩ | hl
  · exact hm.closed h.wellFormed (h.ready t) hc fun _ _ h => nomatch h
  · exact hl.touch.closed hc

end World.Inv

lemma closed_of_path (h : Run (historySystem opts) KeepsDirty x) (hc : x.1.pool.Closed none)
    (hp : Path (historySystem opts) KeepsDirty x z) : z.1.pool.Closed none := by
  refine hp.invariant_of_path (I := fun y => y.1.pool.Closed none) hc ?_
  rintro y ⟨u, choice⟩ z hp hc - hs
  have hi := inv_of_run ((h.path hp).untrack fun _ _ h => h.1)
  exact hi.closed_step (step_act (track_step.mp hs).1) hc

omit [Fintype T] [Fintype V] in
lemma Act.returns {last : Outcome} (ha : Act opts w t .run w') (hg : (w.pc t).GrantsOnly)
    (hl : (w'.pc t).outcome = some last) (hn : last.granted = false)
    (hne : last ≠ .guardReleased) : Move opts w.pool (w.pc t) w'.pool (w'.pc t) := by
  cases ha with
  | critical hlock hcs hm =>
    rw [World.finish_pc]
    exact hm
  | grant hpc =>
    rw [World.setPc_pc] at hl
    obtain rfl := Option.some.inj hl
    rw [hpc] at hg
    rw [show _ = true from hg] at hn
    cases hn
  | takeFrom =>
    rw [World.setPc_pc] at hl
    exact absurd (Option.some.inj hl).symm hne
  | _ =>
    rw [World.setPc_pc] at hl
    cases hl

theorem shutDown_of_return (h : Run (historySystem opts) KeepsDirty x)
    (hok : KeepsDirty x (t, .run)) (hs : (historySystem opts).step x (t, .run) = some y)
    (hret : (y.1.pc t).outcome = some (.shutdown (.ok ()))) : ShutDown opts y := by
  have hi := inv_of_run (h.untrack fun _ _ h => h.1)
  have hy := Run.next h hok hs
  have hi' := inv_of_run (hy.untrack fun _ _ h => h.1)
  have ha : Act opts x.1 t .run y.1 := step_act (track_step.mp hs).1
  have hm := ha.returns (grantsOnly_of_run (h.untrack fun _ _ _ => trivial) t) hret rfl nofun
  obtain ⟨hc, hd⟩ := hi.closed t ⟨[], .ok (), .shutdown⟩ none
    (by rw [hm.returns_shutdown hret]; rfl) rfl
  have hd := (hm.shrinks hi.wellFormed (hi.ready t) hc).dirtyIn (hd rfl)
  have hc := hi.closed_step ha hc
  refine ⟨hi'.unpinned_of_closed hc, fun page entry he => (hc.frame page entry rfl he).1,
    hi'.clean_of_closed hc hd, fun name hn => ?_, fun z u choice w' hp hs' v hr => ?_⟩
  · refine ((ledger_of_run hy).covered name hn).resolve_right fun hw => ?_
    have hdirty := hw.dirty
    rw [hi'.clean_of_closed hc hd] at hdirty
    cases hdirty
  · obtain ⟨result, f, mode, hpc⟩ := (step_act hs').returnsGuard hr
    have hiz := inv_of_run ((hy.path hp).untrack fun _ _ h => h.1)
    exact hiz.no_guard_of_closed (closed_of_path hy hc hp) hpc

theorem retired_of_return {file : FileId} (h : Run (historySystem opts) KeepsDirty x)
    (hok : KeepsDirty x (t, .run)) (hs : (historySystem opts).step x (t, .run) = some y)
    (hret : (y.1.pc t).outcome = some (.retireFile file (.ok ()))) : Retired y file := by
  have hy := Run.next h hok hs
  have hi' := inv_of_run (hy.untrack fun _ _ h => h.1)
  have ha : Act opts x.1 t .run y.1 := step_act (track_step.mp hs).1
  have hm := ha.returns (grantsOnly_of_run (h.untrack fun _ _ _ => trivial) t) hret rfl nofun
  obtain ⟨hn, hf⟩ := hm.returns_retireFile hret
  refine ⟨hf, hn, fun f hst hid => ?_, fun name hname hid => ?_⟩
  · obtain ⟨entry, he, -⟩ := hi'.wellFormed.bindings.names hst
    rw [hn _ hid] at he
    cases he
  · refine ((ledger_of_run hy).covered name hname).resolve_right fun hw => ?_
    obtain ⟨entry, he, -⟩ := hi'.inUse_entry hw.inUse
    rw [show (y.1.pool.frames name.frame).page.id = name.page from hw.current.page,
      hn _ hid] at he
    cases he

/-- `FlushPage` finds its page settled. -/
def PageSettledAt (t : T) (page : PageId) (y : World N T V × History N) : Prop :=
  y.1.pc t = .flushPage page .flushPage ∧ Settled y.1.pool page

inductive PagePlace (opts : BufferPoolOptions) (t : T) (page : PageId)
    (x z : World N T V × History N) : Prop
  | flushing : (z.1.pc t).flushing = some (page, .flushPage) → PagePlace opts t page x z
  | returned {status} : z.1.pc t = .idle (.flushPage page status) →
    (status = .ok () →
      Along (historySystem opts) (UntilReturn t) x z (PageSettledAt t page)) →
    PagePlace opts t page x z

theorem pagePlace_of_path (h : Run (historySystem opts) KeepsDirty x)
    (hpc : x.1.pc t = .flushPage page .flushPage)
    (hp : Path (historySystem opts) (UntilReturn t) x z) : PagePlace opts t page x z := by
  refine hp.invariant_of_path (.flushing (by rw [hpc]; rfl)) ?_
  rintro y ⟨u, choice⟩ z hp hplace hok hs
  have hi := inv_of_run ((h.path (hp.mono fun _ _ h => h.1)).untrack fun _ _ h => h.1)
  have ha : Act opts y.1 u choice z.1 := step_act (track_step.mp hs).1
  by_cases hu : u = t
  · subst hu
    cases hplace with
    | flushing hf =>
      cases ha.flushMove hi hf with
      | same hf' => exact .flushing hf'
      | settled hpc hse hpc' =>
        have hat : Along (historySystem opts) (UntilReturn u) x y (PageSettledAt u page) :=
          .here hp ⟨hpc, hse⟩
        exact .returned hpc' fun _ => hat.next hok hs
      | failed _ hpc' => exact .returned hpc' fun h => nomatch h
    | returned hpc =>
      have hidle := hok.2 rfl
      rw [hpc] at hidle
      cases hidle
  · have hsame := ha.others (Ne.symm hu)
    cases hplace with
    | flushing hf => exact .flushing (hsame ▸ hf)
    | returned hpc hat => exact .returned (hsame.trans hpc) fun hk => (hat hk).next hok hs

/-- A successful `FlushPage` has seen every image of its page synchronized. -/
theorem page_synced_at_return {name : ImageName N} (h : Run (historySystem opts) KeepsDirty x)
    (hpc : x.1.pc t = .flushPage name.page .flushPage)
    (hn : x.2.IsSynced name ∨ x.1.pool.Pending name)
    (hp : Path (historySystem opts) (UntilReturn t) x z)
    (hret : (z.1.pc t).outcome = some (.flushPage name.page (.ok ()))) : z.2.IsSynced name := by
  have hz := Pc.outcome_some hret
  cases pagePlace_of_path h hpc hp with
  | flushing hf =>
    rw [hz] at hf
    cases hf
  | returned hold hat =>
    rw [hz] at hold
    cases hold
    obtain ⟨y, hxy, hyz, -, hse⟩ := hat rfl
    have hxy := hxy.mono fun _ _ h => h.1
    have hi := inv_of_run ((h.path hxy).untrack fun _ _ h => h.1)
    rcases covered_of_path h hn hxy with hs | hw
    · exact isSynced_of_path hs (hyz.mono fun _ _ h => h.1)
    · exact absurd hse (hw.not_settled hi)

/-- The steps of the claims about success: lifecycle calls of a file come one at a time, and
retirements flush. -/
def FlushRun (x : World N T V × History N) (a : T × Choice T V) : Prop :=
  OneLifecycle x.1 a ∧ NoDiscard a

instance (x : World N T V × History N) (a : T × Choice T V) : Decidable (FlushRun x a) :=
  inferInstanceAs (Decidable (_ ∧ _))

lemma keepsDirty_of_flushRun {a : T × Choice T V} (h : Run (historySystem opts) FlushRun x)
    (ha : FlushRun x a) : KeepsDirty x a :=
  ⟨(closesAlone_of_oneLifecycle (h.untrack fun _ _ h => h.1)).2.closesAlone a, ha.2⟩

lemma run_keepsDirty (h : Run (historySystem opts) FlushRun x) :
    Run (historySystem opts) KeepsDirty x := by
  induction h with
  | start hi => exact .start hi
  | next hr ha hs ih => exact .next ih (keepsDirty_of_flushRun hr ha) hs

/-- What `FlushPage` has synchronized when it returns success. -/
structure PageFlushed (x z : World N T V × History N) (page : PageId) : Prop where
  published : ∀ name ∈ x.2.mutations, name.page = page → z.2.IsSynced name
  current : ∀ f, (x.1.pool.frames f).InUse → (x.1.pool.frames f).page.id = page →
    (x.1.pool.frames f).dirty = true → z.2.IsSynced ((x.1.pool.frames f).imageName f)

structure LoopOutcome (opts : BufferPoolOptions) (t : T) (matching : MatchingCaller)
    (snapshot : List PageId) (x z : World N T V × History N) (status : BufferStatus) : Prop where
  attempted : ∀ page ∈ snapshot,
    Along (historySystem opts) (UntilReturn t) x z (SettledAt t matching page) ∨
      Along (historySystem opts) (UntilReturn t) x z (FailedAt t matching page)
  failed : ∀ page, Along (historySystem opts) (UntilReturn t) x z (FailedAt t matching page) →
    status ≠ .ok ()

lemma loopOutcome_of_path {snapshot : List PageId} {matching : MatchingCaller}
    {status : BufferStatus} (h : Run (historySystem opts) KeepsDirty x)
    (hpc : x.1.pc t = .flushMatching snapshot (.ok ()) matching)
    (hp : Path (historySystem opts) (UntilReturn t) x z)
    (hret : (z.1.pc t).outcome = some (matching.outcome status)) :
    LoopOutcome opts t matching snapshot x z status where
  attempted page hm := ((loopPlace_of_path h hpc hp).at_return
    (Pc.outcome_some hret)).attempted page hm |>.resolve_left List.not_mem_nil
  failed page hf := by
    obtain ⟨y, hxy, hyz, f, bindingEpoch, copiedGeneration, rest, firstFailure, error, hy⟩ := hf
    have hrun := h.path (hxy.mono fun _ _ h => h.1)
    exact (failing_of_path hrun (.write hy) hyz).status (Pc.outcome_some hret)

lemma pageFlushed_of_path (h : Run (historySystem opts) KeepsDirty x)
    (hpc : x.1.pc t = .flushPageCall page) (hok : KeepsDirty x (t, .run))
    (hs : (historySystem opts).step x (t, .run) = some y)
    (hp : Path (historySystem opts) (UntilReturn t) y z)
    (hret : (z.1.pc t).outcome = some (.flushPage page (.ok ()))) : PageFlushed x z page := by
  have ha : Act opts x.1 t .run y.1 := step_act (track_step.mp hs).1
  have hy : y.1.pc t = .flushPage page .flushPage := by
    rcases ha.moves (by rw [hpc]; rfl) with ⟨hw, -⟩ | hm
    · cases hw
    · rw [hpc] at hm
      generalize y.1.pool = pool' at hm
      generalize y.1.pc t = pc' at hm ⊢
      cases hm with
      | quiet _ hq =>
        cases hq
        rfl
      | fault hm => exact hm.elim
      | reserveVictim _ hpc => rcases hpc with ⟨n, hpc⟩ | ⟨v, hpc⟩ <;> cases hpc
  have synced {name : ImageName N} (hn : x.2.IsSynced name ∨ x.1.pool.Pending name)
      (hname : name.page = page) : z.2.IsSynced name := by
    subst hname
    exact page_synced_at_return (.next h hok hs) hy (covered_of_path h hn (.next .refl hok hs)) hp
      hret
  exact ⟨fun name hm => synced ((ledger_of_run h).covered name hm),
    fun f hu hid hd => synced (.inr ⟨hu, hd, .refl _⟩) hid⟩

theorem success_is_durable (h : Run (historySystem opts) FlushRun x) :
    (∀ t y, (historySystem opts).step x (t, .run) = some y →
      (y.1.pc t).outcome = some (.shutdown (.ok ())) → ShutDown opts y) ∧
    (∀ t file y, (historySystem opts).step x (t, .run) = some y →
      (y.1.pc t).outcome = some (.retireFile file (.ok ())) → Retired y file) ∧
    (∀ t page y z, x.1.pc t = .flushPageCall page →
      (historySystem opts).step x (t, .run) = some y →
        Path (historySystem opts)
          (fun x a => FlushRun x a ∧ (a.1 = t → (x.1.pc t).isIdle = false)) y z →
          (z.1.pc t).outcome = some (.flushPage page (.ok ())) → PageFlushed x z page) ∧
    ∀ t matching status z,
      x.1.pc t = .flushMatching (dirtyPages x.1.pool matching.scope) (.ok ()) matching →
        Path (historySystem opts)
          (fun x a => FlushRun x a ∧ (a.1 = t → (x.1.pc t).isIdle = false)) x z →
          (z.1.pc t).outcome = some (matching.outcome status) →
            LoopOutcome opts t matching (dirtyPages x.1.pool matching.scope) x z status := by
  have hr := run_keepsDirty h
  have run (t : T) : FlushRun x (t, .run) := ⟨trivial, trivial⟩
  have until_return {y z : World N T V × History N} {t : T}
      (hy : Run (historySystem opts) FlushRun y)
      (hp : Path (historySystem opts)
        (fun x a => FlushRun x a ∧ (a.1 = t → (x.1.pc t).isIdle = false)) y z) :
      Path (historySystem opts) (UntilReturn t) y z :=
    hp.mono_of_run hy (fun _ _ h => h.1) fun _ _ hx hok =>
      ⟨keepsDirty_of_flushRun hx hok.1, hok.2⟩
  have ok (t : T) := keepsDirty_of_flushRun h (run t)
  refine ⟨fun t y hs => shutDown_of_return hr (ok t) hs,
    fun t file y hs => retired_of_return hr (ok t) hs, fun t page y z hpc hs hp => ?_,
    fun t matching status z hpc hp => loopOutcome_of_path hr hpc (until_return h hp)⟩
  exact pageFlushed_of_path hr hpc (ok t) hs (until_return (.next h (run t) hs) hp)

end Steps

section Sample

/-- A new page, released, and a `Shutdown` up to its return. -/
def sampleShutdown : List (Bool × Choice Bool Unit) :=
  sampleRegister false 1 ++ sampleNewPage false 1 ++ sampleRelease false ++
    [(true, .call .shutdown), (true, .run), (true, .run), (true, .run), (true, .run)] ++
    sampleWriteback true

lemma sampleShutdown_runs : (execute (historySystem sampleOptions) FlushRun
    ((World.initial sampleDisk, .initial sampleDisk) : World 1 Bool Unit × History 1)
    sampleShutdown).isSome := by decide +kernel

def sampleShutdownState : World 1 Bool Unit × History 1 := Option.get _ sampleShutdown_runs

lemma sampleShutdown_returns :
    ((historySystem sampleOptions).step sampleShutdownState (true, .run)).isSome := by
  decide +kernel

def sampleShutdownEnd : World 1 Bool Unit × History 1 := Option.get _ sampleShutdown_returns

theorem success_is_durable_shutdown : sampleShutdownEnd.2.mutations = [⟨⟨sampleFile, 1⟩, 0, 1, 1⟩] ∧
    ShutDown sampleOptions sampleShutdownEnd := by
  have hrun : Run (historySystem sampleOptions) FlushRun sampleShutdownState :=
    (historyRun_initial sampleDisk).of_execute sampleShutdown_runs
  exact ⟨by decide +kernel, (success_is_durable hrun).1 true sampleShutdownEnd
    (Option.some_get sampleShutdown_returns).symm (by decide +kernel)⟩

end Sample

end DBlusBlus.BufferPool
