import DBlusBlus.BufferPool.Stable
import DBlusBlus.BufferPool.Pins

/-! Clean means durable: a frame gives up its dirty bit only for an image that is stable on disk. -/

namespace DBlusBlus.BufferPool

open Accounting Transition

variable {N : ℕ} {T V : Type} {page : PageId} {f : Fin N} {limit : ℕ}

lemma startCall_notDiscard {call : Call} {file : FileId}
    (h : (startCall call : Pc N V) = .retireFile file .discardDirty) :
    call = .retireFile file .discardDirty := by
  cases call with
  | registerFile file validator =>
    rw [startCall] at h
    split at h <;> cases h
  | _ => cases h <;> rfl

section Moves

variable [NeZero N] {pool pool' : Pool N} {pc pc' : Pc N V} {opts : BufferPoolOptions}
  {file : FileId} {disposition : RetireDisposition} {frame' : BufferFrame}

lemma Move.not_retireFile (hm : Move opts pool pc pool' pc') :
    pc' ≠ .retireFile file disposition := by
  intro hpc
  cases hm with
  | quiet replacer hq =>
    cases hq with
    | @matchingEnd status caller => cases caller <;> cases status <;> cases hpc
    | @flushSettled page caller => cases caller <;> cases hpc
    | @unpinNone f assignment => cases assignment <;> cases hpc
    | _ => cases hpc
  | @failWriteback _ _ _ _ caller => cases caller <;> cases hpc
  | @unpin f assignment => cases assignment <;> cases hpc
  | _ => cases hpc

lemma Move.retireDrain_from (hm : Move opts pool pc pool' pc')
    (hpc : pc' = .retireDrain file disposition) :
    pc = .retireFile file disposition ∨ pc = .retireDrain file disposition := by
  cases hm with
  | quiet replacer hq =>
    cases hq with
    | retireAgain =>
      cases hpc
      exact .inl rfl
    | drainWait =>
      cases hpc
      exact .inr rfl
    | @matchingEnd status caller => cases caller <;> cases status <;> cases hpc
    | @flushSettled page caller => cases caller <;> cases hpc
    | @unpinNone f assignment => cases assignment <;> cases hpc
    | _ => cases hpc
  | beginRetire =>
    cases hpc
    exact .inl rfl
  | @failWriteback _ _ _ _ caller => cases caller <;> cases hpc
  | @unpin f assignment => cases assignment <;> cases hpc
  | _ => cases hpc

lemma Move.not_finishWrite {writer : Writer N} {written : BufferStatus}
    (hm : Move opts pool pc pool' pc') : pc' ≠ .finishWrite writer written := by
  intro hpc
  cases hm with
  | quiet replacer hq =>
    cases hq with
    | @matchingEnd status caller => cases caller <;> cases status <;> cases hpc
    | @flushSettled page caller => cases caller <;> cases hpc
    | @unpinNone f assignment => cases assignment <;> cases hpc
    | _ => cases hpc
  | @failWriteback _ _ _ _ caller => cases caller <;> cases hpc
  | @unpin f assignment => cases assignment <;> cases hpc
  | _ => cases hpc

omit [NeZero N] in
lemma FrameStep.bindingEpoch (h : FrameStep pool pc f frame' pc')
    (hf : (pool.frames f).state ≠ .free) :
    frame'.bindingEpoch = (pool.frames f).bindingEpoch := by
  cases h with
  | bound hs => exact absurd hs hf
  | _ => rfl

end Moves

section Steps

variable [DecidableEq T] [DecidableEq V] [NeZero N] [Fintype T] [Fintype V]
  {opts : BufferPoolOptions} {w w' : World N T V} {t u : T} {choice : Choice T V}
  {history : History N}

lemma Act.bindingEpoch (ha : Act opts w t choice w') (hi : w.Inv opts)
    (hf : (w.pool.frames f).state ≠ .free) :
    (w'.pool.frames f).bindingEpoch = (w.pool.frames f).bindingEpoch := by
  rcases ha.touches with ⟨turn, -, -, hm, rfl⟩ | ⟨ht, -⟩
  · exact (hm.frame hi.wellFormed (hi.ready t) f).bindingEpoch hf
  · have ht := ht f
    generalize w'.pool.frames f = frame' at ht ⊢
    cases ht <;> rfl

/-- Every retirement flushes, and removes clean pages only. -/
structure World.FlushRetirements (w : World N T V) : Prop where
  retire : ∀ t file, w.pc t ≠ .retireFile file .discardDirty
  drain : ∀ t file, w.pc t ≠ .retireDrain file .discardDirty
  reset : ∀ t file, w.pc t = .retireReset file → w.pool.DirtyIn (some file) []

namespace World.FlushRetirements

lemma reset_step (h : w.FlushRetirements) (hi : w.Inv opts) (ha : Act opts w t choice w')
    {file : FileId} (hpc : w'.pc u = .retireReset file) : w'.pool.DirtyIn (some file) [] := by
  have kept (hold : w.pc u = .retireReset file) : w'.pool.DirtyIn (some file) [] := by
    obtain ⟨-, hc, -⟩ := hi.resetting u file hold
    have hd := h.reset u file hold
    rcases ha.critical_or_light hi.accounted with ⟨turn, -, -, -, hm, rfl⟩ | hl
    · exact (hm.shrinks hi.wellFormed (hi.ready t) hc).dirtyIn hd
    · exact (hl.touch.shrinks hc).dirtyIn hd
  by_cases hu : u = t
  · subst hu
    rcases ha.critical_or_light hi.accounted with ⟨turn, -, -, -, hm, rfl⟩ | hl
    · rw [World.finish_pc] at hpc
      rcases (hpc ▸ hm : Move opts w.pool (w.pc u) turn.pool (.retireReset file)).retireReset with
        ⟨entry, hold, -, -⟩ | hold | hold
      · exact absurd hold (h.drain u file)
      · exact kept hold
      · obtain ⟨hc, hd⟩ :=
          hi.closed u ⟨[], .ok (), .retireFile file⟩ (some file) (by rw [hold]; rfl) rfl
        exact (hm.shrinks hi.wellFormed (hi.ready u) hc).dirtyIn (hd rfl)
    · exact kept ((hl.draining (by rw [hpc]; rfl)).symm.trans hpc)
  · rw [ha.others hu] at hpc
    exact kept hpc

lemma step (h : w.FlushRetirements) (hi : w.Inv opts) (hok : NoDiscard (t, choice))
    (ha : Act opts w t choice w') : w'.FlushRetirements where
  retire u file hpc := by
    by_cases hu : u = t
    · subst hu
      cases ha with
      | critical hlock hcs hm =>
        rw [World.finish_pc] at hpc
        exact hm.not_retireFile hpc
      | @call call =>
        rw [World.setPc_pc] at hpc
        obtain rfl := startCall_notDiscard hpc
        exact hok
      | mutate | markDirty | move | noGuard | wake => exact h.retire u file hpc
      | release | assign =>
        rw [releaseGuard_pc] at hpc
        cases hpc
      | written | writeFailed | extended => simp [World.setPc] at hpc
      | _ =>
        rw [World.setPc_pc] at hpc
        cases hpc
    · exact h.retire u file (ha.others hu ▸ hpc)
  drain u file hpc := by
    by_cases hu : u = t
    · subst hu
      rcases ha.critical_or_light hi.accounted with ⟨turn, -, -, -, hm, rfl⟩ | hl
      · rw [World.finish_pc] at hpc
        rcases hm.retireDrain_from hpc with hold | hold
        · exact h.retire u file hold
        · exact h.drain u file hold
      · exact h.drain u file ((hl.draining (by rw [hpc]; rfl)).symm.trans hpc)
    · exact h.drain u file (ha.others hu ▸ hpc)
  reset u file hpc := h.reset_step hi ha hpc

omit [DecidableEq T] [DecidableEq V] [Fintype T] [Fintype V] in
lemma initial (disk : Disk) : (World.initial disk : World N T V).FlushRetirements :=
  ⟨nofun, nofun, nofun⟩

end World.FlushRetirements

def World.Synced (w : World N T V) (history : History N) : Prop :=
  ∀ t writer, w.pc t = .finishWrite writer (.ok ()) → writer.imageName w.pool ∈ history.synced

omit [DecidableEq T] [NeZero N] [Fintype T] [Fintype V] in
lemma synced_mono {name : ImageName N} (h : name ∈ history.synced) :
    name ∈ (history.record w (t, choice) w').synced := by
  simp only [History.record, History.recordSynced]
  split
  · exact List.mem_cons_of_mem _ h
  · exact h

omit [DecidableEq T] [DecidableEq V] [Fintype T] [Fintype V] in
lemma World.synced_initial (disk : Disk) :
    (World.initial disk : World N T V).Synced (.initial disk) := by
  intro t writer hpc
  cases hpc

lemma World.Synced.step (h : w.Synced history) (hi : w.Inv opts) (ha : Act opts w t choice w') :
    w'.Synced (history.record w (t, choice) w') := by
  intro u writer hpc
  have kept (hold : w.pc u = .finishWrite writer (.ok ())) :
      writer.imageName w'.pool ∈ (history.record w (t, choice) w').synced := by
    have hname : writer.imageName w'.pool = writer.imageName w.pool := by
      cases writer with
      | flush => rfl
      | evict requester f victim =>
        obtain ⟨hs, -, -⟩ := demand_eviction.mp ((hi.ready u).due (.frame f (.eviction victim))
          (by rw [hold]; exact List.mem_cons_self ..))
        rw [Writer.imageName, Writer.imageName, ha.bindingEpoch hi (by simp [hs]),
          (ha.frameChange hi f).generation_evicting hi hs]
    rw [hname]
    exact synced_mono (h u writer hold)
  by_cases hu : u = t
  · subst hu
    cases ha with
    | critical hlock hcs hm =>
      rw [World.finish_pc] at hpc
      exact absurd hpc hm.not_finishWrite
    | synced hold =>
      rw [World.setPc_pc] at hpc
      cases hpc
      simp only [History.record, History.recordSynced, hold]
      exact List.mem_cons_self ..
    | @call call =>
      rw [World.setPc_pc] at hpc
      cases call with
      | registerFile file validator =>
        rw [startCall] at hpc
        split at hpc <;> cases hpc
      | _ => cases hpc
    | mutate | markDirty | move | noGuard | wake => exact kept hpc
    | release | assign =>
      rw [releaseGuard_pc] at hpc
      cases hpc
    | written | writeFailed | extended => simp [World.setPc] at hpc
    | _ =>
      rw [World.setPc_pc] at hpc
      cases hpc
  · exact kept (ha.others hu ▸ hpc)

/-- What a frame has published is stable on disk, written and synchronized as its current
generation. -/
structure World.Durable (w : World N T V) (history : History N) (f : Fin N) : Prop where
  bytes : SameContent (history.stable (w.pool.frames f).page.id) (history.published f)
  generation : (w.pool.frames f).imageName f ∈ history.synced

def World.CleanIsDurable (w : World N T V) (history : History N) : Prop :=
  ∀ f, (w.pool.frames f).state = .resident → (w.pool.frames f).dirty = false →
    SameContent (history.stable (w.pool.frames f).page.id) (history.published f)

/-- The step in which `WritePage` or `SyncFile` fails, or in which the writer reconciles that. -/
def World.FailsWrite (w : World N T V) (t : T) (choice : Choice T V) : Prop :=
  (∃ error torn, choice = .writePage (.error error) torn) ∨
    (∃ error, choice = .syncFile (.error error)) ∨
    choice = .run ∧ ∃ writer error, w.pc t = .finishWrite writer (.error error)

structure Pool.SameImages (pool pool' : Pool N) : Prop where
  frame : ∀ f, (pool'.frames f).dirty = (pool.frames f).dirty ∧
    (pool'.frames f).modificationGeneration = (pool.frames f).modificationGeneration ∧
    (pool'.frames f).page = (pool.frames f).page
  mapping : ∀ page, (pool'.pageTable.lookup page).map PageTableEntry.frameId =
    (pool.pageTable.lookup page).map PageTableEntry.frameId

omit [NeZero N] in
lemma Pool.SameImages.refl (pool : Pool N) : pool.SameImages pool :=
  ⟨fun _ => ⟨rfl, rfl, rfl⟩, fun _ => rfl⟩

/-- A frame becomes clean, is reset or gets another page only when its image is durable, and a write
that fails changes no image. -/
structure DirtyStep (w w' : World N T V) (t : T) (choice : Choice T V) (history : History N) :
    Prop where
  cleaned : ∀ f, (w.pool.frames f).dirty = true →
    (w'.pool.frames f).dirty = false ∨ (w'.pool.frames f).state = .free ∨
      (w'.pool.frames f).page.id ≠ (w.pool.frames f).page.id → w.Durable history f
  failed : w.FailsWrite t choice → w.pool.SameImages w'.pool

/-- A dirty frame is cleaned, reset or rebound by the writer of its current image only. -/
lemma Act.cleaned_writer (ha : Act opts w t choice w') (hi : w.Inv opts)
    (hfl : w.FlushRetirements) (hd : (w.pool.frames f).dirty = true)
    (hc : (w'.pool.frames f).dirty = false ∨ (w'.pool.frames f).state = .free ∨
      (w'.pool.frames f).page.id ≠ (w.pool.frames f).page.id) :
    ∃ writer, w.pc t = .finishWrite writer (.ok ()) ∧
      writer.imageName w.pool = (w.pool.frames f).imageName f := by
  have bound : (w.pool.frames f).state ≠ .free := by
    intro hs
    have := (hi.wellFormed.free hs).2.2.2
    simp [hd] at this
  have loading (hs : (w.pool.frames f).state = .loading) : False := by
    have := (hi.wellFormed.loading hs).2.1
    simp [hd] at this
  rcases ha.touches with ⟨turn, -, -, hm, rfl⟩ | ⟨ht, -⟩
  · have hstep := hm.frame hi.wellFormed (hi.ready t) f
    change (turn.pool.frames f).dirty = false ∨ (turn.pool.frames f).state = .free ∨
      (turn.pool.frames f).page.id ≠ _ at hc
    generalize turn.pool.frames f = frame' at hstep hc
    generalize turn.pc = pc' at hstep
    cases hstep with
    | bound hs => exact absurd hs bound
    | discarded _ hs | loaded _ _ hs | created _ hs => exact (loading hs).elim
    | dropped _ _ _ hclean => simp [hd] at hclean
    | retired hpc hp hs =>
      have he := (hi.wellFormed.resident hs).1
      exact absurd (hfl.reset t _ hpc _ _ (inScope_iff.mpr (by simp [hp])) he hd)
        (List.not_mem_nil)
    | evicted hpc hs hid =>
      refine ⟨_, hpc, ?_⟩
      rw [Writer.imageName, ← hid]
      rfl
    | @writtenBack page bindingEpoch copiedGeneration caller hpc hs hid he =>
      refine ⟨_, hpc, ?_⟩
      by_cases hg : (w.pool.frames f).modificationGeneration = copiedGeneration
      · rw [Writer.imageName, ← hid, ← he, ← hg]
        rfl
      · simp [hg, hd, hs] at hc
    | _ => simp_all
  · have ht := ht f
    generalize w'.pool.frames f = frame' at ht hc
    cases ht <;> simp_all

omit [DecidableEq T] [DecidableEq V] [NeZero N] [Fintype T] [Fintype V] in
lemma Writer.Holds.current {writer : Writer N} {image : PageBytes} {published : Fin N → PageBytes}
    (h : writer.Holds w.pool published image)
    (hname : writer.imageName w.pool = (w.pool.frames f).imageName f) :
    writer.pageId = (w.pool.frames f).page.id ∧ SameContent image (published f) := by
  cases writer with
  | evict requester g victim =>
    simp only [Writer.imageName, BufferFrame.imageName, ImageName.mk.injEq] at hname
    obtain ⟨rfl, rfl, -⟩ := hname
    exact ⟨rfl, h⟩
  | flush g page bindingEpoch copiedGeneration caller =>
    simp only [Writer.imageName, BufferFrame.imageName, ImageName.mk.injEq] at hname
    obtain ⟨rfl, rfl, -, hg⟩ := hname
    exact ⟨rfl, h.2 hg.symm⟩

lemma Act.cleaned (ha : Act opts w t choice w') (hi : w.Inv opts) (hst : w.Stable history)
    (hsy : w.Synced history) (hfl : w.FlushRetirements) (hd : (w.pool.frames f).dirty = true)
    (hc : (w'.pool.frames f).dirty = false ∨ (w'.pool.frames f).state = .free ∨
      (w'.pool.frames f).page.id ≠ (w.pool.frames f).page.id) : w.Durable history f := by
  obtain ⟨writer, hpc, hname⟩ := ha.cleaned_writer hi hfl hd hc
  have hthread := hst.thread t
  rw [hpc] at hthread
  obtain ⟨hid, hsame⟩ := Writer.Holds.current hthread hname
  exact ⟨hid ▸ hsame, hname ▸ hsy t writer hpc⟩

omit [DecidableEq T] [DecidableEq V] [Fintype T] [Fintype V] in
lemma Move.sameImages {pool pool' : Pool N} {pc' : Pc N V} {writer : Writer N}
    {error : BufferError} (h : pool.WellFormed limit)
    (hr : Ready pool (.finishWrite writer (.error error) : Pc N V))
    (hm : Move opts pool (.finishWrite writer (.error error)) pool' pc') :
    pool.SameImages pool' := by
  cases hm with
  | quiet _ hq => cases hq
  | fault hm => exact absurd hm (hr.not_missing h)
  | reserveVictim _ hpc => rcases hpc with ⟨n, hpc⟩ | ⟨v, hpc⟩ <;> cases hpc
  | @restoreVictim requester g victim error entry he =>
    refine ⟨fun f => ?_, fun page => ?_⟩
    · by_cases hg : f = g
      · subst hg
        simp
      · simp [hg]
    · by_cases hp : page = victim
      · subst hp
        simp [he]
      · simp [hp]
  | @failWriteback g =>
    refine ⟨fun f => ?_, fun page => rfl⟩
    by_cases hg : f = g
    · subst hg
      simp
    · simp [hg]

lemma Act.failed (ha : Act opts w t choice w') (hi : w.Inv opts) (hf : w.FailsWrite t choice) :
    w.pool.SameImages w'.pool := by
  rcases hf with ⟨error, torn, rfl⟩ | ⟨error, rfl⟩ | ⟨rfl, writer, error, hpc⟩
  · cases ha with
    | writeFailed => exact .refl _
  · cases ha with
    | syncFailed => exact .refl _
  · cases ha with
    | critical hlock hcs hm =>
      have hr := hi.ready t
      rw [hpc] at hm hr
      exact hm.sameImages hi.wellFormed hr
    | grant hold | latchForCopy hold | copyImage hold | buildNone hold | build hold
    | takeFrom hold =>
      rw [hpc] at hold
      cases hold

lemma synced_of_run {x : World N T V × History N} (h : Run (historySystem opts)
    (fun x a => ClosesAlone x.1 a ∧ NoDiscard a) x) :
    x.1.Synced x.2 ∧ x.1.FlushRetirements := by
  refine h.invariant_of_run (I := fun x => x.1.Synced x.2 ∧ x.1.FlushRetirements) ?_ ?_
  · rintro ⟨w, history⟩ ⟨⟨disk, hw⟩, hx⟩
    dsimp only at hw hx ⊢
    subst hw hx
    exact ⟨World.synced_initial disk, .initial disk⟩
  · rintro ⟨w, history⟩ ⟨t, choice⟩ ⟨w', history'⟩ hrun ⟨hsy, hfl⟩ ⟨-, hok⟩ hs
    obtain ⟨hstep, hrec⟩ := track_step.mp hs
    dsimp only at hstep hrec
    subst hrec
    have hi := inv_of_run (hrun.untrack fun _ _ h => h.1)
    exact ⟨hsy.step hi (step_act hstep), hfl.step hi hok (step_act hstep)⟩

theorem clean_means_durable {x : World N T V × History N} (h : Run (historySystem opts)
    (fun x a => ClosesAlone x.1 a ∧ MarksDirty x a ∧ NoDiscard a) x) :
    x.1.CleanIsDurable x.2 ∧ ∀ t choice w', step opts x.1 t choice = some w' →
      DirtyStep x.1 w' t choice x.2 := by
  have hi : x.1.Inv opts := inv_of_run (h.untrack fun _ _ h => h.1)
  have hst := stable_of_run (h.mono fun _ _ h => ⟨h.1, h.2.1⟩)
  obtain ⟨hsy, hfl⟩ := synced_of_run (h.mono fun _ _ h => ⟨h.1, h.2.2⟩)
  exact ⟨fun f hs => hst.clean f (.inl hs), fun t choice w' hs =>
    ⟨fun f => (step_act hs).cleaned hi hst hsy hfl, (step_act hs).failed hi⟩⟩

end Steps

section Sample

def sampleFlush : List (Bool × Choice Bool Unit) :=
  sampleRegister false 1 ++ sampleNewPage false 1 ++ sampleRelease false ++
    [(false, .call (.flushPage ⟨sampleFile, 1⟩)), (false, .run), (false, .run)] ++
    sampleWriteback false

lemma sampleFlush_runs : (execute (historySystem sampleOptions)
    (fun x a => ClosesAlone x.1 a ∧ MarksDirty x a ∧ NoDiscard a)
    ((World.initial sampleDisk, .initial sampleDisk) : World 1 Bool Unit × History 1)
    sampleFlush).isSome := by decide +kernel

def sampleFlushState : World 1 Bool Unit × History 1 := Option.get _ sampleFlush_runs

lemma sampleFlush_run : Run (historySystem sampleOptions)
    (fun x a => ClosesAlone x.1 a ∧ MarksDirty x a ∧ NoDiscard a) sampleFlushState :=
  (historyRun_initial sampleDisk).of_execute sampleFlush_runs

theorem clean_means_durable_flush :
    SameContent (sampleFlushState.2.stable ⟨sampleFile, 1⟩) (sampleFlushState.2.published 0) := by
  have hid : (sampleFlushState.1.pool.frames 0).page.id = ⟨sampleFile, 1⟩ := by decide +kernel
  rw [← hid]
  exact (clean_means_durable sampleFlush_run).1 0 (by decide +kernel) (by decide +kernel)

/-- The run of `overlapReset` up to the reset of the second frame. -/
def overlapDirty : List (Bool × Choice Bool Unit) := overlapReset.dropLast.dropLast

lemma overlapDirty_runs : (execute (historySystem sampleOptions)
    (fun x a => MarksDirty x a ∧ NoDiscard a)
    ((World.initial sampleDisk, .initial sampleDisk) : World 2 Bool Unit × History 2)
    overlapDirty).isSome := by decide +kernel

def overlapDirtyState : World 2 Bool Unit × History 2 := Option.get _ overlapDirty_runs

theorem dirty_frame_reset : ¬ ∀ x : World 2 Bool Unit × History 2,
    Run (historySystem sampleOptions) (fun x a => MarksDirty x a ∧ NoDiscard a) x →
      x.1.CleanIsDurable x.2 ∧ ∀ t choice w', step sampleOptions x.1 t choice = some w' →
        DirtyStep x.1 w' t choice x.2 := by
  intro h
  have hrun : Run (historySystem sampleOptions) (fun x a => MarksDirty x a ∧ NoDiscard a)
      overlapDirtyState := (historyRun_initial sampleDisk).of_execute overlapDirty_runs
  have hfree : (step sampleOptions overlapDirtyState.1 false .run).map
      (fun w => (w.pool.frames 1).state) = some .free := by decide +kernel
  obtain ⟨w', hs, hw⟩ := Option.map_eq_some_iff.mp hfree
  have hdurable := ((h overlapDirtyState hrun).2 false .run w' hs).cleaned 1 (by decide +kernel)
    (.inr (.inl hw))
  have hlost : (overlapDirtyState.1.pool.frames 1).imageName 1 ∉ overlapDirtyState.2.synced := by
    decide +kernel
  exact hlost hdurable.generation

end Sample

end DBlusBlus.BufferPool
