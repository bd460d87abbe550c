import DBlusBlus.BufferPool.History

/-! A clean frame shows the image that is stable on disk. -/

namespace DBlusBlus.BufferPool

open Accounting Transition

variable {N : ℕ} {T V : Type} {page : PageId} {f : Fin N} {limit : ℕ}

/-- The frame shows a page to fetches, or is written before it gives the page up. -/
def BufferFrame.InUse (frame : BufferFrame) : Prop :=
  frame.state = .resident ∨ frame.state = .evicting

/-- What a critical section does to a frame in use, or to one that comes into use. -/
inductive ImageStep (pool : Pool N) (pc : Pc N V) (f : Fin N) (frame' : BufferFrame) : Prop
  | kept : (pool.frames f).InUse → frame'.InUse → frame'.page = (pool.frames f).page →
    frame'.latch = (pool.frames f).latch → frame'.bindingEpoch = (pool.frames f).bindingEpoch →
    frame'.modificationGeneration = (pool.frames f).modificationGeneration →
    frame'.dirty = (pool.frames f).dirty → ImageStep pool pc f frame'
  | cleaned {page : PageId} {bindingEpoch copiedGeneration caller} :
    pc = .finishWrite (.flush f page bindingEpoch copiedGeneration caller) (.ok ()) →
    (pool.frames f).state = .resident → (pool.frames f).page.id = page →
    (pool.frames f).bindingEpoch = bindingEpoch →
    (pool.frames f).modificationGeneration = copiedGeneration →
    frame' = { pool.frames f with ioState := .none, dirty := false } → ImageStep pool pc f frame'
  | hidden : ¬ frame'.InUse →
    frame'.modificationGeneration = (pool.frames f).modificationGeneration →
    ImageStep pool pc f frame'
  | loaded {page : PageId} {mode load outcome} : pc = .finishLoad page mode load f (.ok ()) outcome →
    (pool.frames f).state = .loading → (pool.frames f).page.id = page →
    frame' = { pool.frames f with
      state := .resident, ioState := .none, pinCount := (pool.loads load).claims } →
    ImageStep pool pc f frame'
  | created {page : PageId} : pc = .newPageFinish page f true .valid → (pool.frames f).state = .loading →
    (pool.frames f).page.id = page →
    frame' = { pool.frames f with
      state := .resident, pinCount := 1, dirty := true,
      modificationGeneration := (pool.frames f).modificationGeneration + 1 } →
    ImageStep pool pc f frame'

section Frames

variable {pool : Pool N} {pc pc' : Pc N V} {frame' : BufferFrame}

lemma FrameStep.image (h : FrameStep pool pc f frame' pc') : ImageStep pool pc f frame' := by
  cases h with
  | kept =>
    by_cases hu : (pool.frames f).InUse
    · exact .kept hu hu rfl rfl rfl rfl rfl
    · exact .hidden hu rfl
  | pinned _ hs => exact .kept (.inl hs) (.inl hs) rfl rfl rfl rfl rfl
  | unpinned =>
    by_cases hu : (pool.frames f).InUse
    · exact .kept hu hu rfl rfl rfl rfl rfl
    · exact .hidden hu rfl
  | bound => exact .hidden (by simp [BufferFrame.InUse]) rfl
  | retired | dropped | evicted | discarded =>
    exact .hidden (by simp [BufferFrame.InUse, BufferFrame.cleared]) rfl
  | @loaded page mode load read outcome hpc hl hs hid =>
    obtain ⟨rfl, -⟩ := loadFailure_none hl
    exact .loaded hpc hs hid rfl
  | created hpc hs hid => exact .created hpc hs hid rfl
  | reserved _ he =>
    exact .kept (.inl ((isVictimEligible_iff f).mp he).1) (.inr rfl) rfl rfl rfl rfl rfl
  | evictionStarted _ hs => exact .kept (.inr hs) (.inr hs) rfl rfl rfl rfl rfl
  | restored _ hs => exact .kept (.inr hs) (.inl rfl) rfl rfl rfl rfl rfl
  | writebackStarted _ hs => exact .kept (.inl hs) (.inl hs) rfl rfl rfl rfl rfl
  | @writtenBack page bindingEpoch copiedGeneration caller hpc hs hid he =>
    by_cases hg : (pool.frames f).modificationGeneration = copiedGeneration
    · exact .cleaned hpc hs hid he hg (by rw [if_pos hg])
    · exact .kept (.inl hs) (.inl hs) rfl rfl rfl rfl (if_neg hg)
  | writebackFailed _ hs => exact .kept (.inl hs) (.inl hs) rfl rfl rfl rfl rfl

end Frames

/-- An image that a writer has copied holds what its frame has published, unless a later mutation
was published meanwhile. -/
def Writer.Holds (pool : Pool N) (published : Fin N → PageBytes) (image : PageBytes) :
    Writer N → Prop
  | .evict _ f _ => SameContent image (published f)
  | .flush f _ _ copiedGeneration _ =>
    copiedGeneration ≤ (pool.frames f).modificationGeneration ∧
      ((pool.frames f).modificationGeneration = copiedGeneration → SameContent image (published f))

def Pc.Stable (pool : Pool N) (history : History N) : Pc N V → Prop
  | .finishLoad page _ _ f (.ok ()) _ =>
    (pool.frames f).page.bytes = history.stable page
  | .writePage writer image | .syncFile writer image => writer.Holds pool history.published image
  | .finishWrite writer (.ok ()) =>
    writer.Holds pool history.published (history.stable writer.pageId)
  | _ => True

lemma Pc.stable_of_idle {pool : Pool N} {history : History N} {pc : Pc N V}
    (h : pc.isIdle = true) : pc.Stable pool history := by
  obtain ⟨last, rfl⟩ := Pc.exists_idle h
  trivial

lemma Pc.Stable.congr {pool : Pool N} {history history' : History N} {pc : Pc N V}
    (h : pc.Stable pool history) (hp : history'.published = history.published)
    (hs : history'.stable = history.stable) : pc.Stable pool history' := by
  cases pc
  case finishLoad read _ | finishWrite _ read =>
    cases read with
    | error => trivial
    | ok => simpa only [Pc.Stable, hp, hs] using h
  case writePage | syncFile => simpa only [Pc.Stable, hp] using h
  all_goals trivial

structure World.Stable (w : World N T V) (history : History N) : Prop where
  marked : ∀ f, (w.pool.frames f).InUse → (w.pool.frames f).latch.exclusive = false →
    history.unmarked f = false
  shown : ∀ f, (w.pool.frames f).InUse → history.unmarked f = false →
    SameContent (w.pool.frames f).page.bytes (history.published f)
  clean : ∀ f, (w.pool.frames f).InUse → (w.pool.frames f).dirty = false →
    SameContent (history.stable (w.pool.frames f).page.id) (history.published f)
  thread : ∀ t, (w.pc t).Stable w.pool history

section Steps

variable [DecidableEq T] [DecidableEq V] [NeZero N] [Fintype T] [Fintype V]
  {opts : BufferPoolOptions} {w w' : World N T V} {t u : T} {choice : Choice T V}
  {history : History N}

inductive FrameChange (w : World N T V) (t : T) (choice : Choice T V) (f : Fin N)
    (frame' : BufferFrame) : Prop
  | critical : choice = .run → ImageStep w.pool (w.pc t) f frame' → FrameChange w t choice f frame'
  | touch : FrameTouch w t choice f frame' → FrameChange w t choice f frame'

lemma Act.frameChange (ha : Act opts w t choice w') (h : w.Inv opts) (f : Fin N) :
    FrameChange w t choice f (w'.pool.frames f) := by
  rcases ha.touches with ⟨turn, hc, -, hm, rfl⟩ | ⟨ht, -⟩
  · exact .critical hc (hm.frame h.wellFormed (h.ready t) f).image
  · exact .touch (ht f)

omit [DecidableEq T] [NeZero N] [Fintype T] [Fintype V] in
lemma record_published (hn : ¬ (w.pool.frames f).Publishes (w'.pool.frames f)) :
    (history.record w (t, choice) w').published f = history.published f :=
  if_neg hn

omit [DecidableEq T] [NeZero N] [Fintype T] [Fintype V] in
lemma record_publishes (hp : (w.pool.frames f).Publishes (w'.pool.frames f)) :
    (history.record w (t, choice) w').published f = (w'.pool.frames f).page.bytes :=
  if_pos hp

omit [DecidableEq T] [NeZero N] [Fintype T] [Fintype V] in
/-- The bytes of a frame that is not being published change without a mark by a mutation only. -/
lemma record_unmarked (hn : ¬ (w.pool.frames f).Publishes (w'.pool.frames f)) :
    (history.record w (t, choice) w').unmarked f = history.unmarked f ∨
      (history.record w (t, choice) w').unmarked f = true ∧ ∃ v bytes bindingEpoch,
        choice = .guard (.mutate v bytes) ∧ w.guards t v = some ⟨f, bindingEpoch, .exclusive⟩ := by
  simp only [History.record, History.recordUnmarked, if_neg hn]
  split
  case h_1 v bytes =>
    cases hg : w.guards t v with
    | none => simp
    | some g =>
      obtain ⟨g, bindingEpoch, mode⟩ := g
      by_cases hf : g = f ∧ mode = .exclusive
      · obtain ⟨rfl, rfl⟩ := hf
        exact .inr ⟨by simp, v, bytes, bindingEpoch, rfl, hg⟩
      · left
        simp only [Option.any_some]
        rcases not_and_or.mp hf with hne | hne <;> simp [hne]
  case h_2 => exact .inl rfl

omit [DecidableEq T] [NeZero N] [Fintype T] [Fintype V] in
lemma record_unmarked_false (hn : ¬ (w.pool.frames f).Publishes (w'.pool.frames f))
    (hm : (history.record w (t, choice) w').unmarked f = false) :
    history.unmarked f = false ∧ ¬ ∃ v bytes bindingEpoch,
      choice = .guard (.mutate v bytes) ∧ w.guards t v = some ⟨f, bindingEpoch, .exclusive⟩ := by
  simp only [History.record, History.recordUnmarked, if_neg hn] at hm
  split at hm
  case h_1 v bytes =>
    simp only [Bool.or_eq_false_iff] at hm
    refine ⟨hm.1, ?_⟩
    rintro ⟨v', bytes', bindingEpoch, hc, hg⟩
    cases hc
    simp [hg] at hm
  case h_2 hne =>
    refine ⟨hm, ?_⟩
    rintro ⟨v', bytes', bindingEpoch, hc, -⟩
    exact hne _ _ hc

omit [DecidableEq T] [NeZero N] [Fintype T] [Fintype V] in
lemma record_unmarked_publishes (hp : (w.pool.frames f).Publishes (w'.pool.frames f)) :
    (history.record w (t, choice) w').unmarked f = false :=
  if_pos hp

omit [DecidableEq T] [NeZero N] [Fintype T] [Fintype V] in
lemma record_stable (w w' : World N T V) (t : T) (choice : Choice T V) (history : History N) :
    (history.record w (t, choice) w').stable = history.stable ∨
    (∃ page mode load g validator output, w.pc t = .readPage page mode load g validator ∧
      choice = .readPage (.ok ()) output ∧ (history.record w (t, choice) w').stable =
        Function.update history.stable page output) ∨
    ∃ writer image, w.pc t = .syncFile writer image ∧ choice = .syncFile (.ok ()) ∧
      (history.record w (t, choice) w').stable =
        Function.update history.stable writer.pageId image := by
  simp only [History.record, History.recordStable]
  split
  case h_1 output page mode load g validator hpc =>
    exact .inr (.inl ⟨page, mode, load, g, validator, output, hpc, rfl, rfl⟩)
  case h_2 writer image hpc => exact .inr (.inr ⟨writer, image, hpc, rfl, rfl⟩)
  case h_3 => exact .inl rfl

namespace World.Inv

lemma exclusive_of_guard (h : w.Inv opts) {v : GuardVar V} {bindingEpoch : ℕ}
    (hg : w.guards t v = some ⟨f, bindingEpoch, .exclusive⟩) :
    (w.pool.frames f).latch.exclusive = true := by
  have hm : Resource.frame f .exclusive ∈ w.holding (.inr (t, v)) := by
    simp [World.holding, hg, guardResources, LatchMode.role]
  simpa [Pool.demand, BufferFrame.demand] using Balanced.pos h.accounted hm

lemma guard_resident (h : w.Inv opts) {v : GuardVar V} {g : PageGuard N}
    (hg : w.guards t v = some g) : (w.pool.frames g.frameId).state = .resident := by
  have hm : Resource.frame g.frameId .pin ∈ w.holding (.inr (t, v)) := by
    simp [World.holding, hg, guardResources]
  exact h.wellFormed.resident_of_pinned (demand_pin.mp (Balanced.pos h.accounted hm))

omit [DecidableEq T] [DecidableEq V] in
lemma inUse_entry (h : w.Inv opts) (hu : (w.pool.frames f).InUse) :
    ∃ entry, w.pool.pageTable.lookup (w.pool.frames f).page.id = some entry ∧
      entry.frameId = f ∧ (entry.state = .resident ∨ entry.state = .evicting) := by
  rcases hu with hs | hs
  · exact ⟨_, (h.wellFormed.resident hs).1, rfl, .inl rfl⟩
  · exact ⟨_, (h.wellFormed.evicting hs).1, rfl, .inr rfl⟩

lemma transfer_inUse {g : Fin N} (h : w.Inv opts) (hu : (w.pool.frames f).InUse)
    (ht : (w.pc t).transfer = some ((w.pool.frames f).page.id, g)) : g = f := by
  obtain ⟨entry, he, hf, -⟩ := h.inUse_entry hu
  obtain ⟨entry', he', hg, -⟩ := h.transfer_entry ht
  rw [← hf, ← hg, Option.some.inj (he.symm.trans he')]

lemma writing_dirty (h : w.Inv opts) {writer : Writer N} (hm : ∀ r ∈ writer.resources,
    r ∈ (w.pc t).resources w.pool.loads) :
    (w.pool.frames writer.transfer.2).dirty = true ∧
      (w.pool.frames writer.transfer.2).InUse := by
  cases writer with
  | evict requester g victim =>
    obtain ⟨hs, hio, -⟩ := demand_eviction.mp ((h.ready t).due _ (hm _ (List.mem_cons_self ..)))
    obtain ⟨-, -, hw⟩ := h.wellFormed.evicting hs
    exact ⟨(hw.resolve_left hio).2, .inr hs⟩
  | flush g page bindingEpoch copiedGeneration caller =>
    obtain ⟨hs, hio, -⟩ := demand_writeback.mp ((h.ready t).due _ (hm _ (List.mem_cons_self ..)))
    obtain ⟨-, -, hw⟩ := h.wellFormed.resident hs
    exact ⟨(hw.resolve_left hio).2, .inl hs⟩

lemma not_exclusive_of_shared (h : w.Inv opts)
    (hm : Resource.frame f .shared ∈ (w.pc t).resources w.pool.loads) :
    (w.pool.frames f).latch.exclusive = false := by
  have hd : 0 < w.pool.demand (.frame f .shared) := (h.ready t).due _ hm
  cases hl : (w.pool.frames f).latch.exclusive with
  | false => rfl
  | true => simp [Pool.demand, BufferFrame.demand, h.wellFormed.latched f hl] at hd

lemma filling_kept (h : w.Inv opts) (ha : Act opts w t choice w') (hu : u ≠ t)
    (hf : (w.pc u).filling = some (page, f)) :
    (w'.pool.frames f).page = (w.pool.frames f).page := by
  obtain ⟨hid, hs⟩ := h.filling_loading hf
  rcases ha.touches with ⟨turn, -, -, hm, rfl⟩ | ⟨ht, -⟩
  · have hstep := hm.frame h.wellFormed (h.ready t) f
    change (turn.pool.frames f).page = _
    generalize turn.pool.frames f = frame at hstep ⊢
    generalize turn.pc = pc' at hstep
    cases hstep with
    | bound hfree => simp [hs] at hfree
    | retired _ _ hf => simp [hs] at hf
    | dropped _ hf | evicted _ hf => simp [hs] at hf
    | discarded hd =>
      rcases hd with ⟨_, _, _, _, hpc⟩ | ⟨_, _, hpc⟩ <;>
        exact absurd (h.filling_unique hf (by rw [hpc]; rfl)) hu
    | _ => rfl
  · have ht := ht f
    generalize w'.pool.frames f = frame at ht ⊢
    cases ht with
    | mutated _ hg =>
      have := h.guard_resident hg
      simp [hs] at this
    | filled hf' => exact absurd (h.filling_unique hf hf') hu
    | _ => rfl

lemma stable_kept (h : w.Inv opts) (hu : u ≠ t) (ht : (w.pc u).transfer = some (page, f)) :
    (history.record w (t, choice) w').stable page = history.stable page := by
  rcases record_stable w w' t choice history with heq |
    ⟨page', mode, load, g, validator, output, hpc, -, heq⟩ |
    ⟨writer, image, hpc, -, heq⟩ <;> rw [heq]
  · refine Function.update_of_ne ?_ ..
    rintro rfl
    exact hu (h.transfer_unique ht (by rw [hpc]; rfl))
  · refine Function.update_of_ne ?_ ..
    rintro rfl
    have ht' : (w.pc t).transfer = some (writer.pageId, writer.transfer.2) := by
      rw [hpc, ← writer.transfer_fst]
      rfl
    exact hu (h.transfer_unique ht ht')

end World.Inv

lemma not_publishes {frame frame' : BufferFrame} (hu : frame.InUse)
    (hg : frame'.modificationGeneration = frame.modificationGeneration) :
    ¬ frame.Publishes frame' := by
  rintro (hne | ⟨hs, -⟩)
  · exact hne hg
  · rcases hu with hu | hu <;> rw [hu] at hs <;> cases hs

lemma publishes_of_loading {frame frame' : BufferFrame} (hs : frame.state = .loading)
    (hs' : frame'.state = .resident) : frame.Publishes frame' :=
  .inr ⟨hs, hs'⟩

namespace World.Stable

lemma marked_step (h : w.Stable history) (hi : w.Inv opts)
    (hok : MarksDirty (w, history) (t, choice)) (ha : Act opts w t choice w')
    (hu : (w'.pool.frames f).InUse) (hl : (w'.pool.frames f).latch.exclusive = false) :
    (history.record w (t, choice) w').unmarked f = false := by
  by_cases hp : (w.pool.frames f).Publishes (w'.pool.frames f)
  · exact record_unmarked_publishes hp
  · have kept (hu : (w.pool.frames f).InUse)
        (hold : (w.pool.frames f).latch.exclusive = false) :
        (history.record w (t, choice) w').unmarked f = false := by
      rcases record_unmarked hp with heq | ⟨-, v, bytes, epoch, -, hg⟩
      · exact heq.trans (h.marked f hu hold)
      · rw [hi.exclusive_of_guard hg] at hold
        cases hold
    cases ha.frameChange hi f with
    | critical hc hs =>
      cases hs with
      | kept hu _ _ hlatch => exact kept hu (hlatch ▸ hl)
      | cleaned _ hs _ _ _ hf =>
        rw [hf] at hl
        exact kept (.inl hs) hl
      | hidden hn => exact absurd hu hn
      | loaded _ hs _ hf | created _ hs _ hf =>
        exact absurd (publishes_of_loading hs (by rw [hf])) hp
    | touch ht =>
      have touched {frame' : BufferFrame} (hf : w'.pool.frames f = frame')
          (hs : frame'.state = (w.pool.frames f).state) : (w.pool.frames f).InUse := by
        rw [hf] at hu
        simpa only [BufferFrame.InUse, hs] using hu
      generalize hf : w'.pool.frames f = frame' at ht
      rw [hf] at hl
      cases ht with
      | kept => exact kept (touched hf rfl) hl
      | @latched mode =>
        refine kept (touched hf rfl) ?_
        cases mode with
        | shared => exact hl
        | exclusive => cases hl
      | copied => exact kept (touched hf rfl) hl
      | @released op v bindingEpoch mode hc hr hg =>
        cases mode with
        | shared => exact kept (touched hf rfl) hl
        | exclusive =>
          subst hc
          rcases record_unmarked hp with heq | ⟨-, v', bytes, _, hc', -⟩
          · exact heq.trans (hok ⟨f, bindingEpoch, .exclusive⟩ (by simp [hr, hg]) rfl)
          · cases hc'
            cases hr
      | mutated hc hg => exact kept (touched hf rfl) hl
      | marked =>
        refine absurd (.inl ?_) hp
        simp [hf]
      | filled => exact kept (touched hf rfl) hl

lemma shown_step (h : w.Stable history) (hi : w.Inv opts) (ha : Act opts w t choice w')
    (hu : (w'.pool.frames f).InUse)
    (hm : (history.record w (t, choice) w').unmarked f = false) :
    SameContent (w'.pool.frames f).page.bytes
      ((history.record w (t, choice) w').published f) := by
  by_cases hp : (w.pool.frames f).Publishes (w'.pool.frames f)
  · rw [record_publishes hp]
  · rw [record_published hp]
    have hmold := record_unmarked_false hp hm
    have kept (hu : (w.pool.frames f).InUse)
        (hpage : (w'.pool.frames f).page = (w.pool.frames f).page) :
        SameContent (w'.pool.frames f).page.bytes (history.published f) := by
      rw [hpage]
      exact h.shown f hu hmold.1
    cases ha.frameChange hi f with
    | critical hc hs =>
      cases hs with
      | kept hu _ hpage => exact kept hu hpage
      | cleaned _ hs _ _ _ hf => exact kept (.inl hs) (by rw [hf])
      | hidden hn => exact absurd hu hn
      | loaded _ hs _ hf | created _ hs _ hf =>
        exact absurd (publishes_of_loading hs (by rw [hf])) hp
    | touch ht =>
      have touched {frame' : BufferFrame} (hf : w'.pool.frames f = frame')
          (hs : frame'.state = (w.pool.frames f).state) : (w.pool.frames f).InUse := by
        rw [hf] at hu
        simpa only [BufferFrame.InUse, hs] using hu
      obtain ⟨frame', hf⟩ : ∃ frame', w'.pool.frames f = frame' := ⟨_, rfl⟩
      rw [hf] at ht
      cases ht with
      | kept | latched | copied | released => exact kept (touched hf rfl) (by rw [hf])
      | mutated hc hg => exact absurd ⟨_, _, _, hc, hg⟩ hmold.2
      | marked =>
        refine absurd (.inl ?_) hp
        simp [hf]
      | filled hfill =>
        have hs := (hi.filling_loading hfill).2
        have hu := touched hf rfl
        rcases hu with hu | hu <;> rw [hs] at hu <;> cases hu

lemma stable_clean (hi : w.Inv opts) (hu : (w.pool.frames f).InUse)
    (hd : (w.pool.frames f).dirty = false) :
    (history.record w (t, choice) w').stable (w.pool.frames f).page.id =
      history.stable (w.pool.frames f).page.id := by
  rcases record_stable w w' t choice history with heq |
    ⟨page, mode, load, g, validator, output, hpc, -, heq⟩ | ⟨writer, image, hpc, -, heq⟩ <;>
    rw [heq]
  · refine Function.update_of_ne ?_ ..
    rintro rfl
    have hfill : (w.pc t).filling = some ((w.pool.frames f).page.id, g) := by rw [hpc]; rfl
    obtain ⟨load, he, -⟩ := World.Inv.entry_of_filling hi.accounted hfill
    obtain ⟨entry, he', -, hs⟩ := hi.inUse_entry hu
    rw [← Option.some.inj (he.symm.trans he')] at hs
    rcases hs with hs | hs <;> cases hs
  · refine Function.update_of_ne ?_ ..
    intro hp
    have ht : (w.pc t).transfer = some writer.transfer := by rw [hpc]; rfl
    rw [← writer.transfer_fst] at hp
    have hf : writer.transfer.2 = f := hi.transfer_inUse hu (by rw [hp]; exact ht)
    have hm : ∀ r ∈ writer.resources, r ∈ (w.pc t).resources w.pool.loads := by
      rw [hpc]
      exact fun r hr => hr
    have hdirty := (hi.writing_dirty hm).1
    rw [hf, hd] at hdirty
    cases hdirty

lemma clean_step (h : w.Stable history) (hi : w.Inv opts) (ha : Act opts w t choice w')
    (hu : (w'.pool.frames f).InUse) (hd : (w'.pool.frames f).dirty = false) :
    SameContent ((history.record w (t, choice) w').stable (w'.pool.frames f).page.id)
      ((history.record w (t, choice) w').published f) := by
  have kept (hu : (w.pool.frames f).InUse)
      (hpage : (w'.pool.frames f).page.id = (w.pool.frames f).page.id)
      (hgen : (w'.pool.frames f).modificationGeneration =
        (w.pool.frames f).modificationGeneration)
      (hdirty : (w.pool.frames f).dirty = false) :
      SameContent ((history.record w (t, choice) w').stable (w'.pool.frames f).page.id)
        ((history.record w (t, choice) w').published f) := by
    rw [record_published (not_publishes hu hgen), hpage, stable_clean hi hu hdirty]
    exact h.clean f hu hdirty
  cases ha.frameChange hi f with
  | critical hc hs =>
    have hst : (history.record w (t, choice) w').stable = history.stable := by
      subst hc
      rfl
    cases hs with
    | kept hu _ hpage _ _ hgen hdirty => exact kept hu (by rw [hpage]) hgen (hdirty ▸ hd)
    | cleaned hpc hs hid he hg hf =>
      have hthread := h.thread t
      rw [hpc] at hthread
      rw [record_published (not_publishes (.inl hs) (by rw [hf])), hst, hf]
      subst hid
      exact hthread.2 hg
    | hidden hn => exact absurd hu hn
    | loaded hpc hs hid hf =>
      have hthread := h.thread t
      rw [hpc] at hthread
      rw [record_publishes (publishes_of_loading hs (by rw [hf])), hst, hf]
      subst hid
      rw [← hthread]
    | created _ _ _ hf =>
      rw [hf] at hd
      cases hd
  | touch ht =>
    have touched {frame' : BufferFrame} (hf : w'.pool.frames f = frame')
        (hs : frame'.state = (w.pool.frames f).state) : (w.pool.frames f).InUse := by
      rw [hf] at hu
      simpa only [BufferFrame.InUse, hs] using hu
    obtain ⟨frame', hf⟩ : ∃ frame', w'.pool.frames f = frame' := ⟨_, rfl⟩
    rw [hf] at ht
    cases ht with
    | marked =>
      rw [hf] at hd
      cases hd
    | _ => exact kept (touched hf rfl) (by rw [hf]) (by rw [hf]) (by rw [hf] at hd; exact hd)

end World.Stable

omit [DecidableEq T] [NeZero N] [Fintype T] [Fintype V] in
lemma FrameChange.generation_le {frame' : BufferFrame} (h : FrameChange w t choice f frame') :
    (w.pool.frames f).modificationGeneration ≤ frame'.modificationGeneration := by
  cases h with
  | critical _ hs =>
    cases hs with
    | kept _ _ _ _ _ hg => exact hg.ge
    | hidden _ hg => exact hg.ge
    | cleaned _ _ _ _ _ hf | loaded _ _ _ hf => rw [hf]
    | created _ _ _ hf =>
      rw [hf]
      exact Nat.le_succ _
  | touch ht =>
    cases ht with
    | marked => exact Nat.le_succ _
    | _ => exact le_rfl

lemma FrameChange.generation_evicting {frame' : BufferFrame} (hi : w.Inv opts)
    (h : FrameChange w t choice f frame') (hs : (w.pool.frames f).state = .evicting) :
    frame'.modificationGeneration = (w.pool.frames f).modificationGeneration := by
  cases h with
  | critical _ hstep =>
    cases hstep with
    | kept _ _ _ _ _ hg => exact hg
    | hidden _ hg => exact hg
    | cleaned _ _ _ _ _ hf | loaded _ _ _ hf => rw [hf]
    | created _ hl =>
      rw [hs] at hl
      cases hl
  | touch ht =>
    cases ht with
    | marked _ hg =>
      have := hi.guard_resident hg
      rw [hs] at this
      cases this
    | _ => rfl

lemma Writer.Holds.step {writer : Writer N} {image : PageBytes} (hi : w.Inv opts)
    (ha : Act opts w t choice w')
    (hm : ∀ r ∈ writer.resources, r ∈ (w.pc u).resources w.pool.loads)
    (h : writer.Holds w.pool history.published image) :
    writer.Holds w'.pool (history.record w (t, choice) w').published image := by
  cases writer with
  | evict requester f victim =>
    obtain ⟨hs, -, -⟩ := demand_eviction.mp ((hi.ready u).due _ (hm _ (List.mem_cons_self ..)))
    have hg := (ha.frameChange hi f).generation_evicting hi hs
    rw [Writer.Holds, record_published (not_publishes (.inr hs) hg)]
    exact h
  | flush f page bindingEpoch copiedGeneration caller =>
    obtain ⟨hs, -, -⟩ := demand_writeback.mp ((hi.ready u).due _ (hm _ (List.mem_cons_self ..)))
    have hle := (ha.frameChange hi f).generation_le
    obtain ⟨hc, himage⟩ := h
    refine ⟨hc.trans hle, fun hg => ?_⟩
    have hgen : (w'.pool.frames f).modificationGeneration =
        (w.pool.frames f).modificationGeneration := by omega
    rw [record_published (not_publishes (.inl hs) hgen)]
    exact himage (hgen.symm.trans hg)

omit [DecidableEq V] [Fintype V] in
lemma Move.writes_victim {pool pool' pool'' : Pool N} {pc pc' : Pc N V}
    (hm : Move opts pool pc pool' pc') : pc'.Stable pool'' history ∨
      ∃ requester f victim, pc = .victimReserved requester f victim ∧
        pc' = .writePage (.evict requester f victim)
          (finalizePageChecksum (pool.frames f).page.bytes) := by
  cases hm with
  | quiet replacer hq =>
    cases hq with
    | @matchingEnd status caller => cases caller <;> cases status <;> exact .inl trivial
    | @flushSettled page caller => cases caller <;> exact .inl trivial
    | @unpinNone f assignment => cases assignment <;> exact .inl trivial
    | _ => exact .inl trivial
  | startEviction => exact .inr ⟨_, _, _, rfl, rfl⟩
  | @failWriteback _ _ _ _ caller => cases caller <;> exact .inl trivial
  | @unpin f assignment => cases assignment <;> exact .inl trivial
  | _ => exact .inl trivial

namespace World.Stable

lemma thread_other (h : w.Stable history) (hi : w.Inv opts) (ha : Act opts w t choice w')
    (hu : u ≠ t) : (w.pc u).Stable w'.pool (history.record w (t, choice) w') := by
  have hthread := h.thread u
  have hm := (hi.ready u).due
  cases hpc : w.pc u
  case finishLoad page mode load f read outcome =>
    rw [hpc] at hthread
    cases read with
    | error => trivial
    | ok =>
      have hf : (w.pc u).filling = some (page, f) := by rw [hpc]; rfl
      simp only [Pc.Stable] at hthread ⊢
      rw [hi.filling_kept ha hu hf, hi.stable_kept hu (Pc.transfer_of_filling hf)]
      exact hthread
  case writePage writer image | syncFile writer image =>
    rw [hpc] at hthread
    exact hthread.step (u := u) hi ha (by rw [hpc]; exact fun r hr => hr)
  case finishWrite writer written =>
    rw [hpc] at hthread
    cases written with
    | error => trivial
    | ok =>
      have ht : (w.pc u).transfer = some (writer.pageId, writer.transfer.2) := by
        rw [hpc, ← writer.transfer_fst]
        rfl
      simp only [Pc.Stable] at hthread ⊢
      rw [hi.stable_kept hu ht]
      exact hthread.step (u := u) hi ha (by rw [hpc]; exact fun r hr => hr)
  all_goals trivial

omit [DecidableEq T] [DecidableEq V] [NeZero N] [Fintype T] [Fintype V] in
lemma copied (h : w.Stable history) (hu : (w.pool.frames f).InUse)
    (hl : (w.pool.frames f).latch.exclusive = false) :
    SameContent (finalizePageChecksum (w.pool.frames f).page.bytes) (history.published f) :=
  (sameContent_finalize _).trans (h.shown f hu (h.marked f hu hl))

lemma thread_self (h : w.Stable history) (hi : w.Inv opts) (ha : Act opts w t choice w') :
    (w'.pc t).Stable w'.pool (history.record w (t, choice) w') := by
  have hchange := ha.frameChange hi
  cases ha with
  | @critical turn hlock hcs hm =>
    rw [World.finish_pc]
    rcases hm.writes_victim with hs | ⟨requester, f, victim, hpc, hpc'⟩
    · exact hs
    · obtain ⟨hs, -, -⟩ := demand_victim.mp ((hi.ready t).due (.frame f (.victim victim))
        (by rw [hpc]; exact List.mem_cons_self ..))
      rw [hpc']
      simp only [Pc.Stable, Writer.Holds]
      rw [record_published (not_publishes (.inr hs) ((hchange f).generation_evicting hi hs))]
      refine h.copied (.inr hs) ?_
      cases hl : (w.pool.frames f).latch.exclusive with
      | false => rfl
      | true =>
        have := hi.exclusive_pinned hl
        have := (hi.wellFormed.evicting hs).2.1
        omega
  | @copyImage f page bindingEpoch caller hpc =>
    have hm : ∀ r ∈ [Resource.frame f (.writeback page bindingEpoch), Resource.frame f .shared],
        r ∈ (w.pc t).resources w.pool.loads := by
      rw [hpc]
      exact fun r hr => hr
    obtain ⟨hs, -, -⟩ := demand_writeback.mp ((hi.ready t).due _ (hm _ (List.mem_cons_self ..)))
    have hl := hi.not_exclusive_of_shared (hm (.frame f .shared) (by simp))
    rw [World.setPc_pc]
    refine ⟨?_, fun _ => ?_⟩
    · simp [World.setPc, World.latchFrame, World.setFrame]
    · rw [record_published (not_publishes (.inl hs) (by
        simp [World.setPc, World.latchFrame, World.setFrame]))]
      exact h.copied (.inl hs) hl
  | @readPage page mode load f validator result output hpc =>
    rw [World.setPc_pc]
    cases result with
    | error => trivial
    | ok => simp [Pc.Stable, World.setPc, World.setFrame, History.record, History.recordStable, hpc]
  | @written writer image torn hpc =>
    have hthread := h.thread t
    rw [hpc] at hthread
    have hp : (w.setPc t (.syncFile writer image)).pool = w.pool := rfl
    simp only [World.setPc, Function.update_self]
    exact hthread.step (u := t) hi (.written hpc) (by rw [hpc]; exact fun r hr => hr)
  | @synced writer image hpc =>
    have hthread := h.thread t
    rw [hpc] at hthread
    have hst := hthread.step (u := t) hi (.synced hpc) (by rw [hpc]; exact fun r hr => hr)
    rw [World.setPc_pc]
    simp only [Pc.Stable]
    simpa [History.record, History.recordStable, hpc] using hst
  | @call call =>
    rw [World.setPc_pc]
    cases call with
    | registerFile file validator =>
      rw [startCall]
      split <;> trivial
    | _ => trivial
  | release | assign =>
    rw [releaseGuard_pc]
    trivial
  | mutate hidle | markDirty hidle | move hidle | noGuard hidle => exact Pc.stable_of_idle hidle
  | wake =>
    have hn (f : Fin N) : ¬ (w.pool.frames f).Publishes (w.pool.frames f) := by
      rintro (hne | ⟨hs, hs'⟩)
      · exact hne rfl
      · rw [hs] at hs'
        cases hs'
    have hp : (fun f => if (w.pool.frames f).Publishes (w.pool.frames f) then
        (w.pool.frames f).page.bytes else history.published f) = history.published :=
      funext fun f => if_neg (hn f)
    exact (h.thread t).congr hp rfl
  | writeFailed => simp [World.setPc, Pc.Stable]
  | extended => simp [World.setPc, Pc.Stable]
  | _ =>
    rw [World.setPc_pc]
    trivial

theorem step (h : w.Stable history) (hi : w.Inv opts) (hok : MarksDirty (w, history) (t, choice))
    (hs : BufferPool.step opts w t choice = some w') :
    w'.Stable (history.record w (t, choice) w') where
  marked _ := h.marked_step hi hok (step_act hs)
  shown _ hu := fun hm => h.shown_step hi (step_act hs) hu hm
  clean _ := h.clean_step hi (step_act hs)
  thread u := by
    by_cases hu : u = t
    · subst hu
      exact h.thread_self hi (step_act hs)
    · rw [(step_act hs).others hu]
      exact h.thread_other hi (step_act hs) hu

omit [DecidableEq T] [DecidableEq V] [Fintype T] [Fintype V] in
theorem initial (disk : Disk) : (World.initial disk : World N T V).Stable (.initial disk) where
  marked _ hu := by rcases hu with hu | hu <;> cases hu
  shown _ hu := by rcases hu with hu | hu <;> cases hu
  clean _ hu := by rcases hu with hu | hu <;> cases hu
  thread _ := trivial

end World.Stable

theorem stable_of_run {x : World N T V × History N} (h : Run (historySystem opts)
    (fun x a => ClosesAlone x.1 a ∧ MarksDirty x a) x) : x.1.Stable x.2 := by
  refine h.invariant_of_run (I := fun x => x.1.Stable x.2) ?_ ?_
  · rintro ⟨w, history⟩ ⟨⟨disk, hw⟩, hx⟩
    dsimp only at hw hx ⊢
    subst hw hx
    exact World.Stable.initial disk
  · rintro ⟨w, history⟩ ⟨t, choice⟩ ⟨w', history'⟩ hrun hx ⟨hok, hmark⟩ hs
    obtain ⟨hstep, hrec⟩ := track_step.mp hs
    dsimp only at hstep hrec
    subst hrec
    exact hx.step (inv_of_run (hrun.untrack fun _ _ h => h.1)) hmark hstep

end Steps

end DBlusBlus.BufferPool
