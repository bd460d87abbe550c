import DBlusBlus.BufferPool.Granted

/-! No lost update: a guard shows its page as the last writer left it, however often the page was
written, evicted and read again since. -/

namespace DBlusBlus.BufferPool

open Accounting Transition

variable {N : ℕ} {T V : Type} {page : PageId} {f g : Fin N}

/-- The page of the `PageIo` call that a thread is in. -/
def Pc.pageIo : Pc N V → Option PageId
  | .readPage page _ _ _ _ => some page
  | .writePage writer _ | .syncFile writer _ => some writer.pageId
  | _ => none

lemma Pc.transfer_of_pageIo {pc : Pc N V} (h : pc.pageIo = some page) :
    ∃ f, pc.transfer = some (page, f) := by
  cases pc
  case readPage f validator =>
    cases h
    exact ⟨f, rfl⟩
  case writePage writer _ | syncFile writer _ =>
    cases h
    exact ⟨writer.transfer.2, by rw [Pc.transfer, ← writer.transfer_fst]⟩
  all_goals cases h

/-- What a thread has just read or written is what the file holds. -/
def Pc.OnDisk (disk : Disk) (history : History N) : Pc N V → Prop
  | .finishLoad page _ _ _ (.ok ()) _ => disk.bytes page = history.stable page
  | .syncFile writer image => disk.bytes writer.pageId = image
  | .finishWrite writer (.ok ()) => disk.bytes writer.pageId = history.stable writer.pageId
  | _ => True

lemma Pc.onDisk_of_idle {disk : Disk} {history : History N} {pc : Pc N V}
    (h : pc.isIdle = true) : pc.OnDisk disk history := by
  obtain ⟨last, rfl⟩ := Pc.exists_idle h
  trivial

lemma Pc.OnDisk.congr {disk disk' : Disk} {history history' : History N} {pc : Pc N V}
    (h : pc.OnDisk disk history)
    (hd : ∀ page f, pc.transfer = some (page, f) → disk'.bytes page = disk.bytes page)
    (hs : ∀ page f, pc.transfer = some (page, f) → history'.stable page = history.stable page) :
    pc.OnDisk disk' history' := by
  have moved {writer : Writer N} (ht : pc.transfer = some writer.transfer) :
      pc.transfer = some (writer.pageId, writer.transfer.2) := by
    rw [ht, ← writer.transfer_fst]
  cases pc
  case finishLoad page mode load f read outcome =>
    cases read with
    | error => trivial
    | ok => exact (hd page f rfl).trans (h.trans (hs page f rfl).symm)
  case syncFile writer image => exact (hd _ _ (moved rfl)).trans h
  case finishWrite writer written =>
    cases written with
    | error => trivial
    | ok => exact (hd _ _ (moved rfl)).trans (h.trans (hs _ _ (moved rfl)).symm)
  all_goals trivial

structure World.OnDisk (w : World N T V) (history : History N) : Prop where
  clean : ∀ f, (w.pool.frames f).InUse → (w.pool.frames f).dirty = false →
    w.disk.bytes (w.pool.frames f).page.id = history.stable (w.pool.frames f).page.id
  thread : ∀ t, (w.pc t).OnDisk w.disk history

def Pool.Away (pool : Pool N) (page : PageId) : Prop :=
  ∀ f, (pool.frames f).InUse → (pool.frames f).page.id ≠ page

/-- What the last writer of a page left is in its frame, or else in its file. -/
structure World.Lossless (w : World N T V) (left : PageId → PageBytes) : Prop where
  shown : ∀ f, (w.pool.frames f).InUse → (w.pool.frames f).latch.exclusive = false →
    SameContent (w.pool.frames f).page.bytes (left (w.pool.frames f).page.id)
  away : ∀ page, w.pool.Away page → SameContent (w.disk.bytes page) (left page)

section Moves

variable [NeZero N] {pool pool' : Pool N} {pc pc' : Pc N V} {limit : ℕ}
  {opts : BufferPoolOptions}

lemma Move.creates (h : pool.WellFormed limit) (hr : Ready pool pc)
    (hm : Move opts pool pc pool' pc') (hc : pc'.created = some page) :
    ∃ f, pc = .newPageFinish page f true .valid ∧ (pool'.frames f).state = .resident ∧
      (pool'.frames f).page.id = page := by
  cases hm with
  | quiet replacer hq =>
    cases hq with
    | @matchingEnd status caller => cases caller <;> cases status <;> cases hc
    | @flushSettled page caller => cases caller <;> cases hc
    | @unpinNone f assignment => cases assignment <;> cases hc
    | _ => cases hc
  | @publishNew created f _ _ _ _ hv =>
    cases hc
    have hi := demand_loading.mp (hr.due (.entry created (.loading f none))
      (by simp [Pc.resources]))
    exact ⟨f, by rw [hv], by simp, by simpa using (h.bound_loading hi).1⟩
  | @failWriteback _ _ _ _ caller => cases caller <;> cases hc
  | @unpin f assignment => cases assignment <;> cases hc
  | _ => cases hc

lemma Move.created_of_inUse {outcome : PageValidationOutcome} {built : Bool}
    (h : pool.WellFormed limit) (hr : Ready pool (.newPageFinish page f built outcome : Pc N V))
    (hm : Move opts pool (.newPageFinish page f built outcome) pool' pc')
    (hu : (pool'.frames f).InUse) : pc'.created = some page := by
  cases hm with
  | fault hm _ => exact absurd hm (hr.not_missing h)
  | quiet _ hq => cases hq
  | reserveVictim _ hpc => rcases hpc with ⟨n, hpc⟩ | ⟨v, hpc⟩ <;> cases hpc
  | failNew => simp [BufferFrame.InUse] at hu
  | publishNew => rfl

lemma Move.onDisk {disk : Disk} {history : History N} (hm : Move opts pool pc pool' pc') :
    pc'.OnDisk disk history := by
  cases hm with
  | quiet replacer hq =>
    cases hq with
    | @matchingEnd status caller => cases caller <;> cases status <;> trivial
    | @flushSettled page caller => cases caller <;> trivial
    | @unpinNone f assignment => cases assignment <;> trivial
    | _ => trivial
  | @failWriteback _ _ _ _ caller => cases caller <;> trivial
  | @unpin f assignment => cases assignment <;> trivial
  | _ => trivial

end Moves

section Steps

variable [DecidableEq T] [DecidableEq V] [NeZero N] [Fintype T] [Fintype V]
  {opts : BufferPoolOptions} {w w' : World N T V} {t u : T} {choice : Choice T V}
  {history : History N} {left : PageId → PageBytes}

omit [NeZero N] [Fintype T] [Fintype V] [DecidableEq T] in
/-- What is left of a page changes when an exclusive guard goes, and when the page is created. -/
lemma record_left (left : PageId → PageBytes) (w w' : World N T V) (t : T)
    (choice : Choice T V) :
    History.recordLeft left w (t, choice) w' = left ∨
    (∃ op v f bindingEpoch, choice = .guard op ∧ op.releases = some v ∧
      w.guards t v = some ⟨f, bindingEpoch, .exclusive⟩ ∧
      History.recordLeft left w (t, choice) w' =
        Function.update left (w.pool.frames f).page.id (w.pool.frames f).page.bytes) ∨
    ∃ page f built outcome, choice = .run ∧ w.pc t = .newPageFinish page f built outcome ∧
      (w'.pc t).created = some page ∧ History.recordLeft left w (t, choice) w' =
        Function.update left page (w'.pool.frames f).page.bytes := by
  simp only [History.recordLeft]
  split
  case h_1 op =>
    split
    case h_1 f bindingEpoch hg =>
      obtain ⟨v, hv, hg⟩ := Option.bind_eq_some_iff.mp hg
      exact .inr (.inl ⟨op, v, f, bindingEpoch, rfl, hv, hg, rfl⟩)
    case h_2 => exact .inl rfl
  case h_2 page f built outcome hpc =>
    split
    · exact .inr (.inr ⟨page, f, built, outcome, rfl, hpc, ‹_›, rfl⟩)
    · exact .inl rfl
  case h_3 => exact .inl rfl

namespace World.Inv

omit [DecidableEq T] [DecidableEq V] in
lemma inUse_unique (h : w.Inv opts) (hf : (w.pool.frames f).InUse) (hg : (w.pool.frames g).InUse)
    (hid : (w.pool.frames f).page.id = (w.pool.frames g).page.id) : f = g := by
  obtain ⟨entry, he, rfl, -⟩ := h.inUse_entry hf
  obtain ⟨entry', he', rfl, -⟩ := h.inUse_entry hg
  rw [hid, he'] at he
  rw [Option.some.inj he]

lemma not_exclusive_of_unpinned (h : w.Inv opts) (hp : (w.pool.frames f).pinCount = 0) :
    (w.pool.frames f).latch.exclusive = false := by
  cases hl : (w.pool.frames f).latch.exclusive with
  | false => rfl
  | true =>
    have := h.exclusive_pinned hl
    omega

lemma filling_away (h : w.Inv opts) (ht : (w.pc t).filling = some (page, f)) :
    w.pool.Away page := by
  rintro g hg rfl
  obtain ⟨load, he, -⟩ := entry_of_filling h.accounted ht
  obtain ⟨entry, he', -, hs⟩ := h.inUse_entry hg
  rw [← Option.some.inj (he.symm.trans he')] at hs
  rcases hs with hs | hs <;> cases hs

lemma diskWrite (h : w.Inv opts) (ha : Act opts w t choice w') (page : PageId) :
    w'.disk.bytes page = w.disk.bytes page ∨ ∃ f, (w.pc t).transfer = some (page, f) ∧
      (w.pool.frames f).dirty = true ∧ (w.pool.frames f).InUse ∧
      (w.pool.frames f).page.id = page := by
  rcases ha.diskBytes with heq | ⟨writer, image, bytes, -, -, hpc, -, -, heq, -⟩
  · exact .inl (congrFun heq page)
  · by_cases hp : page = writer.pageId
    · subst hp
      have hm : ∀ r ∈ writer.resources, r ∈ (w.pc t).resources w.pool.loads := by
        rw [hpc]
        exact fun r hr => hr
      have ht : (w.pc t).transfer = some (writer.pageId, writer.transfer.2) := by
        rw [hpc, ← writer.transfer_fst]
        rfl
      exact .inr ⟨_, ht, (h.writing_dirty hm).1, (h.writing_dirty hm).2, (h.transfer_bound ht).1⟩
    · rw [heq, Function.update_of_ne hp]
      exact .inl rfl

lemma disk_kept (h : w.Inv opts) (ha : Act opts w t choice w') (hu : u ≠ t)
    (ht : (w.pc u).transfer = some (page, f)) : w'.disk.bytes page = w.disk.bytes page := by
  rcases h.diskWrite ha page with heq | ⟨g, ht', -⟩
  · exact heq
  · exact absurd (h.transfer_unique ht ht') hu

lemma disk_clean (h : w.Inv opts) (ha : Act opts w t choice w') (hu : (w.pool.frames f).InUse)
    (hd : (w.pool.frames f).dirty = false) :
    w'.disk.bytes (w.pool.frames f).page.id = w.disk.bytes (w.pool.frames f).page.id := by
  rcases h.diskWrite ha (w.pool.frames f).page.id with heq | ⟨g, -, hdirty, hg, hid⟩
  · exact heq
  · obtain rfl := h.inUse_unique hg hu hid
    rw [hd] at hdirty
    cases hdirty

end World.Inv

namespace World.OnDisk

lemma clean_step (h : w.OnDisk history) (hi : w.Inv opts) (ha : Act opts w t choice w')
    (hu : (w'.pool.frames f).InUse) (hd : (w'.pool.frames f).dirty = false) :
    w'.disk.bytes (w'.pool.frames f).page.id =
      (history.record w (t, choice) w').stable (w'.pool.frames f).page.id := by
  have kept (hu : (w.pool.frames f).InUse)
      (hid : (w'.pool.frames f).page.id = (w.pool.frames f).page.id)
      (hdirty : (w.pool.frames f).dirty = false) :
      w'.disk.bytes (w'.pool.frames f).page.id =
        (history.record w (t, choice) w').stable (w'.pool.frames f).page.id := by
    rw [hid, hi.disk_clean ha hu hdirty, World.Stable.stable_clean hi hu hdirty]
    exact h.clean f hu hdirty
  have critical (hc : choice = .run) : w'.disk.bytes = w.disk.bytes ∧
      (history.record w (t, choice) w').stable = history.stable := by
    subst hc
    refine ⟨?_, rfl⟩
    rcases ha.diskBytes with heq | ⟨_, _, _, _, _, _, hc, _⟩
    · exact heq
    · cases hc
  cases ha.frameChange hi f with
  | critical hc hs =>
    obtain ⟨hdisk, hstable⟩ := critical hc
    cases hs with
    | kept hu _ hpage _ _ _ hdirty => exact kept hu (by rw [hpage]) (hdirty ▸ hd)
    | cleaned hpc hs hid he hg hf =>
      have hthread := h.thread t
      rw [hpc] at hthread
      subst hid
      rw [hdisk, hstable, hf]
      exact hthread
    | hidden hn => exact absurd hu hn
    | loaded hpc hs hid hf =>
      have hthread := h.thread t
      rw [hpc] at hthread
      subst hid
      rw [hdisk, hstable, hf]
      exact hthread
    | created _ _ _ hf =>
      rw [hf] at hd
      cases hd
  | touch ht =>
    obtain ⟨frame', hf⟩ : ∃ frame', w'.pool.frames f = frame' := ⟨_, rfl⟩
    have touched (hs : frame'.state = (w.pool.frames f).state) : (w.pool.frames f).InUse := by
      rw [hf] at hu
      simpa only [BufferFrame.InUse, hs] using hu
    rw [hf] at ht
    cases ht with
    | marked =>
      rw [hf] at hd
      cases hd
    | _ => exact kept (touched rfl) (by rw [hf]) (by rw [hf] at hd; exact hd)

omit [Fintype T] [Fintype V] in
lemma thread_self (h : w.OnDisk history) (hr : HonestRead w (t, choice))
    (ha : Act opts w t choice w') :
    (w'.pc t).OnDisk w'.disk (history.record w (t, choice) w') := by
  cases ha with
  | @critical turn hlock hcs hm =>
    rw [World.finish_pc]
    exact hm.onDisk
  | @readPage page mode load f validator result output hpc =>
    rw [World.setPc_pc]
    cases result with
    | error => trivial
    | ok =>
      simp only [HonestRead, hpc] at hr
      simp [Pc.OnDisk, World.setPc, World.setFrame, History.record, History.recordStable, hpc, hr]
  | @written writer image torn hpc => simp [World.setPc, Pc.OnDisk]
  | @synced writer image hpc =>
    have hthread := h.thread t
    rw [hpc] at hthread
    rw [World.setPc_pc]
    simpa [Pc.OnDisk, World.setPc, History.record, History.recordStable, hpc] using hthread
  | @call call =>
    rw [World.setPc_pc]
    cases call with
    | registerFile file validator =>
      rw [startCall]
      split <;> trivial
    | _ => trivial
  | release | assign =>
    rw [releaseGuard_pc]
    trivial
  | mutate hidle | markDirty hidle | move hidle | noGuard hidle => exact Pc.onDisk_of_idle hidle
  | wake => exact (h.thread t).congr (fun _ _ _ => rfl) fun _ _ _ => rfl
  | writeFailed => simp [World.setPc, Pc.OnDisk]
  | extended => simp [World.setPc, Pc.OnDisk]
  | _ =>
    rw [World.setPc_pc]
    trivial

theorem step (h : w.OnDisk history) (hi : w.Inv opts) (hr : HonestRead w (t, choice))
    (hs : BufferPool.step opts w t choice = some w') :
    w'.OnDisk (history.record w (t, choice) w') where
  clean _ := h.clean_step hi (step_act hs)
  thread u := by
    by_cases hu : u = t
    · subst hu
      exact h.thread_self hr (step_act hs)
    · rw [(step_act hs).others hu]
      exact (h.thread u).congr (fun _ _ ht => hi.disk_kept (step_act hs) hu ht)
        fun _ _ ht => hi.stable_kept hu ht

omit [DecidableEq T] [DecidableEq V] [Fintype T] [Fintype V] in
theorem initial (disk : Disk) : (World.initial disk : World N T V).OnDisk (.initial disk) where
  clean _ hu := by rcases hu with hu | hu <;> cases hu
  thread _ := trivial

end World.OnDisk

section Left

lemma left_shown (hi : w.Inv opts) (hu : (w.pool.frames f).InUse) :
    History.recordLeft left w (t, choice) w' (w.pool.frames f).page.id =
      left (w.pool.frames f).page.id ∨ (w.pool.frames f).latch.exclusive = true := by
  rcases record_left left w w' t choice with heq |
    ⟨op, v, g, bindingEpoch, -, -, hg, heq⟩ | ⟨page, g, built, outcome, -, hpc, -, heq⟩
  · exact .inl (congrFun heq _)
  · by_cases hid : (w.pool.frames f).page.id = (w.pool.frames g).page.id
    · obtain rfl := hi.inUse_unique hu (.inl (hi.guard_resident hg)) hid
      exact .inr (hi.exclusive_of_guard hg)
    · rw [heq, Function.update_of_ne hid]
      exact .inl rfl
  · have hne : (w.pool.frames f).page.id ≠ page :=
      hi.filling_away (t := t) (f := g) (by rw [hpc]; rfl) f hu
    rw [heq, Function.update_of_ne hne]
    exact .inl rfl

/-- Nothing new is left of a page that no frame shows. -/
lemma left_away (hi : w.Inv opts) (hs : step opts w t choice = some w')
    (haway : w'.pool.Away page) :
    History.recordLeft left w (t, choice) w' page = left page := by
  rcases record_left left w w' t choice with heq |
    ⟨op, v, g, bindingEpoch, -, -, hg, heq⟩ | ⟨created, g, built, outcome, rfl, hpc, hc, heq⟩
  · exact congrFun heq _
  · have hpin : 0 < (w.pool.frames g).pinCount := by
      refine demand_pin.mp (Balanced.pos hi.accounted (x := .inr (t, v)) ?_)
      simp [World.holding, hg, guardResources]
    have hheld := (hi.pinStep hs).held g hpin
    have hne : page ≠ (w.pool.frames g).page.id := by
      rintro rfl
      exact haway g (.inl (hheld.state.trans (hi.guard_resident hg))) hheld.id
    rw [heq, Function.update_of_ne hne]
  · have hne : page ≠ created := by
      rintro rfl
      cases step_act hs with
      | critical hlock hcs hm =>
        rw [World.finish_pc] at hc
        obtain ⟨f, -, hf, hid⟩ := hm.creates hi.wellFormed (hi.ready t) hc
        exact haway f (.inl hf) hid
      | grant hold | latchForCopy hold | copyImage hold | buildNone hold | build hold
      | takeFrom hold =>
        rw [hpc] at hold
        cases hold
    rw [heq, Function.update_of_ne hne]

end Left

namespace World.Lossless

omit [DecidableEq T] [DecidableEq V] [NeZero N] [Fintype T] [Fintype V] in
lemma left_onDisk (h : w.Lossless left) (hst : w.Stable history)
    (hu : (w.pool.frames f).InUse) (hl : (w.pool.frames f).latch.exclusive = false)
    (hstable : SameContent (history.stable (w.pool.frames f).page.id) (history.published f))
    (hdisk : w.disk.bytes (w.pool.frames f).page.id = history.stable (w.pool.frames f).page.id) :
    SameContent (w.disk.bytes (w.pool.frames f).page.id)
      (left (w.pool.frames f).page.id) :=
  calc
    SameContent (w.disk.bytes (w.pool.frames f).page.id)
        (history.stable (w.pool.frames f).page.id) := by rw [hdisk]
    SameContent _ (history.published f) := hstable
    SameContent _ (w.pool.frames f).page.bytes := (hst.shown f hu (hst.marked f hu hl)).symm
    SameContent _ (left (w.pool.frames f).page.id) := h.shown f hu hl

lemma gone (h : w.Lossless left) (hst : w.Stable history) (hd : w.OnDisk history)
    (hfl : w.FlushRetirements) (hi : w.Inv opts) (ha : Act opts w t choice w')
    (hu : (w.pool.frames f).InUse)
    (hn : (w'.pool.frames f).InUse → (w'.pool.frames f).page.id ≠ (w.pool.frames f).page.id) :
    SameContent (w.disk.bytes (w.pool.frames f).page.id)
      (left (w.pool.frames f).page.id) := by
  have clean (hp : (w.pool.frames f).pinCount = 0) (hc : (w.pool.frames f).dirty = false) :
      SameContent (w.disk.bytes (w.pool.frames f).page.id)
        (left (w.pool.frames f).page.id) :=
    h.left_onDisk hst hu (hi.not_exclusive_of_unpinned hp) (hst.clean f hu hc) (hd.clean f hu hc)
  have loading (hs : (w.pool.frames f).state = .loading) : False := by
    rcases hu with hu | hu <;> rw [hs] at hu <;> cases hu
  rcases ha.touches with ⟨turn, -, -, hm, rfl⟩ | ⟨ht, -⟩
  · have hstep := hm.frame hi.wellFormed (hi.ready t) f
    change (turn.pool.frames f).InUse → (turn.pool.frames f).page.id ≠ _ at hn
    generalize turn.pool.frames f = frame' at hstep hn
    generalize turn.pc = pc' at hstep
    cases hstep with
    | retired hpc hp hs hpin hio =>
      refine clean hpin ?_
      rw [← Bool.not_eq_true]
      intro hdirty
      exact List.not_mem_nil (hfl.reset t _ hpc _ _ (inScope_iff.mpr (by simp [hp]))
        (hi.wellFormed.resident hs).1 hdirty)
    | dropped _ hs _ hclean => exact clean (hi.wellFormed.evicting hs).2.1 hclean
    | @evicted requester victim hpc hs hid =>
      have hthread := hst.thread t
      have hdisk := hd.thread t
      rw [hpc] at hthread hdisk
      subst hid
      exact h.left_onDisk hst hu
        (hi.not_exclusive_of_unpinned (hi.wellFormed.evicting hs).2.1) hthread hdisk
    | bound hs =>
      rcases hu with hu | hu <;> rw [hs] at hu <;> cases hu
    | discarded _ hs | loaded _ _ hs | created _ hs => exact (loading hs).elim
    | reserved => exact absurd rfl (hn (.inr rfl))
    | restored => exact absurd rfl (hn (.inl rfl))
    | _ => exact absurd rfl (hn hu)
  · have ht := ht f
    generalize w'.pool.frames f = frame' at ht hn
    cases ht <;> exact absurd rfl (hn hu)

lemma shown_step (h : w.Lossless left) (hst : w.Stable history) (hd : w.OnDisk history)
    (hi : w.Inv opts) (ha : Act opts w t choice w') (hu : (w'.pool.frames f).InUse)
    (hl : (w'.pool.frames f).latch.exclusive = false) :
    SameContent (w'.pool.frames f).page.bytes
      (History.recordLeft left w (t, choice) w' (w'.pool.frames f).page.id) := by
  have kept (hu : (w.pool.frames f).InUse) (hold : (w.pool.frames f).latch.exclusive = false)
      (hpage : (w'.pool.frames f).page = (w.pool.frames f).page) :
      SameContent (w'.pool.frames f).page.bytes
        (History.recordLeft left w (t, choice) w' (w'.pool.frames f).page.id) := by
    rw [hpage, (left_shown hi hu).resolve_right (by simp [hold])]
    exact h.shown f hu hold
  have hchange := ha.frameChange hi f
  cases hchange with
  | critical hc hs =>
    cases hs with
    | kept hu _ hpage hlatch => exact kept hu (hlatch ▸ hl) hpage
    | cleaned _ hs _ _ _ hf =>
      rw [hf] at hl
      exact kept (.inl hs) hl (by rw [hf])
    | hidden hn => exact absurd hu hn
    | @loaded page mode load outcome hpc hs hid hf =>
      have hthread := hst.thread t
      have hdisk := hd.thread t
      rw [hpc] at hthread hdisk
      have hleft : History.recordLeft left w (t, choice) w' = left := by
        subst hc
        simp [History.recordLeft, hpc]
      have hpage : (w'.pool.frames f).page = (w.pool.frames f).page := by rw [hf]
      rw [hpage, hid, hleft, hthread, ← hdisk]
      exact h.away page (hi.filling_away (t := t) (f := f) (by rw [hpc]; rfl))
    | @created page hpc hs hid hf =>
      subst hc
      have hcreated : (w'.pc t).created = some page := by
        cases ha with
        | critical hlock hcs hm =>
          have hr := hi.ready t
          rw [hpc] at hm hr
          rw [World.finish_pc]
          exact hm.created_of_inUse hi.wellFormed hr hu
        | grant hold | latchForCopy hold | copyImage hold | buildNone hold | build hold
        | takeFrom hold =>
          rw [hpc] at hold
          cases hold
      have hleft : History.recordLeft left w (t, .run) w' page = (w'.pool.frames f).page.bytes := by
        simp [History.recordLeft, hpc, hcreated]
      have hpage : (w'.pool.frames f).page.id = page := by rw [hf, hid]
      rw [hpage, hleft]
  | touch ht =>
    obtain ⟨frame', hf⟩ : ∃ frame', w'.pool.frames f = frame' := ⟨_, rfl⟩
    have touched (hs : frame'.state = (w.pool.frames f).state) : (w.pool.frames f).InUse := by
      rw [hf] at hu
      simpa only [BufferFrame.InUse, hs] using hu
    rw [hf] at hl ht
    cases ht with
    | kept => exact kept (touched rfl) hl (by rw [hf])
    | @latched mode =>
      refine kept (touched rfl) ?_ (by rw [hf])
      cases mode with
      | shared => exact hl
      | exclusive => cases hl
    | copied => exact kept (touched rfl) hl (by rw [hf])
    | @released op v bindingEpoch mode hc hr hg =>
      cases mode with
      | shared => exact kept (touched rfl) hl (by rw [hf])
      | exclusive =>
        subst hc
        have hleft : History.recordLeft left w (t, .guard op) w' (w.pool.frames f).page.id =
            (w.pool.frames f).page.bytes := by
          simp [History.recordLeft, hr, hg]
        rw [hf, hleft]
    | mutated _ hg =>
      rw [hi.exclusive_of_guard hg] at hl
      cases hl
    | marked _ hg =>
      rw [hi.exclusive_of_guard hg] at hl
      cases hl
    | filled hfill =>
      have hs := (hi.filling_loading hfill).2
      rcases touched rfl with hu | hu <;> rw [hs] at hu <;> cases hu

lemma away_step (h : w.Lossless left) (hst : w.Stable history) (hd : w.OnDisk history)
    (hfl : w.FlushRetirements) (hi : w.Inv opts)
    (hs : BufferPool.step opts w t choice = some w') (haway : w'.pool.Away page) :
    SameContent (w'.disk.bytes page) (History.recordLeft left w (t, choice) w' page) := by
  have ha := step_act hs
  rw [left_away hi hs haway]
  by_cases hold : ∃ f, (w.pool.frames f).InUse ∧ (w.pool.frames f).page.id = page
  · obtain ⟨f, hu, rfl⟩ := hold
    rcases ha.diskBytes with heq | ⟨_, _, _, _, _, _, _, _, _, hpool⟩
    · rw [heq]
      exact h.gone hst hd hfl hi ha hu (haway f)
    · rw [hpool] at haway
      exact absurd rfl (haway f hu)
  · simp only [not_exists, not_and] at hold
    rcases hi.diskWrite ha page with heq | ⟨f, -, -, hu, hid⟩
    · rw [heq]
      exact h.away page hold
    · exact absurd hid (hold f hu)

theorem step (h : w.Lossless left) (hst : w.Stable history) (hd : w.OnDisk history)
    (hfl : w.FlushRetirements) (hi : w.Inv opts)
    (hs : BufferPool.step opts w t choice = some w') :
    w'.Lossless (History.recordLeft left w (t, choice) w') where
  shown _ := h.shown_step hst hd hi (step_act hs)
  away _ := h.away_step hst hd hfl hi hs

omit [DecidableEq T] [DecidableEq V] [Fintype T] [Fintype V] in
theorem initial (disk : Disk) : (World.initial disk : World N T V).Lossless disk.bytes where
  shown _ hu := by rcases hu with hu | hu <;> cases hu
  away _ _ := .refl _

end World.Lossless

/-- One lifecycle call per file at a time, writers that mark their pages, no discarding retirement,
and files that read back what was written. -/
def KeepsUpdates (x : World N T V × History N) (a : T × Choice T V) : Prop :=
  OneLifecycle x.1 a ∧ MarksDirty x a ∧ NoDiscard a ∧ HonestRead x.1 a

instance (x : World N T V × History N) (a : T × Choice T V) : Decidable (KeepsUpdates x a) :=
  inferInstanceAs (Decidable (_ ∧ _))

variable {x : World N T V × History N}

lemma keepsUpdates_alone (h : Run (historySystem opts) KeepsUpdates x) : Run (historySystem opts)
    (fun x a => ClosesAlone x.1 a ∧ MarksDirty x a ∧ NoDiscard a ∧ HonestRead x.1 a) x :=
  h.mono_of_run fun _ a hr hok =>
    ⟨(closesAlone_of_oneLifecycle (hr.untrack fun _ _ h => h.1)).2.closesAlone a, hok.2⟩

lemma onDisk_of_run (h : Run (historySystem opts)
    (fun x a => ClosesAlone x.1 a ∧ HonestRead x.1 a) x) : x.1.OnDisk x.2 := by
  refine h.invariant_of_run (I := fun x => x.1.OnDisk x.2) ?_ ?_
  · rintro ⟨w, history⟩ ⟨⟨disk, hw⟩, hx⟩
    dsimp only at hw hx ⊢
    subst hw hx
    exact World.OnDisk.initial disk
  · rintro ⟨w, history⟩ ⟨t, choice⟩ ⟨w', history'⟩ hrun hd ⟨-, hhonest⟩ hs
    obtain ⟨hstep, hrec⟩ := track_step.mp hs
    dsimp only at hstep hrec
    subst hrec
    exact hd.step (inv_of_run (hrun.untrack fun _ _ h => h.1)) hhonest hstep

lemma lossless_of_run (h : Run (historySystem opts) KeepsUpdates x) : x.1.Lossless x.2.left := by
  refine (keepsUpdates_alone h).invariant_of_run (I := fun x => x.1.Lossless x.2.left) ?_ ?_
  · rintro ⟨w, history⟩ ⟨⟨disk, hw⟩, hx⟩
    dsimp only at hw hx ⊢
    subst hw hx
    exact World.Lossless.initial disk
  · rintro ⟨w, history⟩ ⟨t, choice⟩ ⟨w', history'⟩ hrun hx - hs
    obtain ⟨hstep, hrec⟩ := track_step.mp hs
    dsimp only at hstep hrec
    subst hrec
    have hi : w.Inv opts := inv_of_run (hrun.untrack fun _ _ h => h.1)
    have hst := stable_of_run (hrun.mono fun _ _ h => ⟨h.1, h.2.1⟩)
    have hd := onDisk_of_run (hrun.mono fun _ _ h => ⟨h.1, h.2.2.2⟩)
    have hfl := (synced_of_run (hrun.mono fun _ _ h => ⟨h.1, h.2.2.1⟩)).2
    exact hx.step hst hd hfl hi hstep

omit [Fintype T] [Fintype V] in
lemma Act.grants {result : Outcome} {mode : LatchMode} (ha : Act opts w t choice w')
    (hpc : w.pc u = .makeGuard result f mode) (hidle : (w'.pc u).isIdle = true) :
    (w.pool.frames f).latch.canAcquire mode = true ∧ w'.pc u = .idle result ∧
      w'.guards u none = some ⟨f, (w.pool.frames f).bindingEpoch, mode⟩ ∧
      (w'.pool.frames f).page = (w.pool.frames f).page := by
  by_cases hu : u = t
  · subst hu
    have idle (hi : (w.pc u).isIdle = true) : False := by
      rw [hpc] at hi
      cases hi
    cases ha with
    | critical hlock hcs hm =>
      rw [hpc] at hcs
      cases hcs
    | grant hold hc =>
      rw [hpc] at hold
      cases hold
      refine ⟨hc, World.setPc_pc .., ?_, ?_⟩
      · simp [World.setPc, World.setGuard]
      · exact World.latchFrame_page ..
    | wake =>
      rw [show _ = w.pc u from rfl, hpc] at hidle
      cases hidle
    | call hi | mutate hi | markDirty hi | release hi | assign hi | move hi | noGuard hi =>
      exact (idle hi).elim
    | latchForCopy hold | copyImage hold | buildNone hold | build hold | takeFrom hold
    | registerCount hold | registerCountFailed hold | countFailed hold | reusePage hold
    | needExtension hold | extended hold | extendFailed hold | readPage hold | written hold
    | writeFailed hold | synced hold | syncFailed hold =>
      rw [hpc] at hold
      cases hold
  · rw [ha.others hu, hpc] at hidle
    cases hidle

theorem no_lost_update (h : Run (historySystem opts) KeepsUpdates x) :
    (∀ t choice w' u, step opts x.1 t choice = some w' → ReturnsGuard x.1 w' u →
      ∃ last page g, w'.pc u = .idle last ∧ last.grants = some page ∧ w'.guards u none = some g ∧
        (w'.pool.frames g.frameId).page.id = page ∧
        SameContent (w'.pool.frames g.frameId).page.bytes (x.2.left page)) ∧
    (∀ t u page, (x.1.pc t).pageIo = some page → (x.1.pc u).pageIo = some page → t = u) ∧
    ∀ t page mode load f validator, x.1.pc t = .readPage page mode load f validator →
      SameContent (x.1.disk.bytes page) (x.2.left page) := by
  have hrun : Run (poolSystem opts) ClosesAlone x.1 :=
    (keepsUpdates_alone h).untrack fun _ _ h => h.1
  have hi := inv_of_run hrun
  have hnamed := named_of_run hrun
  have hlossless := lossless_of_run h
  refine ⟨fun t choice w' u hs hr => ?_, fun t u page ht hu => ?_,
    fun t page mode load f _ hpc => ?_⟩
  · have ha := step_act hs
    obtain ⟨result, f, mode, hpc⟩ := ha.returnsGuard hr
    obtain ⟨-, last, hlast, hgranted⟩ := hr
    obtain ⟨hc, hidle, hguard, hpage⟩ := ha.grants hpc (by rw [Pc.outcome_some hlast]; rfl)
    rw [hidle] at hlast
    obtain rfl := Option.some.inj hlast
    obtain ⟨page, hpageId⟩ := Outcome.grants_of_granted hgranted
    have hid : (x.1.pool.frames f).page.id = page :=
      hnamed u page f (by rw [hpc, Pc.pinned, hpageId]; rfl)
    have hpin := demand_pin.mp ((hi.ready u).due (.frame f .pin)
      (by rw [hpc]; exact List.mem_cons_self ..))
    have hl : (x.1.pool.frames f).latch.exclusive = false := by
      cases mode <;> simp_all [Latch.canAcquire]
    refine ⟨result, page, _, hidle, hpageId, hguard, by rw [hpage, hid], ?_⟩
    rw [hpage, ← hid]
    exact hlossless.shown f (.inl (hi.wellFormed.resident_of_pinned hpin)) hl
  · obtain ⟨f, ht⟩ := Pc.transfer_of_pageIo ht
    obtain ⟨g, hu⟩ := Pc.transfer_of_pageIo hu
    exact hi.transfer_unique ht hu
  · exact hlossless.away page (hi.filling_away (t := t) (f := f) (by rw [hpc]; rfl))

end Steps

section Sample

/-- A new page whose eviction fails, and a fetch that is about to return it. -/
def sampleRestored : List (Bool × Choice Bool Unit) :=
  sampleRegister false 1 ++ sampleNewPage false 1 ++ sampleRelease false ++
    sampleNewPageStart false sampleInitializer ++
    [(false, .writePage (.error sampleReadError) PageBytes.zero), (false, .run), (false, .run),
      (false, .call (.fetch samplePage .shared)), (false, .run)]

lemma sampleRestored_runs : (execute (historySystem sampleOptions) KeepsUpdates
    ((World.initial sampleDisk, .initial sampleDisk) : World 1 Bool Unit × History 1)
    sampleRestored).isSome := by decide +kernel

def sampleRestoredState : World 1 Bool Unit × History 1 := Option.get _ sampleRestored_runs

lemma sampleRestored_run : Run (historySystem sampleOptions) KeepsUpdates sampleRestoredState :=
  (historyRun_initial sampleDisk).of_execute sampleRestored_runs

lemma sampleRestored_returns : ∃ w', step sampleOptions sampleRestoredState.1 false .run = some w' ∧
    (sampleRestoredState.1.pc false).isIdle = false ∧
    (w'.pc false).outcome = some (.fetch samplePage .shared (.ok ())) := by
  have hs : (step sampleOptions sampleRestoredState.1 false .run).map
      (fun w => (w.pc false).outcome) = some (some (.fetch samplePage .shared (.ok ()))) := by
    decide +kernel
  obtain ⟨w', hs, hw⟩ := Option.map_eq_some_iff.mp hs
  exact ⟨w', hs, by decide +kernel, hw⟩

theorem no_lost_update_restored : ∃ w' g, step sampleOptions sampleRestoredState.1 false .run =
      some w' ∧ w'.guards false none = some g ∧
    SameContent (w'.pool.frames g.frameId).page.bytes (sampleRestoredState.2.left samplePage) := by
  obtain ⟨w', hs, hbusy, hlast⟩ := sampleRestored_returns
  obtain ⟨last, page, g, hpc, hgrants, hg, -, hsame⟩ :=
    (no_lost_update sampleRestored_run).1 false .run w' false hs ⟨hbusy, _, hlast, rfl⟩
  rw [hpc] at hlast
  obtain rfl := Option.some.inj hlast
  obtain rfl := Option.some.inj hgrants
  exact ⟨w', g, hs, hg, hsame⟩

end Sample

end DBlusBlus.BufferPool
