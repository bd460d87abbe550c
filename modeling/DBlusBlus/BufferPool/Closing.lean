import DBlusBlus.BufferPool.Balance

/-! A file or a pool that is closed: what drained stays drained across every later move. -/

namespace DBlusBlus.BufferPool

variable {N : ℕ} {V : Type}

section Closed

variable {pool pool' : Pool N} {scope : Option FileId} {limit : ℕ}

lemma inScope_iff {page : PageId} :
    inScope scope page = true ↔ ∀ file, scope = some file → page.fileId = file := by
  cases scope <;> simp [inScope]

/-- Nothing can pin, load or create a page in the scope any more. -/
structure Pool.Closed (pool : Pool N) (scope : Option FileId) : Prop where
  gate : match scope with
    | some file => ∃ entry, pool.files.lookup file = some entry ∧ entry.state = .retiring
    | none => pool.quiescing = true
  quiet : ∀ file entry, (∀ other, scope = some other → file = other) →
    pool.files.lookup file = some entry → entry.newPageInProgress = false
  frame : ∀ page entry, inScope scope page = true → pool.pageTable.lookup page = some entry →
    entry.state = .resident ∧ (pool.frames entry.frameId).pinCount = 0

def Pool.DirtyIn (pool : Pool N) (scope : Option FileId) (rest : List PageId) : Prop :=
  ∀ page entry, inScope scope page = true → pool.pageTable.lookup page = some entry →
    (pool.frames entry.frameId).dirty = true → page ∈ rest

/-- The scope gains no entry, no pin and no dirty frame. -/
def Shrinks (scope : Option FileId) (pool pool' : Pool N) : Prop :=
  ∀ page entry, inScope scope page = true → pool'.pageTable.lookup page = some entry →
    pool.pageTable.lookup page = some entry ∧
      (pool'.frames entry.frameId).pinCount = (pool.frames entry.frameId).pinCount ∧
      ((pool'.frames entry.frameId).dirty = true → (pool.frames entry.frameId).dirty = true)

lemma Shrinks.refl (scope : Option FileId) (pool : Pool N) : Shrinks scope pool pool :=
  fun _ _ _ h => ⟨h, rfl, id⟩

lemma Shrinks.frame (h : Shrinks scope pool pool') (hc : pool.Closed scope) {page : PageId}
    {entry : PageTableEntry N} (hp : inScope scope page = true)
    (he : pool'.pageTable.lookup page = some entry) :
    entry.state = .resident ∧ (pool'.frames entry.frameId).pinCount = 0 := by
  obtain ⟨he, hpin, -⟩ := h page entry hp he
  rw [hpin]
  exact hc.frame page entry hp he

lemma Shrinks.dirtyIn (h : Shrinks scope pool pool') {rest : List PageId}
    (hd : pool.DirtyIn scope rest) : pool'.DirtyIn scope rest := by
  intro page entry hp he hdirty
  obtain ⟨he, -, hdirty'⟩ := h page entry hp he
  exact hd page entry hp he (hdirty' hdirty)

lemma Pool.DirtyIn.settle (hc : pool.Closed scope) {page : PageId} {rest : List PageId}
    (hd : pool.DirtyIn scope (page :: rest)) (hs : Settled pool page) : pool.DirtyIn scope rest := by
  intro q entry hq he hdirty
  rcases List.mem_cons.mp (hd q entry hq he hdirty) with rfl | h
  · have hr := (hc.frame q entry hq he).1
    rcases hs entry he with hi | hl | ⟨-, hclean⟩
    · simp [hi] at hr
    · simp [hl] at hr
    · simp [hclean] at hdirty
  · exact h

lemma shrinks_of_frame (f : Fin N) (hpin : (pool'.frames f).pinCount = (pool.frames f).pinCount)
    (hdirty : (pool'.frames f).dirty = true → (pool.frames f).dirty = true)
    (hframe : ∀ g, g ≠ f → pool'.frames g = pool.frames g)
    (hentry : ∀ q entry, pool'.pageTable.lookup q = some entry →
      pool.pageTable.lookup q = some entry) :
    Shrinks scope pool pool' := by
  intro q entry hq he
  refine ⟨hentry q entry he, ?_⟩
  by_cases hg : entry.frameId = f
  · subst hg
    exact ⟨hpin, hdirty⟩
  · rw [hframe _ hg]
    exact ⟨rfl, id⟩

lemma shrinks_of_entry (page : PageId)
    (hp : inScope scope page = true → pool'.pageTable.lookup page = none)
    (hframe : pool'.frames = pool.frames)
    (hentry : ∀ q, q ≠ page → pool'.pageTable.lookup q = pool.pageTable.lookup q) :
    Shrinks scope pool pool' := by
  intro q entry hq he
  have hqp : q ≠ page := by
    rintro rfl
    rw [hp hq] at he
    cases he
  rw [hentry q hqp] at he
  rw [hframe]
  exact ⟨he, rfl, id⟩

variable [NeZero N]

lemma shrinks_of_local (h : pool.WellFormed limit) (hc : pool.Closed scope) (f : Fin N)
    (page : PageId) (hf : (pool.frames f).state = .free ∨ (pool.frames f).page.id = page)
    (hp : inScope scope page = true → pool'.pageTable.lookup page = none)
    (hframe : ∀ g, g ≠ f → pool'.frames g = pool.frames g)
    (hentry : ∀ q, q ≠ page → pool'.pageTable.lookup q = pool.pageTable.lookup q) :
    Shrinks scope pool pool' := by
  intro q entry hq he
  have hqp : q ≠ page := by
    rintro rfl
    rw [hp hq] at he
    cases he
  rw [hentry q hqp] at he
  have hr := (hc.frame q entry hq he).1
  obtain ⟨hid, hs⟩ := h.bound_resident he hr
  have hg : entry.frameId ≠ f := by
    rintro rfl
    rcases hf with hf | hf
    · simp [hf] at hs
    · exact hqp (hid.symm.trans hf)
  exact ⟨he, by rw [hframe _ hg], by rw [hframe _ hg]; exact id⟩

end Closed

section Moves

variable {pool pool' : Pool N} {scope : Option FileId} {limit : ℕ} [NeZero N]
  {opts : BufferPoolOptions} {pc pc' : Pc N V} {page : PageId}

omit [NeZero N] in
lemma Pool.Closed.not_fetchable (hc : pool.Closed scope) (hp : inScope scope page = true) :
    ¬ Fetchable pool page := by
  intro hf
  obtain ⟨hq, file, hfile, ha, -⟩ := hf.file
  have hg := hc.gate
  cases scope with
  | none => simp [hq] at hg
  | some scope =>
    obtain ⟨entry, he, hr⟩ := hg
    rw [inScope_iff.mp hp scope rfl, he] at hfile
    rw [← Option.some.inj hfile, hr] at ha
    cases ha

lemma Pool.Closed.no_turn (hc : pool.Closed scope) (file : FileId)
    (hf : ∀ other, scope = some other → file = other) : ¬ 0 < pool.demand (.turn file) := by
  intro ht
  obtain ⟨entry, he, hn⟩ := demand_turn.mp ht
  rw [hc.quiet file entry hf he] at hn
  cases hn

lemma Pool.Closed.no_requester (hc : pool.Closed none) (requester : Requester)
    (hr : ∀ r ∈ requester.resources, 0 < pool.demand r) : False := by
  cases requester with
  | fetch page mode load =>
    have hi := demand_intent.mp (hr (.entry page (.intent load)) (by simp [Requester.resources]))
    have := (hc.frame page _ rfl hi).1
    cases this
  | newPage file init =>
    exact hc.no_turn file (by simp) (hr (.turn file) (by simp [Requester.resources]))

lemma Pool.Closed.not_victim (hc : pool.Closed scope) {f : Fin N} {requester : Requester}
    (hpc : (∃ n, pc = .acquireFrame requester n) ∨ ∃ v, pc = .candidateObserved requester f v)
    (hr : Ready pool pc) (he : isVictimEligible pool f = true) :
    ¬ inScope scope (pool.frames f).page.id = true := by
  intro hp
  obtain ⟨-, -, -, entry, hf, ha⟩ := (isVictimEligible_iff f).mp he
  cases scope with
  | none =>
    rcases hpc with ⟨n, rfl⟩ | ⟨v, rfl⟩
    · exact hc.no_requester requester hr.due
    · exact hc.no_requester requester hr.due
  | some file =>
    obtain ⟨other, ho, hret⟩ := hc.gate
    rw [inScope_iff.mp hp file rfl, ho] at hf
    rw [← Option.some.inj hf, hret] at ha
    cases ha

/-- No move brings anything new into a closed scope. -/
theorem Move.shrinks (h : pool.WellFormed limit) (hr : Ready pool pc)
    (hc : pool.Closed scope) (hm : Move opts pool pc pool' pc') : Shrinks scope pool pool' := by
  cases hm with
  | fault hm _ => exact absurd hm (hr.not_missing h)
  | @resetRetired file page entry he hp =>
    obtain ⟨hs, -⟩ := (hr.drained file rfl).frame page entry he hp
    obtain ⟨hid, -⟩ := h.bound_resident he hs
    exact shrinks_of_local h hc entry.frameId page (.inr hid) (fun _ => by simp)
      (fun g hg => by simp [hg]) (fun q hq => by simp [hq])
  | @installIntent page _ _ hf hn =>
    exact shrinks_of_entry page (fun hp => absurd hf (hc.not_fetchable hp)) rfl
      (fun q hq => by simp [hq])
  | @pinHit page _ _ entry hf he hs _ =>
    obtain ⟨hid, -⟩ := h.bound_resident he hs
    exact shrinks_of_local h hc entry.frameId page (.inr hid)
      (fun hp => absurd hf (hc.not_fetchable hp)) (fun g hg => by simp [hg]) (fun q _ => rfl)
  | @reserveVictim _ requester f entry replacer hpc he hl =>
    exact shrinks_of_local h hc f _ (.inr rfl) (fun hp => absurd hp (hc.not_victim hpc hr he))
      (fun g hg => by simp [hg]) (fun q hq => by simp [hq])
  | @startEviction _ f => exact shrinks_of_frame f (by simp) (by simp) (by simp_all) (by simp)
  | @dropClean _ f victim =>
    obtain ⟨-, -, hid⟩ := demand_victim.mp (hr.due _ (List.mem_cons_self ..))
    exact shrinks_of_local h hc f victim (.inr hid) (fun _ => by simp)
      (fun g hg => by simp [hg]) (fun q hq => by simp [hq])
  | @finishEviction _ f victim =>
    obtain ⟨-, -, hid⟩ := demand_eviction.mp (hr.due _ (List.mem_cons_self ..))
    exact shrinks_of_local h hc f victim (.inr hid) (fun _ => by simp)
      (fun g hg => by simp [hg]) (fun q hq => by simp [hq])
  | @restoreVictim _ f victim _ entry hl =>
    obtain ⟨hs, -, hid⟩ := demand_eviction.mp (hr.due _ (List.mem_cons_self ..))
    have hb := (h.evicting hs).1
    rw [hid] at hb
    refine shrinks_of_local h hc f victim (.inr hid) (fun hp => ?_)
      (fun g hg => by simp [hg]) (fun q hq => by simp [hq])
    have := (hc.frame victim _ hp hb).1
    cases this
  | @failIntent page => exact shrinks_of_entry page (fun _ => by simp) rfl (fun q hq => by simp [hq])
  | @bindLoad page mode load f entry file he _ =>
    have hi := demand_intent.mp (hr.due (.entry page (.intent load))
      (by simp [Pc.resources, Requester.resources]))
    obtain ⟨hf, -⟩ := demand_unbound.mp (hr.due (.frame f .unbound) (List.mem_cons_self ..))
    refine shrinks_of_local h hc f page (.inl hf) (fun hp => ?_)
      (fun g hg => by simp [bindFrame, hg]) (fun q hq => by simp [bindFrame, hq])
    have := (hc.frame page _ hp hi).1
    cases this
  | @failLoad page mode load f =>
    have hi := demand_loading.mp (hr.due (.entry page (.loading f (some load)))
      (by simp [Pc.resources]))
    exact shrinks_of_local h hc f page (.inr (h.bound_loading hi).1) (fun _ => by simp)
      (fun g hg => by simp [hg]) (fun q hq => by simp [hq])
  | @publishLoad page mode load f _ _ entry _ he =>
    have hi := demand_loading.mp (hr.due (.entry page (.loading f (some load)))
      (by simp [Pc.resources]))
    refine shrinks_of_local h hc f page (.inr (h.bound_loading hi).1) (fun hp => ?_)
      (fun g hg => by simp [hg]) (fun q hq => by simp [hq])
    have := (hc.frame page _ hp hi).1
    cases this
  | @bindNew file init f pageNo entry he h0 hp =>
    obtain ⟨hf, -⟩ := demand_unbound.mp (hr.due (.frame f .unbound) (List.mem_cons_self ..))
    rw [if_neg (by simpa [AList.lookup_eq_none] using newPage_absent h hr he h0 hp)]
    refine shrinks_of_local h hc f ⟨file, pageNo⟩ (.inl hf) (fun hp => ?_)
      (fun g hg => by simp [bindFrame, hg]) (fun q hq => by simp [bindFrame, hq])
    exact absurd (hr.due (.turn file) (by simp [Pc.resources]))
      (hc.no_turn file (inScope_iff.mp hp))
  | @failNew page f =>
    have hi := demand_loading.mp (hr.due (.entry page (.loading f none)) (by simp [Pc.resources]))
    exact shrinks_of_local h hc f page (.inr (h.bound_loading hi).1) (fun _ => by simp)
      (fun g hg => by simp [hg]) (fun q hq => by simp [hq])
  | @publishNew page f _ entry tableEntry he _ _ _ =>
    have hi := demand_loading.mp (hr.due (.entry page (.loading f none)) (by simp [Pc.resources]))
    refine shrinks_of_local h hc f page (.inr (h.bound_loading hi).1) (fun hp => ?_)
      (fun g hg => by simp [hg]) (fun q hq => by simp [hq])
    have := (hc.frame page _ hp hi).1
    cases this
  | @startWriteback _ _ entry =>
    exact shrinks_of_frame entry.frameId (by simp) (by simp) (by simp_all) (by simp)
  | @finishWriteback f =>
    refine shrinks_of_frame f (by simp) ?_ (by simp_all) (by simp)
    simp only [Pool.setFrame_frames, Function.update_self]
    split
    · simp
    · exact id
  | @failWriteback f => exact shrinks_of_frame f (by simp) (by simp) (by simp_all) (by simp)
  | @unpin f assignment hp =>
    have hpin := demand_pin.mp (hr.due (.frame f .pin) (List.mem_cons_self ..))
    refine shrinks_of_local h hc f (pool.frames f).page.id (.inr rfl) (fun hp => ?_)
      (fun g hg => by simp [hg]) (fun q _ => rfl)
    have hb := (h.resident (h.resident_of_pinned hpin)).1
    have := (hc.frame _ _ hp hb).2
    simp only at this
    omega
  | _ => exact fun _ _ _ he => ⟨he, rfl, id⟩

/-- How a move of the thread at `pc` may change a registration in place. -/
structure FileUpdate (pool : Pool N) (pc : Pc N V) (entry entry' : FileEntry) : Prop where
  validator : entry'.validator = entry.validator
  retiring : entry.state = .retiring → entry'.state = .retiring
  turn : entry'.newPageInProgress = true → entry.newPageInProgress = true ∨
    pool.quiescing = false ∧ entry.state = .active
  published : entry'.publishedPageCount = entry.publishedPageCount ∨
    ∃ page f, pc = .newPageFinish page f true .valid ∧
      pool.files.lookup page.fileId = some entry ∧ entry.state = .active ∧
      entry'.publishedPageCount = page.pageNo + 1

omit [NeZero N] in
lemma lookup_setFile (file : FileId) (entry : FileEntry) :
    (pool.setFile file entry).files.lookup file = some entry := by
  simp

theorem Move.file (hm : Move opts pool pc pool' pc') (hn : ¬ Missing pool pc) (file : FileId) :
    pool'.files.lookup file = pool.files.lookup file ∨
    (∃ validator count, pc = .registerFile file validator count ∧ pool.quiescing = false ∧
      pool.files.lookup file = none ∧
      pool'.files.lookup file = some ⟨.active, validator, count, false⟩) ∨
    (pc = .retireReset file ∧ pc' = .idle (.retireFile file (.ok ())) ∧
      (∀ page : PageId, page.fileId = file → pool.pageTable.lookup page = none) ∧
      pool'.files.lookup file = none) ∨
    ∃ entry entry', pool.files.lookup file = some entry ∧ pool'.files.lookup file = some entry' ∧
      FileUpdate pool pc entry entry' := by
  cases hm with
  | fault hm _ => exact absurd hm hn
  | @registerFile other validator count hq hf =>
    by_cases ho : file = other
    · subst ho
      exact .inr (.inl ⟨validator, count, rfl, hq, AList.lookup_eq_none.mpr hf,
        lookup_setFile _ _⟩)
    · exact .inl (by simp [ho])
  | @beginRetire other _ entry he _ =>
    by_cases ho : file = other
    · subst ho
      exact .inr (.inr (.inr ⟨entry, _, he, lookup_setFile _ _, rfl, fun _ => rfl, .inl,
        .inl rfl⟩))
    · exact .inl (by simp [ho])
  | @closeFile other hnone =>
    by_cases ho : file = other
    · subst ho
      exact .inr (.inr (.inl ⟨rfl, rfl, hnone, by simp⟩))
    · exact .inl (by simp [ho])
  | @endTurn other _ _ entry he =>
    by_cases ho : file = other
    · subst ho
      exact .inr (.inr (.inr ⟨entry, _, he, lookup_setFile _ _, rfl, id, by simp, .inl rfl⟩))
    · exact .inl (by simp [ho])
  | @claimTurn other _ entry hq he ha _ =>
    by_cases ho : file = other
    · subst ho
      exact .inr (.inr (.inr ⟨entry, _, he, lookup_setFile _ _, rfl, id, fun _ => .inr ⟨hq, ha⟩,
        .inl rfl⟩))
    · exact .inl (by simp [ho])
  | @returnFrame other _ _ _ entry _ he =>
    by_cases ho : file = other
    · subst ho
      exact .inr (.inr (.inr ⟨entry, _, he, lookup_setFile _ _, rfl, id, by simp, .inl rfl⟩))
    · exact .inl (by simp [ho])
  | bindNew =>
    left
    split <;> simp [bindFrame]
  | @failNew page _ _ _ entry he _ =>
    by_cases ho : file = page.fileId
    · subst ho
      exact .inr (.inr (.inr ⟨entry, _, he, lookup_setFile _ _, rfl, id, by simp, .inl rfl⟩))
    · exact .inl (by simp [ho])
  | @publishNew page f _ entry _ he hv ha _ =>
    by_cases ho : file = page.fileId
    · subst ho
      subst hv
      exact .inr (.inr (.inr ⟨entry, _, he, lookup_setFile _ _, rfl, id, by simp,
        .inr ⟨page, f, rfl, he, ha, rfl⟩⟩))
    · exact .inl (by simp [ho])
  | _ => exact .inl rfl

lemma Move.quiescing (hm : Move opts pool pc pool' pc') (hn : ¬ Missing pool pc)
    (hq : pool.quiescing = true) : pool'.quiescing = true := by
  cases hm with
  | fault hm _ => exact absurd hm hn
  | bindNew => split <;> exact hq
  | quiesce => rfl
  | _ => exact hq

/-- A closed scope stays closed until its own thread removes the registration. -/
theorem Move.closed (h : pool.WellFormed limit) (hr : Ready pool pc) (hc : pool.Closed scope)
    (hclose : ∀ file, pc = .retireReset file → scope ≠ some file)
    (hm : Move opts pool pc pool' pc') : pool'.Closed scope := by
  have hn := hr.not_missing h
  refine ⟨?_, fun file entry' hs he' => ?_, fun page entry => (hm.shrinks h hr hc).frame hc⟩
  · cases scope with
    | none => exact hm.quiescing hn hc.gate
    | some file =>
      obtain ⟨entry, he, hret⟩ := hc.gate
      rcases hm.file hn file with heq | ⟨_, _, _, _, hnone, _⟩ | ⟨hpc, -⟩ |
        ⟨known, entry', hk, he', hu⟩
      · exact ⟨entry, heq.trans he, hret⟩
      · rw [he] at hnone
        cases hnone
      · exact absurd rfl (hclose file hpc)
      · obtain rfl := Option.some.inj (he.symm.trans hk)
        exact ⟨entry', he', hu.retiring hret⟩
  · rcases hm.file hn file with heq | ⟨_, _, _, _, _, hnew⟩ | ⟨-, -, -, hnone⟩ |
      ⟨known, new, hk, hnew, hu⟩
    · exact hc.quiet file entry' hs (heq ▸ he')
    · rw [hnew] at he'
      rw [← Option.some.inj he']
    · rw [hnone] at he'
      cases he'
    · obtain rfl := Option.some.inj (hnew.symm.trans he')
      by_contra hp
      rcases hu.turn (by simpa using hp) with ht | ⟨hq, ha⟩
      · rw [hc.quiet file known hs hk] at ht
        cases ht
      · have hg := hc.gate
        cases scope with
        | none => simp [hq] at hg
        | some other =>
          obtain ⟨entry, he, hret⟩ := hg
          obtain rfl := hs other rfl
          obtain rfl := Option.some.inj (he.symm.trans hk)
          rw [ha] at hret
          cases hret

omit [NeZero N] in
lemma Pool.Closed.of_fileDrained {file : FileId} {entry : FileEntry}
    (he : pool.files.lookup file = some entry) (hr : entry.state = .retiring)
    (hn : entry.newPageInProgress = false)
    (hd : ∀ page item, pool.pageTable.lookup page = some item → page.fileId = file →
      item.state = .resident ∧ (pool.frames item.frameId).pinCount = 0 ∧
        (pool.frames item.frameId).ioState = .none) :
    pool.Closed (some file) ∧ pool.Drained file := by
  refine ⟨⟨⟨entry, he, hr⟩, ?_, ?_⟩, ?_, hd⟩
  · intro other known hs hk
    rw [hs file rfl, he] at hk
    rw [← Option.some.inj hk, hn]
  · intro page item hp hi
    obtain ⟨hs, hpin, -⟩ := hd page item hi (inScope_iff.mp hp file rfl)
    exact ⟨hs, hpin⟩
  · intro known hk
    rw [he] at hk
    rw [← Option.some.inj hk, hn]

lemma Pool.Closed.drained {file : FileId} (h : pool.WellFormed limit)
    (hc : pool.Closed (some file)) (hd : pool.DirtyIn (some file) []) : pool.Drained file := by
  refine ⟨fun entry => hc.quiet file entry (by simp), fun page entry he hp => ?_⟩
  have hin : inScope (some file) page = true := inScope_iff.mpr (by simp [hp])
  obtain ⟨hs, hpin⟩ := hc.frame page entry hin he
  obtain ⟨hid, hf⟩ := h.bound_resident he hs
  refine ⟨hs, hpin, ?_⟩
  rcases (h.resident hf).2.2 with hio | ⟨-, hdirty⟩
  · exact hio
  · exact absurd (hd page entry hin he hdirty) (List.not_mem_nil)

lemma Pool.Drained.reset {file : FileId} {entry : PageTableEntry N} (h : pool.WellFormed limit)
    (hd : pool.Drained file) (he : pool.pageTable.lookup page = some entry)
    (hp : page.fileId = file) :
    (((pool.eraseEntry page).resetFrame entry.frameId).releaseFrameToFreeList
      entry.frameId).Drained file := by
  refine ⟨hd.quiet, fun q item hi hq => ?_⟩
  have hqp : q ≠ page := by
    rintro rfl
    simp at hi
  have hi : pool.pageTable.lookup q = some item := by simpa [hqp] using hi
  have hs := (hd.frame q item hi hq).1
  have hne : item.frameId ≠ entry.frameId := by
    intro heq
    have h1 := (h.bound_resident hi hs).1
    have h2 := (h.bound_resident he (hd.frame page entry he hp).1).1
    rw [heq, h2] at h1
    exact hqp h1.symm
  simpa [hne] using hd.frame q item hi hq

end Moves

end DBlusBlus.BufferPool
