import DBlusBlus.BufferPool.Preservation

/-! What one move can do to one frame. -/

namespace DBlusBlus.BufferPool

variable {N : ℕ} {V : Type}

def BufferFrame.cleared (frame : BufferFrame) : BufferFrame :=
  { frame with
    page := Page.unbound, state := .free, ioState := .none, pinCount := 0, dirty := false }

def Pc.discards (pc : Pc N V) (f : Fin N) (page : PageId) : Prop :=
  (∃ mode load read outcome, pc = .finishLoad page mode load f read outcome) ∨
    ∃ built outcome, pc = .newPageFinish page f built outcome

variable [NeZero N]

inductive FrameStep (pool : Pool N) (pc : Pc N V) (f : Fin N) : BufferFrame → Pc N V → Prop
  | kept {pc'} : FrameStep pool pc f (pool.frames f) pc'
  | pinned {page mode hitNotified pc'} : pc = .pinPage page mode hitNotified →
    (pool.frames f).state = .resident → (pool.frames f).page.id = page → Fetchable pool page →
    FrameStep pool pc f { pool.frames f with pinCount := (pool.frames f).pinCount + 1 } pc'
  | unpinned {assignment} : pc = .unpin f assignment →
    FrameStep pool pc f { pool.frames f with pinCount := (pool.frames f).pinCount - 1 }
      (unpinPc assignment)
  | bound {page ioState pc'} : (pool.frames f).state = .free → f ∉ pool.freeList →
    (∃ mode load, pc = .frameAcquired (.fetch page mode load) f) ∨
      (∃ init, pc = .newPageReserved page.fileId init f (.ok page.pageNo)) →
    FrameStep pool pc f { pool.frames f with
      bindingEpoch := (pool.frames f).bindingEpoch + 1, page := Page.ofId page, state := .loading,
      ioState := ioState, dirty := false } pc'
  | retired {file} : pc = .retireReset file → (pool.frames f).page.id.fileId = file →
    (pool.frames f).state = .resident → (pool.frames f).pinCount = 0 →
    (pool.frames f).ioState = .none →
    FrameStep pool pc f (pool.frames f).cleared (.retireReset file)
  | dropped {requester victim} : pc = .victimReserved requester f victim →
    (pool.frames f).state = .evicting → (pool.frames f).page.id = victim →
    (pool.frames f).dirty = false →
    FrameStep pool pc f (pool.frames f).cleared (.frameAcquired requester f)
  | evicted {requester victim} : pc = .finishWrite (.evict requester f victim) (.ok ()) →
    (pool.frames f).state = .evicting → (pool.frames f).page.id = victim →
    FrameStep pool pc f (pool.frames f).cleared (.frameAcquired requester f)
  | discarded {page outcome} : pc.discards f page → (pool.frames f).state = .loading →
    (pool.frames f).page.id = page →
    FrameStep pool pc f (pool.frames f).cleared (.idle outcome)
  | loaded {page mode load read outcome} : pc = .finishLoad page mode load f read outcome →
    loadFailure pool page read outcome = .ok none → (pool.frames f).state = .loading →
    (pool.frames f).page.id = page →
    FrameStep pool pc f { pool.frames f with
      state := .resident, ioState := .none, pinCount := (pool.loads load).claims }
      (.makeGuard (.fetch page mode (.ok ())) f mode)
  | created {page} : pc = .newPageFinish page f true .valid → (pool.frames f).state = .loading →
    (pool.frames f).page.id = page →
    FrameStep pool pc f { pool.frames f with
      state := .resident, pinCount := 1, dirty := true,
      modificationGeneration := (pool.frames f).modificationGeneration + 1 }
      (.makeGuard (.newPage page.fileId (.ok page.pageNo)) f .exclusive)
  | reserved {requester} :
    (∃ n, pc = .acquireFrame requester n) ∨ (∃ v, pc = .candidateObserved requester f v) →
    isVictimEligible pool f = true →
    FrameStep pool pc f { pool.frames f with state := .evicting }
      (.victimReserved requester f (pool.frames f).page.id)
  | evictionStarted {requester victim} : pc = .victimReserved requester f victim →
    (pool.frames f).state = .evicting → (pool.frames f).page.id = victim →
    (pool.frames f).dirty = true →
    FrameStep pool pc f { pool.frames f with ioState := .writebackInProgress }
      (.writePage (.evict requester f victim) (finalizePageChecksum (pool.frames f).page.bytes))
  | restored {requester victim error error'} :
    pc = .finishWrite (.evict requester f victim) (.error error) →
    (pool.frames f).state = .evicting → (pool.frames f).page.id = victim →
    FrameStep pool pc f { pool.frames f with state := .resident, ioState := .none }
      (.requestFailed requester error')
  | writebackStarted {caller} : pc = .flushPage (pool.frames f).page.id caller →
    (pool.frames f).state = .resident → (pool.frames f).dirty = true →
    (pool.frames f).ioState = .none →
    FrameStep pool pc f { pool.frames f with ioState := .writebackInProgress }
      (.latchForCopy f (pool.frames f).page.id (pool.frames f).bindingEpoch caller)
  | writtenBack {page bindingEpoch copiedGeneration caller} :
    pc = .finishWrite (.flush f page bindingEpoch copiedGeneration caller) (.ok ()) →
    (pool.frames f).state = .resident → (pool.frames f).page.id = page →
    (pool.frames f).bindingEpoch = bindingEpoch →
    FrameStep pool pc f { pool.frames f with
      ioState := .none
      dirty := if (pool.frames f).modificationGeneration = copiedGeneration then false
        else (pool.frames f).dirty } (.flushPage page caller)
  | writebackFailed {page bindingEpoch copiedGeneration caller error} :
    pc = .finishWrite (.flush f page bindingEpoch copiedGeneration caller) (.error error) →
    (pool.frames f).state = .resident → (pool.frames f).page.id = page →
    FrameStep pool pc f { pool.frames f with ioState := .none }
      (flushReturnPc page (.error error) caller)

variable {pool pool' : Pool N} {pc pc' : Pc N V} {limit : ℕ} {opts : BufferPoolOptions}

omit [NeZero N] in
lemma frameStep_of_eq {f : Fin N} {frame : BufferFrame} (h : pool'.frames f = frame)
    (hs : FrameStep pool pc f frame pc') : FrameStep pool pc f (pool'.frames f) pc' :=
  h ▸ hs

omit [NeZero N] in
lemma frameStep_of_ne {f g : Fin N} (hg : f ≠ g)
    (hframe : ∀ f, f ≠ g → pool'.frames f = pool.frames f) :
    FrameStep pool pc f (pool'.frames f) pc' := by
  rw [hframe f hg]
  exact .kept

theorem Move.frame (h : pool.WellFormed limit) (hr : Ready pool pc)
    (hm : Move opts pool pc pool' pc') (f : Fin N) : FrameStep pool pc f (pool'.frames f) pc' := by
  cases hm with
  | fault hm _ => exact absurd hm (hr.not_missing h)
  | @resetRetired file page entry he hp =>
    obtain ⟨hs, hpin, hio⟩ := (hr.drained file rfl).frame page entry he hp
    obtain ⟨hid, hf⟩ := h.bound_resident he hs
    by_cases hg : f = entry.frameId
    · subst hg
      exact frameStep_of_eq (by simp [BufferFrame.cleared]) (.retired rfl (hid ▸ hp) hf hpin hio)
    · exact frameStep_of_ne hg fun g hg => by simp [hg]
  | @pinHit page mode hitNotified entry hfetch he hs hlt =>
    obtain ⟨hid, hf⟩ := h.bound_resident he hs
    by_cases hg : f = entry.frameId
    · subst hg
      simpa using FrameStep.pinned rfl hf hid hfetch
    · exact frameStep_of_ne hg fun g hg => by simp [hg]
  | @reserveVictim _ requester g entry replacer hpc he hl =>
    by_cases hg : f = g
    · subst hg
      simpa using FrameStep.reserved hpc he
    · exact frameStep_of_ne hg fun g hg => by simp [hg]
  | @startEviction requester g victim hd =>
    obtain ⟨hs, -, hid⟩ := demand_victim.mp (hr.due _ (List.mem_cons_self ..))
    by_cases hg : f = g
    · subst hg
      simpa using FrameStep.evictionStarted rfl hs hid hd
    · exact frameStep_of_ne hg fun g hg => by simp [hg]
  | @dropClean requester g victim hd =>
    obtain ⟨hs, -, hid⟩ := demand_victim.mp (hr.due _ (List.mem_cons_self ..))
    by_cases hg : f = g
    · subst hg
      exact frameStep_of_eq (by simp [BufferFrame.cleared]) (.dropped rfl hs hid hd)
    · exact frameStep_of_ne hg fun g hg => by simp [hg]
  | @finishEviction requester g victim =>
    obtain ⟨hs, -, hid⟩ := demand_eviction.mp (hr.due _ (List.mem_cons_self ..))
    by_cases hg : f = g
    · subst hg
      exact frameStep_of_eq (by simp [BufferFrame.cleared]) (.evicted rfl hs hid)
    · exact frameStep_of_ne hg fun g hg => by simp [hg]
  | @restoreVictim requester g victim error =>
    obtain ⟨hs, -, hid⟩ := demand_eviction.mp (hr.due _ (List.mem_cons_self ..))
    by_cases hg : f = g
    · subst hg
      simpa using FrameStep.restored rfl hs hid
    · exact frameStep_of_ne hg fun g hg => by simp [hg]
  | @bindLoad page mode load g =>
    obtain ⟨hs, hn⟩ := demand_unbound.mp (hr.due (.frame g .unbound) (List.mem_cons_self ..))
    by_cases hg : f = g
    · subst hg
      simpa [bindFrame] using FrameStep.bound hs hn (.inl ⟨mode, load, rfl⟩)
    · exact frameStep_of_ne hg fun g hg => by simp [bindFrame, hg]
  | @failLoad page mode load g read outcome =>
    obtain ⟨hid, hs⟩ := h.bound_loading (demand_loading.mp
      (hr.due (.entry page (.loading g (some load))) (by simp [Pc.resources])))
    by_cases hg : f = g
    · subst hg
      exact frameStep_of_eq (by simp [BufferFrame.cleared])
        (.discarded (.inl ⟨mode, load, read, outcome, rfl⟩) hs hid)
    · exact frameStep_of_ne hg fun g hg => by simp [hg]
  | @publishLoad page mode load g read outcome entry hlf =>
    obtain ⟨hid, hs⟩ := h.bound_loading (demand_loading.mp
      (hr.due (.entry page (.loading g (some load))) (by simp [Pc.resources])))
    by_cases hg : f = g
    · subst hg
      simpa using FrameStep.loaded rfl hlf hs hid
    · exact frameStep_of_ne hg fun g hg => by simp [hg]
  | @bindNew file init g pageNo entry he h0 hp =>
    obtain ⟨hs, hn⟩ := demand_unbound.mp (hr.due (.frame g .unbound) (List.mem_cons_self ..))
    rw [if_neg (by simpa [AList.lookup_eq_none] using newPage_absent h hr he h0 hp)]
    by_cases hg : f = g
    · subst hg
      simpa [bindFrame] using @FrameStep.bound N V pool (.newPageReserved file init f (.ok pageNo)) f
        ⟨file, pageNo⟩ .none (.newPageBuild ⟨file, pageNo⟩ init f entry.validator) hs hn
        (.inr ⟨init, rfl⟩)
    · exact frameStep_of_ne hg fun g hg => by simp [bindFrame, hg]
  | @failNew page g built outcome =>
    obtain ⟨hid, hs⟩ := h.bound_loading (demand_loading.mp
      (hr.due (.entry page (.loading g none)) (by simp [Pc.resources])))
    by_cases hg : f = g
    · subst hg
      exact frameStep_of_eq (by simp [BufferFrame.cleared])
        (.discarded (.inr ⟨built, outcome, rfl⟩) hs hid)
    · exact frameStep_of_ne hg fun g hg => by simp [hg]
  | @publishNew page g outcome entry tableEntry _ hv _ _ =>
    subst hv
    obtain ⟨hid, hs⟩ := h.bound_loading (demand_loading.mp
      (hr.due (.entry page (.loading g none)) (by simp [Pc.resources])))
    by_cases hg : f = g
    · subst hg
      simpa using FrameStep.created rfl hs hid
    · exact frameStep_of_ne hg fun g hg => by simp [hg]
  | @startWriteback page caller entry he hs hd hio =>
    obtain ⟨rfl, hf⟩ := h.bound_resident he hs
    by_cases hg : f = entry.frameId
    · subst hg
      simpa using FrameStep.writebackStarted rfl hf hd hio
    · exact frameStep_of_ne hg fun g hg => by simp [hg]
  | @finishWriteback g page bindingEpoch copiedGeneration caller =>
    obtain ⟨hs, -, hid, hb⟩ := demand_writeback.mp (hr.due _ (List.mem_cons_self ..))
    by_cases hg : f = g
    · subst hg
      simpa [hid, hb] using FrameStep.writtenBack rfl hs hid hb
    · exact frameStep_of_ne hg fun g hg => by simp [hg]
  | @failWriteback g page bindingEpoch copiedGeneration caller error =>
    obtain ⟨hs, -, hid, -⟩ := demand_writeback.mp (hr.due _ (List.mem_cons_self ..))
    by_cases hg : f = g
    · subst hg
      simpa using FrameStep.writebackFailed rfl hs hid
    · exact frameStep_of_ne hg fun g hg => by simp [hg]
  | @unpin g assignment =>
    by_cases hg : f = g
    · subst hg
      simpa using FrameStep.unpinned rfl
    · exact frameStep_of_ne hg fun g hg => by simp [hg]
  | _ => exact .kept

end DBlusBlus.BufferPool
