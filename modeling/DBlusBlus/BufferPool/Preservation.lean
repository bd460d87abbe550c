import DBlusBlus.BufferPool.WellFormed

/-! The pool's own invariant survives every move of a thread that is ready for it. -/

namespace DBlusBlus.BufferPool

variable {N : ℕ} {V : Type} [NeZero N] {pool : Pool N} {limit : ℕ}

section Entitlements

variable {requester : Requester} {f : Fin N} {page : PageId} {mode : LatchMode} {load : LoadId}
  {file : FileId} {init : PageInitializer}

lemma demand_intent : 0 < pool.demand (.entry page (.intent load)) ↔
    pool.pageTable.lookup page = some ⟨.loadIntent, 0, some load⟩ := by
  simp [Pool.demand, entryDemand]

lemma demand_loading {load : Option LoadId} :
    0 < pool.demand (.entry page (.loading f load)) ↔
      pool.pageTable.lookup page = some ⟨.loading, f, load⟩ := by
  simp [Pool.demand, entryDemand]

lemma demand_turn : 0 < pool.demand (.turn file) ↔
    ∃ entry, pool.files.lookup file = some entry ∧ entry.newPageInProgress = true := by
  rw [Pool.demand]
  cases pool.files.lookup file <;> simp [turnDemand]

lemma demand_loader : 0 < pool.demand (.load load .loader) ↔
    load < pool.nextLoad ∧ (pool.loads load).done = false := by
  simp [Pool.demand, LoadOperation.demand]

lemma demand_unbound : 0 < pool.demand (.frame f .unbound) ↔
    (pool.frames f).state = .free ∧ f ∉ pool.freeList := by
  simp [Pool.demand, BufferFrame.demand]

lemma demand_victim : 0 < pool.demand (.frame f (.victim page)) ↔
    (pool.frames f).state = .evicting ∧ (pool.frames f).ioState = .none ∧
      (pool.frames f).page.id = page := by
  simp [Pool.demand, BufferFrame.demand]

lemma demand_eviction : 0 < pool.demand (.frame f (.eviction page)) ↔
    (pool.frames f).state = .evicting ∧ (pool.frames f).ioState ≠ .none ∧
      (pool.frames f).page.id = page := by
  simp [Pool.demand, BufferFrame.demand]

lemma demand_writeback {bindingEpoch : ℕ} :
    0 < pool.demand (.frame f (.writeback page bindingEpoch)) ↔
      (pool.frames f).state = .resident ∧ (pool.frames f).ioState ≠ .none ∧
        (pool.frames f).page.id = page ∧ (pool.frames f).bindingEpoch = bindingEpoch := by
  simp [Pool.demand, BufferFrame.demand]

lemma demand_pin : 0 < pool.demand (.frame f .pin) ↔ 0 < (pool.frames f).pinCount := by
  simp [Pool.demand, BufferFrame.demand]

end Entitlements

omit [NeZero N] in
lemma names_of_lookup {page : PageId} {entry : PageTableEntry N} {f : Fin N}
    (he : pool.pageTable.lookup page = some entry) (hn : entry.frameId = f) :
    ∀ old, pool.pageTable.lookup page = some old → old.state ≠ .loadIntent → old.frameId = f := by
  intro old ho _
  rw [← Option.some.inj (he.symm.trans ho), hn]

lemma addressed_of_lookup (h : pool.WellFormed limit) {page : PageId}
    {entry entry' : PageTableEntry N} (he : pool.pageTable.lookup page = some entry)
    (hs : ¬ (entry.state = .loading ∧ entry.load = none))
    (hs' : ¬ (entry'.state = .loading ∧ entry'.load = none)) :
    ∃ file, pool.files.lookup page.fileId = some file ∧
      entry'.Addressed file.publishedPageCount page := by
  obtain ⟨file, hf, ha⟩ := h.addressed page entry he
  rw [PageTableEntry.Addressed, if_neg hs] at ha
  refine ⟨file, hf, ?_⟩
  rwa [PageTableEntry.Addressed, if_neg hs']

section Replacement

variable {requester : Requester} {f : Fin N} {victim : PageId} {entry : PageTableEntry N}

lemma reserveVictim_wellFormed (replacer : ClockReplacer N) (h : pool.WellFormed limit)
    (he : isVictimEligible pool f = true)
    (hl : pool.pageTable.lookup (pool.frames f).page.id = some entry) :
    { (pool.setFrame f { pool.frames f with state := .evicting }).setEntry
        (pool.frames f).page.id { entry with state := .evicting } with
      replacer := replacer }.WellFormed limit := by
  obtain ⟨hs, hp, hio, -⟩ := (isVictimEligible_iff f).mp he
  obtain ⟨hb, -, hw⟩ := h.resident hs
  obtain rfl := Option.some.inj (hl.symm.trans hb)
  have := h.rebind (pool.frames f).page.id ⟨.evicting, f, none⟩
    { pool.frames f with state := .evicting } (.inr rfl)
    (h.notMem_freeList (by simp [hs])) (names_of_lookup hb rfl) (by simp) rfl (by simp) rfl
    ⟨rfl, hp, hw⟩ (addressed_of_lookup h hb (by simp) (by simp))
  exact { this with }

lemma startEviction_wellFormed (h : pool.WellFormed limit)
    (hr : Ready pool (.victimReserved requester f victim : Pc N V))
    (hd : (pool.frames f).dirty = true) :
    (pool.setFrame f { pool.frames f with ioState := .writebackInProgress }).WellFormed limit := by
  obtain ⟨hs, hio, -⟩ := demand_victim.mp (hr.due _ (List.mem_cons_self ..))
  obtain ⟨hb, hp, -⟩ := h.evicting hs
  refine h.setFrame f rfl rfl (h.latched f) ?_
  simpa only [BufferFrame.Ok, hs] using ⟨hb, hp, .inr ⟨rfl, hd⟩⟩

lemma dropClean_wellFormed (h : pool.WellFormed limit)
    (hr : Ready pool (.victimReserved requester f victim : Pc N V)) :
    ((pool.eraseEntry victim).resetFrame f).WellFormed limit := by
  obtain ⟨hs, -, hid⟩ := demand_victim.mp (hr.due _ (List.mem_cons_self ..))
  exact h.resetFrame (by simp [hs]) hid

lemma finishEviction_wellFormed {written : BufferStatus} (h : pool.WellFormed limit)
    (hr : Ready pool (.finishWrite (.evict requester f victim) written : Pc N V)) :
    (((pool.setFrame f { pool.frames f with ioState := .none }).eraseEntry victim).resetFrame
      f).WellFormed limit := by
  obtain ⟨hs, -, hid⟩ := demand_eviction.mp (hr.due _ (List.mem_cons_self ..))
  obtain ⟨hb, hp, -⟩ := h.evicting hs
  have hw : (pool.setFrame f { pool.frames f with ioState := .none }).WellFormed limit := by
    refine h.setFrame f rfl rfl (h.latched f) ?_
    simpa only [BufferFrame.Ok, hs] using ⟨hb, hp, .inl rfl⟩
  exact hw.resetFrame (by simp [hs]) (by simpa using hid)

lemma restoreVictim_wellFormed {written : BufferStatus} (h : pool.WellFormed limit)
    (hr : Ready pool (.finishWrite (.evict requester f victim) written : Pc N V))
    (hl : pool.pageTable.lookup victim = some entry) :
    ((pool.setFrame f { pool.frames f with state := .resident, ioState := .none }).setEntry
      victim { entry with state := .resident }).WellFormed limit := by
  obtain ⟨hs, -, rfl⟩ := demand_eviction.mp (hr.due _ (List.mem_cons_self ..))
  obtain ⟨hb, hp, -⟩ := h.evicting hs
  obtain rfl := Option.some.inj (hl.symm.trans hb)
  exact h.rebind (pool.frames f).page.id ⟨.resident, f, none⟩ _
    (.inr rfl) (h.notMem_freeList (by simp [hs])) (names_of_lookup hb rfl) (by simp) rfl (by simp)
    rfl ⟨rfl, by simp [hp], .inl rfl⟩ (addressed_of_lookup h hb (by simp) (by simp))

lemma claimFrame_wellFormed {rest : List (Fin N)} (h : pool.WellFormed limit)
    (hf : pool.freeList = f :: rest) : { pool with freeList := rest }.WellFormed limit :=
  { h with
    nodup := (List.nodup_cons.mp (hf ▸ h.nodup)).2
    listed := fun g hg => h.listed g (hf ▸ List.mem_cons_of_mem _ hg) }

end Replacement

section Load

variable {page : PageId} {mode : LatchMode} {load : LoadId} {f : Fin N} {read : DiskStatus}
  {outcome : PageValidationOutcome} {opts : BufferPoolOptions} {entry : PageTableEntry N}

omit [NeZero N] in
lemma Fetchable.file (h : Fetchable pool page) : pool.quiescing = false ∧
    ∃ file, pool.files.lookup page.fileId = some file ∧ file.state = .active ∧
      page.pageNo ≠ 0 ∧ page.pageNo < file.publishedPageCount := by
  simp only [Fetchable, checkFetchable] at h
  split at h
  · cases h
  · rename_i hq
    refine ⟨by simpa using hq, ?_⟩
    split at h
    · cases h
    · split at h
      · cases h
      · split at h
        · cases h
        · rename_i file hf ha hb
          simp only [not_or, UInt64.not_le] at hb
          exact ⟨file, hf, by simpa using ha, hb⟩

lemma installIntent_wellFormed (h : pool.WellFormed opts.pinLimit) (hf : Fetchable pool page)
    (hn : pool.pageTable.lookup page = none) :
    { (pool.setEntry page ⟨.loadIntent, 0, some pool.nextLoad⟩).setLoad pool.nextLoad
        { LoadOperation.initial with claims := 1 } with
      nextLoad := pool.nextLoad + 1 }.WellFormed opts.pinLimit := by
  obtain ⟨-, file, hfile, -, -, hlt⟩ := hf.file
  have hne (q : PageId) (hq : q ≠ page) :
      (pool.pageTable.insert page ⟨.loadIntent, 0, some pool.nextLoad⟩).lookup q =
        pool.pageTable.lookup q := by
    rw [Table.lookup_insert, if_neg hq]
  have hnew (new : PageTableEntry N) (he : (pool.pageTable.insert page
      ⟨.loadIntent, 0, some pool.nextLoad⟩).lookup page = some new) :
      new = ⟨.loadIntent, 0, some pool.nextLoad⟩ := by
    rw [Table.lookup_insert, if_pos rfl] at he
    exact (Option.some.inj he).symm
  refine { h with
    bindings := ?_, claims := fun m => ?_, fresh := fun m hm => ?_, unfinished := fun m => ?_,
    addressed := ?_ }
  · refine h.bindings.updateEntry page (fun entry he => ?_) hne fun new he => ?_
    · rw [hn] at he
      cases he
    · rw [hnew new he]
      exact ⟨fun _ => ⟨rfl, rfl⟩, fun hi => absurd rfl hi⟩
  · rw [Pool.setLoad_loads, Function.update_apply]
    split
    · exact le_max_right ..
    · exact h.claims m
  · have hm' : pool.nextLoad < m := hm
    rw [Pool.setLoad_loads, Function.update_of_ne hm'.ne']
    exact h.fresh m hm'.le
  · rw [Pool.setLoad_loads, Function.update_apply]
    split
    · exact fun _ => rfl
    · exact h.unfinished m
  · refine h.addressed_update page hne fun new he => ?_
    rw [hnew new he]
    exact ⟨file, hfile, by simpa [PageTableEntry.Addressed] using .inl hlt⟩

lemma pinHit_wellFormed (h : pool.WellFormed limit) (he : pool.pageTable.lookup page = some entry)
    (hs : entry.state = .resident) (hp : (pool.frames entry.frameId).pinCount < limit) :
    ((pool.setFrame entry.frameId { pool.frames entry.frameId with
      pinCount := (pool.frames entry.frameId).pinCount + 1 }).setReferenced
        entry.frameId).WellFormed limit := by
  obtain ⟨hid, hf⟩ := h.bound_resident he hs
  obtain ⟨hb, -, hw⟩ := h.resident hf
  have : (pool.setFrame entry.frameId { pool.frames entry.frameId with
      pinCount := (pool.frames entry.frameId).pinCount + 1 }).WellFormed limit := by
    refine h.setFrame _ rfl rfl (h.latched _) ?_
    simp only [BufferFrame.Ok, hf]
    exact ⟨hb, hp, hw⟩
  exact { this with }

lemma claimLoad_wellFormed {pc : Pc N V} (h : pool.WellFormed limit) (hr : Ready pool pc)
    (he : pool.pageTable.lookup page = some entry) (hl : entry.load = some load)
    (hc : (pool.loads load).claims < limit) :
    (pool.setLoad load { pool.loads load with
      claims := (pool.loads load).claims + 1 }).WellFormed limit := by
  obtain ⟨-, hlt⟩ := hr.pending page entry load he hl
  exact h.setLoad _ hlt hc (h.unfinished load)

lemma failIntent_wellFormed {error error' : BufferError} (h : pool.WellFormed limit)
    (hr : Ready pool (.requestFailed (.fetch page mode load) error : Pc N V)) :
    ((pool.eraseEntry page).setLoad load { pool.loads load with
      error := error', done := true }).WellFormed limit := by
  have hi := demand_intent.mp (hr.due (.entry page (.intent load))
    (by simp [Pc.resources, Requester.resources]))
  have hl := demand_loader.mp (hr.due (.load load .loader)
    (by simp [Pc.resources, Requester.resources]))
  have hne (q : PageId) (hq : q ≠ page) :
      (pool.pageTable.erase page).lookup q = pool.pageTable.lookup q := by
    rw [Table.lookup_erase, if_neg hq]
  have he : (pool.eraseEntry page).WellFormed limit := by
    refine { h with bindings := ?_, addressed := ?_ }
    · refine h.bindings.updateEntry page (fun entry he => ?_) hne fun new he => ?_
      · rw [← Option.some.inj (hi.symm.trans he)]
      · simp at he
    · exact h.addressed_update page hne fun new he => by simp at he
  exact he.setLoad _ hl.1 (h.claims load) (by simp)

lemma bindLoad_wellFormed (h : pool.WellFormed limit)
    (hr : Ready pool (.frameAcquired (.fetch page mode load) f : Pc N V))
    (he : pool.pageTable.lookup page = some entry) :
    ((bindFrame pool f page .readInProgress).setEntry page
      { entry with state := .loading, frameId := f }).WellFormed limit := by
  have hi := demand_intent.mp (hr.due (.entry page (.intent load))
    (by simp [Pc.resources, Requester.resources]))
  obtain ⟨hf, hn⟩ := demand_unbound.mp (hr.due (.frame f .unbound) (List.mem_cons_self ..))
  obtain rfl := Option.some.inj (he.symm.trans hi)
  exact h.rebind page ⟨.loading, f, some load⟩ _ (.inl hf) hn
    (fun old ho hs => by
      obtain rfl := Option.some.inj (hi.symm.trans ho)
      exact absurd rfl hs)
    (by simp) rfl (by simp) rfl
    ⟨(h.free hf).2.2.1, rfl, some load, rfl, rfl⟩ (addressed_of_lookup h hi (by simp) (by simp))

lemma failLoad_wellFormed {error : BufferError} (h : pool.WellFormed limit)
    (hr : Ready pool (.finishLoad page mode load f read outcome : Pc N V)) :
    ((((pool.resetFrame f).releaseFrameToFreeList f).eraseEntry page).setLoad load
      { pool.loads load with error := error, done := true }).WellFormed limit := by
  have hi := demand_loading.mp (hr.due (.entry page (.loading f (some load)))
    (by simp [Pc.resources]))
  have hl := demand_loader.mp (hr.due (.load load .loader) (by simp [Pc.resources]))
  obtain ⟨hid, hs⟩ := h.bound_loading hi
  have hr := (h.returnFrame (by simp [hs]) hid).setLoad
    { pool.loads load with error := error, done := true } hl.1 (h.claims load)
    (by simp)
  exact { hr with }

lemma publishLoad_wellFormed (h : pool.WellFormed limit)
    (hr : Ready pool (.finishLoad page mode load f read outcome : Pc N V))
    (he : pool.pageTable.lookup page = some entry) :
    ((((pool.setFrame f { pool.frames f with
      state := .resident, ioState := .none, pinCount := (pool.loads load).claims }).setReferenced
        f).setEntry page { entry with state := .resident, load := none }).setLoad load
      { pool.loads load with frameId := some f, done := true }).WellFormed limit := by
  have hi := demand_loading.mp (hr.due (.entry page (.loading f (some load)))
    (by simp [Pc.resources]))
  have hl := demand_loader.mp (hr.due (.load load .loader) (by simp [Pc.resources]))
  obtain ⟨hid, hs⟩ := h.bound_loading hi
  obtain rfl := Option.some.inj (he.symm.trans hi)
  have hw := (h.rebind page ⟨.resident, f, none⟩
    { pool.frames f with
      state := .resident, ioState := .none, pinCount := (pool.loads load).claims }
    (.inr hid) (h.notMem_freeList (by simp [hs])) (names_of_lookup hi rfl) (by simp) hid (by simp)
    rfl ⟨rfl, h.claims load, .inl rfl⟩
    (addressed_of_lookup h hi (by simp) (by simp))).setLoad
      { pool.loads load with frameId := some f, done := true } hl.1 (h.claims load)
      (by simp)
  exact { hw with }

end Load

section NewPage

variable {file : FileId} {init : PageInitializer} {page : PageId} {f : Fin N} {built : Bool}
  {outcome : PageValidationOutcome} {entry : FileEntry}

lemma returnFrame_wellFormed {pageNo : DiskResult PageNo} (h : pool.WellFormed limit)
    (hr : Ready pool (.newPageReserved file init f pageNo : Pc N V))
    (he : pool.files.lookup file = some entry) :
    ((pool.releaseFrameToFreeList f).setFile file
      { entry with newPageInProgress := false }).WellFormed limit := by
  obtain ⟨hs, hn⟩ := demand_unbound.mp (hr.due (.frame f .unbound) (List.mem_cons_self ..))
  exact (h.releaseFrameToFreeList hs hn).setFile he rfl

lemma newPage_absent (h : pool.WellFormed limit) {pageNo : PageNo}
    (hr : Ready pool (.newPageReserved file init f (.ok pageNo) : Pc N V))
    (he : pool.files.lookup file = some entry) (h0 : pageNo ≠ 0)
    (hp : pageNo = entry.publishedPageCount) :
    pool.pageTable.lookup ⟨file, pageNo⟩ = none := by
  by_contra hn
  obtain ⟨item, hi⟩ := Option.ne_none_iff_exists'.mp hn
  obtain ⟨known, hk, ha⟩ := h.addressed _ item hi
  obtain rfl := Option.some.inj (he.symm.trans hk)
  rw [PageTableEntry.Addressed] at ha
  split at ha
  · rename_i hl
    have := hr.sole _ item hi hl.1 hl.2 (by simp [Pc.resources])
    simp [Pc.resources] at this
  · rcases ha with ha | ha
    · exact absurd (hp ▸ ha) (UInt64.lt_irrefl _)
    · exact h0 (hp.trans ha)

lemma bindNew_wellFormed (h : pool.WellFormed limit) {pageNo : PageNo}
    (hr : Ready pool (.newPageReserved file init f (.ok pageNo) : Pc N V))
    (he : pool.files.lookup file = some entry) (h0 : pageNo ≠ 0)
    (hp : pageNo = entry.publishedPageCount) :
    ((bindFrame pool f ⟨file, pageNo⟩ .none).setEntry ⟨file, pageNo⟩
      ⟨.loading, f, none⟩).WellFormed limit := by
  obtain ⟨hf, hn⟩ := demand_unbound.mp (hr.due (.frame f .unbound) (List.mem_cons_self ..))
  have ha := newPage_absent h hr he h0 hp
  exact h.rebind ⟨file, pageNo⟩ ⟨.loading, f, none⟩ _ (.inl hf) hn
    (fun old ho => by
      rw [ha] at ho
      cases ho)
    (by simp) rfl (by simp) rfl ⟨(h.free hf).2.2.1, rfl, none, rfl, rfl⟩
    ⟨entry, he, by simpa [PageTableEntry.Addressed] using ⟨hp, h0⟩⟩

lemma failNew_wellFormed (h : pool.WellFormed limit)
    (hr : Ready pool (.newPageFinish page f built outcome : Pc N V))
    (he : pool.files.lookup page.fileId = some entry) :
    ((((pool.eraseEntry page).resetFrame f).releaseFrameToFreeList f).setFile page.fileId
      { entry with newPageInProgress := false }).WellFormed limit := by
  have hi := demand_loading.mp (hr.due (.entry page (.loading f none)) (by simp [Pc.resources]))
  obtain ⟨hid, hs⟩ := h.bound_loading hi
  exact (h.returnFrame (by simp [hs]) hid).setFile he rfl

lemma publishNew_addressed (h : pool.WellFormed limit)
    (hr : Ready pool (.newPageFinish page f built outcome : Pc N V))
    (he : pool.files.lookup page.fileId = some entry) {q : PageId} {item : PageTableEntry N}
    (hq : q ≠ page) (hi : pool.pageTable.lookup q = some item) (hf : q.fileId = page.fileId) :
    item.Addressed (page.pageNo + 1) q := by
  have hl := demand_loading.mp (hr.due (.entry page (.loading f none)) (by simp [Pc.resources]))
  obtain ⟨known, hk, hpage⟩ := h.addressed page _ hl
  obtain rfl := Option.some.inj (he.symm.trans hk)
  rw [PageTableEntry.Addressed, if_pos ⟨rfl, rfl⟩] at hpage
  obtain ⟨known, hk, ha⟩ := h.addressed q item hi
  rw [hf] at hk
  obtain rfl := Option.some.inj (he.symm.trans hk)
  rw [PageTableEntry.Addressed] at ha ⊢
  split at ha
  · rename_i hs
    have := hr.sole q item hi hs.1 hs.2 (by simp [Pc.resources, hf])
    simp only [Pc.resources, List.mem_cons, Resource.entry.injEq, reduceCtorEq,
      List.not_mem_nil, or_false] at this
    exact absurd this.1 hq
  · rename_i hs
    rw [if_neg hs]
    rw [← hpage.1] at ha
    rcases ha with ha | ha
    · rcases pageNo_succ_cases page.pageNo with h0 | h1
      · exact .inr h0
      · exact .inl (UInt64.lt_trans ha h1)
    · exact absurd ha hpage.2

lemma publishNew_wellFormed {tableEntry : PageTableEntry N} (hlimit : 1 ≤ limit)
    (h : pool.WellFormed limit)
    (hr : Ready pool (.newPageFinish page f built outcome : Pc N V))
    (he : pool.files.lookup page.fileId = some entry)
    (ht : pool.pageTable.lookup page = some tableEntry) :
    ((((pool.setFrame f { pool.frames f with
      state := .resident, pinCount := 1, dirty := true,
      modificationGeneration := (pool.frames f).modificationGeneration + 1 }).setReferenced
        f).setEntry page { tableEntry with state := .resident }).setFile page.fileId
      { entry with
        publishedPageCount := page.pageNo + 1, newPageInProgress := false }).WellFormed limit := by
  have hi := demand_loading.mp (hr.due (.entry page (.loading f none)) (by simp [Pc.resources]))
  obtain ⟨hid, hs⟩ := h.bound_loading hi
  obtain ⟨-, -, load, hl, hio⟩ := h.loading hs
  rw [hid] at hl
  obtain rfl := Option.some.inj (ht.symm.trans hi)
  obtain rfl : none = load := congrArg PageTableEntry.load (Option.some.inj (ht.symm.trans hl))
  refine { h with bindings := ?_, listed := ?_, latched := ?_, addressed := ?_ }
  · exact h.bind ⟨.resident, f, none⟩ (.inr hid) (names_of_lookup hi rfl) (by simp)
      hid (by simp) ⟨rfl, hlimit, .inl hio⟩
  · exact h.listed_update f (.inr (h.notMem_freeList (by simp [hs])))
  · exact h.latched_update f (h.latched f)
  · intro q item hq
    simp only [Pool.setFile_pageTable, Pool.setEntry_pageTable, Pool.setReferenced_pageTable,
      Pool.setFrame_pageTable, Pool.setFile_files, Pool.setEntry_files, Pool.setReferenced_files,
      Pool.setFrame_files, Table.lookup_insert] at hq ⊢
    by_cases hqp : q = page
    · subst hqp
      rw [if_pos rfl] at hq
      rw [if_pos rfl]
      obtain rfl := Option.some.inj hq
      refine ⟨_, rfl, ?_⟩
      rcases pageNo_succ_cases q.pageNo with h0 | h1
      · simpa [PageTableEntry.Addressed] using .inr h0
      · simpa [PageTableEntry.Addressed] using .inl h1
    · rw [if_neg hqp] at hq
      by_cases hf : q.fileId = page.fileId
      · rw [if_pos hf]
        exact ⟨_, rfl, publishNew_addressed h hr he hqp hq hf⟩
      · rw [if_neg hf]
        exact h.addressed q item hq

end NewPage

section Flush

variable {page : PageId} {f : Fin N} {entry : PageTableEntry N}

lemma startWriteback_wellFormed (h : pool.WellFormed limit)
    (he : pool.pageTable.lookup page = some entry) (hs : entry.state = .resident)
    (hd : (pool.frames entry.frameId).dirty = true) :
    (pool.setFrame entry.frameId { pool.frames entry.frameId with
      ioState := .writebackInProgress }).WellFormed limit := by
  obtain ⟨-, hf⟩ := h.bound_resident he hs
  obtain ⟨hb, hp, -⟩ := h.resident hf
  refine h.setFrame _ rfl rfl (h.latched _) ?_
  simpa only [BufferFrame.Ok, hf] using ⟨hb, hp, .inr ⟨rfl, hd⟩⟩

lemma endWriteback_wellFormed {bindingEpoch copiedGeneration : ℕ} {caller : FlushCaller}
    {written : BufferStatus} (dirty : Bool) (h : pool.WellFormed limit)
    (hr : Ready pool
      (.finishWrite (.flush f page bindingEpoch copiedGeneration caller) written : Pc N V)) :
    (pool.setFrame f { pool.frames f with ioState := .none, dirty := dirty }).WellFormed
      limit := by
  obtain ⟨hs, -⟩ := demand_writeback.mp (hr.due _ (List.mem_cons_self ..))
  obtain ⟨hb, hp, -⟩ := h.resident hs
  refine h.setFrame f rfl rfl (h.latched f) ?_
  simpa only [BufferFrame.Ok, hs] using ⟨hb, hp, .inl rfl⟩

lemma unpin_wellFormed {assignment : Option (GuardVar V × GuardVar V)} (h : pool.WellFormed limit)
    (hr : Ready pool (.unpin f assignment)) :
    (pool.setFrame f { pool.frames f with
      pinCount := (pool.frames f).pinCount - 1 }).WellFormed limit := by
  have hp := demand_pin.mp (hr.due (.frame f .pin) (List.mem_cons_self ..))
  have hs := h.resident_of_pinned hp
  obtain ⟨hb, hl, hw⟩ := h.resident hs
  refine h.setFrame f rfl rfl (h.latched f) ?_
  simp only [BufferFrame.Ok, hs]
  exact ⟨hb, (Nat.sub_le ..).trans hl, hw⟩

end Flush

section Registry

variable {file : FileId} {page : PageId} {entry : PageTableEntry N}

lemma registerFile_wellFormed {new : FileEntry} (h : pool.WellFormed limit)
    (hf : file ∉ pool.files) : (pool.setFile file new).WellFormed limit := by
  refine { h with addressed := fun q item hi => ?_ }
  obtain ⟨known, hk, ha⟩ := h.addressed q item hi
  have hq : q.fileId ≠ file := by
    rintro rfl
    exact hf (Table.mem_iff.mpr ⟨known, hk⟩)
  exact ⟨known, by simpa [hq] using hk, ha⟩

lemma resetRetired_wellFormed (h : pool.WellFormed limit)
    (hr : Ready pool (.retireReset file : Pc N V))
    (he : pool.pageTable.lookup page = some entry) (hp : page.fileId = file) :
    (((pool.eraseEntry page).resetFrame entry.frameId).releaseFrameToFreeList
      entry.frameId).WellFormed limit := by
  obtain ⟨hs, -⟩ := (hr.drained file rfl).frame page entry he hp
  obtain ⟨hid, hf⟩ := h.bound_resident he hs
  exact h.returnFrame (by simp [hf]) hid

lemma closeFile_wellFormed (h : pool.WellFormed limit)
    (hn : ∀ page : PageId, page.fileId = file → pool.pageTable.lookup page = none) :
    { pool with files := pool.files.erase file }.WellFormed limit := by
  refine { h with addressed := fun q item hi => ?_ }
  obtain ⟨known, hk, ha⟩ := h.addressed q item hi
  have hq : q.fileId ≠ file := by
    intro hq
    have := hn q hq
    rw [this] at hi
    cases hi
  exact ⟨known, by simpa [hq] using hk, ha⟩

end Registry

variable {opts : BufferPoolOptions} {pool' : Pool N} {pc pc' : Pc N V}

lemma turn_registered {file : FileId} (h : 0 < pool.demand (.turn file)) :
    pool.files.lookup file ≠ none := by
  obtain ⟨entry, he, -⟩ := demand_turn.mp h
  simp [he]

lemma entry_registered (h : pool.WellFormed limit) {page : PageId} {entry : PageTableEntry N}
    (he : pool.pageTable.lookup page = some entry) :
    ¬ (pool.pageTable.lookup page = none ∨ pool.files.lookup page.fileId = none) := by
  obtain ⟨file, hf, -⟩ := h.addressed page entry he
  simp [he, hf]

lemma victim_present (h : pool.WellFormed limit) {f : Fin N}
    (he : isVictimEligible pool f = true) :
    pool.pageTable.lookup (pool.frames f).page.id ≠ none := by
  simp [(h.resident ((isVictimEligible_iff f).mp he).1).1]

lemma Ready.not_missing (h : pool.WellFormed limit) (hr : Ready pool pc) : ¬ Missing pool pc := by
  intro hm
  cases pc with
  | retireDrain file disposition =>
    obtain ⟨entry, he⟩ := hr.retiring file disposition rfl
    rw [Missing, he] at hm
    cases hm
  | acquireFrame requester candidateNotified =>
    obtain ⟨f, he, hn⟩ := hm
    exact victim_present h he hn
  | candidateObserved requester f victim => exact victim_present h hm.1 hm.2
  | frameAcquired requester f =>
    cases requester with
    | fetch page mode load =>
      have hi := demand_intent.mp (hr.due (.entry page (.intent load))
        (by simp [Pc.resources, Requester.resources]))
      exact entry_registered h hi hm
    | newPage file init =>
      exact turn_registered (hr.due (.turn file) (by simp [Pc.resources, Requester.resources])) hm
  | requestFailed requester error =>
    cases requester with
    | fetch => exact hm
    | newPage file init =>
      exact turn_registered (hr.due (.turn file) (by simp [Pc.resources, Requester.resources])) hm
  | finishLoad page mode load f read outcome =>
    have hi := demand_loading.mp (hr.due (.entry page (.loading f (some load)))
      (by simp [Pc.resources]))
    exact entry_registered h hi hm
  | newPageReserved file init f pageNo =>
    exact turn_registered (hr.due (.turn file) (by simp [Pc.resources])) hm
  | newPageFinish page f built outcome =>
    have hi := demand_loading.mp (hr.due (.entry page (.loading f none)) (by simp [Pc.resources]))
    exact entry_registered h hi hm
  | finishWrite writer written =>
    cases writer with
    | evict requester f victim =>
      obtain ⟨hs, -, rfl⟩ := demand_eviction.mp (hr.due _ (List.mem_cons_self ..))
      rw [Missing, (h.evicting hs).1] at hm
      cases hm
    | flush => exact hm
  | _ => exact hm

theorem Move.wellFormed (h : pool.WellFormed opts.pinLimit) (hr : Ready pool pc)
    (hm : Move opts pool pc pool' pc') : pool'.WellFormed opts.pinLimit := by
  cases hm with
  | quiet replacer _ => exact { h with }
  | fault hm _ => exact absurd hm (hr.not_missing h)
  | registerFile _ hf => exact registerFile_wellFormed h hf
  | beginRetire he _ => exact h.setFile he rfl
  | resetRetired he hp => exact resetRetired_wellFormed h hr he hp
  | closeFile hn => exact closeFile_wellFormed h hn
  | quiesce => exact { h with }
  | claimFrame hf => exact claimFrame_wellFormed h hf
  | installIntent hf hn => exact installIntent_wellFormed h hf hn
  | pinHit _ he hs hp => exact pinHit_wellFormed h he hs hp
  | claimLoad _ he _ hl hc => exact claimLoad_wellFormed h hr he hl hc
  | reserveVictim replacer _ he hl => exact reserveVictim_wellFormed replacer h he hl
  | startEviction hd => exact startEviction_wellFormed h hr hd
  | dropClean => exact dropClean_wellFormed h hr
  | finishEviction => exact finishEviction_wellFormed h hr
  | restoreVictim hl => exact restoreVictim_wellFormed h hr hl
  | failIntent => exact failIntent_wellFormed h hr
  | endTurn he => exact h.setFile he rfl
  | bindLoad he _ => exact bindLoad_wellFormed h hr he
  | failLoad => exact failLoad_wellFormed h hr
  | publishLoad _ he => exact publishLoad_wellFormed h hr he
  | claimTurn _ he _ _ => exact h.setFile he rfl
  | returnFrame he => exact returnFrame_wellFormed h hr he
  | bindNew he h0 hp =>
    rw [if_neg (by simpa [AList.lookup_eq_none] using newPage_absent h hr he h0 hp)]
    exact bindNew_wellFormed h hr he h0 hp
  | failNew he _ => exact failNew_wellFormed h hr he
  | publishNew he _ _ ht => exact publishNew_wellFormed (le_max_right ..) h hr he ht
  | startWriteback he hs hd _ => exact startWriteback_wellFormed h he hs hd
  | finishWriteback => exact endWriteback_wellFormed _ h hr
  | failWriteback => exact endWriteback_wellFormed (pool.frames _).dirty h hr
  | unpin _ => exact unpin_wellFormed h hr

end DBlusBlus.BufferPool
