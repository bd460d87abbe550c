import DBlusBlus.BufferPool.Preservation

/-! Every move gives up and takes exactly the resources by which the pool's demand changes. -/

namespace DBlusBlus.BufferPool

open Accounting

variable {N : ℕ} {V : Type} {pool pool' : Pool N} {limit : ℕ} {loads : LoadId → LoadOperation N}

lemma startCall_resources (call : Call) : (startCall call : Pc N V).resources loads = [] := by
  cases call with
  | registerFile file validator =>
    rw [startCall]
    split <;> rfl
  | _ => rfl

lemma flushReturnPc_resources (page : PageId) (status : BufferStatus) (caller : FlushCaller) :
    (flushReturnPc page status caller : Pc N V).resources loads = [] := by
  cases caller <;> rfl

lemma matchingEndPc_resources (status : BufferStatus) (caller : MatchingCaller) :
    (matchingEndPc status caller : Pc N V).resources loads = [] := by
  cases caller <;> cases status <;> rfl

lemma unpinPc_resources (assignment : Option (GuardVar V × GuardVar V)) :
    (unpinPc assignment : Pc N V).resources loads = [] := by
  cases assignment <;> rfl

variable [NeZero N]

/-- A thread gives up `old` and takes `new`. -/
def Exchange (pool pool' : Pool N) (old new : List (Resource N)) : Prop :=
  ∀ r, pool'.demand r + old.count r = pool.demand r + new.count r

lemma Quiet.resources {pc pc' : Pc N V} (hr : Ready pool pc) (hq : Quiet pool pc pc') :
    pc'.resources pool.loads = pc.resources pool.loads := by
  cases hq with
  | joinPinned hd hf => simp [Pc.resources, LoadOperation.joiner, hd, hf]
  | joinFailed hd hf => simp [Pc.resources, LoadOperation.joiner, hd, hf]
  | matchingEnd => exact matchingEndPc_resources _ _
  | flushSettled => exact flushReturnPc_resources _ _ _
  | unpinNone hp =>
    have := demand_pin.mp (hr.due _ (List.mem_cons_self ..))
    omega
  | _ => rfl

section Replacement

variable {requester : Requester} {f : Fin N} {victim : PageId} {entry : PageTableEntry N}

lemma claimFrame_exchange {rest : List (Fin N)} (h : pool.WellFormed limit)
    (hf : pool.freeList = f :: rest) :
    Exchange pool { pool with freeList := rest } requester.resources
      (.frame f .unbound :: requester.resources) := by
  have hs := h.listed f (hf ▸ List.mem_cons_self ..)
  have hn : f ∉ rest := (List.nodup_cons.mp (hf ▸ h.nodup)).1
  intro r
  cases r with
  | frame g role =>
    by_cases hg : g = f
    · subst hg
      cases role <;> simp [Pool.demand, BufferFrame.demand, hs, hf, hn]
      omega
    · simp [Pool.demand, hg, Ne.symm hg, hf]
  | _ => simp [Pool.demand]

lemma reserveVictim_exchange (replacer : ClockReplacer N) (h : pool.WellFormed limit)
    (he : isVictimEligible pool f = true)
    (hl : pool.pageTable.lookup (pool.frames f).page.id = some entry) :
    Exchange pool { (pool.setFrame f { pool.frames f with state := .evicting }).setEntry
        (pool.frames f).page.id { entry with state := .evicting } with replacer := replacer }
      requester.resources
      (.frame f (.victim (pool.frames f).page.id) :: requester.resources) := by
  obtain ⟨hs, hp, hio, -⟩ := (isVictimEligible_iff f).mp he
  obtain ⟨hb, -⟩ := h.resident hs
  obtain rfl := Option.some.inj (hl.symm.trans hb)
  intro r
  cases r with
  | frame g role =>
    by_cases hg : g = f
    · subst hg
      cases role <;> simp [Pool.demand, BufferFrame.demand, hs, hio]
    · simp [Pool.demand, hg, Ne.symm hg]
  | entry q role =>
    by_cases hq : q = (pool.frames f).page.id
    · subst hq
      cases role <;> simp [Pool.demand, entryDemand, hb]
    · simp [Pool.demand, hq]
  | _ => simp [Pool.demand]

lemma startEviction_exchange (hr : Ready pool (.victimReserved requester f victim : Pc N V)) :
    Exchange pool (pool.setFrame f { pool.frames f with ioState := .writebackInProgress })
      (.frame f (.victim victim) :: requester.resources)
      (.frame f (.eviction victim) :: requester.resources) := by
  obtain ⟨hs, hio, hid⟩ := demand_victim.mp (hr.due _ (List.mem_cons_self ..))
  intro r
  cases r with
  | frame g role =>
    by_cases hg : g = f
    · subst hg
      cases role <;> simp [Pool.demand, BufferFrame.demand, hs, hio, hid]
    · simp [Pool.demand, hg, Ne.symm hg]
  | _ => simp [Pool.demand]

lemma dropClean_exchange (h : pool.WellFormed limit)
    (hr : Ready pool (.victimReserved requester f victim : Pc N V)) :
    Exchange pool ((pool.eraseEntry victim).resetFrame f)
      (.frame f (.victim victim) :: requester.resources)
      (.frame f .unbound :: requester.resources) := by
  obtain ⟨hs, hio, hid⟩ := demand_victim.mp (hr.due _ (List.mem_cons_self ..))
  obtain ⟨hb, hp, -⟩ := h.evicting hs
  rw [hid] at hb
  have hn := h.notMem_freeList (f := f) (by simp [hs])
  intro r
  cases r with
  | frame g role =>
    by_cases hg : g = f
    · subst hg
      cases role <;> simp [Pool.demand, BufferFrame.demand, hs, hio, hid, hp, hn]
      omega
    · simp [Pool.demand, hg, Ne.symm hg]
  | entry q role =>
    by_cases hq : q = victim
    · subst hq
      cases role <;> simp [Pool.demand, entryDemand, hb]
    · simp [Pool.demand, hq]
  | _ => simp [Pool.demand]

lemma finishEviction_exchange {written : BufferStatus} (h : pool.WellFormed limit)
    (hr : Ready pool (.finishWrite (.evict requester f victim) written : Pc N V)) :
    Exchange pool
      (((pool.setFrame f { pool.frames f with ioState := .none }).eraseEntry victim).resetFrame f)
      (.frame f (.eviction victim) :: requester.resources)
      (.frame f .unbound :: requester.resources) := by
  obtain ⟨hs, hio, hid⟩ := demand_eviction.mp (hr.due _ (List.mem_cons_self ..))
  obtain ⟨hb, hp, -⟩ := h.evicting hs
  rw [hid] at hb
  have hn := h.notMem_freeList (f := f) (by simp [hs])
  intro r
  cases r with
  | frame g role =>
    by_cases hg : g = f
    · subst hg
      cases role <;> simp [Pool.demand, BufferFrame.demand, hs, hio, hid, hp, hn]
      omega
    · simp [Pool.demand, hg, Ne.symm hg]
  | entry q role =>
    by_cases hq : q = victim
    · subst hq
      cases role <;> simp [Pool.demand, entryDemand, hb]
    · simp [Pool.demand, hq]
  | _ => simp [Pool.demand]

lemma restoreVictim_exchange {written : BufferStatus} (h : pool.WellFormed limit)
    (hr : Ready pool (.finishWrite (.evict requester f victim) written : Pc N V))
    (hl : pool.pageTable.lookup victim = some entry) :
    Exchange pool
      ((pool.setFrame f { pool.frames f with state := .resident, ioState := .none }).setEntry
        victim { entry with state := .resident })
      (.frame f (.eviction victim) :: requester.resources) requester.resources := by
  obtain ⟨hs, hio, hid⟩ := demand_eviction.mp (hr.due _ (List.mem_cons_self ..))
  obtain ⟨hb, -⟩ := h.evicting hs
  rw [hid] at hb
  obtain rfl := Option.some.inj (hl.symm.trans hb)
  intro r
  cases r with
  | frame g role =>
    by_cases hg : g = f
    · subst hg
      cases role <;> simp [Pool.demand, BufferFrame.demand, hs, hio, hid]
    · simp [Pool.demand, hg, Ne.symm hg]
  | entry q role =>
    by_cases hq : q = victim
    · subst hq
      cases role <;> simp [Pool.demand, entryDemand, hb]
    · simp [Pool.demand, hq]
  | _ => simp [Pool.demand]

end Replacement

section Load

variable {page : PageId} {mode : LatchMode} {load : LoadId} {f : Fin N} {read : DiskStatus}
  {outcome : PageValidationOutcome} {entry : PageTableEntry N}

lemma installIntent_exchange (mode : LatchMode) (h : pool.WellFormed limit)
    (hn : pool.pageTable.lookup page = none) :
    Exchange pool
      { (pool.setEntry page ⟨.loadIntent, 0, some pool.nextLoad⟩).setLoad pool.nextLoad
          { LoadOperation.initial with claims := 1 } with
        nextLoad := pool.nextLoad + 1 }
      [] (Requester.fetch page mode pool.nextLoad).resources := by
  have hl := h.fresh pool.nextLoad le_rfl
  intro r
  cases r with
  | entry q role =>
    by_cases hq : q = page
    · subst hq
      cases role <;> simp [Pool.demand, entryDemand, Requester.resources, hn]
    · simp [Pool.demand, Requester.resources, hq, Ne.symm hq]
  | load ℓ role =>
    by_cases hm : ℓ = pool.nextLoad
    · subst hm
      cases role <;>
        simp [Pool.demand, LoadOperation.demand, Requester.resources, hl, LoadOperation.initial]
    · have : ℓ < pool.nextLoad + 1 ↔ ℓ < pool.nextLoad := by
        have : ℓ < pool.nextLoad + 1 ↔ ℓ ≤ pool.nextLoad := Nat.lt_succ_iff
        rw [this, le_iff_lt_or_eq, or_iff_left hm]
      simp [Pool.demand, Requester.resources, hm, Ne.symm hm, this]
  | _ => simp [Pool.demand, Requester.resources]

lemma pinHit_exchange (h : pool.WellFormed limit) (he : pool.pageTable.lookup page = some entry)
    (hs : entry.state = .resident) :
    Exchange pool
      ((pool.setFrame entry.frameId { pool.frames entry.frameId with
        pinCount := (pool.frames entry.frameId).pinCount + 1 }).setReferenced entry.frameId)
      [] [.frame entry.frameId .pin] := by
  obtain ⟨-, hf⟩ := h.bound_resident he hs
  intro r
  cases r with
  | frame g role =>
    by_cases hg : g = entry.frameId
    · subst hg
      cases role <;> simp [Pool.demand, BufferFrame.demand, hf]
    · simp [Pool.demand, hg, Ne.symm hg]
  | _ => simp [Pool.demand]

lemma claimLoad_exchange {pc : Pc N V} (hr : Ready pool pc)
    (he : pool.pageTable.lookup page = some entry) (hl : entry.load = some load) :
    Exchange pool
      (pool.setLoad load { pool.loads load with claims := (pool.loads load).claims + 1 })
      [] [.load load .claim] := by
  obtain ⟨hd, -⟩ := hr.pending page entry load he hl
  intro r
  cases r with
  | load ℓ role =>
    by_cases hm : ℓ = load
    · subst hm
      cases role <;> simp [Pool.demand, LoadOperation.demand, hd]
    · simp [Pool.demand, hm, Ne.symm hm]
  | _ => simp [Pool.demand]

lemma bindLoad_exchange (h : pool.WellFormed limit)
    (hr : Ready pool (.frameAcquired (.fetch page mode load) f : Pc N V))
    (he : pool.pageTable.lookup page = some entry) :
    Exchange pool
      ((bindFrame pool f page .readInProgress).setEntry page
        { entry with state := .loading, frameId := f })
      (.frame f .unbound :: (Requester.fetch page mode load).resources)
      [.entry page (.loading f (some load)), .load load .loader, .load load .claim] := by
  have hi := demand_intent.mp (hr.due (.entry page (.intent load))
    (by simp [Pc.resources, Requester.resources]))
  obtain ⟨hf, hn⟩ := demand_unbound.mp (hr.due (.frame f .unbound) (List.mem_cons_self ..))
  obtain rfl := Option.some.inj (he.symm.trans hi)
  have hp := (h.free hf).2.2.1
  intro r
  cases r with
  | frame g role =>
    by_cases hg : g = f
    · subst hg
      cases role <;>
        simp [Pool.demand, BufferFrame.demand, bindFrame, Requester.resources, hf, hn, hp]
    · simp [Pool.demand, bindFrame, Requester.resources, hg, Ne.symm hg]
  | entry q role =>
    by_cases hq : q = page
    · subst hq
      cases role <;> simp [Pool.demand, entryDemand, bindFrame, Requester.resources, hi, eq_comm]
    · simp [Pool.demand, bindFrame, Requester.resources, hq, Ne.symm hq]
  | _ => simp [Pool.demand, bindFrame, Requester.resources]

end Load

section NewPage

variable {file : FileId} {init : PageInitializer} {page : PageId} {f : Fin N} {built : Bool}
  {outcome : PageValidationOutcome} {entry : FileEntry}

lemma setFile_exchange {entry' : FileEntry} (he : pool.files.lookup file = some entry)
    (hn : entry'.newPageInProgress = entry.newPageInProgress) :
    Exchange pool (pool.setFile file entry') [] [] := by
  intro r
  cases r with
  | turn other =>
    by_cases hf : other = file
    · subst hf
      simp [Pool.demand, turnDemand, he, hn]
    · simp [Pool.demand, hf]
  | _ => simp [Pool.demand]

lemma claimTurn_exchange (init : PageInitializer) (he : pool.files.lookup file = some entry)
    (hn : entry.newPageInProgress = false) :
    Exchange pool (pool.setFile file { entry with newPageInProgress := true })
      [] (Requester.newPage file init).resources := by
  intro r
  cases r with
  | turn other =>
    by_cases hf : other = file
    · subst hf
      simp [Pool.demand, turnDemand, Requester.resources, he, hn]
    · simp [Pool.demand, Requester.resources, hf, Ne.symm hf]
  | _ => simp [Pool.demand, Requester.resources]

lemma endTurn_exchange {error : BufferError}
    (hr : Ready pool (.requestFailed (.newPage file init) error : Pc N V))
    (he : pool.files.lookup file = some entry) :
    Exchange pool (pool.setFile file { entry with newPageInProgress := false })
      (Requester.newPage file init).resources [] := by
  obtain ⟨entry', he', ht⟩ := demand_turn.mp (hr.due (.turn file)
    (by simp [Pc.resources, Requester.resources]))
  obtain rfl := Option.some.inj (he.symm.trans he')
  intro r
  cases r with
  | turn other =>
    by_cases hf : other = file
    · subst hf
      simp [Pool.demand, turnDemand, Requester.resources, he, ht]
    · simp [Pool.demand, Requester.resources, hf, Ne.symm hf]
  | _ => simp [Pool.demand, Requester.resources]

lemma returnFrame_exchange {pageNo : DiskResult PageNo}
    (hr : Ready pool (.newPageReserved file init f pageNo : Pc N V))
    (he : pool.files.lookup file = some entry) :
    Exchange pool
      ((pool.releaseFrameToFreeList f).setFile file { entry with newPageInProgress := false })
      [.frame f .unbound, .turn file] [] := by
  obtain ⟨hs, hn⟩ := demand_unbound.mp (hr.due (.frame f .unbound) (List.mem_cons_self ..))
  obtain ⟨entry', he', ht⟩ := demand_turn.mp (hr.due (.turn file) (by simp [Pc.resources]))
  obtain rfl := Option.some.inj (he.symm.trans he')
  intro r
  cases r with
  | frame g role =>
    by_cases hg : g = f
    · subst hg
      cases role <;> simp [Pool.demand, BufferFrame.demand, hs, hn]
    · simp [Pool.demand, hg, Ne.symm hg]
  | turn other =>
    by_cases hf : other = file
    · subst hf
      simp [Pool.demand, turnDemand, he, ht]
    · simp [Pool.demand, hf, Ne.symm hf]
  | _ => simp [Pool.demand]

lemma bindNew_exchange (h : pool.WellFormed limit) {pageNo : PageNo}
    (hr : Ready pool (.newPageReserved file init f (.ok pageNo) : Pc N V))
    (he : pool.files.lookup file = some entry) (h0 : pageNo ≠ 0)
    (hp : pageNo = entry.publishedPageCount) :
    Exchange pool
      ((bindFrame pool f ⟨file, pageNo⟩ .none).setEntry ⟨file, pageNo⟩ ⟨.loading, f, none⟩)
      [.frame f .unbound, .turn file]
      [.entry ⟨file, pageNo⟩ (.loading f none), .turn file] := by
  obtain ⟨hs, hn⟩ := demand_unbound.mp (hr.due (.frame f .unbound) (List.mem_cons_self ..))
  have ha := newPage_absent h hr he h0 hp
  have hpin := (h.free hs).2.2.1
  intro r
  cases r with
  | frame g role =>
    by_cases hg : g = f
    · subst hg
      cases role <;> simp [Pool.demand, BufferFrame.demand, bindFrame, hs, hn, hpin]
    · simp [Pool.demand, bindFrame, hg, Ne.symm hg]
  | entry q role =>
    by_cases hq : q = ⟨file, pageNo⟩
    · subst hq
      cases role <;> simp [Pool.demand, entryDemand, bindFrame, ha, eq_comm]
    · simp [Pool.demand, bindFrame, hq, Ne.symm hq]
  | _ => simp [Pool.demand, bindFrame]

lemma failNew_exchange (h : pool.WellFormed limit)
    (hr : Ready pool (.newPageFinish page f built outcome : Pc N V))
    (he : pool.files.lookup page.fileId = some entry) :
    Exchange pool
      ((((pool.eraseEntry page).resetFrame f).releaseFrameToFreeList f).setFile page.fileId
        { entry with newPageInProgress := false })
      [.entry page (.loading f none), .turn page.fileId] [] := by
  have hi := demand_loading.mp (hr.due (.entry page (.loading f none)) (by simp [Pc.resources]))
  obtain ⟨entry', he', ht⟩ := demand_turn.mp (hr.due (.turn page.fileId)
    (by simp [Pc.resources]))
  obtain rfl := Option.some.inj (he.symm.trans he')
  obtain ⟨-, hs⟩ := h.bound_loading hi
  have hpin := (h.loading hs).1
  intro r
  cases r with
  | frame g role =>
    by_cases hg : g = f
    · subst hg
      cases role <;> simp [Pool.demand, BufferFrame.demand, hs, hpin]
    · simp [Pool.demand, hg]
  | entry q role =>
    by_cases hq : q = page
    · subst hq
      cases role <;> simp [Pool.demand, entryDemand, hi, eq_comm]
    · simp [Pool.demand, hq, Ne.symm hq]
  | turn other =>
    by_cases hf : other = page.fileId
    · subst hf
      simp [Pool.demand, turnDemand, he, ht]
    · simp [Pool.demand, hf, Ne.symm hf]
  | load => simp [Pool.demand]

lemma publishNew_exchange {tableEntry : PageTableEntry N} (h : pool.WellFormed limit)
    (hr : Ready pool (.newPageFinish page f built outcome : Pc N V))
    (he : pool.files.lookup page.fileId = some entry)
    (hl : pool.pageTable.lookup page = some tableEntry) :
    Exchange pool
      ((((pool.setFrame f { pool.frames f with
        state := .resident, pinCount := 1, dirty := true,
        modificationGeneration := (pool.frames f).modificationGeneration + 1 }).setReferenced
          f).setEntry page { tableEntry with state := .resident }).setFile page.fileId
        { entry with publishedPageCount := page.pageNo + 1, newPageInProgress := false })
      [.entry page (.loading f none), .turn page.fileId] [.frame f .pin] := by
  have hi := demand_loading.mp (hr.due (.entry page (.loading f none)) (by simp [Pc.resources]))
  obtain ⟨entry', he', ht⟩ := demand_turn.mp (hr.due (.turn page.fileId)
    (by simp [Pc.resources]))
  obtain rfl := Option.some.inj (he.symm.trans he')
  obtain rfl := Option.some.inj (hl.symm.trans hi)
  obtain ⟨hid, hs⟩ := h.bound_loading hi
  obtain ⟨hpin, -, load, hb, hio⟩ := h.loading hs
  rw [hid] at hb
  obtain rfl : none = load := congrArg PageTableEntry.load (Option.some.inj (hl.symm.trans hb))
  have hio : (pool.frames f).ioState = .none := hio
  intro r
  cases r with
  | frame g role =>
    by_cases hg : g = f
    · subst hg
      cases role <;> simp [Pool.demand, BufferFrame.demand, hs, hpin, hio]
    · simp [Pool.demand, hg, Ne.symm hg]
  | entry q role =>
    by_cases hq : q = page
    · subst hq
      cases role <;> simp [Pool.demand, entryDemand, hi, eq_comm]
    · simp [Pool.demand, hq, Ne.symm hq]
  | turn other =>
    by_cases hf : other = page.fileId
    · subst hf
      simp [Pool.demand, turnDemand, he, ht]
    · simp [Pool.demand, hf, Ne.symm hf]
  | load => simp [Pool.demand]

end NewPage

section Flush

variable {page : PageId} {f : Fin N} {entry : PageTableEntry N}

lemma startWriteback_exchange (h : pool.WellFormed limit)
    (he : pool.pageTable.lookup page = some entry) (hs : entry.state = .resident)
    (hio : (pool.frames entry.frameId).ioState = .none) :
    Exchange pool
      (pool.setFrame entry.frameId
        { pool.frames entry.frameId with ioState := .writebackInProgress })
      [] [.frame entry.frameId (.writeback (pool.frames entry.frameId).page.id
        (pool.frames entry.frameId).bindingEpoch)] := by
  obtain ⟨-, hf⟩ := h.bound_resident he hs
  intro r
  cases r with
  | frame g role =>
    by_cases hg : g = entry.frameId
    · subst hg
      cases role <;> simp [Pool.demand, BufferFrame.demand, hf, hio]
    · simp [Pool.demand, hg, Ne.symm hg]
  | _ => simp [Pool.demand]

lemma endWriteback_exchange {bindingEpoch copiedGeneration : ℕ} {caller : FlushCaller}
    {written : BufferStatus} (dirty : Bool)
    (hr : Ready pool
      (.finishWrite (.flush f page bindingEpoch copiedGeneration caller) written : Pc N V)) :
    Exchange pool (pool.setFrame f { pool.frames f with ioState := .none, dirty := dirty })
      [.frame f (.writeback page bindingEpoch)] [] := by
  obtain ⟨hs, hio, hid, hb⟩ := demand_writeback.mp (hr.due _ (List.mem_cons_self ..))
  intro r
  cases r with
  | frame g role =>
    by_cases hg : g = f
    · subst hg
      cases role <;> simp [Pool.demand, BufferFrame.demand, hs, hio, hid, hb]
    · simp [Pool.demand, hg, Ne.symm hg]
  | _ => simp [Pool.demand]

lemma unpin_exchange {assignment : Option (GuardVar V × GuardVar V)} (h : pool.WellFormed limit)
    (hr : Ready pool (.unpin f assignment)) :
    Exchange pool (pool.setFrame f { pool.frames f with
      pinCount := (pool.frames f).pinCount - 1 }) [.frame f .pin] [] := by
  have hp := demand_pin.mp (hr.due (.frame f .pin) (List.mem_cons_self ..))
  have hs := h.resident_of_pinned hp
  intro r
  cases r with
  | frame g role =>
    by_cases hg : g = f
    · subst hg
      cases role <;> simp [Pool.demand, BufferFrame.demand, hs]
      omega
    · simp [Pool.demand, hg, Ne.symm hg]
  | _ => simp [Pool.demand]

end Flush

section Registry

variable {file : FileId} {page : PageId} {entry : PageTableEntry N}

lemma registerFile_exchange {new : FileEntry} (hf : file ∉ pool.files)
    (hn : new.newPageInProgress = false) : Exchange pool (pool.setFile file new) [] [] := by
  have hf := AList.lookup_eq_none.mpr hf
  intro r
  cases r with
  | turn other =>
    by_cases ho : other = file
    · subst ho
      simp [Pool.demand, turnDemand, hf, hn]
    · simp [Pool.demand, ho]
  | _ => simp [Pool.demand]

lemma resetRetired_exchange (h : pool.WellFormed limit)
    (hr : Ready pool (.retireReset file : Pc N V))
    (he : pool.pageTable.lookup page = some entry) (hp : page.fileId = file) :
    Exchange pool
      (((pool.eraseEntry page).resetFrame entry.frameId).releaseFrameToFreeList entry.frameId)
      [] [] := by
  obtain ⟨hs, hpin, hio⟩ := (hr.drained file rfl).frame page entry he hp
  obtain ⟨hid, hf⟩ := h.bound_resident he hs
  obtain ⟨hb, -⟩ := h.resident hf
  rw [hid] at hb
  intro r
  cases r with
  | frame g role =>
    by_cases hg : g = entry.frameId
    · subst hg
      cases role <;> simp [Pool.demand, BufferFrame.demand, hf, hpin, hio]
    · simp [Pool.demand, hg]
  | entry q role =>
    by_cases hq : q = page
    · subst hq
      cases role <;> simp [Pool.demand, entryDemand, hb]
    · simp [Pool.demand, hq]
  | _ => simp [Pool.demand]

lemma closeFile_exchange (hr : Ready pool (.retireReset file : Pc N V)) :
    Exchange pool { pool with files := pool.files.erase file } [] [] := by
  have hq := (hr.drained file rfl).quiet
  intro r
  cases r with
  | turn other =>
    by_cases ho : other = file
    · subst ho
      cases hl : pool.files.lookup other with
      | none => simp [Pool.demand, hl]
      | some known => simp [Pool.demand, turnDemand, hl, hq known hl]
    · simp [Pool.demand, ho]
  | _ => simp [Pool.demand]

end Registry

section Ending

variable {page : PageId} {mode : LatchMode} {load : LoadId} {f : Fin N} {read : DiskStatus}
  {outcome : PageValidationOutcome} {entry : PageTableEntry N} {pc pc' : Pc N V}

/-- The loader of `load` ends it: its own claim and those of the joiners turn into `new`. -/
structure Ending (pool pool' : Pool N) (pc pc' : Pc N V) (page : PageId) (role : EntryRole N)
    (load : LoadId) (new : List (Resource N)) : Prop where
  held : pc.resources pool.loads =
    [.entry page role, .load load .loader, .load load .claim]
  taken : pc'.resources pool'.loads = new
  fresh : Resource.load load .claim ∉ new
  pending : (pool.loads load).joiner load = [.load load .claim]
  joiner : (pool'.loads load).joiner load = new
  others : ∀ other, other ≠ load → pool'.loads other = pool.loads other
  demand : ∀ r, pool'.demand r =
    if r = .load load .claim then 0
    else (if r = .entry page role ∨ r = .load load .loader then 0 else pool.demand r) +
      new.count r * (pool.loads load).claims

lemma failIntent_ending {error error' error'' : BufferError} {result : Outcome}
    (h : pool.WellFormed limit)
    (hr : Ready pool (.requestFailed (.fetch page mode load) error : Pc N V)) :
    Ending pool ((pool.eraseEntry page).setLoad load { pool.loads load with
        error := error', done := true })
      (.requestFailed (.fetch page mode load) error'' : Pc N V) (.idle result) page
      (.intent load) load [] := by
  have hi := demand_intent.mp (hr.due (.entry page (.intent load))
    (by simp [Pc.resources, Requester.resources]))
  obtain ⟨hlt, hd⟩ := demand_loader.mp (hr.due (.load load .loader)
    (by simp [Pc.resources, Requester.resources]))
  have hu := h.unfinished load hd
  refine ⟨rfl, rfl, by simp, by simp [LoadOperation.joiner, hd], by simp [LoadOperation.joiner, hu],
    fun other ho => by simp [ho], fun r => ?_⟩
  cases r with
  | entry q role =>
    by_cases hq : q = page
    · subst hq
      cases role with
      | intent ℓ => by_cases hm : load = ℓ <;> simp [Pool.demand, entryDemand, hi, hm, eq_comm]
      | loading => simp [Pool.demand, entryDemand, hi]
    · simp [Pool.demand, hq]
  | load ℓ role =>
    by_cases hm : ℓ = load
    · subst hm
      cases role <;> simp [Pool.demand, LoadOperation.demand]
    · simp [Pool.demand, hm]
  | _ => simp [Pool.demand]

lemma failLoad_ending {error : BufferError} {result : Outcome} (h : pool.WellFormed limit)
    (hr : Ready pool (.finishLoad page mode load f read outcome : Pc N V)) :
    Ending pool ((((pool.resetFrame f).releaseFrameToFreeList f).eraseEntry page).setLoad load
        { pool.loads load with error := error, done := true })
      (.finishLoad page mode load f read outcome : Pc N V) (.idle result) page
      (.loading f (some load)) load [] := by
  have hi := demand_loading.mp (hr.due (.entry page (.loading f (some load)))
    (by simp [Pc.resources]))
  obtain ⟨hlt, hd⟩ := demand_loader.mp (hr.due (.load load .loader) (by simp [Pc.resources]))
  have hu := h.unfinished load hd
  obtain ⟨-, hs⟩ := h.bound_loading hi
  have hp := (h.loading hs).1
  refine ⟨rfl, rfl, by simp, by simp [LoadOperation.joiner, hd], by simp [LoadOperation.joiner, hu],
    fun other ho => by simp [ho], fun r => ?_⟩
  cases r with
  | frame g role =>
    by_cases hg : g = f
    · subst hg
      cases role <;> simp [Pool.demand, BufferFrame.demand, hs, hp]
    · simp [Pool.demand, hg]
  | entry q role =>
    by_cases hq : q = page
    · subst hq
      cases role with
      | intent => simp [Pool.demand, entryDemand, hi]
      | loading g ℓ =>
        by_cases hm : g = f ∧ ℓ = some load
        · obtain ⟨rfl, rfl⟩ := hm
          simp [Pool.demand, entryDemand]
        · have : ¬ (f = g ∧ some load = ℓ) := fun he => hm ⟨he.1.symm, he.2.symm⟩
          simp [Pool.demand, entryDemand, hi, hm, this]
    · simp [Pool.demand, hq]
  | load ℓ role =>
    by_cases hm : ℓ = load
    · subst hm
      cases role <;> simp [Pool.demand, LoadOperation.demand]
    · simp [Pool.demand, hm]
  | turn => simp [Pool.demand]

lemma publishLoad_ending (h : pool.WellFormed limit)
    (hr : Ready pool (.finishLoad page mode load f read outcome : Pc N V))
    (he : pool.pageTable.lookup page = some entry) :
    Ending pool ((((pool.setFrame f { pool.frames f with
        state := .resident, ioState := .none, pinCount := (pool.loads load).claims }).setReferenced
          f).setEntry page { entry with state := .resident, load := none }).setLoad load
        { pool.loads load with frameId := some f, done := true })
      (.finishLoad page mode load f read outcome : Pc N V)
      (.makeGuard (.fetch page mode (.ok ())) f mode) page (.loading f (some load)) load
      [.frame f .pin] := by
  have hi := demand_loading.mp (hr.due (.entry page (.loading f (some load)))
    (by simp [Pc.resources]))
  obtain ⟨hlt, hd⟩ := demand_loader.mp (hr.due (.load load .loader) (by simp [Pc.resources]))
  obtain rfl := Option.some.inj (he.symm.trans hi)
  obtain ⟨-, hs⟩ := h.bound_loading hi
  have hp := (h.loading hs).1
  refine ⟨rfl, rfl, by simp, by simp [LoadOperation.joiner, hd], by simp [LoadOperation.joiner],
    fun other ho => by simp [ho], fun r => ?_⟩
  cases r with
  | frame g role =>
    by_cases hg : g = f
    · subst hg
      cases role <;> simp [Pool.demand, BufferFrame.demand, hs, hp]
    · simp [Pool.demand, hg, Ne.symm hg]
  | entry q role =>
    by_cases hq : q = page
    · subst hq
      cases role with
      | intent => simp [Pool.demand, entryDemand, hi]
      | loading g ℓ =>
        by_cases hm : g = f ∧ ℓ = some load
        · obtain ⟨rfl, rfl⟩ := hm
          simp [Pool.demand, entryDemand]
        · have : ¬ (f = g ∧ some load = ℓ) := fun he => hm ⟨he.1.symm, he.2.symm⟩
          simp [Pool.demand, entryDemand, hi, hm, this]
    · simp [Pool.demand, hq]
  | load ℓ role =>
    by_cases hm : ℓ = load
    · subst hm
      cases role <;> simp [Pool.demand, LoadOperation.demand]
    · simp [Pool.demand, hm]
  | turn => simp [Pool.demand]

end Ending

variable {opts : BufferPoolOptions} {pc pc' : Pc N V}

theorem Move.exchange (h : pool.WellFormed opts.pinLimit) (hr : Ready pool pc)
    (hm : Move opts pool pc pool' pc') :
    (Exchange pool pool' (pc.resources pool.loads) (pc'.resources pool'.loads) ∧
      ∀ load, (pool'.loads load).joiner load = (pool.loads load).joiner load) ∨
    ∃ page role load new, Ending pool pool' pc pc' page role load new := by
  cases hm with
  | quiet replacer hq =>
    refine .inl ⟨fun r => ?_, fun _ => rfl⟩
    have := hq.resources hr
    simp only [this]
    cases r <;> rfl
  | fault hm _ => exact absurd hm (hr.not_missing h)
  | registerFile _ hf => exact .inl ⟨registerFile_exchange hf rfl, fun _ => rfl⟩
  | beginRetire he _ => exact .inl ⟨setFile_exchange he rfl, fun _ => rfl⟩
  | resetRetired he hp => exact .inl ⟨resetRetired_exchange h hr he hp, fun _ => rfl⟩
  | closeFile => exact .inl ⟨closeFile_exchange hr, fun _ => rfl⟩
  | quiesce =>
    refine .inl ⟨fun r => ?_, fun _ => rfl⟩
    cases r <;> rfl
  | claimFrame hf => exact .inl ⟨claimFrame_exchange h hf, fun _ => rfl⟩
  | @installIntent page mode _ _ hn =>
    refine .inl ⟨installIntent_exchange mode h hn, fun load => ?_⟩
    by_cases hl : load = pool.nextLoad
    · subst hl
      simp [LoadOperation.joiner, h.fresh pool.nextLoad le_rfl, LoadOperation.initial]
    · simp [hl]
  | pinHit _ he hs _ => exact .inl ⟨pinHit_exchange h he hs, fun _ => rfl⟩
  | @claimLoad page mode hitNotified entry load _ he _ hl _ =>
    have hd := (hr.pending page entry load he hl).1
    refine .inl ⟨?_, fun other => ?_⟩
    · simpa [Pc.resources, LoadOperation.joiner, hd] using claimLoad_exchange hr he hl
    · by_cases ho : other = load
      · subst ho
        simp [LoadOperation.joiner]
      · simp [ho]
  | reserveVictim replacer hpc he hl =>
    refine .inl ⟨?_, fun _ => rfl⟩
    rcases hpc with ⟨n, rfl⟩ | ⟨v, rfl⟩
    · exact reserveVictim_exchange replacer h he hl
    · exact reserveVictim_exchange replacer h he hl
  | startEviction => exact .inl ⟨startEviction_exchange hr, fun _ => rfl⟩
  | dropClean => exact .inl ⟨dropClean_exchange h hr, fun _ => rfl⟩
  | finishEviction => exact .inl ⟨finishEviction_exchange h hr, fun _ => rfl⟩
  | restoreVictim hl => exact .inl ⟨restoreVictim_exchange h hr hl, fun _ => rfl⟩
  | failIntent => exact .inr ⟨_, _, _, _, failIntent_ending h hr⟩
  | endTurn he => exact .inl ⟨endTurn_exchange hr he, fun _ => rfl⟩
  | bindLoad he _ => exact .inl ⟨bindLoad_exchange h hr he, fun _ => rfl⟩
  | failLoad => exact .inr ⟨_, _, _, _, failLoad_ending h hr⟩
  | publishLoad _ he => exact .inr ⟨_, _, _, _, publishLoad_ending h hr he⟩
  | @claimTurn _ init _ _ he _ hn =>
    exact .inl ⟨claimTurn_exchange init he hn, fun _ => rfl⟩
  | returnFrame he => exact .inl ⟨returnFrame_exchange hr he, fun _ => rfl⟩
  | bindNew he h0 hp =>
    rw [if_neg (by simpa [AList.lookup_eq_none] using newPage_absent h hr he h0 hp)]
    exact .inl ⟨bindNew_exchange h hr he h0 hp, fun _ => rfl⟩
  | failNew he _ => exact .inl ⟨failNew_exchange h hr he, fun _ => rfl⟩
  | publishNew he _ _ ht => exact .inl ⟨publishNew_exchange h hr he ht, fun _ => rfl⟩
  | startWriteback he hs _ hio => exact .inl ⟨startWriteback_exchange h he hs hio, fun _ => rfl⟩
  | finishWriteback => exact .inl ⟨endWriteback_exchange _ hr, fun _ => rfl⟩
  | failWriteback =>
    refine .inl ⟨?_, fun _ => rfl⟩
    rw [flushReturnPc_resources]
    exact endWriteback_exchange (pool.frames _).dirty hr
  | unpin =>
    refine .inl ⟨?_, fun _ => rfl⟩
    rw [unpinPc_resources]
    exact unpin_exchange h hr

end DBlusBlus.BufferPool
