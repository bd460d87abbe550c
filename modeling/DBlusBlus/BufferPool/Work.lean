import DBlusBlus.BufferPool.Transfers

/-! How much is left to do in calls that have started. Every step that is not a wait takes from it,
also the ones that go back in a loop. -/

namespace DBlusBlus.BufferPool

open Accounting

variable {N : ℕ} {T V : Type}

def MatchingCaller.work : MatchingCaller → ℕ
  | .retireFile _ => 1
  | _ => 0

def matchingWork (rest : List PageId) (caller : MatchingCaller) : ℕ :=
  8 * rest.length + 1 + caller.work

/-- What is left after the current page has been written. -/
def FlushCaller.work : FlushCaller → ℕ
  | .flushPage => 0
  | .matching rest _ caller => matchingWork rest caller

/-- What is left once the requester has its frame. -/
def Requester.work : Requester → ℕ
  | .fetch _ _ _ => 7
  | .newPage _ _ => 17

def Writer.work : Writer N → ℕ
  | .evict requester _ _ => requester.work
  | .flush _ _ _ _ caller => caller.work

-- Every loop of the source is paid for by something that its rounds use up: a flushed page by the
-- frame that gets clean, a removed mapping by its entry, a page of a snapshot by its place there.
def Pc.work : Pc N V → ℕ
  | .idle _ => 0
  | .registerPageCount _ _ => 2
  | .registerFile _ _ _ => 1
  | .retireFile _ _ => 8 * N + 4
  | .retireDrain _ _ => 8 * N + 3
  | .retireReset _ => 1
  | .pinPage _ _ hitNotified => if hitNotified then 17 else 18
  | .joinLoad _ _ _ => 5
  | .acquireFrame requester candidateNotified =>
    if candidateNotified then requester.work + 6 else requester.work + 8
  | .candidateObserved requester _ _ => requester.work + 7
  | .victimReserved requester _ _ => requester.work + 5
  | .frameAcquired requester _ => requester.work
  | .requestFailed _ _ => 1
  | .readPage _ _ _ _ _ => 6
  | .finishLoad _ _ _ _ _ _ => 5
  | .newPageTurn _ _ => 26
  | .newPageCount _ _ _ _ => 16
  | .newPageExtend _ _ _ => 15
  | .newPageReserved _ _ _ _ => 14
  | .newPageBuild _ _ _ _ => 12
  | .newPageFinish _ _ _ _ => 11
  | .makeGuard _ _ _ => 4
  | .flushPageCall _ => 8
  | .flushFileCall _ | .flushAllCall => 8 * N + 2
  | .shutdownCall => 8 * N + 3
  | .shutdownDrain => 8 * N + 2
  | .flushMatching rest _ caller => matchingWork rest caller
  | .flushPage _ caller => caller.work + 7
  | .latchForCopy _ _ _ caller => caller.work + 6
  | .copyImage _ _ _ caller => caller.work + 5
  | .writePage writer _ => writer.work + 4
  | .syncFile writer _ => writer.work + 3
  | .finishWrite writer _ => writer.work + 2
  | .unpin _ _ => 2
  | .takeFrom _ _ => 1

/-- The image that is being flushed is older than its frame. -/
def Writer.stale (pool : Pool N) : Writer N → Prop
  | .evict _ _ _ => False
  | .flush f _ _ copiedGeneration _ =>
    (pool.frames f).modificationGeneration ≠ copiedGeneration

instance (pool : Pool N) : (writer : Writer N) → Decidable (writer.stale pool)
  | .evict _ _ _ => inferInstanceAs (Decidable False)
  | .flush f _ _ copiedGeneration _ =>
    inferInstanceAs (Decidable ((pool.frames f).modificationGeneration ≠ copiedGeneration))

/-- The round that a stale image makes necessary. -/
def Pc.rework (pool : Pool N) : Pc N V → ℕ
  | .writePage writer _ | .syncFile writer _ | .finishWrite writer _ =>
    6 * unit (writer.stale pool)
  | _ => 0

/-- The pcs at which a section may give up the mutex to come back to the same place. -/
def Pc.awaits : Pc N V → Bool
  | .pinPage _ _ _ | .joinLoad _ _ _ | .retireDrain _ _ | .newPageTurn _ _ | .flushPage _ _
  | .shutdownDrain => true
  | _ => false

def dirtyFrames (frames : Fin N → BufferFrame) : ℕ :=
  total fun f => unit ((frames f).dirty = true)

def Pool.work (pool : Pool N) : ℕ := 6 * dirtyFrames pool.frames + pool.pageTable.keys.length

def World.guardCount [Fintype T] [Fintype V] (w : World N T V) : ℕ :=
  total fun x : T × GuardVar V => unit ((w.guards x.1 x.2).isSome = true)

def World.work [Fintype T] [Fintype V] (w : World N T V) : ℕ :=
  total (fun t => (w.pc t).work + (w.pc t).rework w.pool) + w.pool.work + 3 * w.guardCount

section Pools

variable {pool : Pool N} {frames : Fin N → BufferFrame} {f : Fin N} {frame : BufferFrame}

lemma dirtyFrames_update : dirtyFrames (Function.update frames f frame) +
    unit ((frames f).dirty = true) = dirtyFrames frames + unit (frame.dirty = true) := by
  have h := total_step (f := fun g => unit ((frames g).dirty = true))
    (g := fun g => unit ((Function.update frames f frame g).dirty = true)) f
    fun g hg => by rw [Function.update_of_ne hg]
  rwa [Function.update_self] at h

lemma dirtyFrames_update_le (h : frame.dirty = true → (frames f).dirty = true) :
    dirtyFrames (Function.update frames f frame) ≤ dirtyFrames frames := by
  have hstep := @dirtyFrames_update _ frames f frame
  by_cases hd : frame.dirty = true
  · rw [unit_of (h hd), unit_of hd] at hstep
    omega
  · rw [unit_of_not hd] at hstep
    omega

lemma filterMap_sublist {α β : Type*} (p : α → Bool) (g : α → β) (l : List α) :
    (l.filterMap fun a => if p a then some (g a) else none).Sublist (l.map g) := by
  induction l with
  | nil => exact .slnil
  | cons a l ih =>
    rw [List.filterMap_cons, List.map_cons]
    cases hp : p a with
    | true => exact ih.cons_cons _
    | false => exact ih.cons _

lemma nodup_dirtyPages (scope : Option FileId) : (dirtyPages pool scope).Nodup := by
  rw [dirtyPages, (List.perm_insertionSort ..).nodup_iff]
  exact List.Nodup.sublist (filterMap_sublist _ _ _) pool.pageTable.keys_nodup

/-- A snapshot names no frame twice. -/
lemma length_dirtyPages [NeZero N] {limit : ℕ} (h : pool.WellFormed limit)
    (scope : Option FileId) : (dirtyPages pool scope).length ≤ N := by
  let frameOf (page : PageId) : Fin N := (pool.pageTable.lookup page).elim 0 (·.frameId)
  have hinj : ((dirtyPages pool scope).map frameOf).Nodup := by
    refine (nodup_dirtyPages scope).map_on fun page hp page' hp' heq => ?_
    obtain ⟨-, entry, he, hs, -⟩ := mem_dirtyPages.mp hp
    obtain ⟨-, entry', he', hs', -⟩ := mem_dirtyPages.mp hp'
    simp only [frameOf, he, he', Option.elim_some] at heq
    rw [← (h.bound_resident he hs).1, ← (h.bound_resident he' hs').1, heq]
  simpa using hinj.length_le_card

namespace Pool

variable {page : PageId} {entry old : PageTableEntry N}

lemma work_congr {pool' : Pool N} (hf : pool'.frames = pool.frames)
    (ht : pool'.pageTable = pool.pageTable) : pool'.work = pool.work := by
  rw [work, work, hf, ht]

@[simp] lemma work_setFile (file : FileId) (entry : FileEntry) :
    (pool.setFile file entry).work = pool.work := rfl

@[simp] lemma work_setLoad (load : LoadId) (operation : LoadOperation N) :
    (pool.setLoad load operation).work = pool.work := rfl

@[simp] lemma work_setReferenced (f : Fin N) : (pool.setReferenced f).work = pool.work := rfl

@[simp] lemma work_releaseFrameToFreeList (f : Fin N) :
    (pool.releaseFrameToFreeList f).work = pool.work := rfl

lemma work_setFrame : (pool.setFrame f frame).work + 6 * unit ((pool.frames f).dirty = true) =
    pool.work + 6 * unit (frame.dirty = true) := by
  have h := @dirtyFrames_update _ pool.frames f frame
  change 6 * dirtyFrames (Function.update pool.frames f frame) + pool.pageTable.keys.length + _ =
    6 * dirtyFrames pool.frames + pool.pageTable.keys.length + _
  omega

lemma work_setFrame_le (h : frame.dirty = true → (pool.frames f).dirty = true) :
    (pool.setFrame f frame).work ≤ pool.work := by
  have := dirtyFrames_update_le h
  change 6 * dirtyFrames (Function.update pool.frames f frame) + pool.pageTable.keys.length ≤
    6 * dirtyFrames pool.frames + pool.pageTable.keys.length
  omega

lemma work_bindFrame_le {page : PageId} {ioState : FrameIoState} :
    (bindFrame pool f page ioState).work ≤ pool.work :=
  work_setFrame_le (by simp)

lemma work_setFrame_same (h : frame.dirty = (pool.frames f).dirty) :
    (pool.setFrame f frame).work = pool.work := by
  have := @work_setFrame _ pool f frame
  rw [h] at this
  omega

lemma work_setEntry_le : (pool.setEntry page entry).work ≤ pool.work + 1 := by
  have := @Table.length_insert_le _ _ _ pool.pageTable page entry
  change 6 * dirtyFrames pool.frames + (pool.pageTable.insert page entry).keys.length ≤
    6 * dirtyFrames pool.frames + pool.pageTable.keys.length + 1
  omega

lemma work_setEntry (h : pool.pageTable.lookup page = some old) :
    (pool.setEntry page entry).work = pool.work := by
  change 6 * dirtyFrames pool.frames + (pool.pageTable.insert page entry).keys.length = _
  rw [Table.length_insert_of_lookup h, work]

lemma work_eraseEntry_le : (pool.eraseEntry page).work ≤ pool.work := by
  have := @Table.length_erase_le _ _ _ pool.pageTable page
  change 6 * dirtyFrames pool.frames + (pool.pageTable.erase page).keys.length ≤
    6 * dirtyFrames pool.frames + pool.pageTable.keys.length
  omega

lemma work_eraseEntry (h : pool.pageTable.lookup page = some old) :
    (pool.eraseEntry page).work + 1 = pool.work := by
  have := Table.length_erase_of_lookup h
  change 6 * dirtyFrames pool.frames + (pool.pageTable.erase page).keys.length + 1 =
    6 * dirtyFrames pool.frames + pool.pageTable.keys.length
  omega

lemma work_resetFrame_le : (pool.resetFrame f).work ≤ pool.work :=
  @Pool.work_setFrame_le _ pool f { pool.frames f with
    page := Page.unbound, state := .free, ioState := .none, pinCount := 0, dirty := false } (by simp)

end Pool

end Pools

section Returns

variable {pool : Pool N}

lemma flushReturnPc_work (page : PageId) (status : BufferStatus) (caller : FlushCaller) :
    (flushReturnPc page status caller : Pc N V).work = caller.work := by
  cases caller <;> rfl

lemma flushReturnPc_rework (page : PageId) (status : BufferStatus) (caller : FlushCaller) :
    (flushReturnPc page status caller : Pc N V).rework pool = 0 := by
  cases caller <;> rfl

lemma matchingEndPc_work (status : BufferStatus) (caller : MatchingCaller) :
    (matchingEndPc status caller : Pc N V).work ≤ caller.work ∧
      (matchingEndPc status caller : Pc N V).rework pool = 0 := by
  cases caller <;> cases status <;> exact ⟨by simp [matchingEndPc, Pc.work, MatchingCaller.work], rfl⟩

lemma unpinPc_work (assignment : Option (GuardVar V × GuardVar V)) :
    (unpinPc assignment : Pc N V).work ≤ 1 ∧ (unpinPc assignment : Pc N V).rework pool = 0 := by
  cases assignment <;> exact ⟨by simp [unpinPc, Pc.work], rfl⟩

lemma rework_evict (pool : Pool N) (requester : Requester) (f : Fin N) (victim : PageId)
    (image : PageBytes) : (Pc.writePage (.evict requester f victim) image : Pc N V).rework pool = 0 :=
  congrArg (6 * ·) (unit_of_not id)

lemma rework_fresh {f : Fin N} {copiedGeneration : ℕ}
    (h : (pool.frames f).modificationGeneration = copiedGeneration) (page : PageId)
    (bindingEpoch : ℕ) (caller : FlushCaller) (image : PageBytes) :
    (Pc.writePage (.flush f page bindingEpoch copiedGeneration caller) image :
      Pc N V).rework pool = 0 :=
  congrArg (6 * ·) (unit_of_not (not_not_intro h))

lemma Requester.work_ge (requester : Requester) : 7 ≤ requester.work := by
  cases requester <;> simp [Requester.work]

end Returns

section Moves

variable [NeZero N] {opts : BufferPoolOptions} {pool pool' : Pool N} {pc pc' : Pc N V} {limit : ℕ}

omit [NeZero N] in
lemma flushReturn_ne {page : PageId} {status : BufferStatus} {caller caller' : FlushCaller} :
    (flushReturn pool page status caller : Turn N V).pc ≠ .flushPage page caller' := by
  cases caller <;> simp [flushReturn]

lemma criticalSection_stays {turn : Turn N V} (h : criticalSection opts pool pc = some turn)
    (hw : pc.awaits = true) (hstay : turn.pc = pc) : turn.lock = .wait := by
  cases pc
  case pinPage page mode hitNotified =>
    obtain rfl := Option.some.inj h
    simp only [pinPage] at hstay ⊢
    cases hf : checkFetchable pool page with
    | error => simp [hf, fetchFailed] at hstay
    | ok =>
      cases he : pool.pageTable.lookup page with
      | none => simp [hf, he, installIntent] at hstay
      | some entry =>
        cases hs : entry.state with
        | loadIntent | loading =>
          simp only [hf, he, hs, claimLoad] at hstay
          split at hstay
          · simp [fetchFailed] at hstay
          · split at hstay <;> simp [fetchFailed] at hstay
        | evicting => simp [hs]
        | resident =>
          simp only [hf, he, hs, pinResident] at hstay
          split at hstay
          · rename_i hn
            simp only [Pc.pinPage.injEq, true_and] at hstay
            simp [← hstay] at hn
          · split at hstay <;> simp [fetchFailed] at hstay
  case joinLoad page mode load =>
    obtain rfl := Option.some.inj h
    simp only [joinLoad] at hstay ⊢
    split at hstay
    · split at hstay <;> simp [fetchFailed] at hstay
    · rw [if_neg ‹_›]
  case retireDrain file disposition =>
    obtain rfl := Option.some.inj h
    simp only [retireDrain] at hstay ⊢
    cases he : pool.files.lookup file with
    | none => simp [he, fault] at hstay
    | some entry =>
      simp only [he] at hstay ⊢
      split at hstay
      · cases disposition <;> simp [startMatching] at hstay
      · rw [if_neg ‹_›]
  case newPageTurn file init =>
    obtain rfl := Option.some.inj h
    simp only [newPageTurn, newPageFailed] at hstay ⊢
    split at hstay
    · simp at hstay
    · split at hstay
      · simp at hstay
      · split at hstay
        · simp at hstay
        · split at hstay
          · simp [*]
          · simp at hstay
  case flushPage page caller =>
    obtain rfl := Option.some.inj h
    simp only [flushPage] at hstay ⊢
    cases he : pool.pageTable.lookup page with
    | none => exact absurd (by simpa [he] using hstay) flushReturn_ne
    | some entry =>
      cases hs : entry.state with
      | loadIntent | loading => exact absurd (by simpa [he, hs] using hstay) flushReturn_ne
      | evicting => simp [hs]
      | resident =>
        simp only [he, hs] at hstay
        split at hstay
        · exact absurd hstay flushReturn_ne
        · split at hstay
          · simp [*]
          · simp at hstay
  case shutdownDrain =>
    obtain rfl := Option.some.inj h
    simp only [shutdownDrain] at hstay ⊢
    split at hstay
    · simp [startMatching] at hstay
    · rw [if_neg ‹_›]
  all_goals cases hw

lemma acquireFrame_observed {requester : Requester} {f : Fin N} {victim : PageId}
    {turn : Turn N V} (h : criticalSection opts pool (.acquireFrame requester true) = some turn) :
    turn.pc ≠ .candidateObserved requester f victim := by
  obtain rfl := Option.some.inj h
  simp only [acquireFrame, Bool.not_true, Bool.and_false, Bool.false_eq_true, if_false]
  split
  · simp
  · split
    · simp
    · simp only [reserveVictim]
      split <;> simp [fault]

lemma Quiet.work (h : pool.WellFormed limit) (hq : Quiet pool pc pc')
    (hstay : pc.awaits = true → pc' ≠ pc)
    (hcand : ∀ requester f v, pc = .acquireFrame requester true →
      pc' ≠ .candidateObserved requester f v) :
    pc'.work < pc.work ∧ pc'.rework pool = 0 := by
  have snapshot (scope : Option FileId) (caller : MatchingCaller) :
      matchingWork (dirtyPages pool scope) caller ≤ 8 * N + 1 + caller.work := by
    have := length_dirtyPages h scope
    rw [matchingWork]
    omega
  cases hq with
  | drainWait | pinWait | joinWait | turnWait | shutdownWait | flushWait =>
    exact absurd rfl (hstay rfl)
  | @hitNotified page mode hitNotified =>
    cases hitNotified with
    | true => exact absurd rfl (hstay rfl)
    | false => exact ⟨by simp [Pc.work], rfl⟩
  | @candidateFound requester candidateNotified f =>
    cases candidateNotified with
    | true => exact absurd rfl (hcand requester f _ rfl)
    | false => exact ⟨by simp [Pc.work], rfl⟩
  | @drainFlush file =>
    have := snapshot (some file) (.retireFile file)
    refine ⟨?_, rfl⟩
    simp only [Pc.work, MatchingCaller.work] at this ⊢
    omega
  | @flushFile file =>
    have := snapshot (some file) (.flushFile file)
    refine ⟨?_, rfl⟩
    simp only [Pc.work, MatchingCaller.work] at this ⊢
    omega
  | flushAll =>
    have := snapshot none .flushAll
    refine ⟨?_, rfl⟩
    simp only [Pc.work, MatchingCaller.work] at this ⊢
    omega
  | shutdownFlush =>
    have := snapshot none .shutdown
    refine ⟨?_, rfl⟩
    simp only [Pc.work, MatchingCaller.work] at this ⊢
    omega
  | @matchingEnd status caller =>
    obtain ⟨hw, hr⟩ := @matchingEndPc_work N V pool status caller
    refine ⟨Nat.lt_of_le_of_lt hw ?_, hr⟩
    simp only [Pc.work, matchingWork, List.length_nil]
    omega
  | @flushSettled page caller =>
    refine ⟨?_, flushReturnPc_rework ..⟩
    rw [flushReturnPc_work]
    simp only [Pc.work]
    omega
  | @unpinNone f assignment =>
    obtain ⟨hw, hr⟩ := @unpinPc_work N V pool assignment
    exact ⟨Nat.lt_of_le_of_lt hw (by simp [Pc.work]), hr⟩
  | @pinFailed page mode hitNotified error =>
    cases hitNotified <;> exact ⟨by simp [Pc.work], rfl⟩
  | @noFrame requester candidateNotified error =>
    have := requester.work_ge
    refine ⟨?_, rfl⟩
    simp only [Pc.work]
    split <;> omega
  | candidateLost => exact ⟨by simp [Pc.work], rfl⟩
  | _ =>
    refine ⟨?_, rfl⟩
    simp only [Pc.work, matchingWork, FlushCaller.work, List.length_cons, Requester.work]
    first | done | omega

theorem Move.work (h : pool.WellFormed limit) (hr : Ready pool pc)
    (hm : Move opts pool pc pool' pc') (hstay : pc.awaits = true → pc' ≠ pc)
    (hcand : ∀ requester f v, pc = .acquireFrame requester true →
      pc' ≠ .candidateObserved requester f v) :
    pc'.work + pc'.rework pool' + pool'.work < pc.work + pc.rework pool + pool.work := by
  cases hm with
  | quiet replacer hq =>
    obtain ⟨hw, hr⟩ := hq.work h hstay hcand
    have hwork : ({ pool with replacer := replacer } : Pool N).work = pool.work := rfl
    have hrework : pc'.rework { pool with replacer := replacer } = pc'.rework pool := by
      cases pc' <;> rfl
    omega
  | fault hm => exact absurd hm (hr.not_missing h)
  | registerFile => simp [Pc.work, Pc.rework]
  | beginRetire => simp [Pc.work, Pc.rework]
  | @resetRetired file page entry he =>
    have h₁ := Pool.work_eraseEntry he
    have h₂ := @Pool.work_resetFrame_le _ (pool.eraseEntry page) entry.frameId
    simp only [Pc.work, Pc.rework, Pool.work_releaseFrameToFreeList]
    omega
  | closeFile =>
    have hwork (files) : ({ pool with files := files } : Pool N).work = pool.work := rfl
    simp [Pc.work, Pc.rework, hwork]
  | quiesce =>
    have hwork : ({ pool with quiescing := true } : Pool N).work = pool.work := rfl
    simp [Pc.work, Pc.rework, hwork]
  | @claimFrame requester candidateNotified f rest =>
    have hwork : ({ pool with freeList := rest } : Pool N).work = pool.work := rfl
    simp only [Pc.work, Pc.rework, hwork]
    split <;> omega
  | @installIntent page mode hitNotified =>
    have := @Pool.work_setEntry_le _ pool page ⟨.loadIntent, 0, some pool.nextLoad⟩
    have hwork (pool : Pool N) (next : LoadId) :
        ({ pool with nextLoad := next } : Pool N).work = pool.work := rfl
    simp only [Pc.work, Pc.rework, Requester.work, hwork, Pool.work_setLoad, Bool.false_eq_true,
      if_false]
    split <;> omega
  | @pinHit page mode hitNotified entry =>
    have := @Pool.work_setFrame_le _ pool entry.frameId { pool.frames entry.frameId with
      pinCount := (pool.frames entry.frameId).pinCount + 1 } id
    simp only [Pc.work, Pc.rework, Pool.work_setReferenced] at this ⊢
    split <;> omega
  | claimLoad =>
    simp only [Pc.work, Pc.rework, Pool.work_setLoad]
    split <;> omega
  | @reserveVictim pc requester f entry replacer hpc hel he =>
    have hwork (pool : Pool N) : ({ pool with replacer := replacer } : Pool N).work = pool.work :=
      rfl
    have h₁ := @Pool.work_setFrame_le _ pool f { pool.frames f with state := .evicting } id
    have h₂ := @Pool.work_setEntry _
      (pool.setFrame f { pool.frames f with state := .evicting }) _
      { entry with state := .evicting } _ he
    rcases hpc with ⟨n, rfl⟩ | ⟨v, rfl⟩
    · simp only [Pc.work, Pc.rework, hwork] at h₁ h₂ ⊢
      split <;> omega
    · simp only [Pc.work, Pc.rework, hwork] at h₁ h₂ ⊢
      omega
  | @startEviction requester f victim hd =>
    have := @Pool.work_setFrame_le _ pool f { pool.frames f with
      ioState := .writebackInProgress } id
    rw [rework_evict]
    simp only [Pc.work, Pc.rework, Writer.work] at this ⊢
    omega
  | @dropClean requester f victim =>
    have h₁ := @Pool.work_eraseEntry_le _ pool victim
    have h₂ := @Pool.work_resetFrame_le _ (pool.eraseEntry victim) f
    simp only [Pc.work, Pc.rework] at h₁ h₂ ⊢
    omega
  | @finishEviction requester f victim =>
    have h₀ := @Pool.work_setFrame_le _ pool f { pool.frames f with ioState := .none } id
    have h₁ := @Pool.work_eraseEntry_le _
      (pool.setFrame f { pool.frames f with ioState := .none }) victim
    have h₂ := @Pool.work_resetFrame_le _
      ((pool.setFrame f { pool.frames f with ioState := .none }).eraseEntry victim) f
    simp only [Pc.work, Pc.rework, Writer.work] at h₀ h₁ h₂ ⊢
    omega
  | @restoreVictim requester f victim error entry he =>
    have := requester.work_ge
    have h₁ := @Pool.work_setFrame_le _ pool f { pool.frames f with
      state := .resident, ioState := .none } id
    have h₂ := @Pool.work_setEntry _
      (pool.setFrame f { pool.frames f with state := .resident, ioState := .none }) _
      { entry with state := .resident } _ he
    simp only [Pc.work, Pc.rework, Writer.work] at h₁ h₂ ⊢
    omega
  | @failIntent page =>
    have := @Pool.work_eraseEntry_le _ pool page
    simp only [Pc.work, Pc.rework, Pool.work_setLoad] at this ⊢
    omega
  | endTurn => simp [Pc.work, Pc.rework]
  | @bindLoad page mode load f entry file he =>
    have h₁ := @Pool.work_bindFrame_le _ pool f page .readInProgress
    have h₂ := @Pool.work_setEntry _
      (bindFrame pool f page .readInProgress) _
      { entry with state := .loading, frameId := f } _ he
    simp only [Pc.work, Pc.rework, Requester.work] at h₁ h₂ ⊢
    omega
  | @failLoad page mode load f =>
    have h₁ := @Pool.work_resetFrame_le _ pool f
    have h₂ := @Pool.work_eraseEntry_le _ ((pool.resetFrame f).releaseFrameToFreeList f) page
    simp only [Pc.work, Pc.rework, Pool.work_setLoad, Pool.work_releaseFrameToFreeList] at h₂ ⊢
    omega
  | @publishLoad page mode load f read outcome entry hl he =>
    have h₁ := @Pool.work_setFrame_le _ pool f { pool.frames f with
      state := .resident, ioState := .none, pinCount := (pool.loads load).claims } id
    have h₂ := @Pool.work_setEntry _
      ((pool.setFrame f { pool.frames f with
        state := .resident, ioState := .none,
        pinCount := (pool.loads load).claims }).setReferenced f) _
      { entry with state := .resident, load := none } _ he
    simp only [Pc.work, Pc.rework, Pool.work_setLoad, Pool.work_setReferenced] at h₁ h₂ ⊢
    omega
  | claimTurn => simp [Pc.work, Pc.rework, Requester.work]
  | returnFrame => simp [Pc.work, Pc.rework]
  | @bindNew file init f pageNo entry =>
    have h₁ := @Pool.work_bindFrame_le _ pool f ⟨file, pageNo⟩ .none
    have h₂ := @Pool.work_setEntry_le _ (bindFrame pool f ⟨file, pageNo⟩ .none) ⟨file, pageNo⟩
      ⟨.loading, f, none⟩
    simp only [Pc.work, Pc.rework] at h₁ h₂ ⊢
    split <;> omega
  | @failNew page f =>
    have h₁ := @Pool.work_eraseEntry_le _ pool page
    have h₂ := @Pool.work_resetFrame_le _ (pool.eraseEntry page) f
    simp only [Pc.work, Pc.rework, Pool.work_setFile, Pool.work_releaseFrameToFreeList] at h₁ h₂ ⊢
    omega
  | @publishNew page f outcome entry tableEntry _ _ _ he =>
    have h₁ := @Pool.work_setFrame _ pool f { pool.frames f with
      state := .resident, pinCount := 1, dirty := true,
      modificationGeneration := (pool.frames f).modificationGeneration + 1 }
    have h₂ := @Pool.work_setEntry _
      ((pool.setFrame f { pool.frames f with
        state := .resident, pinCount := 1, dirty := true,
        modificationGeneration := (pool.frames f).modificationGeneration + 1 }).setReferenced f) _
      { tableEntry with state := .resident } _ he
    simp only [Pc.work, Pc.rework, Pool.work_setFile, Pool.work_setReferenced, unit_of] at h₁ h₂ ⊢
    omega
  | @startWriteback page caller entry =>
    have := @Pool.work_setFrame_le _ pool entry.frameId { pool.frames entry.frameId with
      ioState := .writebackInProgress } id
    simp only [Pc.work, Pc.rework] at this ⊢
    omega
  | @finishWriteback f page bindingEpoch copiedGeneration caller =>
    obtain ⟨hs, hio, hid, hb⟩ := demand_writeback.mp (hr.due _ (List.mem_cons_self ..))
    have hdirty := ((h.resident hs).2.2.resolve_left hio).2
    have hstep := @Pool.work_setFrame _ pool f { pool.frames f with
      ioState := .none
      dirty := if (pool.frames f).page.id = page ∧ (pool.frames f).bindingEpoch = bindingEpoch ∧
        (pool.frames f).modificationGeneration = copiedGeneration then false
        else (pool.frames f).dirty }
    simp only [hid, hb, true_and, hdirty, unit_of] at hstep
    simp only [hid, hb, true_and, hdirty, Pc.work, Pc.rework, Writer.work, Writer.stale]
    by_cases hg : (pool.frames f).modificationGeneration = copiedGeneration
    · simp only [hg, if_true, Bool.false_eq_true, unit_of_not not_false] at hstep ⊢
      omega
    · simp only [hg, if_false, unit_of, ne_eq, not_false_eq_true] at hstep ⊢
      omega
  | @failWriteback f page bindingEpoch copiedGeneration caller error =>
    have := @Pool.work_setFrame_le _ pool f { pool.frames f with ioState := .none } id
    rw [flushReturnPc_work, flushReturnPc_rework]
    simp only [Pc.work, Pc.rework, Writer.work] at this ⊢
    omega
  | @unpin f assignment =>
    have := @Pool.work_setFrame_le _ pool f { pool.frames f with
      pinCount := (pool.frames f).pinCount - 1 } id
    obtain ⟨hw, hr⟩ := @unpinPc_work N V
      (pool.setFrame f { pool.frames f with pinCount := (pool.frames f).pinCount - 1 }) assignment
    have hpc : (Pc.unpin f assignment : Pc N V).work = 2 := rfl
    have hrework : (Pc.unpin f assignment : Pc N V).rework pool = 0 := rfl
    dsimp only at this hr ⊢
    omega

end Moves

end DBlusBlus.BufferPool
