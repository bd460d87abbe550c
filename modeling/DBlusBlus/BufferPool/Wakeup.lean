import DBlusBlus.BufferPool.Ownership

/-! Threads that sleep on the condition variable, and the changes that end their waits. -/

namespace DBlusBlus.BufferPool

open Accounting Transition

variable {N : ℕ} {T V : Type} {limit : ℕ} {opts : BufferPoolOptions}

def Pool.BusyFrame (pool : Pool N) (f : Fin N) : Prop :=
  (pool.frames f).pinCount ≠ 0 ∨ (pool.frames f).ioState ≠ .none

def Pool.BusyEntry (pool : Pool N) (entry : PageTableEntry N) : Prop :=
  entry.state ≠ .resident ∨ pool.BusyFrame entry.frameId

def Pool.WritingEntry (pool : Pool N) (entry : PageTableEntry N) : Prop :=
  entry.state = .resident ∧ (pool.frames entry.frameId).dirty = true ∧
    (pool.frames entry.frameId).ioState ≠ .none

/-- The thread stands at a wait whose condition does not hold. -/
def Pc.Waits (pool : Pool N) : Pc N V → Prop
  | .pinPage page _ _ => Fetchable pool page ∧ ∃ entry,
    pool.pageTable.lookup page = some entry ∧ entry.state = .evicting
  | .joinLoad _ _ load => (pool.loads load).done = false
  | .retireDrain file _ => ∃ entry, pool.files.lookup file = some entry ∧
    (entry.newPageInProgress = true ∨ ∃ page item, pool.pageTable.lookup page = some item ∧
      page.fileId = file ∧ pool.BusyEntry item)
  | .newPageTurn file _ => pool.quiescing = false ∧ ∃ entry,
    pool.files.lookup file = some entry ∧ entry.state = .active ∧ entry.newPageInProgress = true
  | .flushPage page _ => ∃ entry, pool.pageTable.lookup page = some entry ∧
    (entry.state = .evicting ∨ pool.WritingEntry entry)
  | .shutdownDrain => (∃ f, pool.BusyFrame f) ∨
    (∃ page item, pool.pageTable.lookup page = some item ∧ item.state ≠ .resident) ∨
    ∃ file entry, pool.files.lookup file = some entry ∧ entry.newPageInProgress = true
  | _ => False

lemma fileDrained_eq_false {pool : Pool N} {file : FileId} {entry : FileEntry} :
    fileDrained pool file entry = false ↔ entry.newPageInProgress = true ∨
      ∃ page item, pool.pageTable.lookup page = some item ∧ page.fileId = file ∧
        pool.BusyEntry item := by
  rw [← Bool.not_eq_true, fileDrained_iff]
  simp only [Pool.BusyEntry, Pool.BusyFrame]
  grind

lemma poolDrained_eq_false {pool : Pool N} : poolDrained pool = false ↔
    (Pc.shutdownDrain : Pc N V).Waits pool := by
  rw [← Bool.not_eq_true, poolDrained_iff]
  simp only [Pc.Waits, Pool.BusyFrame]
  grind

lemma fetchable_of_file {pool : Pool N} {page : PageId} {entry : FileEntry}
    (hq : pool.quiescing = false) (he : pool.files.lookup page.fileId = some entry)
    (hs : entry.state = .active) (h0 : page.pageNo ≠ 0)
    (hlt : page.pageNo < entry.publishedPageCount) : Fetchable pool page := by
  have hn : ¬ entry.publishedPageCount ≤ page.pageNo := UInt64.not_le.mpr hlt
  simp [Fetchable, checkFetchable, hq, he, hs, h0, hn]

section Waits

variable {pool : Pool N} {pc : Pc N V}

lemma flushReturn_lock {page : PageId} {status : BufferStatus} {caller : FlushCaller} :
    (flushReturn pool page status caller : Turn N V).lock ≠ .wait := by
  cases caller <;> simp [flushReturn]

lemma finishFailed_lock {file : FileId} {error : BufferError} :
    (finishFailed pool file error : Turn N V).lock ≠ .wait := by
  rw [finishFailed]
  split <;> simp [fault]

variable [NeZero N]

lemma pinPage_wait {page : PageId} {mode : LatchMode} {hitNotified : Bool} :
    (pinPage opts pool page mode hitNotified : Turn N V).lock = .wait ↔
      (Pc.pinPage page mode hitNotified : Pc N V).Waits pool := by
  simp only [pinPage, Pc.Waits, Fetchable]
  cases hf : checkFetchable pool page with
  | error => simp [fetchFailed]
  | ok =>
    cases he : pool.pageTable.lookup page with
    | none => simp [installIntent]
    | some entry =>
      have claimed : (claimLoad opts pool page mode entry.load : Turn N V).lock ≠ .wait := by
        simp only [claimLoad]
        split
        · simp [fetchFailed]
        · split <;> simp [fetchFailed]
      cases hs : entry.state with
      | loadIntent | loading => simpa [hs] using claimed
      | evicting => simp [hs]
      | resident =>
        simp only [hs, pinResident]
        split
        · simp [hs]
        · split <;> simp [fetchFailed, hs]

omit [NeZero N] in
lemma retireDrain_wait {file : FileId} {disposition : RetireDisposition} :
    (retireDrain pool file disposition : Turn N V).lock = .wait ↔
      (Pc.retireDrain file disposition : Pc N V).Waits pool := by
  simp only [retireDrain, Pc.Waits]
  cases he : pool.files.lookup file with
  | none => simp [fault]
  | some entry =>
    simp only [Option.some.injEq, exists_eq_left', ← fileDrained_eq_false]
    cases hd : fileDrained pool file entry with
    | false => simp
    | true => cases disposition <;> simp [startMatching]

omit [NeZero N] in
lemma newPageTurn_wait {file : FileId} {init : PageInitializer} :
    (newPageTurn pool file init : Turn N V).lock = .wait ↔
      (Pc.newPageTurn file init : Pc N V).Waits pool := by
  simp only [newPageTurn, Pc.Waits]
  cases hq : pool.quiescing with
  | true => simp [newPageFailed]
  | false =>
    cases he : pool.files.lookup file with
    | none => simp [newPageFailed]
    | some entry =>
      cases hs : entry.state <;> cases hn : entry.newPageInProgress <;>
        simp [newPageFailed, hs, hn]

omit [NeZero N] in
lemma flushPage_wait {page : PageId} {caller : FlushCaller} :
    (flushPage pool page caller : Turn N V).lock = .wait ↔
      (Pc.flushPage page caller : Pc N V).Waits pool := by
  simp only [flushPage, Pc.Waits, Pool.WritingEntry]
  cases he : pool.pageTable.lookup page with
  | none => simp [flushReturn_lock]
  | some entry =>
    cases hs : entry.state with
    | loadIntent | loading => simp [hs, flushReturn_lock]
    | evicting => simp [hs]
    | resident =>
      cases hd : (pool.frames entry.frameId).dirty with
      | false => simp [hs, hd, flushReturn_lock]
      | true => by_cases hio : (pool.frames entry.frameId).ioState = .none <;> simp [hs, hd, hio]

omit [NeZero N] in
lemma shutdownDrain_wait : (shutdownDrain pool : Turn N V).lock = .wait ↔
    (Pc.shutdownDrain : Pc N V).Waits pool := by
  rw [shutdownDrain, ← poolDrained_eq_false]
  cases poolDrained pool <;> simp [startMatching]

omit [NeZero N] in
lemma joinLoad_wait {page : PageId} {mode : LatchMode} {load : LoadId} :
    (joinLoad pool page mode load : Turn N V).lock = .wait ↔
      (Pc.joinLoad page mode load : Pc N V).Waits pool := by
  simp only [joinLoad, Pc.Waits]
  cases (pool.loads load).done with
  | false => simp
  | true => cases (pool.loads load).frameId <;> simp [fetchFailed]

omit [NeZero N] in
lemma registerFile_lock {file : FileId} {validator : PageValidator} {count : PageNo} :
    (registerFile pool file validator count : Turn N V).lock ≠ .wait := by
  simp only [registerFile]
  split
  · simp
  · split <;> simp

omit [NeZero N] in
lemma retireFile_lock {file : FileId} {disposition : RetireDisposition} :
    (retireFile pool file disposition : Turn N V).lock ≠ .wait := by
  simp only [retireFile]
  split
  · simp
  · split <;> simp

omit [NeZero N] in
lemma retireReset_lock {file : FileId} : (retireReset pool file : Turn N V).lock ≠ .wait := by
  simp only [retireReset]
  split <;> simp

omit [NeZero N] in
lemma reserveVictim_lock {requester : Requester} {f : Fin N} {victim : PageId} :
    (reserveVictim pool requester f victim : Turn N V).lock ≠ .wait := by
  simp only [reserveVictim]
  split <;> simp [fault]

lemma acquireFrame_lock {requester : Requester} {candidateNotified : Bool} :
    (acquireFrame opts pool requester candidateNotified : Turn N V).lock ≠ .wait := by
  simp only [acquireFrame]
  split
  · simp
  · split
    · simp
    · split
      · simp
      · exact reserveVictim_lock

omit [NeZero N] in
lemma candidateObserved_lock {requester : Requester} {f : Fin N} {victim : PageId} :
    (candidateObserved pool requester f victim : Turn N V).lock ≠ .wait := by
  simp only [candidateObserved]
  split
  · simp
  · exact reserveVictim_lock

omit [NeZero N] in
lemma victimReserved_lock {requester : Requester} {f : Fin N} {victim : PageId} :
    (victimReserved pool requester f victim : Turn N V).lock ≠ .wait := by
  simp only [victimReserved]
  split <;> simp [dropVictim]

omit [NeZero N] in
lemma frameAcquired_lock {requester : Requester} {f : Fin N} :
    (frameAcquired pool requester f : Turn N V).lock ≠ .wait := by
  cases requester with
  | fetch page mode load =>
    simp only [frameAcquired]
    split
    · simp [fault]
    · split <;> simp [fault]
  | newPage file init =>
    simp only [frameAcquired]
    split <;> simp [fault]

omit [NeZero N] in
lemma requestFailed_lock {requester : Requester} {error : BufferError} :
    (requestFailed pool requester error : Turn N V).lock ≠ .wait := by
  cases requester with
  | fetch => simp [requestFailed, failLoad]
  | newPage => exact finishFailed_lock

omit [NeZero N] in
lemma finishLoad_lock {page : PageId} {mode : LatchMode} {load : LoadId} {f : Fin N}
    {read : DiskStatus} {outcome : PageValidationOutcome} :
    (finishLoad pool page mode load f read outcome : Turn N V).lock ≠ .wait := by
  simp only [finishLoad]
  split
  · simp [fault]
  · simp [failLoad]
  · simp only [publishLoad]
    split <;> simp [fault]

omit [NeZero N] in
lemma newPageReserved_lock {file : FileId} {init : PageInitializer} {f : Fin N}
    {pageNo : DiskResult PageNo} :
    (newPageReserved pool file init f pageNo : Turn N V).lock ≠ .wait := by
  simp only [newPageReserved]
  split
  · exact finishFailed_lock
  · split
    · simp [fault]
    · split
      · exact finishFailed_lock
      · simp

omit [NeZero N] in
lemma newPageFinish_lock {page : PageId} {f : Fin N} {built : Bool}
    {outcome : PageValidationOutcome} :
    (newPageFinish pool page f built outcome : Turn N V).lock ≠ .wait := by
  simp only [newPageFinish]
  split
  · simp [fault]
  · split
    · exact finishFailed_lock
    · split <;> simp [fault]

lemma finishWrite_lock {writer : Writer N} {written : BufferStatus} {turn : Turn N V}
    (h : criticalSection opts pool (.finishWrite writer written) = some turn) :
    turn.lock ≠ .wait := by
  cases writer with
  | evict requester f victim =>
    obtain rfl := Option.some.inj h
    simp only [finishEviction]
    split
    · simp [dropVictim]
    · split <;> simp [fault]
  | flush f page bindingEpoch copiedGeneration caller =>
    obtain rfl := Option.some.inj h
    simp only [finishWriteback]
    split
    · simp
    · exact flushReturn_lock

omit [NeZero N] in
lemma flushMatching_lock {rest : List PageId} {firstFailure : BufferStatus}
    {caller : MatchingCaller} :
    (flushMatching pool rest firstFailure caller : Turn N V).lock ≠ .wait := by
  cases rest with
  | cons => simp [flushMatching]
  | nil => cases caller <;> cases firstFailure <;> simp [flushMatching]

lemma criticalSection_wait {turn : Turn N V} (h : criticalSection opts pool pc = some turn) :
    turn.lock = .wait ↔ pc.Waits pool := by
  cases pc
  case pinPage => exact Option.some.inj h ▸ pinPage_wait
  case joinLoad => exact Option.some.inj h ▸ joinLoad_wait
  case retireDrain => exact Option.some.inj h ▸ retireDrain_wait
  case newPageTurn => exact Option.some.inj h ▸ newPageTurn_wait
  case flushPage => exact Option.some.inj h ▸ flushPage_wait
  case shutdownDrain => exact Option.some.inj h ▸ shutdownDrain_wait
  case registerFile => exact iff_of_false (Option.some.inj h ▸ registerFile_lock) id
  case retireFile => exact iff_of_false (Option.some.inj h ▸ retireFile_lock) id
  case retireReset => exact iff_of_false (Option.some.inj h ▸ retireReset_lock) id
  case acquireFrame => exact iff_of_false (Option.some.inj h ▸ acquireFrame_lock) id
  case candidateObserved => exact iff_of_false (Option.some.inj h ▸ candidateObserved_lock) id
  case victimReserved => exact iff_of_false (Option.some.inj h ▸ victimReserved_lock) id
  case frameAcquired => exact iff_of_false (Option.some.inj h ▸ frameAcquired_lock) id
  case requestFailed => exact iff_of_false (Option.some.inj h ▸ requestFailed_lock) id
  case finishLoad => exact iff_of_false (Option.some.inj h ▸ finishLoad_lock) id
  case newPageReserved => exact iff_of_false (Option.some.inj h ▸ newPageReserved_lock) id
  case newPageFinish => exact iff_of_false (Option.some.inj h ▸ newPageFinish_lock) id
  case finishWrite => exact iff_of_false (finishWrite_lock h) id
  case flushMatching => exact iff_of_false (Option.some.inj h ▸ flushMatching_lock) id
  case flushPageCall | flushAllCall | shutdownCall =>
    obtain rfl := Option.some.inj h
    exact iff_of_false (by simp [startMatching]) id
  case flushFileCall file =>
    obtain rfl := Option.some.inj h
    refine iff_of_false ?_ id
    rw [flushFile]
    split <;> simp [startMatching]
  case unpin f assignment =>
    obtain rfl := Option.some.inj h
    refine iff_of_false ?_ id
    simp only [unpin]
    split <;> simp
  all_goals cases h

lemma criticalSection_of_waits (h : pc.Waits pool) :
    criticalSection opts pool pc = some ⟨pool, pc, .wait, false⟩ := by
  cases pc
  case pinPage page mode hitNotified =>
    obtain ⟨hf, entry, he, hs⟩ := h
    simp only [criticalSection, pinPage, show checkFetchable pool page = .ok () from hf, he, hs]
  case joinLoad page mode load =>
    simp only [Pc.Waits] at h
    simp [criticalSection, joinLoad, h]
  case retireDrain file disposition =>
    obtain ⟨entry, he, hb⟩ := h
    simp [criticalSection, retireDrain, he, fileDrained_eq_false.mpr hb]
  case newPageTurn file init =>
    obtain ⟨hq, entry, he, hs, hn⟩ := h
    simp [criticalSection, newPageTurn, hq, he, hs, hn]
  case flushPage page caller =>
    obtain ⟨entry, he, hs | ⟨hs, hd, hio⟩⟩ := h
    · simp [criticalSection, flushPage, he, hs]
    · simp [criticalSection, flushPage, he, hs, hd, hio]
  case shutdownDrain => simp [criticalSection, shutdownDrain, poolDrained_eq_false.mpr h]
  all_goals cases h

end Waits

/-- No wait for this pool has ended in the other one. -/
structure Pool.Kept (pool pool' : Pool N) : Prop where
  frame : ∀ f, pool.BusyFrame f → pool'.BusyFrame f
  entry : ∀ page item, pool.pageTable.lookup page = some item → pool.BusyEntry item →
    ∃ item', pool'.pageTable.lookup page = some item' ∧ pool'.BusyEntry item' ∧
      (item.state ≠ .resident → item'.state ≠ .resident) ∧
      (item.state = .evicting → item'.state = .evicting) ∧
      (pool.WritingEntry item → pool'.WritingEntry item')
  file : ∀ file entry, pool.files.lookup file = some entry →
    ∃ entry', pool'.files.lookup file = some entry' ∧ entry'.state = entry.state ∧
      entry'.publishedPageCount = entry.publishedPageCount ∧
      (entry.newPageInProgress = true → entry'.newPageInProgress = true)
  quiescing : pool'.quiescing = pool.quiescing
  loads : ∀ load, (pool.loads load).done = false → (pool'.loads load).done = false

section Kept

variable {pool pool' : Pool N} {pc pc' : Pc N V} {page : PageId} {file : FileId}

lemma Pool.Kept.fetchable (h : pool.Kept pool') (hf : Fetchable pool page) :
    Fetchable pool' page := by
  obtain ⟨hq, entry, he, hs, h0, hlt⟩ := hf.file
  obtain ⟨entry', he', hs', hp, -⟩ := h.file page.fileId entry he
  exact fetchable_of_file (h.quiescing.trans hq) he' (hs'.trans hs) h0 (hp ▸ hlt)

lemma Pool.Kept.waits (h : pool.Kept pool') (hw : pc.Waits pool) : pc.Waits pool' := by
  cases pc
  case pinPage page mode hitNotified =>
    obtain ⟨hf, entry, he, hs⟩ := hw
    obtain ⟨entry', he', -, -, hs', -⟩ := h.entry page entry he (.inl (by simp [hs]))
    exact ⟨h.fetchable hf, entry', he', hs' hs⟩
  case joinLoad page mode load => exact h.loads load hw
  case retireDrain file disposition =>
    obtain ⟨entry, he, hb⟩ := hw
    obtain ⟨entry', he', -, -, hn⟩ := h.file file entry he
    refine ⟨entry', he', hb.imp hn ?_⟩
    rintro ⟨page, item, hi, hf, hb⟩
    obtain ⟨item', hi', hb', -⟩ := h.entry page item hi hb
    exact ⟨page, item', hi', hf, hb'⟩
  case newPageTurn file init =>
    obtain ⟨hq, entry, he, hs, hn⟩ := hw
    obtain ⟨entry', he', hs', -, hn'⟩ := h.file file entry he
    exact ⟨h.quiescing.trans hq, entry', he', hs'.trans hs, hn' hn⟩
  case flushPage page caller =>
    obtain ⟨entry, he, hw⟩ := hw
    have hb : pool.BusyEntry entry := by
      rcases hw with hs | hw
      · exact .inl (by simp [hs])
      · exact .inr (.inr hw.2.2)
    obtain ⟨entry', he', -, -, hs', hw'⟩ := h.entry page entry he hb
    exact ⟨entry', he', hw.imp hs' hw'⟩
  case shutdownDrain =>
    rcases hw with ⟨f, hf⟩ | ⟨page, item, hi, hs⟩ | ⟨file, entry, he, hn⟩
    · exact .inl ⟨f, h.frame f hf⟩
    · obtain ⟨item', hi', -, hs', -⟩ := h.entry page item hi (.inl hs)
      exact .inr (.inl ⟨page, item', hi', hs' hs⟩)
    · obtain ⟨entry', he', -, -, hn'⟩ := h.file file entry he
      exact .inr (.inr ⟨file, entry', he', hn' hn⟩)
  all_goals exact hw

lemma Pool.Kept.refl (pool : Pool N) : pool.Kept pool where
  frame _ := id
  entry _ item hi hb := ⟨item, hi, hb, id, id, id⟩
  file _ entry he := ⟨entry, he, rfl, rfl, id⟩
  quiescing := rfl
  loads _ := id

lemma Pool.Kept.setFrame {f : Fin N} {frame : BufferFrame}
    (hp : (pool.frames f).pinCount ≠ 0 → frame.pinCount ≠ 0)
    (hio : (pool.frames f).ioState ≠ .none → frame.ioState ≠ .none)
    (hd : (pool.frames f).ioState ≠ .none → (pool.frames f).dirty = true → frame.dirty = true) :
    pool.Kept (pool.setFrame f frame) := by
  have hf (g : Fin N) (hg : pool.BusyFrame g) : (pool.setFrame f frame).BusyFrame g := by
    by_cases hgf : g = f
    · subst hgf
      simpa [Pool.BusyFrame] using hg.imp hp hio
    · simpa [Pool.BusyFrame, hgf] using hg
  refine ⟨hf, fun page item hi hb => ⟨item, hi, hb.imp_right (hf _), id, id, fun hw => ?_⟩,
    fun file entry he => ⟨entry, he, rfl, rfl, id⟩, rfl, fun load => id⟩
  obtain ⟨hs, hdirty, hi⟩ := hw
  refine ⟨hs, ?_⟩
  by_cases hgf : item.frameId = f
  · rw [hgf] at hdirty hi
    simpa [hgf] using ⟨hd hi hdirty, hio hi⟩
  · simpa [hgf] using ⟨hdirty, hi⟩

lemma Pool.Kept.setEntry {entry : PageTableEntry N} (hs : entry.state ≠ .resident)
    (hold : ∀ old, pool.pageTable.lookup page = some old → ¬ pool.WritingEntry old ∧
      (old.state = .evicting → entry.state = .evicting)) :
    pool.Kept (pool.setEntry page entry) := by
  refine ⟨fun f => id, fun other item hi hb => ?_, fun file known he => ⟨known, he, rfl, rfl, id⟩,
    rfl, fun load => id⟩
  by_cases ho : other = page
  · subst ho
    obtain ⟨hn, hev⟩ := hold item hi
    exact ⟨entry, by simp, .inl hs, fun _ => hs, hev, fun hw => absurd hw hn⟩
  · exact ⟨item, by simpa [ho] using hi, hb, id, id, id⟩

lemma Pool.Kept.resetFrame {entry : PageTableEntry N}
    (he : pool.pageTable.lookup page = some entry) (hn : ¬ pool.BusyEntry entry) :
    pool.Kept ((pool.eraseEntry page).resetFrame entry.frameId) := by
  have hf (g : Fin N) (hg : pool.BusyFrame g) : g ≠ entry.frameId := by
    rintro rfl
    exact hn (.inr hg)
  have hkept (g : Fin N) (hg : g ≠ entry.frameId) :
      ((pool.eraseEntry page).resetFrame entry.frameId).frames g = pool.frames g := by
    simp [hg]
  have hbusy (g : Fin N) (hg : pool.BusyFrame g) :
      ((pool.eraseEntry page).resetFrame entry.frameId).BusyFrame g := by
    rw [Pool.BusyFrame, hkept g (hf g hg)]
    exact hg
  refine ⟨hbusy, fun other item hi hb => ?_, fun file known hk => ⟨known, hk, rfl, rfl, id⟩, rfl,
    fun load => id⟩
  have ho : other ≠ page := by
    rintro rfl
    rw [he] at hi
    exact hn (Option.some.inj hi ▸ hb)
  refine ⟨item, by simpa [ho] using hi, hb.imp_right (hbusy _), id, id, fun hw => ?_⟩
  rw [Pool.WritingEntry, hkept item.frameId (hf _ (.inr hw.2.2))]
  exact hw

lemma Pool.Kept.setFile {entry : FileEntry}
    (hold : ∀ old, pool.files.lookup file = some old → entry.state = old.state ∧
      entry.publishedPageCount = old.publishedPageCount ∧
      (old.newPageInProgress = true → entry.newPageInProgress = true)) :
    pool.Kept (pool.setFile file entry) := by
  refine ⟨fun f => id, fun page item hi hb => ⟨item, hi, hb, id, id, id⟩, fun other old he => ?_,
    rfl, fun load => id⟩
  by_cases ho : other = file
  · subst ho
    exact ⟨entry, by simp, hold old he⟩
  · exact ⟨old, by simpa [ho] using he, rfl, rfl, id⟩

lemma Pool.Kept.setLoad {load : LoadId} {operation : LoadOperation N}
    (hd : (pool.loads load).done = false → operation.done = false) :
    pool.Kept (pool.setLoad load operation) := by
  refine ⟨fun f => id, fun page item hi hb => ⟨item, hi, hb, id, id, id⟩,
    fun file entry he => ⟨entry, he, rfl, rfl, id⟩, rfl, fun other ho => ?_⟩
  by_cases hl : other = load
  · subst hl
    simpa using hd ho
  · simpa [hl] using ho

lemma Pool.Kept.trans {pool'' : Pool N} (h : pool.Kept pool') (h' : pool'.Kept pool'') :
    pool.Kept pool'' where
  frame f hf := h'.frame f (h.frame f hf)
  entry page item hi hb := by
    obtain ⟨item', hi', hb', hn, hs, hw⟩ := h.entry page item hi hb
    obtain ⟨item'', hi'', hb'', hn', hs', hw'⟩ := h'.entry page item' hi' hb'
    exact ⟨item'', hi'', hb'', hn' ∘ hn, hs' ∘ hs, hw' ∘ hw⟩
  file file entry he := by
    obtain ⟨entry', he', hs, hp, hn⟩ := h.file file entry he
    obtain ⟨entry'', he'', hs', hp', hn'⟩ := h'.file file entry' he'
    exact ⟨entry'', he'', hs'.trans hs, hp'.trans hp, hn' ∘ hn⟩
  quiescing := h'.quiescing.trans h.quiescing
  loads load hl := h'.loads load (h.loads load hl)

/-- What wakeups, the clock and the free list do not see. -/
lemma Pool.Kept.congr (h : pool.Kept pool') (freeList : List (Fin N)) (replacer : ClockReplacer N)
    (nextLoad : LoadId) : pool.Kept { pool' with
      freeList := freeList, replacer := replacer, nextLoad := nextLoad } :=
  ⟨h.frame, h.entry, h.file, h.quiescing, h.loads⟩

lemma Pool.Kept.bindFrame {f : Fin N} (hp : (pool.frames f).pinCount = 0)
    (hio : (pool.frames f).ioState = .none) (page : PageId) (ioState : FrameIoState) :
    pool.Kept (BufferPool.bindFrame pool f page ioState) :=
  .setFrame (fun h => absurd hp h) (fun h => absurd hio h) fun h => absurd hio h

end Kept

section Moves

variable {pool : Pool N} {pc : Pc N V}

lemma finishFailed_notifies {file : FileId} {entry : FileEntry} {error : BufferError}
    (he : pool.files.lookup file = some entry) :
    (finishFailed pool file error : Turn N V).notifyAll = true := by
  simp only [finishFailed, he]

lemma newPageReserved_notifies {file : FileId} {init : PageInitializer} {f : Fin N}
    {pageNo : DiskResult PageNo} {entry : FileEntry} {outcome : Outcome}
    (he : pool.files.lookup file = some entry)
    (hpc : (newPageReserved pool file init f pageNo : Turn N V).pc = .idle outcome) :
    (newPageReserved pool file init f pageNo : Turn N V).notifyAll = true := by
  simp only [newPageReserved] at hpc ⊢
  cases pageNo with
  | error error => exact finishFailed_notifies he
  | ok pageNo =>
    simp only [he] at hpc ⊢
    split at hpc
    · rw [if_pos ‹_›]
      exact finishFailed_notifies he
    · cases hpc

lemma newPageFinish_notifies {page : PageId} {f : Fin N} {built : Bool}
    {outcome : PageValidationOutcome} {entry : FileEntry} {item : PageTableEntry N}
    (he : pool.files.lookup page.fileId = some entry)
    (hi : pool.pageTable.lookup page = some item) :
    (newPageFinish pool page f built outcome : Turn N V).notifyAll = true := by
  simp only [newPageFinish, he]
  split
  · exact finishFailed_notifies he
  · simp only [Pool.setReferenced_pageTable, Pool.setFrame_pageTable, hi]

variable [NeZero N]

/-- A section notifies the sleepers, or leaves every wait as it is. -/
theorem Move.kept_or_notifies (h : pool.WellFormed limit) (hr : Ready pool pc) {turn : Turn N V}
    (hcs : criticalSection opts pool pc = some turn)
    (hm : Move opts pool pc turn.pool turn.pc) :
    pool.Kept turn.pool ∨ turn.notifyAll = true := by
  obtain ⟨pool', pc', lock, notifyAll⟩ := turn
  dsimp only at hm ⊢
  have unbound {f : Fin N} (hf : Resource.frame f .unbound ∈ pc.resources pool.loads) :
      (pool.frames f).pinCount = 0 ∧ (pool.frames f).ioState = .none := by
    obtain ⟨-, hio, hp, -⟩ := h.free (demand_unbound.mp (hr.due _ hf)).1
    exact ⟨hp, hio⟩
  cases hm with
  | fault hm => exact absurd hm (hr.not_missing h)
  | quiet replacer => exact .inl ((Pool.Kept.refl pool).congr pool.freeList replacer pool.nextLoad)
  | registerFile hq hf =>
    refine .inl (.setFile fun old he => absurd (Table.mem_iff.mpr ⟨old, he⟩) hf)
  | resetRetired he hp =>
    obtain ⟨hs, hpin, hio⟩ := (hr.drained _ rfl).frame _ _ he hp
    refine .inl ((Pool.Kept.resetFrame he ?_).congr _ _ _)
    rintro (hn | hn | hn)
    · exact hn hs
    · exact hn hpin
    · exact hn hio
  | claimFrame => exact .inl ((Pool.Kept.refl pool).congr _ pool.replacer pool.nextLoad)
  | installIntent hf he =>
    refine .inl (Pool.Kept.congr (.trans (.setEntry (by simp) fun old hold => ?_)
      (.setLoad fun _ => rfl)) _ _ _)
    rw [he] at hold
    cases hold
  | @pinHit page mode hitNotified entry =>
    have hk : pool.Kept (pool.setFrame entry.frameId { pool.frames entry.frameId with
        pinCount := (pool.frames entry.frameId).pinCount + 1 }) :=
      .setFrame (fun _ => Nat.succ_ne_zero _) id fun _ => id
    exact .inl (hk.congr _ _ _)
  | claimLoad => exact .inl (.setLoad id)
  | @reserveVictim _ requester f entry replacer hpc hel he =>
    obtain ⟨hs, hp, hio, -⟩ := (isVictimEligible_iff f).mp hel
    obtain rfl := Option.some.inj (he.symm.trans (h.resident hs).1)
    have hk : (pool.setFrame f { pool.frames f with state := .evicting }).Kept
        ((pool.setFrame f { pool.frames f with state := .evicting }).setEntry
          (pool.frames f).page.id ⟨.evicting, f, none⟩) := by
      refine .setEntry (by simp) fun old hold => ?_
      rw [Pool.setFrame_pageTable, he] at hold
      obtain rfl := Option.some.inj hold
      exact ⟨fun hw => hw.2.2 (by simpa using hio), fun _ => rfl⟩
    have hf : pool.Kept (pool.setFrame f { pool.frames f with state := .evicting }) :=
      .setFrame id id fun _ => id
    exact .inl ((hf.trans hk).congr _ replacer _)
  | startEviction => exact .inl (.setFrame id (fun _ => by simp) fun _ => id)
  | @bindLoad page mode load f entry file he =>
    obtain ⟨hp, hio⟩ := unbound (List.mem_cons_self ..)
    have hi : pool.pageTable.lookup page = some ⟨.loadIntent, 0, some load⟩ :=
      demand_intent.mp (hr.due _ (by simp [Pc.resources, Requester.resources]))
    refine .inl (.trans (.bindFrame hp hio page _) (.setEntry (by simp) fun old hold => ?_))
    rw [bindFrame, Pool.setFrame_pageTable, hi] at hold
    obtain rfl := Option.some.inj hold
    exact ⟨fun hw => absurd hw.1 (by simp), fun hs => by cases hs⟩
  | claimTurn hq he hs hn =>
    refine .inl (.setFile fun old hold => ?_)
    obtain rfl := Option.some.inj (he.symm.trans hold)
    exact ⟨rfl, rfl, fun _ => rfl⟩
  | @bindNew file init f pageNo entry he =>
    obtain ⟨hp, hio⟩ := unbound (List.mem_cons_self ..)
    have hk := Pool.Kept.bindFrame hp hio ⟨file, pageNo⟩ .none
    left
    split
    · exact hk
    · rename_i hn
      refine hk.trans (.setEntry (by simp) fun old hold => absurd ?_ hn)
      exact Table.mem_iff.mpr ⟨old, hold⟩
  | startWriteback => exact .inl (.setFrame id (fun _ => by simp) fun _ => id)
  | @unpin f assignment hp =>
    by_cases h1 : (pool.frames f).pinCount - 1 = 0
    · right
      simp only [criticalSection, BufferPool.unpin, if_neg hp, Option.some.injEq,
        Turn.mk.injEq] at hcs
      rw [← hcs.2.2.2, h1]
      rfl
    · exact .inl (.setFrame (fun _ => h1) id fun _ => id)
  | beginRetire he hs =>
    right
    simp only [criticalSection, retireFile, he, hs, if_true, Option.some.injEq,
      Turn.mk.injEq] at hcs
    exact hcs.2.2.2.symm
  | closeFile hn =>
    right
    simp only [criticalSection, BufferPool.retireReset, Option.some.injEq] at hcs
    split at hcs
    · simp at hcs
    · simp only [Turn.mk.injEq] at hcs
      exact hcs.2.2.2.symm
  | quiesce =>
    simp only [criticalSection, Option.some.injEq, Turn.mk.injEq] at hcs
    exact .inr hcs.2.2.2.symm
  | dropClean hd =>
    right
    simp only [criticalSection, victimReserved, hd, Option.some.injEq] at hcs
    simp only [dropVictim, Bool.false_eq_true, if_false, Turn.mk.injEq] at hcs
    exact hcs.2.2.2.symm
  | finishEviction =>
    simp only [criticalSection, BufferPool.finishEviction, dropVictim, Option.some.injEq,
      Turn.mk.injEq] at hcs
    exact .inr hcs.2.2.2.symm
  | restoreVictim he =>
    simp only [criticalSection, BufferPool.finishEviction, Pool.setFrame_pageTable, he,
      Option.some.injEq, Turn.mk.injEq] at hcs
    exact .inr hcs.2.2.2.symm
  | failIntent =>
    simp only [criticalSection, requestFailed, BufferPool.failLoad, Option.some.injEq,
      Turn.mk.injEq] at hcs
    exact .inr hcs.2.2.2.symm
  | endTurn he =>
    simp only [criticalSection, requestFailed, finishFailed, he, Option.some.injEq,
      Turn.mk.injEq] at hcs
    exact .inr hcs.2.2.2.symm
  | failLoad hl =>
    simp only [criticalSection, finishLoad, hl, BufferPool.failLoad, Option.some.injEq,
      Turn.mk.injEq] at hcs
    exact .inr hcs.2.2.2.symm
  | publishLoad hl he =>
    simp only [criticalSection, finishLoad, hl, BufferPool.publishLoad, Pool.setReferenced_pageTable,
      Pool.setFrame_pageTable, he, Option.some.injEq, Turn.mk.injEq] at hcs
    exact .inr hcs.2.2.2.symm
  | @returnFrame file init f pageNo _ _ he =>
    have ht := Option.some.inj hcs
    have hn : (newPageReserved pool file init f pageNo : Turn N V).notifyAll = true :=
      newPageReserved_notifies he (congrArg Turn.pc ht)
    exact .inr ((congrArg Turn.notifyAll ht).symm.trans hn)
  | @failNew page f built outcome _ he | @publishNew page f outcome _ _ he =>
    have hi : pool.pageTable.lookup page = some ⟨.loading, f, none⟩ :=
      demand_loading.mp (hr.due _ (List.mem_cons_self ..))
    have ht := congrArg Turn.notifyAll (Option.some.inj hcs)
    exact .inr (ht.symm.trans (newPageFinish_notifies he hi))
  | finishWriteback =>
    simp only [criticalSection, BufferPool.finishWriteback, Option.some.injEq, Turn.mk.injEq] at hcs
    exact .inr hcs.2.2.2.symm
  | failWriteback =>
    simp only [criticalSection, BufferPool.finishWriteback, Option.some.injEq, Turn.mk.injEq] at hcs
    exact .inr hcs.2.2.2.symm

end Moves

lemma Touch.kept {pool pool' : Pool N} (h : Touch pool pool') : pool.Kept pool' where
  frame f hf := by
    rw [Pool.BusyFrame, (h.frame f).pinCount, (h.frame f).ioState]
    exact hf
  entry page item hi hb := by
    refine ⟨item, h.pageTable ▸ hi, hb.imp_right fun hf => ?_, id, id, fun ⟨hs, hd, hio⟩ => ?_⟩
    · rw [Pool.BusyFrame, (h.frame _).pinCount, (h.frame _).ioState]
      exact hf
    · refine ⟨hs, ?_, (h.frame _).ioState ▸ hio⟩
      rcases (h.frame item.frameId).dirty with heq | ⟨-, heq⟩
      · exact heq.trans hd
      · exact heq
  file file entry he := ⟨entry, h.files ▸ he, rfl, rfl, id⟩
  quiescing := h.quiescing
  loads load hl := h.loads ▸ hl

section Steps

variable [DecidableEq T] [DecidableEq V] [NeZero N] [Fintype T] [Fintype V]
  {w w' : World N T V} {t u : T} {choice : Choice T V}

/-- A step that ends a wait is a critical section that notifies every sleeper. -/
def WakeStep (opts : BufferPoolOptions) (w w' : World N T V) (t : T) : Prop :=
  ∀ pc : Pc N V, pc.Waits w.pool → ¬ pc.Waits w'.pool →
    ∃ turn, criticalSection opts w.pool (w.pc t) = some turn ∧ w' = w.finish opts t turn ∧
      turn.notifyAll = true

lemma Act.wakeStep (ha : Act opts w t choice w') (h : w.Inv opts) : WakeStep opts w w' t := by
  intro pc hw hn
  rcases ha.critical_or_light h.accounted with ⟨turn, -, -, hcs, hm, rfl⟩ | hl
  · rcases hm.kept_or_notifies h.wellFormed (h.ready t) hcs with hk | hk
    · exact absurd (hk.waits hw) hn
    · exact ⟨turn, hcs, rfl, hk⟩
  · exact absurd (hl.touch.kept.waits hw) hn

omit [Fintype T] [Fintype V] in
lemma Act.at_wait (ha : Act opts w t choice w') (hw : (w.pc t).Waits w.pool) :
    (∃ turn, w.canLock t ∧ criticalSection opts w.pool (w.pc t) = some turn ∧
      w' = w.finish opts t turn) ∨ w'.asleep t = false := by
  have idle (h : (w.pc t).isIdle = true) : False := by
    obtain ⟨last, hpc⟩ := Pc.exists_idle h
    rw [hpc] at hw
    exact hw
  cases ha with
  | critical hlock hcs => exact .inl ⟨_, hlock, hcs, rfl⟩
  | wake => exact .inr (Function.update_self ..)
  | call hi | mutate hi | markDirty hi | release hi | assign hi | move hi | noGuard hi =>
    exact (idle hi).elim
  | grant hpc | latchForCopy hpc | copyImage hpc | buildNone hpc | build hpc | takeFrom hpc
  | registerCount hpc | registerCountFailed hpc | countFailed hpc | reusePage hpc
  | needExtension hpc | extended hpc | extendFailed hpc | readPage hpc | written hpc
  | writeFailed hpc | synced hpc | syncFailed hpc =>
    rw [hpc] at hw
    exact hw.elim

omit [Fintype T] [Fintype V] in
lemma Act.sleepers (ha : Act opts w t choice w') :
    (∃ turn, w.canLock t ∧ criticalSection opts w.pool (w.pc t) = some turn ∧
      w' = w.finish opts t turn) ∨ ∀ u, w'.asleep u = true → w.asleep u = true := by
  cases ha with
  | critical hlock hcs => exact .inl ⟨_, hlock, hcs, rfl⟩
  | wake =>
    refine .inr fun u hu => ?_
    by_cases hut : u = t
    · subst hut
      simp at hu
    · simpa [hut] using hu
  | _ => exact .inr fun _ => id

omit [DecidableEq V] [NeZero N] [Fintype T] [Fintype V] in
lemma World.finish_awake {turn : Turn N V} (hn : turn.notifyAll = true) (hu : u ≠ t) :
    (w.finish opts t turn).asleep u = false := by
  simp only [World.finish, hn, if_true]
  split <;> simp [hu]

omit [DecidableEq V] [NeZero N] [Fintype T] [Fintype V] in
lemma World.asleep_of_finish {turn : Turn N V} (hu : u ≠ t)
    (hs : (w.finish opts t turn).asleep u = true) : w.asleep u = true := by
  cases hn : turn.notifyAll with
  | true =>
    rw [World.finish_awake hn hu] at hs
    cases hs
  | false =>
    simp only [World.finish, hn] at hs
    split at hs <;> simpa [hu] using hs

omit [DecidableEq V] [NeZero N] [Fintype T] [Fintype V] in
lemma World.finish_asleep_self {turn : Turn N V} (ht : w.asleep t = false)
    (hs : (w.finish opts t turn).asleep t = true) : turn.lock = .wait := by
  by_contra hl
  simp only [World.finish, if_neg hl] at hs
  split at hs
  · cases hs
  · rw [ht] at hs
    cases hs

/-- No thread sleeps while the condition that it waits for holds. -/
def World.NoLostWakeup (w : World N T V) : Prop :=
  ∀ u, w.asleep u = true → (w.pc u).Waits w.pool

lemma World.NoLostWakeup.step (h : w.NoLostWakeup) (hi : w.Inv opts)
    (ha : Act opts w t choice w') : w'.NoLostWakeup := by
  intro u hu
  by_cases hut : u = t
  · subst hut
    rcases ha.sleepers with ⟨turn, hlock, hcs, rfl⟩ | hs
    · have hl := World.finish_asleep_self hlock.1 hu
      have hw := (criticalSection_wait hcs).mp hl
      rw [criticalSection_of_waits hw] at hcs
      obtain rfl := Option.some.inj hcs
      rw [World.finish_pc]
      exact hw
    · rcases ha.at_wait (h u (hs u hu)) with ⟨turn, hlock, -⟩ | hn
      · have hawake := hlock.1
        rw [hs u hu] at hawake
        cases hawake
      · rw [hu] at hn
        cases hn
  · have hs : w.asleep u = true := by
      rcases ha.sleepers with ⟨turn, -, -, rfl⟩ | hs
      · exact World.asleep_of_finish hut hu
      · exact hs u hu
    rw [ha.others hut]
    by_contra hn
    obtain ⟨turn, -, rfl, hnotify⟩ := ha.wakeStep hi _ (h u hs) hn
    rw [World.finish_awake hnotify hut] at hu
    cases hu

lemma noLostWakeup_of_run (h : Run (poolSystem opts) OneLifecycle w) :
    w.Inv opts ∧ w.Exclusive ∧ w.NoLostWakeup := by
  refine h.invariant (I := fun w => w.Inv opts ∧ w.Exclusive ∧ w.NoLostWakeup) ?_ ?_
  · rintro w ⟨disk, rfl⟩
    refine ⟨World.Inv.initial disk, ?_, fun u hu => by cases hu⟩
    rintro t u file ht -
    cases ht
  · rintro w ⟨t, choice⟩ w' ⟨hi, hx, hn⟩ hok hs
    have ha := step_act hs
    exact ⟨hi.step (hx.closesAlone _) hs, hx.step hi.accounted hok ha, hn.step hi ha⟩

theorem no_lost_wakeup (h : Run (poolSystem opts) OneLifecycle w) : w.NoLostWakeup ∧
    (∀ t turn, criticalSection opts w.pool (w.pc t) = some turn →
      (turn.lock = .wait ↔ (w.pc t).Waits w.pool)) ∧
    ∀ t choice w', step opts w t choice = some w' → WakeStep opts w w' t :=
  ⟨(noLostWakeup_of_run h).2.2, fun _ _ => criticalSection_wait,
    fun _ _ _ hs => (step_act hs).wakeStep (noLostWakeup_of_run h).1⟩

end Steps

section Sample

lemma sampleSleeper_runs : (execute (poolSystem sampleOptions) OneLifecycle
    (World.initial sampleDisk : World 1 Bool Unit)
    (sampleRegister false 1 ++ sampleNewPageStart true sampleInitializer ++
      [(false, .call (.newPage sampleFile sampleInitializer)), (false, .run)])).isSome := by
  decide +kernel

/-- A creator sleeps until another one has finished with the file. -/
def sampleSleeper : World 1 Bool Unit := Option.get _ sampleSleeper_runs

theorem no_lost_wakeup_creator : sampleSleeper.asleep false = true ∧
    sampleSleeper.mutex = none ∧ sampleSleeper.NoLostWakeup :=
  ⟨by decide +kernel, by decide +kernel,
    (no_lost_wakeup ((run_initial sampleDisk).of_execute sampleSleeper_runs)).1⟩

end Sample

end DBlusBlus.BufferPool
