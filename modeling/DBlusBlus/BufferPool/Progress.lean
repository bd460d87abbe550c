import DBlusBlus.BufferPool.Wakeup
import DBlusBlus.BufferPool.AtRest

/-! Calls that wait for each other: some call can always go on, unless a guard is in its way. -/

namespace DBlusBlus.BufferPool

open Accounting Transition

variable {N : ℕ} {T V : Type}

/-- Steps that need neither a user nor a spurious wakeup. -/
def Choice.internal : Choice T V → Bool
  | .call _ | .guard _ | .wake => false
  | _ => true

/-- The pcs at which a thread needs the mutex. -/
def Pc.critical : Pc N V → Bool
  | .registerFile _ _ _ | .retireFile _ _ | .retireDrain _ _ | .retireReset _ | .pinPage _ _ _
  | .joinLoad _ _ _ | .acquireFrame _ _ | .candidateObserved _ _ _ | .victimReserved _ _ _
  | .frameAcquired _ _ | .requestFailed _ _ | .finishLoad _ _ _ _ _ _ | .newPageTurn _ _
  | .newPageReserved _ _ _ _ | .newPageFinish _ _ _ _ | .flushPageCall _ | .flushFileCall _
  | .flushAllCall | .shutdownCall | .shutdownDrain | .flushMatching _ _ _ | .flushPage _ _
  | .finishWrite _ _ | .unpin _ _ => true
  | _ => false

/-- The latch that a thread waits for. -/
def Pc.latching : Pc N V → Option (Fin N × LatchMode)
  | .makeGuard _ f mode => some (f, mode)
  | .latchForCopy f _ _ _ => some (f, .shared)
  | _ => none

section Critical

variable [NeZero N] {opts : BufferPoolOptions} {pool : Pool N} {pc : Pc N V} {turn : Turn N V}

lemma criticalSection_isSome : (criticalSection opts pool pc).isSome = pc.critical := by
  cases pc
  case finishWrite writer written => cases writer <;> rfl
  all_goals rfl

def LockOp.keeps : LockOp → Bool
  | .hold | .notify => true
  | _ => false

/-- A section that keeps the mutex is followed by another one. -/
def Turn.Continues (turn : Turn N V) : Prop := turn.lock.keeps = true → turn.pc.critical = true

omit [NeZero N] in
lemma flushReturn_continues {page : PageId} {status : BufferStatus} {caller : FlushCaller} :
    (flushReturn pool page status caller : Turn N V).Continues := by
  cases caller <;> simp [flushReturn, Turn.Continues, LockOp.keeps, Pc.critical]

omit [NeZero N] in
lemma finishFailed_continues {file : FileId} {error : BufferError} :
    (finishFailed pool file error : Turn N V).Continues := by
  rw [finishFailed]
  split <;> simp [fault, Turn.Continues, LockOp.keeps]

omit [NeZero N] in
lemma reserveVictim_continues {requester : Requester} {f : Fin N} {victim : PageId} :
    (reserveVictim pool requester f victim : Turn N V).Continues := by
  simp only [reserveVictim]
  split <;> simp [fault, Turn.Continues, LockOp.keeps, Pc.critical]

omit [NeZero N] in
lemma retireDrain_continues {file : FileId} {disposition : RetireDisposition} :
    (retireDrain pool file disposition : Turn N V).Continues := by
  simp only [retireDrain]
  split
  · simp [fault, Turn.Continues, LockOp.keeps]
  · split
    · cases disposition <;> simp [startMatching, Turn.Continues, Pc.critical]
    · simp [Turn.Continues, LockOp.keeps]

lemma pinPage_continues {page : PageId} {mode : LatchMode} {hitNotified : Bool} :
    (pinPage opts pool page mode hitNotified : Turn N V).Continues := by
  rw [pinPage]
  split
  · simp [fetchFailed, Turn.Continues, LockOp.keeps]
  · split
    · simp [installIntent, Turn.Continues, Pc.critical]
    · split
      · split
        · simp [Turn.Continues, Pc.critical]
        · rw [pinResident]
          split <;> simp [fetchFailed, Turn.Continues, LockOp.keeps]
      · simp [Turn.Continues, LockOp.keeps]
      all_goals
        simp only [claimLoad]
        split
        · simp [fetchFailed, Turn.Continues, LockOp.keeps]
        · split <;> simp [fetchFailed, Turn.Continues, LockOp.keeps, Pc.critical]

omit [NeZero N] in
lemma joinLoad_continues {page : PageId} {mode : LatchMode} {load : LoadId} :
    (joinLoad pool page mode load : Turn N V).Continues := by
  simp only [joinLoad]
  split
  · split <;> simp [fetchFailed, Turn.Continues, LockOp.keeps]
  · simp [Turn.Continues, LockOp.keeps]

lemma acquireFrame_continues {requester : Requester} {candidateNotified : Bool} :
    (acquireFrame opts pool requester candidateNotified : Turn N V).Continues := by
  rw [acquireFrame]
  split
  · simp [Turn.Continues, Pc.critical]
  · dsimp only
    split
    · simp [Turn.Continues, Pc.critical]
    · split
      · simp [Turn.Continues, Pc.critical]
      · exact reserveVictim_continues

omit [NeZero N] in
lemma newPageTurn_continues {file : FileId} {init : PageInitializer} :
    (newPageTurn pool file init : Turn N V).Continues := by
  simp only [newPageTurn, newPageFailed]
  split
  · simp [Turn.Continues, LockOp.keeps]
  · split
    · simp [Turn.Continues, LockOp.keeps]
    · split
      · simp [Turn.Continues, LockOp.keeps]
      · split <;> simp [Turn.Continues, LockOp.keeps, Pc.critical]

omit [NeZero N] in
lemma frameAcquired_continues {requester : Requester} {f : Fin N} :
    (frameAcquired pool requester f : Turn N V).Continues := by
  cases requester with
  | fetch =>
    simp only [frameAcquired]
    split
    · simp [fault, Turn.Continues, LockOp.keeps]
    · split <;> simp [fault, Turn.Continues, LockOp.keeps]
  | newPage =>
    simp only [frameAcquired]
    split <;> simp [fault, Turn.Continues, LockOp.keeps]

omit [NeZero N] in
lemma newPageReserved_continues {file : FileId} {init : PageInitializer} {f : Fin N}
    {pageNo : DiskResult PageNo} :
    (newPageReserved pool file init f pageNo : Turn N V).Continues := by
  simp only [newPageReserved]
  split
  · exact finishFailed_continues
  · split
    · simp [fault, Turn.Continues, LockOp.keeps]
    · split
      · exact finishFailed_continues
      · simp [Turn.Continues, LockOp.keeps]

omit [NeZero N] in
lemma newPageFinish_continues {page : PageId} {f : Fin N} {built : Bool}
    {outcome : PageValidationOutcome} :
    (newPageFinish pool page f built outcome : Turn N V).Continues := by
  simp only [newPageFinish]
  split
  · simp [fault, Turn.Continues, LockOp.keeps]
  · split
    · exact finishFailed_continues
    · split <;> simp [fault, Turn.Continues, LockOp.keeps]

omit [NeZero N] in
lemma flushPage_continues {page : PageId} {caller : FlushCaller} :
    (flushPage pool page caller : Turn N V).Continues := by
  simp only [flushPage]
  split
  · exact flushReturn_continues
  · split
    · exact flushReturn_continues
    · exact flushReturn_continues
    · simp [Turn.Continues, LockOp.keeps]
    · split
      · exact flushReturn_continues
      · split <;> simp [Turn.Continues, LockOp.keeps]

lemma finishWrite_continues {writer : Writer N} {written : BufferStatus}
    (h : criticalSection opts pool (.finishWrite writer written) = some turn) :
    turn.Continues := by
  cases writer with
  | evict requester f victim =>
    obtain rfl := Option.some.inj h
    simp only [finishEviction]
    split
    · simp [dropVictim, Turn.Continues, Pc.critical]
    · split <;> simp [fault, Turn.Continues, LockOp.keeps, Pc.critical]
  | flush f page bindingEpoch copiedGeneration caller =>
    obtain rfl := Option.some.inj h
    simp only [finishWriteback]
    split
    · simp [Turn.Continues, Pc.critical]
    · exact flushReturn_continues

lemma criticalSection_continues (h : criticalSection opts pool pc = some turn) :
    turn.Continues := by
  cases pc
  case retireDrain => exact Option.some.inj h ▸ retireDrain_continues
  case pinPage => exact Option.some.inj h ▸ pinPage_continues
  case joinLoad => exact Option.some.inj h ▸ joinLoad_continues
  case acquireFrame => exact Option.some.inj h ▸ acquireFrame_continues
  case frameAcquired => exact Option.some.inj h ▸ frameAcquired_continues
  case newPageTurn => exact Option.some.inj h ▸ newPageTurn_continues
  case newPageReserved => exact Option.some.inj h ▸ newPageReserved_continues
  case newPageFinish => exact Option.some.inj h ▸ newPageFinish_continues
  case finishWrite => exact finishWrite_continues h
  case flushPage => exact Option.some.inj h ▸ flushPage_continues
  case registerFile =>
    obtain rfl := Option.some.inj h
    simp only [registerFile]
    split
    · simp [Turn.Continues, LockOp.keeps]
    · split <;> simp [Turn.Continues, LockOp.keeps]
  case retireFile =>
    obtain rfl := Option.some.inj h
    simp only [retireFile]
    split
    · simp [Turn.Continues, LockOp.keeps]
    · split <;> simp [Turn.Continues, Pc.critical]
  case retireReset =>
    obtain rfl := Option.some.inj h
    simp only [retireReset]
    split <;> simp [Turn.Continues, LockOp.keeps, Pc.critical]
  case candidateObserved =>
    obtain rfl := Option.some.inj h
    simp only [candidateObserved]
    split
    · simp [Turn.Continues, Pc.critical]
    · exact reserveVictim_continues
  case victimReserved =>
    obtain rfl := Option.some.inj h
    simp only [victimReserved]
    split <;> simp [dropVictim, Turn.Continues, LockOp.keeps, Pc.critical]
  case requestFailed requester error =>
    obtain rfl := Option.some.inj h
    cases requester with
    | fetch => simp [requestFailed, failLoad, Turn.Continues, LockOp.keeps]
    | newPage => exact finishFailed_continues
  case finishLoad =>
    obtain rfl := Option.some.inj h
    simp only [finishLoad]
    split
    · simp [fault, Turn.Continues, LockOp.keeps]
    · simp [failLoad, Turn.Continues, LockOp.keeps]
    · simp only [publishLoad]
      split <;> simp [fault, Turn.Continues, LockOp.keeps]
  case flushPageCall | flushAllCall | shutdownCall =>
    obtain rfl := Option.some.inj h
    simp [startMatching, Turn.Continues, Pc.critical]
  case flushFileCall =>
    obtain rfl := Option.some.inj h
    rw [flushFile]
    split <;> simp [startMatching, Turn.Continues, LockOp.keeps, Pc.critical]
  case shutdownDrain =>
    obtain rfl := Option.some.inj h
    rw [shutdownDrain]
    split <;> simp [startMatching, Turn.Continues, LockOp.keeps, Pc.critical]
  case flushMatching rest firstFailure caller =>
    obtain rfl := Option.some.inj h
    cases rest with
    | cons => simp [flushMatching, Turn.Continues, Pc.critical]
    | nil =>
      cases caller <;> cases firstFailure <;>
        simp [flushMatching, Turn.Continues, LockOp.keeps, Pc.critical]
  case unpin =>
    obtain rfl := Option.some.inj h
    simp only [unpin]
    split <;> simp [Turn.Continues, LockOp.keeps]
  all_goals cases h

end Critical

section Mutex

variable [DecidableEq T] [DecidableEq V] [NeZero N] {opts : BufferPoolOptions}
  {w w' : World N T V} {t u : T} {choice : Choice T V}

/-- Whoever holds the mutex is awake, and about to enter a critical section. -/
def World.HolderReady (w : World N T V) : Prop :=
  ∀ t, w.mutex = some t → w.asleep t = false ∧ (w.pc t).critical = true

omit [DecidableEq V] [NeZero N] in
lemma World.HolderReady.finish {turn : Turn N V} (hl : w.canLock t) (hc : turn.Continues) :
    (w.finish opts t turn).HolderReady := by
  intro u hu
  have hkeep : u = t ∧ turn.lock.keeps = true := by
    simp only [World.finish] at hu
    split at hu
    · cases hu
    · cases hu
    · exact ⟨(Option.some.inj hu).symm, by simp [LockOp.keeps, *]⟩
    · split at hu
      · cases hu
      · exact ⟨(Option.some.inj hu).symm, by simp [LockOp.keeps, *]⟩
  obtain ⟨rfl, hkeep⟩ := hkeep
  refine ⟨?_, ?_⟩
  · rw [← Bool.not_eq_true]
    intro ha
    rw [World.finish_asleep_self hl.1 ha] at hkeep
    cases hkeep
  · rw [World.finish_pc]
    exact hc hkeep

lemma World.HolderReady.step (h : w.HolderReady) (ha : Act opts w t choice w') :
    w'.HolderReady := by
  have quiet (hm : w'.mutex = w.mutex) (hs : w'.asleep = w.asleep)
      (hpc : (w.pc t).critical = false) : w'.HolderReady := by
    intro u hu
    rw [hm] at hu
    obtain ⟨hawake, hc⟩ := h u hu
    have hut : u ≠ t := by
      rintro rfl
      rw [hc] at hpc
      cases hpc
    rw [hs, ha.others hut]
    exact ⟨hawake, hc⟩
  have idle (hi : (w.pc t).isIdle = true) : (w.pc t).critical = false := by
    obtain ⟨last, hpc⟩ := Pc.exists_idle hi
    rw [hpc]
    rfl
  cases ha with
  | critical hlock hcs hm => exact .finish hlock (criticalSection_continues hcs)
  | wake =>
    intro u hu
    obtain ⟨hawake, hc⟩ := h u hu
    refine ⟨?_, hc⟩
    by_cases hut : u = t
    · subst hut
      exact Function.update_self ..
    · exact (Function.update_of_ne hut ..).trans hawake
  | call hi | mutate hi | markDirty hi | release hi | assign hi | move hi | noGuard hi =>
    exact quiet rfl rfl (idle hi)
  | grant hpc | latchForCopy hpc | copyImage hpc | buildNone hpc | build hpc | takeFrom hpc
  | registerCount hpc | registerCountFailed hpc | countFailed hpc | reusePage hpc
  | needExtension hpc | extended hpc | extendFailed hpc | readPage hpc | written hpc
  | writeFailed hpc | synced hpc | syncFailed hpc =>
    exact quiet rfl rfl (by rw [hpc]; rfl)

lemma holderReady_of_run {ok : World N T V → T × Choice T V → Prop}
    (h : Run (poolSystem opts) ok w) : w.HolderReady := by
  refine h.invariant ?_ fun w a w' hw _ hs => hw.step (step_act hs)
  rintro w ⟨disk, rfl⟩ u hu
  cases hu

end Mutex

section Still

variable {opts : BufferPoolOptions} {page : PageId} {f : Fin N}

/-- Nothing is held of the pool but by guards, and claims on loads. -/
def World.Still [NeZero N] (w : World N T V) : Prop :=
  ∀ r, (∀ g, r ∉ guardResources g) → (∀ load, r ≠ .load load .claim) → w.pool.demand r = 0

lemma Pc.Waits.resources {pc : Pc N V} {pool : Pool N} {r : Resource N} (h : pc.Waits pool)
    (hr : r ∈ pc.resources pool.loads) : ∃ load, r = .load load .claim := by
  cases pc
  case joinLoad page mode load =>
    have hd : (pool.loads load).done = false := h
    simp only [Pc.resources, LoadOperation.joiner, hd, Bool.false_eq_true, if_false,
      List.mem_singleton] at hr
    exact ⟨load, hr⟩
  case pinPage | retireDrain | newPageTurn | flushPage | shutdownDrain => cases hr
  all_goals cases h

lemma Pc.pin_mem {pc : Pc N V} {pool : Pool N} {f : Fin N} (h : pc.Waits pool) :
    Resource.frame f .pin ∉ pc.resources pool.loads := by
  intro hm
  obtain ⟨load, hr⟩ := h.resources hm
  cases hr

lemma Pc.shared_mem {pc : Pc N V} {loads : LoadId → LoadOperation N} {f : Fin N}
    (h : Resource.frame f .shared ∈ pc.resources loads) :
    pc.isIdle = false ∧ pc.critical = false ∧ pc.latching = none := by
  have joiner (load : LoadId) : Resource.frame f .shared ∉ (loads load).joiner load := by
    rw [LoadOperation.joiner]
    split
    · split <;> simp
    · simp
  have writer (writer : Writer N) : Resource.frame f .shared ∉ writer.resources := by
    cases writer <;> simp [Writer.resources, Requester.frame_notMem]
  cases pc
  case copyImage => exact ⟨rfl, rfl, rfl⟩
  all_goals simp [Pc.resources, Requester.frame_notMem, joiner, writer] at h

lemma guard_of_latch {g : Option (PageGuard N)} {f : Fin N} {mode : LatchMode}
    (h : Resource.frame f mode.role ∈ guardResources g) :
    ∃ guard, g = some guard ∧ guard.frameId = f ∧ guard.mode = mode := by
  cases g with
  | none => cases h
  | some guard =>
    refine ⟨guard, rfl, ?_⟩
    cases hg : guard.mode <;> cases mode <;> simp_all [guardResources, LatchMode.role]

lemma guard_of_pin {g : Option (PageGuard N)} {f : Fin N}
    (h : Resource.frame f .pin ∈ guardResources g) :
    ∃ guard, g = some guard ∧ guard.frameId = f := by
  cases g with
  | none => cases h
  | some guard =>
    refine ⟨guard, rfl, ?_⟩
    cases hg : guard.mode <;> simp_all [guardResources, LatchMode.role]

variable [NeZero N] {w : World N T V}

lemma World.still_of_waits [Fintype T] [Fintype V] (h : w.Accounted)
    (hw : ∀ t, (w.pc t).isIdle = false → (w.pc t).Waits w.pool) : w.Still := by
  intro r hg hr
  by_contra hd
  obtain ⟨t | ⟨t, v⟩, hx⟩ := Balanced.holder h (Nat.pos_of_ne_zero hd)
  · have hx : r ∈ (w.pc t).resources w.pool.loads := hx
    cases hi : (w.pc t).isIdle with
    | true =>
      rw [Pc.resources_idle hi] at hx
      cases hx
    | false =>
      obtain ⟨load, rfl⟩ := (hw t hi).resources hx
      exact hr load rfl
  · exact hg _ hx

lemma World.guard_of_pinned [Fintype T] [Fintype V] (h : w.Accounted)
    (hw : ∀ t, (w.pc t).isIdle = false → (w.pc t).Waits w.pool) {f : Fin N}
    (hp : (w.pool.frames f).pinCount ≠ 0) :
    ∃ u v g, w.guards u v = some g ∧ g.frameId = f := by
  obtain ⟨u | ⟨u, v⟩, hx⟩ := Balanced.holder h (demand_pin.mpr (Nat.pos_of_ne_zero hp))
  · cases hi : (w.pc u).isIdle with
    | true =>
      have hx : Resource.frame f .pin ∈ (w.pc u).resources w.pool.loads := hx
      rw [Pc.resources_idle hi] at hx
      cases hx
    | false => exact absurd hx (Pc.pin_mem (hw u hi))
  · obtain ⟨g, hg, hf⟩ := guard_of_pin hx
    exact ⟨u, v, g, hg, hf⟩

namespace World.Still

lemma frame_role (hs : w.Still) {role : FrameRole}
    (hrole : role ≠ .pin ∧ role ≠ .shared ∧ role ≠ .exclusive) :
    w.pool.demand (.frame f role) = 0 :=
  hs _ (guardResources_notMem hrole) (by simp)

lemma entry_role (hs : w.Still) (role : EntryRole N) : w.pool.demand (.entry page role) = 0 :=
  hs _ (fun g => guardResources_entry g) (by simp)

lemma not_evicting (hs : w.Still) : (w.pool.frames f).state ≠ .evicting := by
  intro hf
  by_cases hio : (w.pool.frames f).ioState = .none
  · have hd := demand_victim.mpr ⟨hf, hio, rfl⟩
    rw [hs.frame_role (by simp)] at hd
    cases hd
  · have hd := demand_eviction.mpr ⟨hf, hio, rfl⟩
    rw [hs.frame_role (by simp)] at hd
    cases hd

lemma not_loading (hs : w.Still) (h : w.pool.WellFormed opts.pinLimit) :
    (w.pool.frames f).state ≠ .loading := by
  intro hf
  obtain ⟨-, -, load, he, -⟩ := h.loading hf
  have hd := demand_loading.mpr he
  rw [hs.entry_role] at hd
  cases hd

lemma no_io (hs : w.Still) (h : w.pool.WellFormed opts.pinLimit) :
    (w.pool.frames f).ioState = .none := by
  cases hf : (w.pool.frames f).state with
  | free => exact (h.free hf).2.1
  | loading => exact absurd hf (hs.not_loading h)
  | resident =>
    by_contra hio
    have hd := demand_writeback.mpr ⟨hf, hio, rfl, rfl⟩
    rw [hs.frame_role (by simp)] at hd
    cases hd
  | evicting => exact absurd hf hs.not_evicting

lemma entry (hs : w.Still) (h : w.pool.WellFormed opts.pinLimit) {entry : PageTableEntry N}
    (he : w.pool.pageTable.lookup page = some entry) : entry.state = .resident := by
  cases hstate : entry.state with
  | loadIntent =>
    obtain ⟨hf, hl⟩ := (h.bindings.entry page entry he).intent hstate
    obtain ⟨load, hl⟩ := Option.isSome_iff_exists.mp hl
    have hd : 0 < w.pool.demand (.entry page (.intent load)) := by
      rw [demand_intent, he, ← hl, ← hstate, ← hf]
    rw [hs.entry_role] at hd
    cases hd
  | loading =>
    have hd : 0 < w.pool.demand (.entry page (.loading entry.frameId entry.load)) :=
      demand_loading.mpr (by rw [he, ← hstate])
    rw [hs.entry_role] at hd
    cases hd
  | resident => rfl
  | evicting =>
    have hf := (h.bindings.bound he (by simp [hstate])).2
    rw [hstate] at hf
    exact absurd hf hs.not_evicting

lemma no_turn (hs : w.Still) {file : FileId} {entry : FileEntry}
    (he : w.pool.files.lookup file = some entry) : entry.newPageInProgress = false := by
  rw [← Bool.not_eq_true]
  intro hn
  have hd := demand_turn.mpr ⟨entry, he, hn⟩
  rw [hs _ (by rintro (_ | _) <;> simp [guardResources]) (by simp)] at hd
  cases hd

lemma finished (hs : w.Still) {load : LoadId} (hl : load < w.pool.nextLoad) :
    (w.pool.loads load).done = true := by
  rw [← Bool.not_eq_false]
  intro hn
  have hd := demand_loader.mpr ⟨hl, hn⟩
  rw [hs _ (by rintro (_ | _) <;> simp [guardResources]) (by simp)] at hd
  cases hd

end World.Still

end Still

section Deadlock

variable [DecidableEq T] [DecidableEq V] [NeZero N] {opts : BufferPoolOptions}
  {w : World N T V} {t : T}

def World.CanStep (opts : BufferPoolOptions) (w : World N T V) (t : T) : Prop :=
  ∃ choice, choice.internal = true ∧ (step opts w t choice).isSome = true

/-- The thread waits for the latch that the guard holds, or for the pin. -/
def World.BlockedBy (w : World N T V) (t : T) (g : PageGuard N) : Prop :=
  (∃ mode, (w.pc t).latching = some (g.frameId, mode) ∧
    (mode = .exclusive ∨ g.mode = .exclusive)) ∨
  (∃ file disposition, w.pc t = .retireDrain file disposition ∧
    (w.pool.frames g.frameId).page.id.fileId = file) ∨
  w.pc t = .shutdownDrain

lemma runStep_critical (hc : (w.pc t).critical = true) (hl : w.canLock t) :
    ∃ turn, criticalSection opts w.pool (w.pc t) = some turn ∧
      runStep opts w t = some (w.finish opts t turn) := by
  obtain ⟨turn, hcs⟩ := Option.isSome_iff_exists.mp
    ((criticalSection_isSome : (criticalSection opts w.pool (w.pc t)).isSome = _).trans hc)
  refine ⟨turn, hcs, ?_⟩
  cases hpc : w.pc t
  case idle | registerPageCount | readPage | newPageCount | newPageExtend | newPageBuild | makeGuard
    | latchForCopy | copyImage | writePage | syncFile | takeFrom =>
    rw [hpc] at hc
    cases hc
  all_goals
    rw [hpc] at hcs
    simp only [runStep, hpc, hcs, if_pos hl]

lemma World.canStep (hi : (w.pc t).isIdle = false)
    (hc : (w.pc t).critical = true → w.canLock t)
    (hl : ∀ f mode, (w.pc t).latching = some (f, mode) →
      (w.pool.frames f).latch.canAcquire mode = true) : w.CanStep opts t := by
  cases hcritical : (w.pc t).critical with
  | true =>
    obtain ⟨turn, -, hrun⟩ := @runStep_critical _ _ _ _ _ _ opts _ _ hcritical (hc hcritical)
    exact ⟨.run, rfl, by rw [step, hrun]; rfl⟩
  | false =>
    cases hpc : w.pc t
    case makeGuard result f mode =>
      have hacquire := hl f mode (by rw [hpc]; rfl)
      exact ⟨.run, rfl, by simp [step, runStep, hpc, hacquire]⟩
    case latchForCopy f page bindingEpoch caller =>
      have hacquire := hl f .shared (by rw [hpc]; rfl)
      exact ⟨.run, rfl, by simp [step, runStep, hpc, hacquire]⟩
    case copyImage => exact ⟨.run, rfl, by simp [step, runStep, hpc]⟩
    case takeFrom => exact ⟨.run, rfl, by simp [step, runStep, hpc]⟩
    case newPageBuild page init f validator =>
      cases init with
      | none => exact ⟨.run, rfl, by simp [step, runStep, hpc]⟩
      | some init => exact ⟨.run, rfl, by simp [step, runStep, hpc]⟩
    case registerPageCount =>
      exact ⟨.pageCount (.ok 0), rfl, by simp [step, pageCountStep, hpc]⟩
    case newPageCount =>
      exact ⟨.pageCount (.error DiskError.default), rfl, by simp [step, pageCountStep, hpc]⟩
    case newPageExtend =>
      exact ⟨.extendFile (.ok 0), rfl, by simp [step, extendFileStep, hpc]⟩
    case readPage f _ =>
      exact ⟨.readPage (.ok ()) (w.pool.frames f).page.bytes, rfl, by simp [step, readPageStep, hpc]⟩
    case writePage writer image =>
      exact ⟨.writePage (.ok ()) image, rfl, by simp [step, writePageStep, hpc]⟩
    case syncFile => exact ⟨.syncFile (.ok ()), rfl, by simp [step, syncFileStep, hpc]⟩
    case idle =>
      rw [hpc] at hi
      cases hi
    all_goals
      rw [hpc] at hcritical
      cases hcritical

variable [Fintype T] [Fintype V]

/-- A latch that cannot be taken is held by a guard, or by a thread that copies an image. -/
lemma latch_holder {f : Fin N} {mode : LatchMode} (h : w.Accounted)
    (hc : (w.pool.frames f).latch.canAcquire mode = false) :
    (∃ u v g, w.guards u v = some g ∧ g.frameId = f ∧
      (mode = .exclusive ∨ g.mode = .exclusive)) ∨ ∃ u, w.CanStep opts u := by
  have held (owner : LatchMode) (hd : 0 < w.pool.demand (.frame f owner.role)) :
      (∃ u v g, w.guards u v = some g ∧ g.frameId = f ∧ g.mode = owner) ∨
        ∃ u, w.CanStep opts u := by
    obtain ⟨u | ⟨u, v⟩, hx⟩ := Balanced.holder h hd
    · have hx : Resource.frame f owner.role ∈ (w.pc u).resources w.pool.loads := hx
      cases owner with
      | shared =>
        obtain ⟨hi, hcritical, hl⟩ := Pc.shared_mem hx
        refine .inr ⟨u, World.canStep hi (fun hc => ?_) fun f mode hlatching => ?_⟩
        · rw [hcritical] at hc
          cases hc
        · rw [hl] at hlatching
          cases hlatching
      | exclusive => exact absurd hx (Pc.exclusive_notMem _ _ _)
    · obtain ⟨g, hg, hf, hm⟩ := guard_of_latch hx
      exact .inl ⟨u, v, g, hg, hf, hm⟩
  have exclusive (he : (w.pool.frames f).latch.exclusive = true) :
      0 < w.pool.demand (.frame f LatchMode.exclusive.role) := by
    simp [Pool.demand, BufferFrame.demand, LatchMode.role, he]
  cases mode with
  | shared =>
    refine (held .exclusive (exclusive (by simpa [Latch.canAcquire] using hc))).imp_left ?_
    rintro ⟨u, v, g, hg, hf, hm⟩
    exact ⟨u, v, g, hg, hf, .inr hm⟩
  | exclusive =>
    have hbusy : 0 < w.pool.demand (.frame f LatchMode.exclusive.role) ∨
        0 < w.pool.demand (.frame f LatchMode.shared.role) := by
      cases he : (w.pool.frames f).latch.exclusive with
      | true => exact .inl (exclusive he)
      | false =>
        right
        simp only [Latch.canAcquire, he, Bool.not_false, Bool.true_and, beq_eq_false_iff_ne] at hc
        exact Nat.pos_of_ne_zero hc
    rcases hbusy with hd | hd
    · refine (held .exclusive hd).imp_left ?_
      rintro ⟨u, v, g, hg, hf, -⟩
      exact ⟨u, v, g, hg, hf, .inl rfl⟩
    · refine (held .shared hd).imp_left ?_
      rintro ⟨u, v, g, hg, hf, -⟩
      exact ⟨u, v, g, hg, hf, .inl rfl⟩

/-- In a stuck world a call sleeps at a wait, unless a guard keeps it from a latch. -/
lemma stuck_waits (hn : w.NoLostWakeup) (hm : w.HolderReady) (h : w.Accounted)
    (hstuck : ∀ u, ¬ w.CanStep opts u) (hi : (w.pc t).isIdle = false) :
    (w.pc t).Waits w.pool ∨ ∃ u v g, w.guards u v = some g ∧ w.BlockedBy t g := by
  by_cases hl : ∀ f mode, (w.pc t).latching = some (f, mode) →
    (w.pool.frames f).latch.canAcquire mode = true
  · left
    have hlock : ¬ ((w.pc t).critical = true → w.canLock t) :=
      fun hc => hstuck t (World.canStep hi hc hl)
    obtain ⟨hcritical, hlock⟩ := Classical.not_imp.mp hlock
    by_contra hwaits
    have hawake : w.asleep t = false := by
      rw [← Bool.not_eq_true]
      exact fun ha => hwaits (hn t ha)
    cases hmutex : w.mutex with
    | none => exact hlock ⟨hawake, .inl hmutex⟩
    | some u =>
      obtain ⟨hawake', hcritical'⟩ := hm u hmutex
      obtain ⟨turn, -, hrun⟩ := @runStep_critical _ _ _ _ _ _ opts w u hcritical'
        ⟨hawake', .inr hmutex⟩
      exact hstuck u ⟨.run, rfl, by rw [step, hrun]; rfl⟩
  · right
    obtain ⟨f, mode, hlatching, hc⟩ : ∃ f mode, (w.pc t).latching = some (f, mode) ∧
        (w.pool.frames f).latch.canAcquire mode = false := by
      simpa using hl
    rcases @latch_holder _ _ _ _ _ _ opts _ _ _ _ _ h hc with ⟨u, v, g, hg, rfl, hmode⟩ | ⟨u, hu⟩
    · exact ⟨u, v, g, hg, .inl ⟨mode, hlatching, hmode⟩⟩
    · exact absurd hu (hstuck u)

/-- A wait that nothing but guards and claims can end is a drain, and a guard holds it up. -/
lemma waits_for_guard (hi : w.Inv opts) (hw : ∀ t, (w.pc t).isIdle = false →
    (w.pc t).Waits w.pool) (ht : (w.pc t).isIdle = false) :
    ∃ u v g, w.guards u v = some g ∧ w.BlockedBy t g := by
  have hs := World.still_of_waits hi.accounted hw
  have hwait := hw t ht
  have busy {f : Fin N} (hb : w.pool.BusyFrame f) :
      ∃ u v g, w.guards u v = some g ∧ g.frameId = f :=
    World.guard_of_pinned hi.accounted hw (hb.resolve_right (not_not_intro (hs.no_io hi.wellFormed)))
  cases hpc : w.pc t
  case pinPage page mode hitNotified =>
    rw [hpc] at hwait
    obtain ⟨-, entry, he, hstate⟩ := hwait
    rw [hs.entry hi.wellFormed he] at hstate
    cases hstate
  case joinLoad page mode load =>
    rw [hpc] at hwait
    have hd : (w.pool.loads load).done = false := hwait
    have hclaim : 0 < w.pool.demand (.load load .claim) :=
      (hi.ready t).due _ (by simp [hpc, Pc.resources, LoadOperation.joiner, hd])
    have hlt : load < w.pool.nextLoad := by
      by_contra hge
      rw [Pool.demand, LoadOperation.demand,
        hi.wellFormed.fresh load (Nat.le_of_not_lt hge)] at hclaim
      simp [LoadOperation.initial] at hclaim
    rw [hs.finished hlt] at hd
    cases hd
  case newPageTurn file init =>
    rw [hpc] at hwait
    obtain ⟨-, entry, he, -, hturn⟩ := hwait
    rw [hs.no_turn he] at hturn
    cases hturn
  case flushPage page caller =>
    rw [hpc] at hwait
    obtain ⟨entry, he, hstate | ⟨-, -, hio⟩⟩ := hwait
    · rw [hs.entry hi.wellFormed he] at hstate
      cases hstate
    · exact absurd (hs.no_io hi.wellFormed) hio
  case retireDrain file disposition =>
    rw [hpc] at hwait
    obtain ⟨entry, he, hturn | ⟨page, item, hitem, hfile, hstate | hbusy⟩⟩ := hwait
    · rw [hs.no_turn he] at hturn
      cases hturn
    · exact absurd (hs.entry hi.wellFormed hitem) hstate
    · obtain ⟨u, v, g, hg, hf⟩ := busy hbusy
      obtain ⟨hid, -⟩ := hi.wellFormed.bound_resident hitem (hs.entry hi.wellFormed hitem)
      refine ⟨u, v, g, hg, .inr (.inl ⟨file, disposition, hpc, ?_⟩)⟩
      rw [hf, hid, hfile]
  case shutdownDrain =>
    rw [hpc] at hwait
    rcases hwait with ⟨f, hbusy⟩ | ⟨page, item, hitem, hstate⟩ | ⟨file, entry, he, hturn⟩
    · obtain ⟨u, v, g, hg, -⟩ := busy hbusy
      exact ⟨u, v, g, hg, .inr (.inr hpc)⟩
    · exact absurd (hs.entry hi.wellFormed hitem) hstate
    · rw [hs.no_turn he] at hturn
      cases hturn
  all_goals
    rw [hpc] at hwait
    cases hwait

lemma atRest_of_unblocked (h : Run (poolSystem opts) OneLifecycle w)
    (hstuck : ∀ t, ¬ w.CanStep opts t)
    (hfree : ¬ ∃ t u v g, w.guards u v = some g ∧ w.BlockedBy t g) : w.AtRest := by
  obtain ⟨hi, -, hn⟩ := noLostWakeup_of_run h
  have hm := holderReady_of_run h
  have hw (t : T) (ht : (w.pc t).isIdle = false) : (w.pc t).Waits w.pool :=
    (stuck_waits hn hm hi.accounted hstuck ht).resolve_right fun hb => hfree ⟨t, hb⟩
  intro t
  rw [← Bool.not_eq_false]
  exact fun ht => hfree ⟨t, waits_for_guard hi hw ht⟩

/-- Calls never block each other for good: where none can go on, one of them waits for the latch
or the pin of a guard. -/
theorem deadlock_needs_guard (h : Run (poolSystem opts) OneLifecycle w)
    (hstuck : ∀ t, ¬ w.CanStep opts t) :
    w.AtRest ∨ ∃ t u v g, w.guards u v = some g ∧ w.BlockedBy t g := by
  by_cases hblocked : ∃ t u v g, w.guards u v = some g ∧ w.BlockedBy t g
  · exact .inr hblocked
  · exact .inl (atRest_of_unblocked h hstuck hblocked)

omit [Fintype T] [Fintype V] in
lemma not_canStep_idle (hi : (w.pc t).isIdle = true) : ¬ w.CanStep opts t := by
  obtain ⟨last, hpc⟩ := Pc.exists_idle hi
  rintro ⟨choice, hc, hs⟩
  cases choice with
  | run => simp [step, runStep, hpc, criticalSection] at hs
  | pageCount => simp [step, pageCountStep, hpc] at hs
  | extendFile => simp [step, extendFileStep, hpc] at hs
  | readPage => simp [step, readPageStep, hpc] at hs
  | writePage => simp [step, writePageStep, hpc] at hs
  | syncFile => simp [step, syncFileStep, hpc] at hs
  | call | guard | wake => cases hc

omit [Fintype T] [Fintype V] in
lemma not_canStep_makeGuard {result : Outcome} {f : Fin N} {mode : LatchMode}
    (hpc : w.pc t = .makeGuard result f mode)
    (hl : (w.pool.frames f).latch.canAcquire mode = false) : ¬ w.CanStep opts t := by
  rintro ⟨choice, hc, hs⟩
  cases choice with
  | run => simp [step, runStep, hpc, hl] at hs
  | pageCount => simp [step, pageCountStep, hpc] at hs
  | extendFile => simp [step, extendFileStep, hpc] at hs
  | readPage => simp [step, readPageStep, hpc] at hs
  | writePage => simp [step, writePageStep, hpc] at hs
  | syncFile => simp [step, syncFileStep, hpc] at hs
  | call | guard | wake => cases hc

end Deadlock

section Sample

/-- A reader waits for the latch that the creator of the page still holds. -/
def sampleBlocked : World 1 Bool Unit :=
  Option.get (execute (poolSystem sampleOptions) OneLifecycle (World.initial sampleDisk)
    (sampleRegister false 1 ++ sampleNewPage false 1 ++
      [(true, .call (.fetch ⟨sampleFile, 1⟩ .shared)), (true, .run)])) (by decide +kernel)

lemma sampleBlocked_run : Run (poolSystem sampleOptions) OneLifecycle sampleBlocked :=
  (run_initial sampleDisk).of_execute _

lemma sampleBlocked_pc :
    sampleBlocked.pc true = .makeGuard (.fetch ⟨sampleFile, 1⟩ .shared (.ok ())) 0 .shared := by
  rfl

theorem deadlock_needs_guard_reader : sampleBlocked.AtRest ∨
    ∃ t u v g, sampleBlocked.guards u v = some g ∧ sampleBlocked.BlockedBy t g := by
  refine deadlock_needs_guard sampleBlocked_run ?_
  rintro (_ | _)
  · exact not_canStep_idle rfl
  · exact not_canStep_makeGuard sampleBlocked_pc rfl

end Sample

end DBlusBlus.BufferPool
