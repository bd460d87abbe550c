import DBlusBlus.BufferPool.Progress
import DBlusBlus.BufferPool.Work

/-! Once no new calls come and guards are only released, the pool comes to rest. -/

namespace DBlusBlus.BufferPool

open Accounting Transition

variable {N : ℕ} {T V : Type}

/-- Calls are only brought to their end, and guards are only released. -/
def WindsDown (w : World N T V) (a : T × Choice T V) : Prop :=
  match a.2 with
  | .guard (.release v) => (w.guards a.1 v).isSome = true
  | choice => choice.internal = true

instance (w : World N T V) (a : T × Choice T V) : Decidable (WindsDown w a) :=
  decidable_of_bool
    (match a.2 with
    | .guard (.release v) => (w.guards a.1 v).isSome
    | choice => choice.internal)
    (by unfold WindsDown; split <;> rfl)

lemma WindsDown.oneLifecycle {w : World N T V} {a : T × Choice T V} (h : WindsDown w a) :
    OneLifecycle w a := by
  obtain ⟨t, choice⟩ := a
  cases choice with
  | call => cases h
  | _ => trivial

section Work

variable [DecidableEq T] [DecidableEq V] [NeZero N] [Fintype T] [Fintype V]
  {opts : BufferPoolOptions} {w w' : World N T V} {t u : T} {choice : Choice T V}

omit [DecidableEq V] [NeZero N] in
lemma work_lt (hothers : ∀ u, u ≠ t → w'.pc u = w.pc u)
    (hrework : ∀ u, u ≠ t → (w.pc u).rework w'.pool = (w.pc u).rework w.pool)
    (hlt : (w'.pc t).work + (w'.pc t).rework w'.pool + w'.pool.work + 3 * w'.guardCount <
      (w.pc t).work + (w.pc t).rework w.pool + w.pool.work + 3 * w.guardCount) :
    w'.work < w.work := by
  have hstep := total_step (f := fun u => (w.pc u).work + (w.pc u).rework w.pool)
    (g := fun u => (w'.pc u).work + (w'.pc u).rework w'.pool) t
    fun u hu => by rw [hothers u hu, hrework u hu]
  rw [World.work, World.work]
  omega

omit [NeZero N] in
lemma guardCount_setGuard (v : GuardVar V) (g : Option (PageGuard N)) :
    (w.setGuard t v g).guardCount + unit ((w.guards t v).isSome = true) =
      w.guardCount + unit (g.isSome = true) := by
  have hstep := total_step (f := fun x : T × GuardVar V => unit ((w.guards x.1 x.2).isSome = true))
    (g := fun x : T × GuardVar V => unit (((w.setGuard t v g).guards x.1 x.2).isSome = true)) (t, v)
    fun x hx => by
      by_cases ht : x.1 = t
      · have hv : x.2 ≠ v := fun hv => hx (Prod.ext ht hv)
        simp [World.setGuard, ht, hv]
      · simp [World.setGuard, ht]
  simpa [World.setGuard, World.guardCount] using hstep

omit [NeZero N] in
lemma guardCount_moveGuard (destination source : GuardVar V) :
    (moveGuard w t u destination source).guardCount ≤ w.guardCount := by
  have h₁ := @guardCount_setGuard N T V _ _ _ _ w t source none
  have h₂ := @guardCount_setGuard N T V _ _ _ _ (w.setGuard t source none) u destination
    (w.guards t source)
  rw [moveGuard]
  simp only [Option.isSome_none, Bool.false_eq_true, unit_of_not not_false] at h₁
  omega

/-- Without a mutation no image that is being flushed gets old. -/
lemma rework_kept (hi : w.Inv opts) (ha : Act opts w t choice w')
    (hm : ∀ v, choice ≠ .guard (.markDirty v)) :
    (w.pc u).rework w'.pool = (w.pc u).rework w.pool := by
  have generation (f : Fin N) (hf : (w.pool.frames f).state = .resident) :
      (w'.pool.frames f).modificationGeneration = (w.pool.frames f).modificationGeneration := by
    rcases ha.touches with ⟨turn, -, -, hmove, rfl⟩ | ⟨ht, -⟩
    · have hstep := hmove.frame hi.wellFormed (hi.ready t) f
      change (turn.pool.frames f).modificationGeneration = _
      generalize turn.pool.frames f = frame at hstep ⊢
      generalize turn.pc = pc' at hstep
      cases hstep with
      | created _ hs => simp [hf] at hs
      | _ => rfl
    · have ht := ht f
      generalize w'.pool.frames f = frame at ht ⊢
      cases ht with
      | marked hc => exact absurd hc (hm _)
      | _ => rfl
  have writer (writer : Writer N) (hr : ∀ r ∈ writer.resources,
      r ∈ (w.pc u).resources w.pool.loads) :
      unit (writer.stale w'.pool) = unit (writer.stale w.pool) := by
    cases writer with
    | evict => rfl
    | flush f page bindingEpoch copiedGeneration caller =>
      have hd := (hi.ready u).due _ (hr _ (List.mem_cons_self ..))
      refine unit_congr ?_
      rw [Writer.stale, Writer.stale, generation f (demand_writeback.mp hd).1]
  cases hpc : w.pc u
  case writePage | syncFile | finishWrite =>
    rw [Pc.rework, Pc.rework, writer _ (by rw [hpc]; exact fun _ => id)]
  all_goals rfl

/-- A step towards rest does some of the work, or a thread falls asleep at a wait. -/
theorem step_work (hi : w.Inv opts) (hs : step opts w t choice = some w')
    (hok : WindsDown w (t, choice)) : w'.work < w.work ∨ w.asleep t = false ∧
      w' = { w with mutex := none, asleep := Function.update w.asleep t true } := by
  have ha := step_act hs
  have hkeep (u : T) (_ : u ≠ t) : (w.pc u).rework w'.pool = (w.pc u).rework w.pool := by
    refine rework_kept hi ha ?_
    rintro v rfl
    cases hok
  have less (hlt : (w'.pc t).work + (w'.pc t).rework w'.pool + w'.pool.work + 3 * w'.guardCount <
      (w.pc t).work + (w.pc t).rework w.pool + w.pool.work + 3 * w.guardCount) :
      w'.work < w.work :=
    work_lt (fun u hu => ha.others hu) hkeep hlt
  have quiet {pc pc' : Pc N V} (hpc : w.pc t = pc) (hpc' : w'.pc t = pc')
      (hpool : w'.pool.work = w.pool.work) (hguards : w'.guards = w.guards)
      (hlt : pc'.work + pc'.rework w'.pool < pc.work + pc.rework w.pool) : w'.work < w.work := by
    refine less ?_
    rw [hpc, hpc', hpool, World.guardCount, World.guardCount, hguards]
    omega
  cases ha with
  | @critical turn hlock hcs hm =>
    by_cases hwait : turn.lock = .wait
    · right
      rw [criticalSection_of_waits ((criticalSection_wait hcs).mp hwait)] at hcs
      obtain rfl := Option.some.inj hcs
      refine ⟨hlock.1, ?_⟩
      simp [World.finish]
    · left
      have hdone := hm.work hi.wellFormed (hi.ready t)
        (fun ha hstay => hwait (criticalSection_stays hcs ha hstay))
        fun requester f v hpc => acquireFrame_observed (hpc ▸ hcs)
      refine less ?_
      rw [World.finish_pc]
      change _ + _ + turn.pool.work + 3 * w.guardCount < _
      change _ + turn.pc.rework turn.pool + _ + _ < _
      omega
  | @grant result f mode hpc hc =>
    left
    have hg := @guardCount_setGuard N T V _ _ _ _
      (w.latchFrame f ((w.pool.frames f).latch.acquire mode)) t none
      (some ⟨f, (w.pool.frames f).bindingEpoch, mode⟩)
    have hpool : (w.latchFrame f ((w.pool.frames f).latch.acquire mode)).pool.work = w.pool.work :=
      Pool.work_setFrame_same rfl
    refine less ?_
    rw [World.setPc_pc, hpc]
    change 0 + 0 + (w.latchFrame f ((w.pool.frames f).latch.acquire mode)).pool.work + 3 *
      World.guardCount ((w.latchFrame f ((w.pool.frames f).latch.acquire mode)).setGuard t none
        (some ⟨f, (w.pool.frames f).bindingEpoch, mode⟩)) < 4 + 0 + w.pool.work + 3 * w.guardCount
    change _ + _ = w.guardCount + _ at hg
    simp only [Option.isSome_some, unit_of] at hg
    omega
  | @latchForCopy f page bindingEpoch caller hpc =>
    exact .inl (quiet hpc (World.setPc_pc ..) (Pool.work_setFrame_same rfl) rfl
      (by simp [Pc.work, Pc.rework]))
  | @copyImage f page bindingEpoch caller hpc =>
    refine .inl (quiet hpc (World.setPc_pc ..) (Pool.work_setFrame_same rfl) rfl ?_)
    rw [rework_fresh (by simp [World.latchFrame, World.setFrame, World.setPc])]
    simp [Pc.work, Pc.rework, Writer.work]
  | buildNone hpc => exact .inl (quiet hpc (World.setPc_pc ..) rfl rfl (by simp [Pc.work, Pc.rework]))
  | build hpc =>
    exact .inl (quiet hpc (World.setPc_pc ..) (Pool.work_setFrame_same rfl) rfl
      (by simp [Pc.work, Pc.rework]))
  | readPage hpc =>
    exact .inl (quiet hpc (World.setPc_pc ..) (Pool.work_setFrame_same rfl) rfl
      (by simp [Pc.work, Pc.rework]))
  | @takeFrom destination source hpc =>
    left
    have hg := @guardCount_moveGuard N T V _ _ _ _ w t t destination source
    refine less ?_
    rw [World.setPc_pc, hpc]
    change 0 + 0 + w.pool.work + 3 * (moveGuard w t t destination source).guardCount <
      1 + 0 + w.pool.work + 3 * w.guardCount
    omega
  | @release v g hi' hg =>
    left
    have hcount := @guardCount_setGuard N T V _ _ _ _ w t v none
    have hpool : ((w.setGuard t v none).latchFrame g.frameId
        ((w.pool.frames g.frameId).latch.release g.mode)).pool.work = w.pool.work :=
      Pool.work_setFrame_same rfl
    refine less ?_
    obtain ⟨last, hpc⟩ := Pc.exists_idle hi'
    rw [releaseGuard_pc, hpc]
    change 2 + 0 + ((w.setGuard t v none).latchFrame g.frameId
        ((w.pool.frames g.frameId).latch.release g.mode)).pool.work +
      3 * (w.setGuard t v none).guardCount < 0 + 0 + w.pool.work + 3 * w.guardCount
    simp only [hg, Option.isSome_some, Option.isSome_none, unit_of, Bool.false_eq_true,
      unit_of_not not_false] at hcount
    omega
  | @written writer image torn hpc =>
    refine .inl (quiet hpc (World.setPc_pc ..) rfl rfl ?_)
    change writer.work + 3 + 6 * unit (writer.stale w.pool) <
      writer.work + 4 + 6 * unit (writer.stale w.pool)
    omega
  | @writeFailed writer image error torn hpc =>
    refine .inl (quiet hpc (World.setPc_pc ..) rfl rfl ?_)
    change writer.work + 2 + 6 * unit (writer.stale w.pool) <
      writer.work + 4 + 6 * unit (writer.stale w.pool)
    omega
  | @synced writer image hpc | @syncFailed writer image _ hpc =>
    refine .inl (quiet hpc (World.setPc_pc ..) rfl rfl ?_)
    change writer.work + 2 + 6 * unit (writer.stale w.pool) <
      writer.work + 3 + 6 * unit (writer.stale w.pool)
    omega
  | registerCount hpc | registerCountFailed hpc | countFailed hpc | reusePage hpc
  | needExtension hpc | extended hpc | extendFailed hpc =>
    exact .inl (quiet hpc (World.setPc_pc ..) rfl rfl (by simp [Pc.work, Pc.rework]))
  | @move op u destination source hi' hd hop =>
    rcases hop with ⟨rfl, -⟩ | ⟨rfl, -⟩ | ⟨rfl, -⟩ <;> cases hok
  | @noGuard op hi' =>
    cases op with
    | release v =>
      obtain ⟨g, hg⟩ := Option.isSome_iff_exists.mp hok
      simp only [step, guardStep, hi', if_true, hg, Option.some.injEq] at hs
      rw [← hs, releaseGuard_pc] at hi'
      cases hi'
    | _ => cases hok
  | call | mutate | markDirty | assign | wake => cases hok

def World.awake (w : World N T V) : ℕ := total fun t => unit (w.asleep t = false)

/-- What is left to do, where a wakeup of all threads costs one unit of the work that caused it. -/
def World.stepsLeft (w : World N T V) : ℕ := w.work * (Fintype.card T + 1) + w.awake

omit [DecidableEq T] [DecidableEq V] [NeZero N] [Fintype V] in
lemma World.awake_le (w : World N T V) : w.awake ≤ Fintype.card T := by
  rw [awake, total]
  refine (Finset.sum_le_card_nsmul _ _ 1 fun t _ => unit_le_one).trans ?_
  simp

omit [DecidableEq V] [NeZero N] [Fintype V] in
lemma World.awake_sleep {mutex : Option T} (ha : w.asleep t = false) :
    ({ w with mutex := mutex, asleep := Function.update w.asleep t true } :
      World N T V).awake + 1 = w.awake := by
  have hstep := total_step (f := fun u => unit (w.asleep u = false))
    (g := fun u => unit (Function.update w.asleep t true u = false)) t
    fun u hu => by rw [Function.update_of_ne hu]
  simp only [Function.update_self, ha, unit_of, Bool.true_eq_false, unit_of_not not_false] at hstep
  simpa [awake] using hstep

theorem stepsLeft_lowers : Lowers (poolSystem opts) (WindsDown (N := N) (T := T) (V := V))
    (fun w => Run (poolSystem opts) OneLifecycle w) World.stepsLeft := by
  rintro w ⟨t, choice⟩ w' hw hok hs
  refine ⟨.next hw hok.oneLifecycle hs, ?_⟩
  have hi := (noLostWakeup_of_run hw).1
  rcases step_work hi hs hok with hlt | ⟨ha, rfl⟩
  · have hle := w'.awake_le
    have hmul := Nat.mul_le_mul_right (Fintype.card T + 1) (Nat.succ_le_of_lt hlt)
    rw [Nat.succ_mul] at hmul
    rw [World.stepsLeft, World.stepsLeft]
    omega
  · have hawake := @World.awake_sleep N T V _ _ w t none ha
    change w.work * (Fintype.card T + 1) + World.awake { w with
      mutex := none, asleep := Function.update w.asleep t true } <
        w.work * (Fintype.card T + 1) + w.awake
    omega

end Work

/-- All threads run user code without guards, and the pool is busy with nothing. -/
structure World.Quiescent (w : World N T V) : Prop where
  atRest : w.AtRest
  unguarded : ∀ t v, w.guards t v = none
  mutex : w.mutex = none
  frame : ∀ f, (w.pool.frames f).pinCount = 0 ∧ (w.pool.frames f).ioState = .none ∧
    (w.pool.frames f).latch = ⟨0, false⟩ ∧
    ((w.pool.frames f).state = .free ∨ (w.pool.frames f).state = .resident)
  entry : ∀ page entry, w.pool.pageTable.lookup page = some entry → entry.state = .resident
  file : ∀ file entry, w.pool.files.lookup file = some entry → entry.newPageInProgress = false

/-- No thread inside a call holds a guard. -/
def World.CallsUnguarded (w : World N T V) : Prop :=
  ∀ t, (w.pc t).inCall = true → ∀ v, w.guards t v = none

lemma Pc.Waits.inCall {pc : Pc N V} {pool : Pool N} (h : pc.Waits pool) : pc.inCall = true := by
  cases pc <;> first | rfl | cases h

lemma World.BlockedBy.inCall {w : World N T V} {t : T} {g : PageGuard N} (h : w.BlockedBy t g) :
    (w.pc t).inCall = true := by
  rcases h with ⟨mode, hl, -⟩ | ⟨file, disposition, hpc, -⟩ | hpc
  · cases hpc : w.pc t
    case makeGuard | latchForCopy => rfl
    all_goals
      rw [hpc] at hl
      cases hl
  · rw [hpc]
    rfl
  · rw [hpc]
    rfl

lemma windsDown_of_internal {w : World N T V} {t : T} {choice : Choice T V}
    (h : choice.internal = true) : WindsDown w (t, choice) := by
  cases choice with
  | guard => cases h
  | _ => exact h

section Rest

variable [DecidableEq T] [DecidableEq V] [NeZero N] [Fintype T] [Fintype V]
  {opts : BufferPoolOptions} {w w' : World N T V} {t : T} {choice : Choice T V}

omit [Fintype T] [Fintype V] in
lemma World.CallsUnguarded.step (h : w.CallsUnguarded) (ha : Act opts w t choice w')
    (hok : WindsDown w (t, choice)) : w'.CallsUnguarded := by
  have others (hg : ∀ u, u ≠ t → w'.guards u = w.guards u)
      (hself : (w'.pc t).inCall = true → ∀ v, w'.guards t v = none) : w'.CallsUnguarded := by
    intro u hu
    by_cases hut : u = t
    · subst hut
      exact hself hu
    · rw [ha.others hut] at hu
      rw [hg u hut]
      exact h u hu
  have same {pc : Pc N V} (hpc : w.pc t = pc) (hin : pc.inCall = true)
      (hg : w'.guards = w.guards) : w'.CallsUnguarded :=
    others (fun u _ => congrFun hg u) fun _ v => hg ▸ h t (hpc ▸ hin) v
  cases ha with
  | @critical turn hlock hcs hm =>
    refine others (fun u _ => rfl) fun hc v => h t ?_ v
    rw [World.finish_pc] at hc
    exact hm.inCall hc
  | grant hpc =>
    refine others (fun u hu => Function.update_of_ne hu ..) fun hc => ?_
    rw [World.setPc_pc] at hc
    cases hc
  | @takeFrom destination source hpc =>
    refine others (fun u hu => ?_) fun hc => ?_
    · simp [moveGuard, World.setGuard, World.setPc, hu]
    · rw [World.setPc_pc] at hc
      cases hc
  | release hi hg =>
    refine others (fun u hu => Function.update_of_ne hu ..) fun hc => ?_
    rw [releaseGuard_pc] at hc
    cases hc
  | noGuard => exact h
  | move hi hd hop => rcases hop with ⟨rfl, -⟩ | ⟨rfl, -⟩ | ⟨rfl, -⟩ <;> cases hok
  | latchForCopy hpc | copyImage hpc | buildNone hpc | build hpc | registerCount hpc
  | registerCountFailed hpc | countFailed hpc | reusePage hpc | needExtension hpc | extended hpc
  | extendFailed hpc | readPage hpc | written hpc | writeFailed hpc | synced hpc | syncFailed hpc =>
    exact same hpc rfl rfl
  | call | mutate | markDirty | assign | wake => cases hok

omit [DecidableEq T] [DecidableEq V] in
lemma World.AtRest.quiescent (hr : w.AtRest) (hi : w.Inv opts) (hm : w.HolderReady)
    (hg : ∀ t v, w.guards t v = none) : w.Quiescent := by
  have hd (r : Resource N) : w.pool.demand r = 0 := by
    by_contra hne
    obtain ⟨t | ⟨t, v⟩, hx⟩ := Balanced.holder hi.accounted (Nat.pos_of_ne_zero hne)
    · have hx : r ∈ (w.pc t).resources w.pool.loads := hx
      rw [Pc.resources_idle (hr t)] at hx
      cases hx
    · rw [World.holding, hg] at hx
      cases hx
  have hs : w.Still := fun r _ _ => hd r
  have hlatch (f : Fin N) : (w.pool.frames f).latch = ⟨0, false⟩ := by
    have hshared := hd (.frame f .shared)
    have hexclusive := hd (.frame f .exclusive)
    generalize hl : (w.pool.frames f).latch = latch
    obtain ⟨shared, exclusive⟩ := latch
    cases exclusive <;> simp_all [Pool.demand, BufferFrame.demand]
  refine ⟨hr, hg, ?_, fun f => ⟨hd (.frame f .pin), hs.no_io hi.wellFormed, hlatch f, ?_⟩,
    fun page entry he => hs.entry hi.wellFormed he, fun file entry he => hs.no_turn he⟩
  · cases hmutex : w.mutex with
    | none => rfl
    | some t =>
      have hc := (hm t hmutex).2
      obtain ⟨last, hpc⟩ := Pc.exists_idle (hr t)
      rw [hpc] at hc
      cases hc
  · cases hstate : (w.pool.frames f).state with
    | free => exact .inl rfl
    | loading => exact absurd hstate (hs.not_loading hi.wellFormed)
    | resident => exact .inr rfl
    | evicting => exact absurd hstate hs.not_evicting

/-- Where no step towards rest is left, the pool is at rest. -/
lemma quiescent_of_end (h : Run (poolSystem opts) OneLifecycle w) (hfree : w.CallsUnguarded)
    (hend : ∀ a, WindsDown w a → (poolSystem opts).step w a = none) : w.Quiescent := by
  obtain ⟨hi, -, hn⟩ := noLostWakeup_of_run h
  have hm := holderReady_of_run h
  have hstuck (t : T) : ¬ w.CanStep opts t := by
    rintro ⟨choice, hc, hs⟩
    rw [show step opts w t choice = none from hend (t, choice) (windsDown_of_internal hc)] at hs
    cases hs
  have released {t : T} (ht : (w.pc t).isIdle = true) (v : GuardVar V) : w.guards t v = none := by
    cases hg : w.guards t v with
    | none => rfl
    | some g =>
      have hnone := hend (t, .guard (.release v)) (Option.isSome_iff_exists.mpr ⟨g, hg⟩)
      simp [poolSystem, step, guardStep, ht, hg] at hnone
  have hrest : w.AtRest := by
    refine atRest_of_unblocked h hstuck ?_
    rintro ⟨t, u, v, g, hg, -⟩
    cases hin : (w.pc u).inCall with
    | true =>
      rw [hfree u hin v] at hg
      cases hg
    | false =>
      cases hidle : (w.pc u).isIdle with
      | true =>
        rw [released hidle v] at hg
        cases hg
      | false =>
        rcases stuck_waits hn hm hi.accounted hstuck hidle with hw | ⟨x, y, g', -, hb⟩
        · rw [hw.inCall] at hin
          cases hin
        · rw [hb.inCall] at hin
          cases hin
  exact hrest.quiescent hi hm fun t v => released (hrest t) v

end Rest

section Sample

lemma sampleSleeper_unguarded : sampleSleeper.CallsUnguarded := by
  rintro (_ | _) - v
  · rfl
  · rfl

end Sample

end DBlusBlus.BufferPool
