import DBlusBlus.BufferPool.RetireOverlap
import DBlusBlus.BufferPool.Frames
import Mathlib.Data.Fintype.BigOperators

/-! Exact pin accounting: guards, calls that have not returned their guard yet, and releases. -/

namespace DBlusBlus.BufferPool

open Accounting Transition

variable {N : ℕ} {T V : Type}

/-- The frame that a fetch or `NewPage` has pinned without having built its guard. -/
def Pc.pendingPin (loads : LoadId → LoadOperation N) : Pc N V → Option (Fin N)
  | .makeGuard _ f _ => some f
  | .joinLoad _ _ load => if (loads load).done then (loads load).frameId else none
  | _ => none

/-- The frame whose latch a guard has given up, and whose pin it is about to give up. -/
def Pc.releasedPin : Pc N V → Option (Fin N)
  | .unpin f _ => some f
  | _ => none

lemma Requester.count_pin (requester : Requester) (f : Fin N) :
    (requester.resources : List (Resource N)).count (.frame f .pin) = 0 := by
  cases requester <;> simp [Requester.resources]

lemma Writer.count_pin (writer : Writer N) (f : Fin N) :
    writer.resources.count (.frame f .pin) = 0 := by
  cases writer <;> simp [Writer.resources, Requester.count_pin]

lemma LoadOperation.count_pin (operation : LoadOperation N) (load : LoadId) (f : Fin N) :
    (operation.joiner load).count (.frame f .pin) =
      unit ((if operation.done then operation.frameId else none) = some f) := by
  rw [joiner]
  split
  · split
    · rename_i g hg
      by_cases h : g = f <;> simp [hg, h]
    · rename_i hg
      simp [hg]
  · simp

lemma Pc.count_pin (pc : Pc N V) (loads : LoadId → LoadOperation N) (f : Fin N) :
    (pc.resources loads).count (.frame f .pin) =
      unit (pc.pendingPin loads = some f) + unit (pc.releasedPin = some f) := by
  cases pc <;>
    simp [Pc.resources, Pc.pendingPin, Pc.releasedPin, Requester.count_pin, Writer.count_pin,
      LoadOperation.count_pin]

lemma guard_count_pin (g : Option (PageGuard N)) (f : Fin N) :
    (guardResources g).count (.frame f .pin) = unit (g.map PageGuard.frameId = some f) := by
  cases g with
  | none => simp [guardResources]
  | some g => cases hm : g.mode <;> simp [guardResources, LatchMode.role, hm]

section Holds

/-- A frame keeps its binding, and its pins except for one that is just given up. -/
structure Holds (frame frame' : BufferFrame) (pc pc' : Pc N V) (f : Fin N) : Prop where
  id : frame'.page.id = frame.page.id
  bindingEpoch : frame'.bindingEpoch = frame.bindingEpoch
  state : frame'.state = frame.state
  pinCount : frame.pinCount ≤ frame'.pinCount ∨
    ∃ assignment, pc = .unpin f assignment ∧ pc' = unpinPc assignment ∧
      frame'.pinCount + 1 = frame.pinCount

variable {pool pool' : Pool N} {pc pc' : Pc N V} {limit : ℕ} {opts : BufferPoolOptions} {f : Fin N}

lemma Move.holds [NeZero N] (h : pool.WellFormed limit) (hr : Ready pool pc)
    (hf : 0 < (pool.frames f).pinCount) (hm : Move opts pool pc pool' pc') :
    Holds (pool.frames f) (pool'.frames f) pc pc' f := by
  have hs := h.resident_of_pinned hf
  have hstep := hm.frame h hr f
  generalize pool'.frames f = frame at hstep
  cases hstep with
  | kept => exact ⟨rfl, rfl, rfl, .inl le_rfl⟩
  | pinned => exact ⟨rfl, rfl, rfl, .inl (Nat.le_succ _)⟩
  | unpinned hpc =>
    refine ⟨rfl, rfl, rfl, .inr ⟨_, hpc, rfl, ?_⟩⟩
    dsimp only
    omega
  | retired _ _ _ hpin => omega
  | reserved _ he =>
    have := ((isVictimEligible_iff f).mp he).2.1
    omega
  | writebackStarted | writtenBack | writebackFailed => exact ⟨rfl, rfl, rfl, .inl le_rfl⟩
  | bound hfree => simp [hs] at hfree
  | discarded _ hl | loaded _ _ hl | created _ hl => simp [hs] at hl
  | dropped _ he | evicted _ he | evictionStarted _ he | restored _ he => simp [hs] at he

end Holds

variable [Fintype T] [Fintype V] [DecidableEq T] [DecidableEq V] [NeZero N]
  {opts : BufferPoolOptions} {w w' : World N T V} {f : Fin N} {t : T} {choice : Choice T V}

namespace World

def validGuards (w : World N T V) (f : Fin N) : ℕ :=
  (Finset.univ.filter fun x : T × GuardVar V =>
    (w.guards x.1 x.2).map PageGuard.frameId = some f).card

def pendingPins (w : World N T V) (f : Fin N) : ℕ :=
  (Finset.univ.filter fun t => (w.pc t).pendingPin w.pool.loads = some f).card

def releasedPins (w : World N T V) (f : Fin N) : ℕ :=
  (Finset.univ.filter fun t => (w.pc t).releasedPin = some f).card

end World

omit [DecidableEq T] [DecidableEq V] in
lemma World.Accounted.pinCount (h : w.Accounted) (f : Fin N) :
    (w.pool.frames f).pinCount = w.validGuards f + w.pendingPins f + w.releasedPins f := by
  have hsum : (w.pool.frames f).pinCount =
      total (fun x => (w.holding x).count (.frame f .pin)) := (h (.frame f .pin)).symm
  rw [hsum, total, Fintype.sum_sum_type]
  simp only [World.holding, Pc.count_pin, guard_count_pin, Finset.sum_add_distrib]
  simp only [World.validGuards, World.pendingPins, World.releasedPins, Finset.card_filter]
  simp only [unit]
  omega

def Saturated (opts : BufferPoolOptions) (pool : Pool N) (entry : PageTableEntry N) : Prop :=
  match entry.state with
  | .resident => opts.pinLimit ≤ (pool.frames entry.frameId).pinCount
  | .evicting => False
  | .loadIntent | .loading => ∃ load, entry.load = some load ∧ opts.pinLimit ≤ (pool.loads load).claims

structure World.PinAccounting (opts : BufferPoolOptions) (w : World N T V) : Prop where
  counted : ∀ f, (w.pool.frames f).pinCount = w.validGuards f + w.pendingPins f + w.releasedPins f
  resident : ∀ f, 0 < (w.pool.frames f).pinCount → (w.pool.frames f).state = .resident
  bounded : ∀ f, (w.pool.frames f).pinCount ≤ opts.pinLimit
  unpinned : ∀ t f assignment, w.pc t = .unpin f assignment → 0 < (w.pool.frames f).pinCount

/-- What a step does to pins: they go one at a time, each for one guard. -/
structure PinStep (opts : BufferPoolOptions) (w w' : World N T V) (t : T) (choice : Choice T V) :
    Prop where
  held : ∀ f, 0 < (w.pool.frames f).pinCount →
    Holds (w.pool.frames f) (w'.pool.frames f) (w.pc t) (w'.pc t) f
  spent : ∀ f assignment, choice = .run → w.pc t = .unpin f assignment →
    (w'.pool.frames f).pinCount + 1 = (w.pool.frames f).pinCount ∧ w'.pc t = unpinPc assignment
  guards : ∀ u v g, w.guards u v = some g → (∃ x y, w'.guards x y = some g) ∨
    u = t ∧ ∃ assignment, w'.pc t = .unpin g.frameId assignment
  released : ∀ f assignment, w'.pc t = .unpin f assignment → w.pc t = .unpin f assignment ∨
    ∃ v g, w.guards t v = some g ∧ g.frameId = f ∧ w'.guards t v = none
  overflow : ∀ page mode hitNotified entry, choice = .run → w.pc t = .pinPage page mode hitNotified →
    w.pool.pageTable.lookup page = some entry → Fetchable w.pool page → Saturated opts w.pool entry →
    w'.pool = w.pool ∧ (w'.pc t = .pinPage page mode true ∨
      ∃ error, error.code = .pinCountOverflow ∧ w'.pc t = .idle (.fetch page mode (.error error)))

omit [Fintype V] [DecidableEq V] in
lemma pinPage_saturated {page : PageId} {mode : LatchMode} {hitNotified : Bool} {pool : Pool N}
    {entry : PageTableEntry N} (he : pool.pageTable.lookup page = some entry)
    (hf : Fetchable pool page) (hs : Saturated opts pool entry) :
    (pinPage opts pool page mode hitNotified : Turn N V).pool = pool ∧
      ((pinPage opts pool page mode hitNotified : Turn N V).pc = .pinPage page mode true ∨
        ∃ error, error.code = .pinCountOverflow ∧
          (pinPage opts pool page mode hitNotified : Turn N V).pc =
            .idle (.fetch page mode (.error error))) := by
  have claim (load : LoadId) (hl : entry.load = some load)
      (hc : opts.pinLimit ≤ (pool.loads load).claims) :
      (claimLoad opts pool page mode entry.load : Turn N V).pool = pool ∧
        ∃ error, error.code = .pinCountOverflow ∧
          (claimLoad opts pool page mode entry.load : Turn N V).pc =
            .idle (.fetch page mode (.error error)) := by
    simp only [claimLoad, hl, if_pos hc]
    exact ⟨rfl, _, rfl, rfl⟩
  have hf : checkFetchable pool page = .ok () := hf
  simp only [pinPage, hf, he]
  cases hst : entry.state with
  | loadIntent | loading =>
    simp only [Saturated, hst] at hs
    obtain ⟨load, hl, hc⟩ := hs
    obtain ⟨hp, hpc⟩ := claim load hl hc
    exact ⟨hp, .inr hpc⟩
  | evicting => simp [Saturated, hst] at hs
  | resident =>
    simp only [Saturated, hst] at hs
    dsimp only
    split
    · exact ⟨rfl, .inl rfl⟩
    · simp only [pinResident, if_pos hs]
      exact ⟨rfl, .inr ⟨_, rfl, rfl⟩⟩

omit [Fintype T] [Fintype V] [NeZero N] in
lemma moveGuard_kept {u : T} {destination source : GuardVar V}
    (hd : w.guards u destination = none) {x : T} {v : GuardVar V} {g : PageGuard N}
    (hg : w.guards x v = some g) :
    ∃ y z, (moveGuard w t u destination source).guards y z = some g := by
  by_cases hs : (x, v) = (t, source)
  · simp only [Prod.mk.injEq] at hs
    obtain ⟨rfl, rfl⟩ := hs
    exact ⟨u, destination, by simp [moveGuard_guards, hg]⟩
  · refine ⟨x, v, ?_⟩
    rw [moveGuard_guards, if_neg, if_neg hs, hg]
    intro hx
    simp only [Prod.mk.injEq] at hx
    obtain ⟨rfl, rfl⟩ := hx
    rw [hd] at hg
    cases hg

omit [Fintype T] [Fintype V] in
/-- Guards move between variables, and go away only in a release. -/
lemma Act.guards (ha : Act opts w t choice w') (hw : w.Vacant t) {u : T} {v : GuardVar V} {g : PageGuard N}
    (hg : w.guards u v = some g) : (∃ x y, w'.guards x y = some g) ∨
      u = t ∧ ∃ assignment, w'.pc t = .unpin g.frameId assignment := by
  have kept {v' : GuardVar V} {g' : Option (PageGuard N)} {w₁ : World N T V}
      (hw₁ : w₁.guards = (w.setGuard t v' g').guards) (huv : ¬ (u = t ∧ v = v')) :
      w₁.guards u v = some g := by
    rw [hw₁, ← hg, World.setGuard]
    by_cases hu : u = t
    · subst hu
      have hv : v ≠ v' := fun hv => huv ⟨rfl, hv⟩
      simp [hv]
    · simp [hu]
  have released (v' : GuardVar V) (g' : PageGuard N) (hg' : w.guards t v' = some g')
      (assignment : Option (GuardVar V × GuardVar V)) :
      (∃ x y, (releaseGuard w t v' g' assignment).guards x y = some g) ∨
        u = t ∧ ∃ assignment', (releaseGuard w t v' g' assignment).pc t =
          .unpin g.frameId assignment' := by
    by_cases huv : u = t ∧ v = v'
    · obtain ⟨rfl, rfl⟩ := huv
      obtain rfl := Option.some.inj (hg.symm.trans hg')
      exact .inr ⟨rfl, assignment, releaseGuard_pc ..⟩
    · exact .inl ⟨u, v, kept rfl huv⟩
  cases ha with
  | grant hpc hc =>
    have hn := hw.slot (by simp [hpc, Pc.inCall])
    refine .inl ⟨u, v, kept rfl ?_⟩
    rintro ⟨rfl, rfl⟩
    rw [hn] at hg
    cases hg
  | release hi hg' => exact released _ _ hg' _
  | assign hi _ hg' => exact released _ _ hg' _
  | move hi hd _ => exact .inl (moveGuard_kept hd hg)
  | takeFrom hpc => exact .inl (moveGuard_kept (hw.target _ (by rw [hpc]; rfl)) hg)
  | _ => exact .inl ⟨u, v, hg⟩

omit [DecidableEq T] [DecidableEq V] [Fintype T] [Fintype V] in
lemma Move.not_unpin {pool pool' : Pool N} {pc : Pc N V}
    {assignment : Option (GuardVar V × GuardVar V)}
    (hm : Move opts pool pc pool' (.unpin f assignment)) : False := by
  generalize hpc : (.unpin f assignment : Pc N V) = pc' at hm
  cases hm with
  | quiet replacer hq =>
    cases hq with
    | @matchingEnd status caller => cases caller <;> cases status <;> cases hpc
    | @flushSettled page caller => cases caller <;> cases hpc
    | @unpinNone f assignment => cases assignment <;> cases hpc
    | _ => cases hpc
  | @failWriteback _ _ _ _ caller => cases caller <;> cases hpc
  | @unpin f assignment => cases assignment <;> cases hpc
  | _ => cases hpc

omit [DecidableEq T] [DecidableEq V] [Fintype T] [Fintype V] in
lemma Move.unpinned {pool pool' : Pool N} {pc' : Pc N V}
    {assignment : Option (GuardVar V × GuardVar V)}
    (hm : Move opts pool (.unpin f assignment) pool' pc') (hp : 0 < (pool.frames f).pinCount) :
    (pool'.frames f).pinCount + 1 = (pool.frames f).pinCount ∧ pc' = unpinPc assignment := by
  cases hm with
  | fault hm _ => exact hm.elim
  | quiet replacer hq =>
    cases hq with
    | unpinNone hz => omega
  | reserveVictim _ hpc => rcases hpc with ⟨n, hpc⟩ | ⟨v, hpc⟩ <;> cases hpc
  | unpin hz =>
    refine ⟨?_, rfl⟩
    simp only [Pool.setFrame_frames, Function.update_self]
    omega

omit [Fintype T] [Fintype V] in
lemma Act.released {assignment : Option (GuardVar V × GuardVar V)} (ha : Act opts w t choice w')
    (hpc : w'.pc t = .unpin f assignment) : w.pc t = .unpin f assignment ∨
      ∃ v g, w.guards t v = some g ∧ g.frameId = f ∧ w'.guards t v = none := by
  have dropped (v : GuardVar V) (g : PageGuard N) (a : Option (GuardVar V × GuardVar V)) :
      (releaseGuard w t v g a).guards t v = none := by
    simp [releaseGuard, World.setPc, World.latchFrame, World.setFrame, World.setGuard]
  cases ha with
  | critical hlock hcs hm =>
    rw [World.finish_pc] at hpc
    exact (Move.not_unpin (hpc ▸ hm)).elim
  | @release v g hi hg =>
    rw [releaseGuard_pc] at hpc
    cases hpc
    exact .inr ⟨v, g, hg, rfl, dropped ..⟩
  | @assign destination source g hi hne hg =>
    rw [releaseGuard_pc] at hpc
    cases hpc
    exact .inr ⟨destination, g, hg, rfl, dropped ..⟩
  | @call call =>
    rw [World.setPc_pc] at hpc
    cases call with
    | registerFile file validator =>
      rw [startCall] at hpc
      split at hpc <;> cases hpc
    | _ => cases hpc
  | mutate | markDirty | move | noGuard | wake => exact .inl hpc
  | _ => simp at hpc

theorem World.Inv.pinAccounting (h : w.Inv opts) : w.PinAccounting opts where
  counted f := h.accounted.pinCount f
  resident f := h.wellFormed.resident_of_pinned
  bounded f := by
    rcases Nat.eq_zero_or_pos (w.pool.frames f).pinCount with hz | hp
    · omega
    · exact (h.wellFormed.resident (h.wellFormed.resident_of_pinned hp)).2.1
  unpinned t f assignment hpc :=
    demand_pin.mp ((h.ready t).due _ (by rw [hpc]; exact List.mem_cons_self ..))

lemma World.Inv.pinStep (h : w.Inv opts) (hs : BufferPool.step opts w t choice = some w') :
    PinStep opts w w' t choice := by
  have ha := step_act hs
  refine ⟨fun f hf => ?_, fun f assignment hc hpc => ?_, fun u v g => ha.guards (h.vacant t),
    fun f assignment => ?_, fun page mode hitNotified entry hc hpc he hfetch hsat => ?_⟩
  · rcases ha.critical_or_light h.accounted with ⟨turn, -, -, -, hm, rfl⟩ | hl
    · rw [World.finish_pc]
      exact hm.holds h.wellFormed (h.ready t) hf
    · have ht := hl.touch.frame f
      exact ⟨ht.id, ht.bindingEpoch, ht.state, .inl ht.pinCount.ge⟩
  · subst hc
    have hp := h.pinAccounting.unpinned t f assignment hpc
    cases ha with
    | critical hlock hcs hm =>
      rw [World.finish_pc]
      rw [hpc] at hm
      exact hm.unpinned hp
    | _ => simp_all
  · exact fun hpc => ha.released hpc
  · subst hc
    cases ha with
    | critical hlock hcs hm =>
      rw [World.finish_pc]
      rw [hpc] at hcs
      obtain rfl := Option.some.inj hcs
      exact pinPage_saturated he hfetch hsat
    | _ => simp_all

theorem exact_pin_accounting (h : Run (poolSystem opts) ClosesAlone w) :
    w.PinAccounting opts ∧ ∀ t choice w', step opts w t choice = some w' →
      PinStep opts w w' t choice :=
  ⟨(inv_of_run h).pinAccounting, fun _ _ _ hs => (inv_of_run h).pinStep hs⟩

theorem exact_pin_accounting_guard : (sampleGuardWorld.pool.frames 0).pinCount = 1 ∧
    sampleGuardWorld.PinAccounting sampleOptions :=
  ⟨by decide +kernel, (exact_pin_accounting (closesAlone_of_oneLifecycle sampleGuard_run).1).1⟩

section Overlap

/-- `true` retires the file under the call of `false`, registers it again and creates two pages. The
call of `false` flushes the first of them, and then resets the frames of both. -/
def overlapReset : List (Bool × Choice Bool Unit) :=
  sampleRegister true 1 ++ sampleNewPage true 1 ++
    [(false, .call (.retireFile sampleFile .flushDirty)), (false, .run), (false, .run)] ++
    sampleRelease true ++
    [(true, .call (.retireFile sampleFile .flushDirty)), (true, .run), (true, .run), (true, .run),
      (true, .run)] ++ sampleWriteback true ++ [(true, .run), (true, .run), (true, .run)] ++
    sampleRegister true 2 ++ sampleNewPage true 2 ++ sampleRelease true ++
    [(false, .run), (false, .run), (false, .run)] ++ sampleNewPage true 3 ++
    sampleWriteback false ++ [(false, .run), (false, .run), (false, .run)]

lemma overlapReset_runs : (execute (poolSystem sampleOptions) (fun _ _ => True)
    (World.initial sampleDisk : World 2 Bool Unit) overlapReset).isSome := by decide +kernel

def overlapResetWorld : World 2 Bool Unit := Option.get _ overlapReset_runs

theorem pinned_frame_reset : Run (poolSystem sampleOptions) (fun _ _ => True) overlapResetWorld ∧
    (∃ f, (overlapResetWorld.guards true none).map PageGuard.frameId = some f ∧
      (overlapResetWorld.pool.frames f).state = .free ∧
      (overlapResetWorld.pool.frames f).pinCount = 0) ∧
    ¬ overlapResetWorld.PinAccounting sampleOptions := by
  have hf : ∃ f, (overlapResetWorld.guards true none).map PageGuard.frameId = some f ∧
      (overlapResetWorld.pool.frames f).state = .free ∧
      (overlapResetWorld.pool.frames f).pinCount = 0 := by decide +kernel
  refine ⟨(run_initial sampleDisk).of_execute overlapReset_runs, hf, fun h => ?_⟩
  obtain ⟨f, hg, -, hp⟩ := hf
  have hpos : 0 < overlapResetWorld.validGuards f :=
    Finset.card_pos.mpr ⟨(true, none), by simpa using hg⟩
  have := h.counted f
  omega

end Overlap

end DBlusBlus.BufferPool
