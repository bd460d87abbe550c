import DBlusBlus.BufferPool.OneLoad
import DBlusBlus.BufferPool.Shutdown

/-! The frame that a call has pinned for its guard holds the page that the call asked for. -/

namespace DBlusBlus.BufferPool

open Accounting Transition

variable {N : ℕ} {T V : Type} {page : PageId} {f : Fin N} {loads : LoadId → LoadOperation N}

def Outcome.grants : Outcome → Option PageId
  | .fetch page _ (.ok ()) => some page
  | .newPage file (.ok pageNo) => some ⟨file, pageNo⟩
  | _ => none

/-- The page whose guard a call is about to make, and the frame that it has pinned. -/
def Pc.pinned (loads : LoadId → LoadOperation N) : Pc N V → Option (PageId × Fin N)
  | .makeGuard result f _ => result.grants.map fun page => (page, f)
  | .joinLoad page _ load => (if (loads load).done then (loads load).frameId else none).map
      fun f => (page, f)
  | _ => none

lemma Outcome.grants_of_granted {result : Outcome} (h : result.granted = true) :
    ∃ page, result.grants = some page := by
  cases result with
  | fetch page mode status =>
    cases status with
    | ok => exact ⟨page, rfl⟩
    | error => cases h
  | newPage file status =>
    cases status with
    | ok pageNo => exact ⟨⟨file, pageNo⟩, rfl⟩
    | error => cases h
  | _ => cases h

lemma Pc.pendingPin_of_pinned {pc : Pc N V} (h : pc.pinned loads = some (page, f)) :
    pc.pendingPin loads = some f := by
  cases pc
  case makeGuard result g mode =>
    obtain ⟨other, -, heq⟩ := Option.map_eq_some_iff.mp h
    cases heq
    rfl
  case joinLoad other mode load =>
    obtain ⟨g, hg, heq⟩ := Option.map_eq_some_iff.mp h
    cases heq
    exact hg
  all_goals cases h

lemma Pc.pendingPin_mem {pc : Pc N V} (h : pc.pendingPin loads = some f) :
    Resource.frame f .pin ∈ pc.resources loads := by
  rw [← List.count_pos_iff, Pc.count_pin, h]
  simp [unit]

lemma startCall_pinned (call : Call) : (startCall call : Pc N V).pinned loads = none := by
  cases call with
  | registerFile file validator =>
    rw [startCall]
    split <;> rfl
  | _ => rfl

section Moves

variable [NeZero N] {pool pool' : Pool N} {pc pc' : Pc N V} {limit : ℕ}
  {opts : BufferPoolOptions} {load : LoadId}

lemma Move.publishes (h : pool.WellFormed limit) (hr : Ready pool pc)
    (hm : Move opts pool pc pool' pc') (hd : (pool.loads load).done = false)
    (hd' : (pool'.loads load).done = true) (hf : (pool'.loads load).frameId = some f) :
    ∃ page mode, pc.loader = some (page, mode, load) ∧
      pc' = .makeGuard (.fetch page mode (.ok ())) f mode := by
  have other {load' : LoadId} {operation : LoadOperation N}
      (hl : pool'.loads = Function.update pool.loads load' operation)
      (hne : operation.done = false ∨ operation.frameId = none) : False := by
    rw [hl] at hd' hf
    by_cases ho : load = load'
    · subst ho
      rw [Function.update_self] at hd' hf
      rcases hne with hne | hne
      · rw [hne] at hd'
        cases hd'
      · rw [hne] at hf
        cases hf
    · rw [Function.update_of_ne ho, hd] at hd'
      cases hd'
  have same (hl : pool'.loads = pool.loads) : False := by
    rw [hl, hd] at hd'
    cases hd'
  cases hm with
  | fault hm _ => exact absurd hm (hr.not_missing h)
  | installIntent => exact (other rfl (.inl rfl)).elim
  | claimLoad _ he _ hl => exact (other rfl (.inl (hr.pending _ _ _ he hl).1)).elim
  | @failIntent _ _ load' =>
    have hl := (demand_loader.mp (hr.due (.load load' .loader)
      (by simp [Pc.resources, Requester.resources]))).2
    exact (other rfl (.inr (h.unfinished load' hl))).elim
  | @failLoad _ _ load' =>
    have hl := (demand_loader.mp (hr.due (.load load' .loader) (by simp [Pc.resources]))).2
    exact (other rfl (.inr (h.unfinished load' hl))).elim
  | @publishLoad page mode load' g =>
    by_cases ho : load = load'
    · subst ho
      simp only [Pool.setLoad_loads, Function.update_self, Option.some.injEq] at hf
      subst hf
      exact ⟨page, mode, rfl, rfl⟩
    · simp [ho, hd] at hd'
  | bindNew => exact (same (by split <;> rfl)).elim
  | _ => exact (same rfl).elim

lemma Move.pinned (h : pool.WellFormed limit) (hr : Ready pool pc)
    (hm : Move opts pool pc pool' pc') (hp : pc'.pinned pool'.loads = some (page, f)) :
    (pool'.frames f).page.id = page ∨
      pc.pinned pool.loads = some (page, f) ∧ pool'.frames = pool.frames := by
  cases hm with
  | quiet replacer hq =>
    cases hq with
    | joinWait => exact .inr ⟨hp, rfl⟩
    | joinPinned hd hf =>
      cases hp
      exact .inr ⟨by simp [Pc.pinned, hd, hf], rfl⟩
    | @matchingEnd status caller => cases caller <;> cases status <;> cases hp
    | @flushSettled page caller => cases caller <;> cases hp
    | @unpinNone f assignment => cases assignment <;> cases hp
    | _ => cases hp
  | claimLoad _ he _ hl =>
    obtain ⟨hd, -⟩ := hr.pending _ _ _ he hl
    simp [Pc.pinned, hd] at hp
  | pinHit _ he hs =>
    cases hp
    simpa using .inl (h.bound_resident he hs).1
  | publishLoad hlf he =>
    cases hp
    have hi := demand_loading.mp (hr.due (.entry page (.loading f (some _)))
      (by simp [Pc.resources]; rfl))
    exact .inl (by simpa using (h.bound_loading hi).1)
  | @publishNew created =>
    cases hp
    have hi := demand_loading.mp (hr.due (.entry created (.loading f none))
      (by simp [Pc.resources]))
    exact .inl (by simpa using (h.bound_loading hi).1)
  | @failWriteback _ _ _ _ caller => cases caller <;> cases hp
  | @unpin f assignment => cases assignment <;> cases hp
  | _ => cases hp

end Moves

section Steps

variable [DecidableEq T] [DecidableEq V] [NeZero N] [Fintype T] [Fintype V]
  {opts : BufferPoolOptions} {w w' : World N T V} {t u : T} {choice : Choice T V}

def World.Named (w : World N T V) : Prop :=
  ∀ t page f, (w.pc t).pinned w.pool.loads = some (page, f) → (w.pool.frames f).page.id = page

omit [Fintype T] [Fintype V] in
/-- A call pins its frame in a critical section. -/
lemma Act.pinned (ha : Act opts w t choice w')
    (hp : (w'.pc t).pinned w'.pool.loads = some (page, f)) :
    (∃ turn, w' = w.finish opts t turn ∧ Move opts w.pool (w.pc t) turn.pool turn.pc) ∨
      w'.pc t = w.pc t ∧ w'.pool.loads = w.pool.loads := by
  cases ha with
  | critical hlock hcs hm => exact .inl ⟨_, rfl, hm⟩
  | mutate | markDirty | move | noGuard | wake => exact .inr ⟨rfl, rfl⟩
  | call =>
    rw [World.setPc_pc, startCall_pinned] at hp
    cases hp
  | release | assign =>
    rw [releaseGuard_pc] at hp
    cases hp
  | written | writeFailed | extended => simp [World.setPc, Pc.pinned] at hp
  | _ =>
    rw [World.setPc_pc] at hp
    cases hp

namespace World.Named

lemma kept (h : w.Named) (hi : w.Inv opts) (hs : BufferPool.step opts w t choice = some w')
    (hp : (w.pc u).pinned w.pool.loads = some (page, f)) : (w'.pool.frames f).page.id = page := by
  have hpin := demand_pin.mp ((hi.ready u).due _
    (Pc.pendingPin_mem (Pc.pendingPin_of_pinned hp)))
  rw [((hi.pinStep hs).held f hpin).id]
  exact h u page f hp

lemma step_self (h : w.Named) (hi : w.Inv opts) (hs : BufferPool.step opts w t choice = some w')
    (hp : (w'.pc t).pinned w'.pool.loads = some (page, f)) :
    (w'.pool.frames f).page.id = page := by
  rcases (step_act hs).pinned hp with ⟨turn, rfl, hm⟩ | ⟨hpc, hloads⟩
  · rw [World.finish_pc] at hp
    rcases hm.pinned hi.wellFormed (hi.ready t) hp with hid | ⟨hold, -⟩
    · exact hid
    · exact h.kept hi hs hold
  · rw [hpc, hloads] at hp
    exact h.kept hi hs hp

lemma step_other {history : LoadHistory N} (h : w.Named) (hi : w.Inv opts)
    (hl : LoadInv w history) (hs : BufferPool.step opts w t choice = some w')
    (hp : (w.pc u).pinned w'.pool.loads = some (page, f)) : (w'.pool.frames f).page.id = page := by
  by_cases hold : (w.pc u).pinned w.pool.loads = some (page, f)
  · exact h.kept hi hs hold
  · cases hpc : w.pc u <;> rw [hpc] at hp hold
    case makeGuard => exact absurd hp hold
    case joinLoad _ mode load =>
      obtain ⟨g, hg, heq⟩ := Option.map_eq_some_iff.mp hp
      cases heq
      split at hg
      case isFalse => cases hg
      case isTrue hdone =>
      have new (heq : w'.pool.loads load = w.pool.loads load) : False := by
        rw [heq] at hdone hg
        exact hold (by simp [Pc.pinned, hdone, hg])
      rcases (step_act hs).critical_or_light hi.accounted with
        ⟨turn, -, -, -, hm, rfl⟩ | hlight
      · cases hd : (w.pool.loads load).done with
        | true => exact (new (hm.finished hi.wellFormed (hi.ready t) hd)).elim
        | false =>
          obtain ⟨loaded, mode', hloader, hguard⟩ :=
            hm.publishes hi.wellFormed (hi.ready t) hd hdone hg
          obtain rfl := hl.agreed t u loaded page mode' mode load
            (Pc.claimed_of_loader hloader) (by rw [hpc]; rfl)
          rw [hguard] at hm
          exact (hm.load_published hi.wellFormed (hi.ready t) hloader).2.2.2.2.1
      · exact (new (by rw [hlight.touch.loads])).elim
    all_goals cases hp

lemma step {history : LoadHistory N} (h : w.Named) (hi : w.Inv opts) (hl : LoadInv w history)
    (hs : BufferPool.step opts w t choice = some w') : w'.Named := by
  intro u page f hp
  by_cases hu : u = t
  · subst hu
    exact h.step_self hi hs hp
  · rw [(step_act hs).others hu] at hp
    exact h.step_other hi hl hs hp

end World.Named

theorem named_of_run (h : Run (poolSystem opts) ClosesAlone w) : w.Named := by
  obtain ⟨history, h⟩ := h.tracked (fun _ => LoadHistory.initial) LoadHistory.record
  refine h.invariant_of_run (I := fun x => x.1.Named) ?_ ?_
  · rintro ⟨w, history⟩ ⟨⟨disk, hw⟩, -⟩ t page f hp
    dsimp only at hw hp
    subst hw
    cases hp
  · rintro x ⟨t, choice⟩ x' hrun hx - hs
    obtain ⟨hi, hl⟩ := loadInv_of_run hrun
    exact hx.step hi hl (track_step.mp hs).1

end Steps

end DBlusBlus.BufferPool
