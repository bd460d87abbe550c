import DBlusBlus.BufferPool.Lifecycle

/-! Steps of threads keep the account between the pool and its holders balanced. -/

namespace DBlusBlus.BufferPool

open Accounting

variable {N : ℕ} {T V : Type}

/-- The pcs of a thread inside a pool call, as opposed to user code or a guard's release. -/
def Pc.inCall : Pc N V → Bool
  | .idle _ | .unpin _ _ | .takeFrom _ _ => false
  | _ => true

def Pc.target : Pc N V → Option (GuardVar V)
  | .unpin _ (some (destination, _)) | .takeFrom destination _ => some destination
  | _ => none

section Moves

variable [NeZero N] {opts : BufferPoolOptions} {pool pool' : Pool N} {pc pc' : Pc N V}

lemma Move.inCall (hm : Move opts pool pc pool' pc') (h : pc'.inCall = true) :
    pc.inCall = true := by
  cases hm with
  | quiet replacer hq =>
    cases hq with
    | @unpinNone f assignment => cases assignment <;> cases h
    | matchingEnd => rfl
    | flushSettled => rfl
    | _ => cases h <;> rfl
  | fault hm _ => cases h
  | reserveVictim replacer hpc =>
    rcases hpc with ⟨n, rfl⟩ | ⟨v, rfl⟩
    · rfl
    · rfl
  | @unpin f assignment => cases assignment <;> cases h
  | failWriteback => rfl
  | _ => cases h <;> rfl

lemma Move.target {v : GuardVar V} (hm : Move opts pool pc pool' pc') (h : pc'.target = some v) :
    pc.target = some v := by
  cases hm with
  | quiet replacer hq =>
    cases hq with
    | @matchingEnd status caller => cases caller <;> cases status <;> cases h
    | @flushSettled page caller => cases caller <;> cases h
    | @unpinNone f assignment =>
      cases assignment with
      | none => cases h
      | some => exact h
    | _ => cases h
  | @failWriteback _ _ _ _ caller => cases caller <;> cases h
  | @unpin f assignment =>
    cases assignment with
    | none => cases h
    | some => exact h
  | _ => cases h

end Moves

lemma startCall_target (call : Call) : (startCall call : Pc N V).target = none := by
  cases call with
  | registerFile file validator =>
    rw [startCall]
    split <;> rfl
  | _ => rfl

lemma Pc.resources_idle {pc : Pc N V} {loads : LoadId → LoadOperation N} (h : pc.isIdle = true) :
    pc.resources loads = [] := by
  obtain ⟨last, rfl⟩ := Pc.exists_idle h
  rfl

lemma Pc.resources_congr {loads loads' : LoadId → LoadOperation N}
    (h : ∀ load, (loads' load).joiner load = (loads load).joiner load) (pc : Pc N V) :
    pc.resources loads' = pc.resources loads := by
  cases pc <;> first | rfl | exact h _

lemma Requester.loader_of_claim {requester : Requester} {load : LoadId}
    (h : Resource.load load .claim ∈ (requester.resources : List (Resource N))) :
    Resource.load load .loader ∈ (requester.resources : List (Resource N)) := by
  cases requester <;> simp_all [Requester.resources]

lemma Requester.claim_notMem {requester : Requester} {load : LoadId}
    (h : Resource.load load .loader ∉ (requester.resources : List (Resource N))) :
    Resource.load load .claim ∉ (requester.resources : List (Resource N)) :=
  fun hc => h (loader_of_claim hc)

lemma Pc.resources_ending {loads loads' : LoadId → LoadOperation N} {load : LoadId}
    {new : List (Resource N)} (pc : Pc N V)
    (hl : Resource.load load .loader ∉ pc.resources loads)
    (hp : (loads load).joiner load = [.load load .claim])
    (hj : (loads' load).joiner load = new)
    (ho : ∀ other, other ≠ load → loads' other = loads other) :
    pc.resources loads' =
      (pc.resources loads).flatMap fun r => if r = .load load .claim then new else [r] := by
  have hsame (l : List (Resource N)) (hc : Resource.load load .claim ∉ l) :
      l = l.flatMap fun r => if r = .load load .claim then new else [r] :=
    (Balanced.exchange_self hc).symm
  cases pc with
  | joinLoad page mode other =>
    simp only [Pc.resources]
    by_cases h : other = load
    · subst h
      rw [hp, hj]
      simp
    · rw [ho other h]
      apply hsame
      rw [LoadOperation.joiner]
      split
      · split <;> simp
      · simpa using Ne.symm h
  | acquireFrame requester => exact hsame _ (Requester.claim_notMem hl)
  | candidateObserved requester => exact hsame _ (Requester.claim_notMem hl)
  | requestFailed requester => exact hsame _ (Requester.claim_notMem hl)
  | victimReserved requester f victim =>
    refine hsame _ ?_
    simp only [Pc.resources, List.mem_cons, reduceCtorEq, false_or] at hl ⊢
    exact Requester.claim_notMem hl
  | frameAcquired requester f =>
    refine hsame _ ?_
    simp only [Pc.resources, List.mem_cons, reduceCtorEq, false_or] at hl ⊢
    exact Requester.claim_notMem hl
  | writePage writer image =>
    refine hsame _ ?_
    cases writer with
    | evict =>
      simp only [Pc.resources, Writer.resources, List.mem_cons, reduceCtorEq, false_or] at hl ⊢
      exact Requester.claim_notMem hl
    | flush => simp [Pc.resources, Writer.resources]
  | syncFile writer image =>
    refine hsame _ ?_
    cases writer with
    | evict =>
      simp only [Pc.resources, Writer.resources, List.mem_cons, reduceCtorEq, false_or] at hl ⊢
      exact Requester.claim_notMem hl
    | flush => simp [Pc.resources, Writer.resources]
  | finishWrite writer written =>
    refine hsame _ ?_
    cases writer with
    | evict =>
      simp only [Pc.resources, Writer.resources, List.mem_cons, reduceCtorEq, false_or] at hl ⊢
      exact Requester.claim_notMem hl
    | flush => simp [Pc.resources, Writer.resources]
  | readPage => exact hsame _ (by simpa [Pc.resources] using hl)
  | finishLoad => exact hsame _ (by simpa [Pc.resources] using hl)
  | _ => exact hsame _ (by simp [Pc.resources])

section Vacancy

variable {w w' : World N T V} {t : T}

/-- A thread in a call has room for the guard it may return, and one in the middle of a move
assignment has released what it assigns to. -/
structure World.Vacant (w : World N T V) (t : T) : Prop where
  slot : (w.pc t).inCall = true → w.guards t none = none
  target : ∀ v, (w.pc t).target = some v → w.guards t v = none

lemma vacant_of_pc {pc : Pc N V} (h : w.Vacant t) (hpc : w'.pc t = pc)
    (hg : w'.guards t = w.guards t)
    (hs : pc.inCall = true → (w.pc t).inCall = true ∨ w.guards t none = none)
    (ht : ∀ v, pc.target = some v → (w.pc t).target = some v) : w'.Vacant t where
  slot hc := by
    rw [hpc] at hc
    rw [hg]
    exact (hs hc).elim h.slot id
  target v hv := by
    rw [hpc] at hv
    rw [hg]
    exact h.target v (ht v hv)

lemma vacant_of_idle (hi : (w.pc t).isIdle = true) : w.Vacant t where
  slot hc := by
    obtain ⟨last, hpc⟩ := Pc.exists_idle hi
    rw [hpc] at hc
    cases hc
  target v hv := by
    obtain ⟨last, hpc⟩ := Pc.exists_idle hi
    rw [hpc] at hv
    cases hv

variable [NeZero N] [DecidableEq T] [DecidableEq V] {choice : Choice T V}
  {opts : BufferPoolOptions}

lemma Act.others (ha : Act opts w t choice w') {u : T} (hu : u ≠ t) : w'.pc u = w.pc u := by
  cases ha <;> first | rfl | exact Function.update_of_ne hu ..

open Transition in
/-- What a thread keeps for itself holds of every thread. -/
lemma pc_of_run {P : Pc N V → Prop} {ok : World N T V → T × Choice T V → Prop}
    (hstart : P (.idle .started))
    (hact : ∀ (w w' : World N T V) (t : T) (choice : Choice T V), Act opts w t choice w' →
      P (w.pc t) → P (w'.pc t))
    (h : Run (poolSystem opts) ok w) (t : T) : P (w.pc t) := by
  refine h.invariant (I := fun w => ∀ t, P (w.pc t)) ?_ ?_ t
  · rintro w ⟨disk, rfl⟩ t
    exact hstart
  · rintro w ⟨t, choice⟩ w' h - hs u
    have ha := step_act hs
    by_cases hu : u = t
    · subst hu
      exact hact w w' u choice ha (h u)
    · rw [ha.others hu]
      exact h u

lemma Act.vacant_ne (h : ∀ u, w.Vacant u) (ha : Act opts w t choice w') {u : T} (hu : u ≠ t) :
    w'.Vacant u := by
  have hpc := ha.others hu
  have same (hg : w'.guards u = w.guards u) : w'.Vacant u :=
    vacant_of_pc (h u) hpc hg (fun hc => .inl hc) fun _ => id
  cases ha with
  | grant => exact same (Function.update_of_ne hu ..)
  | takeFrom =>
    refine same ?_
    simp [moveGuard, World.setGuard, World.setPc, hu]
  | release => exact same (Function.update_of_ne hu ..)
  | assign => exact same (Function.update_of_ne hu ..)
  | @move op x destination source hi hd hop =>
    by_cases hx : u = x
    · subst hx
      refine vacant_of_idle ?_
      rcases hop with ⟨-, he⟩ | ⟨-, he⟩ | ⟨-, -, he⟩
      · exact absurd he hu
      · exact absurd he hu
      · exact he
    · refine same ?_
      simp [moveGuard, World.setGuard, hu, hx]
  | _ => exact same rfl

lemma Act.vacant_self (h : w.Vacant t) (ha : Act opts w t choice w') : w'.Vacant t := by
  cases ha with
  | critical _ _ hm =>
    exact vacant_of_pc h (Function.update_self ..) rfl (fun hc => .inl (hm.inCall hc))
      fun _ => hm.target
  | grant => exact vacant_of_idle (by simp [World.setPc, Pc.isIdle])
  | takeFrom => exact vacant_of_idle (by simp [World.setPc, Pc.isIdle])
  | @call call hi hn =>
    exact vacant_of_pc h (Function.update_self ..) rfl (fun _ => .inr hn)
      (by simp [startCall_target])
  | @release v g hi hg =>
    constructor
    · simp [releaseGuard, World.setPc, Pc.inCall]
    · simp [releaseGuard, World.setPc, Pc.target]
  | @assign destination source g hi hne hg =>
    constructor
    · simp [releaseGuard, World.setPc, Pc.inCall]
    · intro v hv
      obtain rfl : destination = v := by
        simpa [releaseGuard, World.setPc, Pc.target] using hv
      simp [releaseGuard, World.setPc, World.latchFrame, World.setFrame, World.setGuard]
  | move hi => exact vacant_of_idle hi
  | noGuard => exact h
  | mutate hi => exact vacant_of_idle hi
  | markDirty hi => exact vacant_of_idle hi
  | wake => exact vacant_of_pc h rfl rfl .inl fun _ => id
  | latchForCopy hpc | copyImage hpc | buildNone hpc | build hpc | registerCount hpc
  | registerCountFailed hpc | countFailed hpc | reusePage hpc | needExtension hpc | extended hpc
  | extendFailed hpc | readPage hpc | written hpc | writeFailed hpc | synced hpc | syncFailed hpc =>
    exact vacant_of_pc h (Function.update_self ..) rfl (fun _ => .inl (hpc ▸ rfl))
      (by simp [Pc.target])

end Vacancy

section Latches

variable [NeZero N] {pool : Pool N} {f : Fin N} {mode : LatchMode}

lemma demand_acquire (hc : (pool.frames f).latch.canAcquire mode = true) (r : Resource N) :
    (pool.setFrame f { pool.frames f with
      latch := (pool.frames f).latch.acquire mode }).demand r =
        pool.demand r + unit (.frame f mode.role = r) := by
  cases r with
  | frame g role =>
    by_cases hg : g = f
    · subst hg
      cases mode <;> cases role <;>
        simp_all [Pool.demand, BufferFrame.demand, LatchMode.role, Latch.acquire,
          Latch.canAcquire]
    · simp [Pool.demand, hg, Ne.symm hg]
  | _ => simp [Pool.demand]

lemma demand_release (hp : 0 < pool.demand (.frame f mode.role)) (r : Resource N) :
    (pool.setFrame f { pool.frames f with
      latch := (pool.frames f).latch.release mode }).demand r +
        unit (.frame f mode.role = r) = pool.demand r := by
  cases r with
  | frame g role =>
    by_cases hg : g = f
    · subst hg
      cases mode with
      | shared =>
        simp only [Pool.demand, BufferFrame.demand, LatchMode.role] at hp
        cases role <;> simp [Pool.demand, BufferFrame.demand, LatchMode.role, Latch.release]
        omega
      | exclusive =>
        simp only [Pool.demand, BufferFrame.demand, LatchMode.role, unit_pos] at hp
        cases role <;> simp [Pool.demand, BufferFrame.demand, LatchMode.role, Latch.release, hp]
    · simp [Pool.demand, hg, Ne.symm hg]
  | _ => simp [Pool.demand]

lemma demand_setFrame_page {frame : BufferFrame} (hs : frame.state = (pool.frames f).state)
    (hio : frame.ioState = (pool.frames f).ioState)
    (hid : frame.page.id = (pool.frames f).page.id)
    (hp : frame.pinCount = (pool.frames f).pinCount)
    (he : frame.bindingEpoch = (pool.frames f).bindingEpoch)
    (hl : frame.latch = (pool.frames f).latch) : (pool.setFrame f frame).demand = pool.demand := by
  funext r
  cases r with
  | frame g role =>
    by_cases hg : g = f
    · subst hg
      cases role <;> simp [Pool.demand, BufferFrame.demand, hs, hio, hid, hp, he, hl]
    · simp [Pool.demand, hg]
  | _ => simp [Pool.demand]

end Latches

section Steps

variable [NeZero N] [Fintype T] [Fintype V] [DecidableEq T] [DecidableEq V]
  {w w' : World N T V} {t : T} {choice : Choice T V} {opts : BufferPoolOptions}

lemma Accounted.step_pc (h : w.Accounted) (t : T) (hpc : ∀ u, u ≠ t → w'.pc u = w.pc u)
    (hg : w'.guards = w.guards)
    (hj : ∀ load, (w'.pool.loads load).joiner load = (w.pool.loads load).joiner load)
    (hx : Exchange w.pool w'.pool ((w.pc t).resources w.pool.loads)
      ((w'.pc t).resources w'.pool.loads)) : w'.Accounted := by
  refine Balanced.step h (.inl t) ?_ hx
  rintro (u | ⟨u, v⟩) hy
  · simp only [World.holding, hpc u fun hu => hy (hu ▸ rfl), Pc.resources_congr hj]
  · simp only [World.holding, hg]

lemma Accounted.step_ending (h : w.Accounted) (t : T) (hpc : ∀ u, u ≠ t → w'.pc u = w.pc u)
    (hg : w'.guards = w.guards) {page : PageId} {role : EntryRole N} {load : LoadId}
    {new : List (Resource N)}
    (he : Ending w.pool w'.pool (w.pc t) (w'.pc t) page role load new) : w'.Accounted := by
  let mid := Function.update w.holding (.inl t) [.load load .claim]
  let due := fun r => if r = .entry page role ∨ r = .load load .loader then 0 else w.pool.demand r
  have hentry : 0 < w.pool.demand (.entry page role) := by
    refine Balanced.pos h (x := .inl t) ?_
    simp [World.holding, he.held]
  have hloader : 0 < w.pool.demand (.load load .loader) := by
    refine Balanced.pos h (x := .inl t) ?_
    simp [World.holding, he.held]
  have hone : w.pool.demand (.entry page role) = 1 := by
    refine le_antisymm ?_ hentry
    cases role <;> exact unit_le_one
  have hone' : w.pool.demand (.load load .loader) = 1 := le_antisymm unit_le_one hloader
  have hmid : Balanced mid due := by
    refine Balanced.step h (.inl t) (fun y hy => by simp [mid, hy]) fun r => ?_
    simp only [mid, Function.update_self, World.holding, he.held, Balanced.count_cons_unit, due]
    by_cases h1 : r = .entry page role
    · subst h1
      simp [hone]
    · by_cases h2 : r = .load load .loader
      · subst h2
        simp [hone']
      · simp [h1, h2, Ne.symm h1, Ne.symm h2]
  have hd := (demand_loader.mp hloader).2
  refine hmid.exchange he.fresh (fun x => ?_) fun r => ?_
  · rcases x with u | ⟨u, v⟩
    · by_cases hu : u = t
      · subst hu
        simp [World.holding, mid, he.taken]
      · have hn : Resource.load load .loader ∉ (w.pc u).resources w.pool.loads := by
          intro hm
          have hu' : Resource.load load .loader ∈ w.holding (.inl u) := hm
          have ht : Resource.load load .loader ∈ w.holding (.inl t) := by
            simp [World.holding, he.held]
          exact hu (Sum.inl.inj (Balanced.unique h hone'.le hu' ht))
        simp only [World.holding, hpc u hu, mid]
        rw [Function.update_of_ne (by simpa using hu)]
        exact Pc.resources_ending _ hn he.pending he.joiner he.others
    · simp only [World.holding, hg, mid]
      rw [Function.update_of_ne (by simp)]
      refine (Balanced.exchange_self ?_).symm
      cases w.guards u v <;> simp [guardResources]
  · rw [he.demand r]
    by_cases hr : r = .load load .claim
    · simp [hr]
    · simp only [hr, if_false, due]
      simp [Pool.demand, LoadOperation.demand, hd]

lemma Accounted.step_quiet (h : w.Accounted) (t : T) (pc : Pc N V)
    (hpc : w'.pc = Function.update w.pc t pc) (hg : w'.guards = w.guards)
    (hl : w'.pool.loads = w.pool.loads) (hd : w'.pool.demand = w.pool.demand)
    (hr : pc.resources w.pool.loads = (w.pc t).resources w.pool.loads) : w'.Accounted := by
  refine Accounted.step_pc h t (fun u hu => by simp [hpc, hu]) hg (fun load => by rw [hl])
    fun r => ?_
  simp [hpc, hl, hd, hr]

omit [NeZero N] [Fintype T] [Fintype V] in
lemma moveGuard_guards {u x : T} {destination source v : GuardVar V} :
    (moveGuard w t u destination source).guards x v =
      if (x, v) = (u, destination) then w.guards t source
      else if (x, v) = (t, source) then none else w.guards x v := by
  simp only [moveGuard, World.setGuard, Function.update_apply, Prod.mk.injEq]
  split_ifs <;> simp_all

lemma Accounted.move (h : w.Accounted) (t u : T) (destination source : GuardVar V)
    (hd : w.guards u destination = none) : (moveGuard w t u destination source).Accounted := by
  by_cases hs : (t, source) = (u, destination)
  · refine Balanced.step h (.inr (t, source)) ?_ fun r => ?_
    · rintro (x | ⟨x, v⟩) hx
      · rfl
      · simp only [World.holding, moveGuard_guards]
        rw [if_neg (by simpa [← hs] using hx), if_neg (by simpa using hx)]
    · simp only [World.holding, moveGuard_guards, hs, if_true]
      rfl
  · refine Balanced.step₂ h (x := .inr (t, source)) (y := .inr (u, destination))
      (by simpa using hs) ?_ fun r => ?_
    · rintro (x | ⟨x, v⟩) hx hy
      · rfl
      · simp only [World.holding, moveGuard_guards]
        rw [if_neg (by simpa using hy), if_neg (by simpa using hx)]
    · simp only [World.holding, moveGuard_guards, hs, if_false, if_true, hd, guardResources]
      simp only [List.count_nil]
      have : (moveGuard w t u destination source).pool = w.pool := rfl
      rw [this]
      omega

lemma Accounted.releaseGuard (h : w.Accounted) {v : GuardVar V} {g : PageGuard N}
    (hi : (w.pc t).isIdle = true) (hg : w.guards t v = some g)
    (assignment : Option (GuardVar V × GuardVar V)) :
    (releaseGuard w t v g assignment).Accounted := by
  have hp : 0 < w.pool.demand (.frame g.frameId g.mode.role) :=
    Balanced.pos h (x := .inr (t, v)) (by simp [World.holding, hg, guardResources])
  refine Balanced.step₂ h (x := .inl t) (y := .inr (t, v)) (by simp) ?_ fun r => ?_
  · rintro (x | ⟨x, u⟩) hx hy
    · simp only [World.holding]
      rw [BufferPool.releaseGuard, World.setPc]
      simp only
      rw [Function.update_of_ne (by simpa using hx)]
      rfl
    · have hne : ¬ (x = t ∧ u = v) := by simpa using hy
      simp only [World.holding]
      congr 1
      by_cases hxt : x = t
      · subst hxt
        have huv : u ≠ v := fun huv => hne ⟨rfl, huv⟩
        simp [BufferPool.releaseGuard, World.setPc, World.latchFrame, World.setFrame,
          World.setGuard, huv]
      · simp [BufferPool.releaseGuard, World.setPc, World.latchFrame, World.setFrame,
          World.setGuard, hxt]
  · have hr := demand_release hp r
    dsimp only at hr
    have hpool : (BufferPool.releaseGuard w t v g assignment).pool =
      w.pool.setFrame g.frameId { w.pool.frames g.frameId with
        latch := (w.pool.frames g.frameId).latch.release g.mode } := rfl
    have hpc : (BufferPool.releaseGuard w t v g assignment).pc t =
      .unpin g.frameId assignment := Function.update_self ..
    have hv : (BufferPool.releaseGuard w t v g assignment).guards t v = none := by
      simp [BufferPool.releaseGuard, World.setPc, World.latchFrame, World.setFrame,
        World.setGuard]
    have hidle : (w.pc t).resources w.pool.loads = [] := Pc.resources_idle hi
    simp only [World.holding, hg, hidle, hpool, hpc, hv, guardResources]
    simp only [Pc.resources, Balanced.count_cons_unit, List.count_nil]
    omega

lemma Accounted.grant (h : w.Accounted) {result : Outcome} {f : Fin N} {mode : LatchMode}
    (hpc : w.pc t = .makeGuard result f mode)
    (hc : (w.pool.frames f).latch.canAcquire mode = true) (hn : w.guards t none = none) :
    (((w.latchFrame f ((w.pool.frames f).latch.acquire mode)).setGuard t none
      (some ⟨f, (w.pool.frames f).bindingEpoch, mode⟩)).setPc t (.idle result)).Accounted := by
  refine Balanced.step₂ h (x := .inl t) (y := .inr (t, none)) (by simp) ?_ fun r => ?_
  · rintro (x | ⟨x, u⟩) hx hy
    · simp only [World.holding, World.setPc]
      rw [Function.update_of_ne (by simpa using hx)]
      rfl
    · have hne : ¬ (x = t ∧ u = none) := by simpa using hy
      simp only [World.holding]
      congr 1
      by_cases hxt : x = t
      · subst hxt
        have huv : u ≠ none := fun huv => hne ⟨rfl, huv⟩
        simp [World.setPc, World.latchFrame, World.setFrame, World.setGuard, huv]
      · simp [World.setPc, World.latchFrame, World.setFrame, World.setGuard, hxt]
  · have hr := demand_acquire hc r
    dsimp only at hr
    have hpc' : (((w.latchFrame f ((w.pool.frames f).latch.acquire mode)).setGuard t none
        (some ⟨f, (w.pool.frames f).bindingEpoch, mode⟩)).setPc t (.idle result)).pc t =
      .idle result := Function.update_self ..
    have hv : (((w.latchFrame f ((w.pool.frames f).latch.acquire mode)).setGuard t none
        (some ⟨f, (w.pool.frames f).bindingEpoch, mode⟩)).setPc t (.idle result)).guards t none =
      some ⟨f, (w.pool.frames f).bindingEpoch, mode⟩ := by
      simp [World.setPc, World.latchFrame, World.setFrame, World.setGuard]
    have hpool : (((w.latchFrame f ((w.pool.frames f).latch.acquire mode)).setGuard t none
        (some ⟨f, (w.pool.frames f).bindingEpoch, mode⟩)).setPc t (.idle result)).pool =
      w.pool.setFrame f { w.pool.frames f with
        latch := (w.pool.frames f).latch.acquire mode } := rfl
    simp only [World.holding, hn, hpc, hpc', hv, hpool, guardResources, Pc.resources,
      Balanced.count_cons_unit, List.count_nil]
    omega

lemma Accounted.step_latch (h : w.Accounted) {pc : Pc N V} {f : Fin N} {latch : Latch}
    (hpool : w'.pool = w.pool.setFrame f { w.pool.frames f with latch := latch })
    (hpc : w'.pc = Function.update w.pc t pc) (hg : w'.guards = w.guards)
    (hx : Exchange w.pool (w.pool.setFrame f { w.pool.frames f with latch := latch })
      ((w.pc t).resources w.pool.loads) (pc.resources w.pool.loads)) : w'.Accounted := by
  refine Accounted.step_pc h t (fun u hu => by simp [hpc, hu]) hg (fun load => by rw [hpool]; rfl) ?_
  rw [hpool, hpc, Function.update_self]
  exact hx

theorem Act.accounted (h : w.Accounted) (hw : w.pool.WellFormed opts.pinLimit)
    (hr : Ready w.pool (w.pc t)) (hv : w.Vacant t) (ha : Act opts w t choice w') :
    w'.Accounted := by
  cases ha with
  | @critical turn hlock hcs hm =>
    have hpc (u : T) (hu : u ≠ t) : (w.finish opts t turn).pc u = w.pc u :=
      Function.update_of_ne hu ..
    have hself : (w.finish opts t turn).pc t = turn.pc := Function.update_self ..
    rcases hm.exchange hw hr with ⟨hx, hj⟩ | ⟨page, role, load, new, he⟩
    · exact Accounted.step_pc h t hpc rfl hj (hself ▸ hx)
    · exact Accounted.step_ending h t hpc rfl (hself ▸ he)
  | grant hpc hc => exact Accounted.grant h hpc hc (hv.slot (by simp [hpc, Pc.inCall]))
  | @latchForCopy f page bindingEpoch caller hpc hc =>
    refine Accounted.step_latch h rfl rfl rfl fun r => ?_
    have : (w.pool.setFrame f { w.pool.frames f with
        latch := (w.pool.frames f).latch.acquire .shared }).demand r =
          w.pool.demand r + unit (.frame f .shared = r) := demand_acquire hc r
    dsimp only at this
    simp only [hpc, Pc.resources, Balanced.count_cons_unit, List.count_nil]
    omega
  | @copyImage f page bindingEpoch caller hpc =>
    refine Accounted.step_latch h rfl rfl rfl fun r => ?_
    have hp : 0 < w.pool.demand (.frame f LatchMode.shared.role) :=
      hr.due _ (by simp [hpc, Pc.resources, LatchMode.role])
    have : (w.pool.setFrame f { w.pool.frames f with
        latch := (w.pool.frames f).latch.release .shared }).demand r +
          unit (.frame f .shared = r) = w.pool.demand r := demand_release hp r
    dsimp only at this
    simp only [hpc, Pc.resources, Writer.resources, Balanced.count_cons_unit, List.count_nil]
    omega
  | buildNone hpc => exact Accounted.step_quiet h t _ rfl rfl rfl rfl (by rw [hpc]; rfl)
  | build hpc =>
    exact Accounted.step_quiet h t _ rfl rfl rfl
      (demand_setFrame_page rfl rfl rfl rfl rfl rfl) (by rw [hpc]; rfl)
  | @takeFrom destination source hpc =>
    have hm := Accounted.move h t t destination source (hv.target _ (by rw [hpc]; rfl))
    refine Accounted.step_quiet hm t (.idle .guardReleased) rfl rfl rfl rfl ?_
    have hpc' : (moveGuard w t t destination source).pc t = w.pc t := rfl
    rw [hpc', hpc]
    rfl
  | @call call hi hn =>
    refine Accounted.step_quiet h t _ rfl rfl rfl rfl ?_
    rw [startCall_resources, Pc.resources_idle hi]
  | mutate hi hg =>
    exact Accounted.step_quiet h t (w.pc t) (Function.update_eq_self ..).symm rfl rfl
      (demand_setFrame_page rfl rfl rfl rfl rfl rfl) rfl
  | markDirty hi hlock hg =>
    exact Accounted.step_quiet h t (w.pc t) (Function.update_eq_self ..).symm rfl rfl
      (demand_setFrame_page rfl rfl rfl rfl rfl rfl) rfl
  | release hi hg => exact Accounted.releaseGuard h hi hg _
  | assign hi _ hg => exact Accounted.releaseGuard h hi hg _
  | move hi hd _ => exact Accounted.move h _ _ _ _ hd
  | noGuard => exact h
  | readPage hpc =>
    exact Accounted.step_quiet h t _ rfl rfl rfl
      (demand_setFrame_page rfl rfl rfl rfl rfl rfl) (by rw [hpc]; rfl)
  | wake => exact Accounted.step_quiet h t (w.pc t) (Function.update_eq_self ..).symm rfl rfl rfl rfl
  | registerCount hpc | registerCountFailed hpc | countFailed hpc | reusePage hpc
  | needExtension hpc | extended hpc | extendFailed hpc | written hpc | writeFailed hpc
  | synced hpc | syncFailed hpc =>
    exact Accounted.step_quiet h t _ rfl rfl rfl rfl (by rw [hpc]; rfl)

end Steps

end DBlusBlus.BufferPool
