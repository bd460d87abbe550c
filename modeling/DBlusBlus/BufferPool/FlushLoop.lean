import DBlusBlus.BufferPool.Ledger

/-! The flush of one page, the loop over a snapshot of dirty pages, and what they come to. -/

namespace DBlusBlus.BufferPool

open Accounting Transition

variable {N : ℕ} {T V : Type} {page : PageId} {f : Fin N} {limit : ℕ}

def Writer.flushing : Writer N → Option (PageId × FlushCaller)
  | .evict _ _ _ => none
  | .flush _ page _ _ caller => some (page, caller)

def Pc.flushing : Pc N V → Option (PageId × FlushCaller)
  | .flushPage page caller | .latchForCopy _ page _ caller | .copyImage _ page _ caller =>
    some (page, caller)
  | .writePage writer _ | .syncFile writer _ | .finishWrite writer _ => writer.flushing
  | _ => none

lemma Pc.flushing_of_idle {pc : Pc N V} (h : pc.isIdle = true) : pc.flushing = none := by
  obtain ⟨last, rfl⟩ := Pc.exists_idle h
  rfl

inductive FlushMove (pool : Pool N) (pc pc' : Pc N V) (page : PageId) (caller : FlushCaller) : Prop
  | same : pc'.flushing = some (page, caller) →
    (∀ writer error, pc = .finishWrite writer (.error error) → pc' = pc) →
    FlushMove pool pc pc' page caller
  | settled : pc = .flushPage page caller → Settled pool page →
    pc' = flushReturnPc page (.ok ()) caller → FlushMove pool pc pc' page caller
  | failed {f bindingEpoch copiedGeneration error} :
    pc = .finishWrite (.flush f page bindingEpoch copiedGeneration caller) (.error error) →
    pc' = flushReturnPc page (.error error) caller → FlushMove pool pc pc' page caller

section Moves

variable [NeZero N] {pool pool' : Pool N} {pc pc' : Pc N V} {opts : BufferPoolOptions}
  {caller : FlushCaller}

lemma Move.flushMove (h : pool.WellFormed limit) (hr : Ready pool pc)
    (hm : Move opts pool pc pool' pc') (hf : pc.flushing = some (page, caller)) :
    FlushMove pool pc pc' page caller := by
  cases hm with
  | quiet replacer hq =>
    cases hq with
    | flushSettled hs =>
      cases hf
      exact .settled rfl hs rfl
    | flushWait => exact .same hf fun _ _ h => by cases h
    | _ => cases hf
  | fault hm => exact absurd hm (hr.not_missing h)
  | reserveVictim _ hpc => rcases hpc with ⟨n, rfl⟩ | ⟨v, rfl⟩ <;> cases hf
  | startWriteback he hs =>
    cases hf
    exact .same (by rw [(h.bound_resident he hs).1]; rfl) fun _ _ h => by cases h
  | finishWriteback => exact .same hf fun _ _ h => by cases h
  | failWriteback =>
    cases hf
    exact .failed rfl rfl
  | _ => cases hf

end Moves

section Steps

variable [DecidableEq T] [DecidableEq V] [NeZero N] [Fintype T] [Fintype V]
  {opts : BufferPoolOptions} {w w' : World N T V} {t u : T} {choice : Choice T V}
  {history : History N} {caller : FlushCaller}

lemma Act.flushMove (ha : Act opts w t choice w') (hi : w.Inv opts)
    (hf : (w.pc t).flushing = some (page, caller)) :
    FlushMove w.pool (w.pc t) (w'.pc t) page caller := by
  have idle (hidle : (w.pc t).isIdle = true) : False := by
    rw [Pc.flushing_of_idle hidle] at hf
    cases hf
  cases ha with
  | critical hlock hcs hm =>
    rw [World.finish_pc]
    exact hm.flushMove hi.wellFormed (hi.ready t) hf
  | call hidle | mutate hidle | markDirty hidle | release hidle | assign hidle | move hidle
  | noGuard hidle => exact (idle hidle).elim
  | latchForCopy hpc | copyImage hpc | syncFailed hpc | synced hpc =>
    rw [hpc] at hf ⊢
    rw [World.setPc_pc]
    exact .same hf fun _ _ h => by cases h
  | written hpc | writeFailed hpc =>
    rw [hpc] at hf ⊢
    simp only [World.setPc, Function.update_self]
    exact .same hf fun _ _ h => by cases h
  | wake => exact .same hf fun _ _ _ => rfl
  | grant hpc | buildNone hpc | build hpc | takeFrom hpc | registerCount hpc
  | registerCountFailed hpc | countFailed hpc | reusePage hpc | needExtension hpc | extended hpc
  | extendFailed hpc | readPage hpc =>
    rw [hpc] at hf
    cases hf

omit [Fintype T] [Fintype V] in
lemma Act.moves (ha : Act opts w t choice w')
    (hcs : (criticalSection opts w.pool (w.pc t)).isSome = true) :
    choice = .wake ∧ w'.pc t = w.pc t ∨ Move opts w.pool (w.pc t) w'.pool (w'.pc t) := by
  cases ha with
  | critical hlock _ hm =>
    rw [World.finish_pc]
    exact .inr hm
  | wake => exact .inl ⟨rfl, rfl⟩
  | call hidle | mutate hidle | markDirty hidle | release hidle | assign hidle | move hidle
  | noGuard hidle =>
    cases hpc : w.pc t <;> simp [hpc, Pc.isIdle, criticalSection] at hidle hcs
  | grant hpc | latchForCopy hpc | copyImage hpc | buildNone hpc | build hpc | takeFrom hpc
  | registerCount hpc | registerCountFailed hpc | countFailed hpc | reusePage hpc
  | needExtension hpc | extended hpc | extendFailed hpc | readPage hpc | written hpc
  | writeFailed hpc | synced hpc | syncFailed hpc =>
    simp [hpc, criticalSection] at hcs

omit [Fintype T] [Fintype V] in
lemma Act.flushMatching {rest : List PageId} {firstFailure : BufferStatus}
    {caller : MatchingCaller} (ha : Act opts w t choice w')
    (hpc : w.pc t = .flushMatching rest firstFailure caller) :
    w'.pc t = .flushMatching rest firstFailure caller ∨
      (∃ page rest', rest = page :: rest' ∧
        w'.pc t = .flushPage page (.matching rest' firstFailure caller)) ∨
      rest = [] ∧ w'.pc t = matchingEndPc firstFailure caller := by
  rcases ha.moves (by rw [hpc]; rfl) with ⟨-, hpc'⟩ | hm
  · exact .inl (hpc'.trans hpc)
  · rw [hpc] at hm
    generalize w'.pool = pool' at hm
    generalize w'.pc t = pc' at hm ⊢
    cases hm with
    | quiet _ hq =>
      cases hq with
      | matchingNext => exact .inr (.inl ⟨_, _, rfl, rfl⟩)
      | matchingEnd => exact .inr (.inr ⟨rfl, rfl⟩)
    | fault hm => exact hm.elim
    | reserveVictim _ hpc => rcases hpc with ⟨n, hpc⟩ | ⟨v, hpc⟩ <;> cases hpc

/-- The steps that lose no dirty image: retirements flush, and none removes a registration under
another one. -/
def KeepsDirty (x : World N T V × History N) (a : T × Choice T V) : Prop :=
  ClosesAlone x.1 a ∧ NoDiscard a

instance (x : World N T V × History N) (a : T × Choice T V) : Decidable (KeepsDirty x a) :=
  inferInstanceAs (Decidable (_ ∧ _))

def UntilReturn (t : T) (x : World N T V × History N) (a : T × Choice T V) : Prop :=
  KeepsDirty x a ∧ (a.1 = t → (x.1.pc t).isIdle = false)

instance (t : T) (x : World N T V × History N) (a : T × Choice T V) :
    Decidable (UntilReturn t x a) :=
  inferInstanceAs (Decidable (_ ∧ _))

variable {x y z : World N T V × History N} {matching : MatchingCaller}

inductive Pc.Failing (matching : MatchingCaller) (pc : Pc N V) : Prop
  | write {f page bindingEpoch copiedGeneration rest firstFailure error} :
    pc = .finishWrite (.flush f page bindingEpoch copiedGeneration
      (.matching rest firstFailure matching)) (.error error) → Failing matching pc
  | page {page rest error} : pc.flushing = some (page, .matching rest (.error error) matching) →
    Failing matching pc
  | loop {rest error} : pc = .flushMatching rest (.error error) matching → Failing matching pc
  | done {error} : pc = matchingEndPc (.error error) matching → Failing matching pc

omit [DecidableEq V] [NeZero N] [Fintype V] in
lemma matchingEndPc_error_idle (error : BufferError) (matching : MatchingCaller) :
    (matchingEndPc (.error error) matching : Pc N V).isIdle = true := by
  cases matching <;> rfl

omit [DecidableEq T] [DecidableEq V] [NeZero N] [Fintype T] [Fintype V] in
lemma Pc.failing_of_return {pc : Pc N V} {rest : List PageId} {firstFailure status : BufferStatus}
    (hpc : pc = flushReturnPc page status (.matching rest firstFailure matching))
    (hf : (∃ error, status = .error error) ∨ ∃ error, firstFailure = .error error) :
    pc.Failing matching := by
  rcases hf with ⟨error, rfl⟩ | ⟨error, rfl⟩
  · cases firstFailure <;> exact .loop hpc
  · exact .loop hpc

lemma Pc.Failing.step (h : (w.pc t).Failing matching) (hi : w.Inv opts)
    (ha : Act opts w t choice w') (hidle : (w.pc t).isIdle = false) :
    (w'.pc t).Failing matching := by
  cases h with
  | write hpc =>
    cases ha.flushMove hi (congrArg Pc.flushing hpc) with
    | same _ hpc' => exact .write ((hpc' _ _ hpc).trans hpc)
    | settled hold =>
      rw [hpc] at hold
      cases hold
    | failed _ hpc' => exact Pc.failing_of_return hpc' (.inl ⟨_, rfl⟩)
  | page hf =>
    cases ha.flushMove hi hf with
    | same hf' => exact .page hf'
    | settled _ _ hpc' | failed _ hpc' => exact Pc.failing_of_return hpc' (.inr ⟨_, rfl⟩)
  | loop hpc =>
    rcases ha.flushMatching hpc with hpc' | ⟨page, rest', rfl, hpc'⟩ | ⟨rfl, hpc'⟩
    · exact .loop hpc'
    · exact .page (by rw [hpc']; rfl)
    · exact .done hpc'
  | done hpc =>
    rw [hpc, matchingEndPc_error_idle] at hidle
    cases hidle

def MatchingCaller.outcome : MatchingCaller → BufferStatus → Outcome
  | .flushFile file, status => .flushFile file status
  | .flushAll, status => .flushAll status
  | .shutdown, status => .shutdown status
  | .retireFile file, status => .retireFile file status

omit [DecidableEq V] [NeZero N] [Fintype V] in
lemma matchingEndPc_outcome (status : BufferStatus) (matching : MatchingCaller) :
    (matchingEndPc status matching : Pc N V) = .idle (matching.outcome status) ∨
      ∃ file, matching = .retireFile file ∧ status = .ok () ∧
        (matchingEndPc status matching : Pc N V) = .retireReset file := by
  cases matching with
  | retireFile file =>
    cases status with
    | ok => exact .inr ⟨file, rfl, rfl, rfl⟩
    | error => exact .inl rfl
  | _ => exact .inl rfl

def SettledAt (t : T) (matching : MatchingCaller) (page : PageId) (y : World N T V × History N) :
    Prop :=
  ∃ rest firstFailure, y.1.pc t = .flushPage page (.matching rest firstFailure matching) ∧
    Settled y.1.pool page

def FailedAt (t : T) (matching : MatchingCaller) (page : PageId) (y : World N T V × History N) :
    Prop :=
  ∃ f bindingEpoch copiedGeneration rest firstFailure error, y.1.pc t = .finishWrite (.flush f page
    bindingEpoch copiedGeneration (.matching rest firstFailure matching)) (.error error)

/-- What the loop has done with the pages of its snapshot that are not left. -/
structure Progress (opts : BufferPoolOptions) (t : T) (matching : MatchingCaller)
    (snapshot : List PageId) (x z : World N T V × History N) (rest : List PageId)
    (firstFailure : BufferStatus) : Prop where
  attempted : ∀ page ∈ snapshot, page ∈ rest ∨
    Along (historySystem opts) (UntilReturn t) x z (SettledAt t matching page) ∨
    Along (historySystem opts) (UntilReturn t) x z (FailedAt t matching page)
  settled : firstFailure = .ok () → ∀ page ∈ snapshot, page ∈ rest ∨
    Along (historySystem opts) (UntilReturn t) x z (SettledAt t matching page)

inductive LoopPlace (opts : BufferPoolOptions) (t : T) (matching : MatchingCaller)
    (snapshot : List PageId) (x z : World N T V × History N) : Prop
  | loop {rest firstFailure} : z.1.pc t = .flushMatching rest firstFailure matching →
    Progress opts t matching snapshot x z rest firstFailure →
    LoopPlace opts t matching snapshot x z
  | page {page rest firstFailure} :
    (z.1.pc t).flushing = some (page, .matching rest firstFailure matching) →
    Progress opts t matching snapshot x z (page :: rest) firstFailure →
    LoopPlace opts t matching snapshot x z
  | resetting {file} : matching = .retireFile file → z.1.pc t = .retireReset file →
    Progress opts t matching snapshot x z [] (.ok ()) → LoopPlace opts t matching snapshot x z
  | returned {status} : z.1.pc t = .idle (matching.outcome status) →
    Progress opts t matching snapshot x z [] status → LoopPlace opts t matching snapshot x z

variable {snapshot rest : List PageId} {firstFailure : BufferStatus} {a : T × Choice T V}

omit [Fintype T] [Fintype V] in
lemma Progress.next (h : Progress opts t matching snapshot x y rest firstFailure)
    (hok : UntilReturn t y a) (hs : (historySystem opts).step y a = some z) :
    Progress opts t matching snapshot x z rest firstFailure where
  attempted page hp := by
    rcases h.attempted page hp with hr | hse | hf
    · exact .inl hr
    · exact .inr (.inl (hse.next hok hs))
    · exact .inr (.inr (hf.next hok hs))
  settled hk page hp := (h.settled hk page hp).imp_right fun hse => hse.next hok hs

omit [Fintype T] [Fintype V] in
lemma Progress.pass_settled (h : Progress opts t matching snapshot x z (page :: rest) firstFailure)
    (hse : Along (historySystem opts) (UntilReturn t) x z (SettledAt t matching page)) :
    Progress opts t matching snapshot x z rest firstFailure where
  attempted other hp := by
    rcases h.attempted other hp with hr | ho
    · rcases List.mem_cons.mp hr with rfl | hr
      · exact .inr (.inl hse)
      · exact .inl hr
    · exact .inr ho
  settled hk other hp := by
    rcases h.settled hk other hp with hr | ho
    · rcases List.mem_cons.mp hr with rfl | hr
      · exact .inr hse
      · exact .inl hr
    · exact .inr ho

omit [Fintype T] [Fintype V] in
lemma Progress.pass_failed {error : BufferError}
    (h : Progress opts t matching snapshot x z (page :: rest) firstFailure)
    (hf : Along (historySystem opts) (UntilReturn t) x z (FailedAt t matching page)) :
    Progress opts t matching snapshot x z rest (.error error) where
  attempted other hp := by
    rcases h.attempted other hp with hr | ho
    · rcases List.mem_cons.mp hr with rfl | hr
      · exact .inr (.inr hf)
      · exact .inl hr
    · exact .inr ho
  settled hk := nomatch hk

omit [Fintype T] [Fintype V] in
lemma LoopPlace.ended {status : BufferStatus} (hpc : z.1.pc t = matchingEndPc status matching)
    (h : Progress opts t matching snapshot x z [] status) :
    LoopPlace opts t matching snapshot x z := by
  rcases matchingEndPc_outcome status matching with heq | ⟨file, hfile, hk, heq⟩
  · exact .returned (hpc.trans heq) h
  · subst hk
    exact .resetting hfile (hpc.trans heq) h

omit [Fintype T] [Fintype V] in
lemma Act.retireReset {file : FileId} (ha : Act opts w t choice w')
    (hpc : w.pc t = .retireReset file) :
    w'.pc t = .retireReset file ∨ w'.pc t = .idle (.retireFile file (.ok ())) := by
  rcases ha.moves (by rw [hpc]; rfl) with ⟨-, hpc'⟩ | hm
  · exact .inl (hpc'.trans hpc)
  · rw [hpc] at hm
    generalize w'.pool = pool' at hm
    generalize w'.pc t = pc' at hm ⊢
    cases hm with
    | quiet _ hq => cases hq
    | fault hm => exact hm.elim
    | resetRetired => exact .inl rfl
    | closeFile => exact .inr rfl
    | reserveVictim _ hpc => rcases hpc with ⟨n, hpc⟩ | ⟨v, hpc⟩ <;> cases hpc

lemma LoopPlace.self (h : LoopPlace opts t matching snapshot x y)
    (hp : Path (historySystem opts) (UntilReturn t) x y) (hi : y.1.Inv opts)
    (ha : Act opts y.1 t choice z.1) (hok : UntilReturn t y (t, choice))
    (hs : (historySystem opts).step y (t, choice) = some z) :
    LoopPlace opts t matching snapshot x z := by
  cases h with
  | loop hpc hprog =>
    have hprog := hprog.next hok hs
    rcases ha.flushMatching hpc with hpc' | ⟨page, rest', rfl, hpc'⟩ | ⟨rfl, hpc'⟩
    · exact .loop hpc' hprog
    · exact .page (by rw [hpc']; rfl) hprog
    · exact .ended hpc' hprog
  | @page page rest firstFailure hf hprog =>
    have hnext := hprog.next hok hs
    cases ha.flushMove hi hf with
    | same hf' => exact .page hf' hnext
    | settled hpc hse hpc' =>
      have hat : Along (historySystem opts) (UntilReturn t) x y (SettledAt t matching page) :=
        .here hp ⟨rest, firstFailure, hpc, hse⟩
      have hprog := hnext.pass_settled (hat.next hok hs)
      cases firstFailure <;> exact .loop hpc' hprog
    | failed hpc hpc' =>
      have hat : Along (historySystem opts) (UntilReturn t) x y (FailedAt t matching page) :=
        .here hp ⟨_, _, _, _, _, _, hpc⟩
      cases firstFailure <;> exact .loop hpc' (hnext.pass_failed (hat.next hok hs))
  | resetting hfile hpc hprog =>
    have hprog := hprog.next hok hs
    rcases ha.retireReset hpc with hpc' | hpc'
    · exact .resetting hfile hpc' hprog
    · subst hfile
      exact .returned hpc' hprog
  | returned hpc =>
    have hidle := hok.2 rfl
    rw [hpc] at hidle
    cases hidle

omit [Fintype T] [Fintype V] in
lemma LoopPlace.other (h : LoopPlace opts t matching snapshot x y) (hu : u ≠ t)
    (ha : Act opts y.1 u choice z.1) (hok : UntilReturn t y (u, choice))
    (hs : (historySystem opts).step y (u, choice) = some z) :
    LoopPlace opts t matching snapshot x z := by
  have hsame := ha.others hu.symm
  cases h with
  | loop hpc hprog => exact .loop (hsame.trans hpc) (hprog.next hok hs)
  | page hf hprog => exact .page (hsame ▸ hf) (hprog.next hok hs)
  | resetting hfile hpc hprog => exact .resetting hfile (hsame.trans hpc) (hprog.next hok hs)
  | returned hpc hprog => exact .returned (hsame.trans hpc) (hprog.next hok hs)

theorem loopPlace_of_path (h : Run (historySystem opts) KeepsDirty x)
    (hpc : x.1.pc t = .flushMatching snapshot (.ok ()) matching)
    (hp : Path (historySystem opts) (UntilReturn t) x z) :
    LoopPlace opts t matching snapshot x z := by
  refine hp.invariant_of_path (.loop hpc ⟨fun _ hp => .inl hp, fun _ _ hp => .inl hp⟩) ?_
  rintro y ⟨u, choice⟩ z hp hplace hok hs
  have hi := inv_of_run ((h.path (hp.mono fun _ _ h => h.1)).untrack fun _ _ h => h.1)
  have ha := step_act (track_step.mp hs).1
  by_cases hu : u = t
  · subst hu
    exact hplace.self hp hi ha hok hs
  · exact hplace.other hu ha hok hs

/-- A loop that has failed to write a page goes on, and returns an error. -/
theorem failing_of_path (h : Run (historySystem opts) KeepsDirty x)
    (hf : (x.1.pc t).Failing matching) (hp : Path (historySystem opts) (UntilReturn t) x z) :
    (z.1.pc t).Failing matching := by
  refine hp.invariant_of_path (I := fun y => (y.1.pc t).Failing matching) hf ?_
  rintro y ⟨u, choice⟩ z hp hf hok hs
  have hi := inv_of_run ((h.path (hp.mono fun _ _ h => h.1)).untrack fun _ _ h => h.1)
  have ha := step_act (track_step.mp hs).1
  by_cases hu : u = t
  · subst hu
    exact hf.step hi ha (hok.2 rfl)
  · rw [ha.others (Ne.symm hu)]
    exact hf

omit [DecidableEq V] [Fintype T] [Fintype V] [DecidableEq T] [NeZero N] in
lemma outcome_injective {status status' : BufferStatus}
    (h : matching.outcome status = matching.outcome status') : status = status' := by
  cases matching <;> cases h <;> rfl

omit [Fintype T] [Fintype V] in
lemma LoopPlace.at_return {status : BufferStatus} (h : LoopPlace opts t matching snapshot x z)
    (hpc : z.1.pc t = .idle (matching.outcome status)) :
    Progress opts t matching snapshot x z [] status := by
  cases h with
  | loop hold => rw [hold] at hpc; cases hpc
  | page hf =>
    rw [hpc] at hf
    cases hf
  | resetting _ hold => rw [hold] at hpc; cases hpc
  | returned hold hprog =>
    have hst := hold.symm.trans hpc
    simp only [Pc.idle.injEq] at hst
    rwa [outcome_injective hst] at hprog

omit [DecidableEq T] [DecidableEq V] [NeZero N] [Fintype T] [Fintype V] in
lemma Pc.Failing.status {pc : Pc N V} {status : BufferStatus} (h : pc.Failing matching)
    (hpc : pc = .idle (matching.outcome status)) : status ≠ .ok () := by
  subst hpc
  cases h with
  | write h => cases h
  | page h => cases h
  | loop h => cases h
  | done h =>
    rintro rfl
    cases matching <;> cases h

lemma covered_of_path {name : ImageName N} (h : Run (historySystem opts) KeepsDirty x)
    (hn : x.2.IsSynced name ∨ x.1.pool.Pending name)
    (hp : Path (historySystem opts) KeepsDirty x z) :
    z.2.IsSynced name ∨ z.1.pool.Pending name := by
  refine hp.invariant_of_path
    (I := fun y => y.2.IsSynced name ∨ y.1.pool.Pending name) hn ?_
  rintro ⟨w, history⟩ ⟨u, choice⟩ ⟨w', history'⟩ hp hn hok hs
  have hrun := h.path hp
  have hi := inv_of_run (hrun.untrack fun _ _ h => h.1)
  have hi' := inv_of_run ((Run.next hrun hok hs).untrack fun _ _ h => h.1)
  obtain ⟨hsy, hfl⟩ := synced_of_run hrun
  obtain ⟨hstep, hrec⟩ := track_step.mp hs
  dsimp only at hstep hrec hn ⊢
  subst hrec
  rcases hn with hn | hn
  · exact .inl (isSynced_mono hn)
  · exact hn.step hi hi' hsy hfl (step_act hstep)

omit [Fintype T] [Fintype V] in
lemma isSynced_of_path {name : ImageName N} (hn : x.2.IsSynced name)
    (hp : Path (historySystem opts) KeepsDirty x z) : z.2.IsSynced name := by
  refine hp.invariant (I := fun y => y.2.IsSynced name) hn ?_
  rintro ⟨w, history⟩ ⟨u, choice⟩ ⟨w', history'⟩ hn - hs
  obtain ⟨-, hrec⟩ := track_step.mp hs
  dsimp only at hrec hn ⊢
  subst hrec
  exact isSynced_mono hn

omit [DecidableEq T] [DecidableEq V] in
lemma Pool.Pending.not_settled {name : ImageName N} (h : w.pool.Pending name) (hi : w.Inv opts) :
    ¬ Settled w.pool name.page := by
  intro hs
  obtain ⟨entry, he, hf, hst⟩ := hi.inUse_entry h.inUse
  rw [show (w.pool.frames name.frame).page.id = name.page from h.current.page] at he
  rcases hs entry he with hl | hl | ⟨-, hd⟩
  · rcases hst with hst | hst <;> rw [hl] at hst <;> cases hst
  · rcases hst with hst | hst <;> rw [hl] at hst <;> cases hst
  · rw [hf, h.dirty] at hd
    cases hd

theorem synced_at_return {name : ImageName N} (h : Run (historySystem opts) KeepsDirty x)
    (hpc : x.1.pc t = .flushMatching snapshot (.ok ()) matching)
    (hn : x.2.IsSynced name ∨ x.1.pool.Pending name) (hm : name.page ∈ snapshot)
    (hp : Path (historySystem opts) (UntilReturn t) x z)
    (hret : z.1.pc t = .idle (matching.outcome (.ok ()))) : z.2.IsSynced name := by
  have hprog := (loopPlace_of_path h hpc hp).at_return hret
  rcases hprog.settled rfl name.page hm with hr | ⟨y, hxy, hyz, rest, firstFailure, -, hse⟩
  · cases hr
  · have hxy := hxy.mono fun _ _ h => h.1
    have hi := inv_of_run ((h.path hxy).untrack fun _ _ h => h.1)
    rcases covered_of_path h hn hxy with hs | hw
    · exact isSynced_of_path hs (hyz.mono fun _ _ h => h.1)
    · exact absurd hse (hw.not_settled hi)

omit [Fintype T] [Fintype V] in
lemma returned_of_path {last : Outcome} (hpc : x.1.pc t = .idle last)
    (hp : Path (historySystem opts) (UntilReturn t) x z) : z.1.pc t = .idle last := by
  refine hp.invariant (I := fun y => y.1.pc t = .idle last) hpc ?_
  rintro y ⟨u, choice⟩ z hpc hok hs
  by_cases hu : u = t
  · have hidle := hok.2 hu
    rw [hpc] at hidle
    cases hidle
  · exact ((step_act (track_step.mp hs).1).others (Ne.symm hu)).trans hpc

section FlushAll

/-- A call of `FlushFile` or `FlushAll` that has not taken the mutex yet. -/
def Pc.flushCall : Pc N V → Option MatchingCaller
  | .flushFileCall file => some (.flushFile file)
  | .flushAllCall => some .flushAll
  | _ => none

omit [DecidableEq V] [NeZero N] [Fintype V] in
lemma Pc.flushCall_some {pc : Pc N V} (h : pc.flushCall = some matching) :
    (∃ file, pc = .flushFileCall file ∧ matching = .flushFile file) ∨
      pc = .flushAllCall ∧ matching = .flushAll := by
  cases pc
  case flushFileCall file =>
    cases h
    exact .inl ⟨file, rfl, rfl⟩
  case flushAllCall =>
    cases h
    exact .inr ⟨rfl, rfl⟩
  all_goals cases h

omit [DecidableEq V] [NeZero N] [Fintype V] in
lemma Pc.outcome_some {pc : Pc N V} {last : Outcome} (h : pc.outcome = some last) :
    pc = .idle last := by
  cases pc
  case idle => exact congrArg Pc.idle (Option.some.inj h)
  all_goals cases h

omit [DecidableEq V] [Fintype V] in
lemma Move.takes_snapshot {pool pool' : Pool N} {pc pc' : Pc N V}
    (hm : Move opts pool pc pool' pc') (h : pc.flushCall = some matching) :
    pc' = .flushMatching (dirtyPages pool matching.scope) (.ok ()) matching ∨
      ∃ error, pc' = .idle (matching.outcome (.error error)) := by
  rcases Pc.flushCall_some h with ⟨file, rfl, rfl⟩ | ⟨rfl, rfl⟩
  · cases hm with
    | quiet _ hq =>
      cases hq with
      | flushFileUnknown => exact .inr ⟨_, rfl⟩
      | flushFile => exact .inl rfl
    | fault hm => exact hm.elim
    | reserveVictim _ hpc => rcases hpc with ⟨n, hpc⟩ | ⟨v, hpc⟩ <;> cases hpc
  · cases hm with
    | quiet _ hq =>
      cases hq with
      | flushAll => exact .inl rfl
    | fault hm => exact hm.elim
    | reserveVictim _ hpc => rcases hpc with ⟨n, hpc⟩ | ⟨v, hpc⟩ <;> cases hpc

omit [DecidableEq T] [DecidableEq V] [NeZero N] [Fintype T] [Fintype V] in
lemma keepsDirty_of_flushCall (h : (x.1.pc t).flushCall = some matching) :
    KeepsDirty x (t, .run) := by
  refine ⟨?_, trivial⟩
  rw [ClosesAlone]
  split
  · rename_i hpc
    rw [show x.1.pc t = _ from hpc] at h
    cases h
  · trivial

/-- Every image that was dirty in the scope of a successful `FlushFile` or `FlushAll` when the call
took the mutex is synchronized when it returns, if no dirty page was being evicted then. -/
theorem flush_matching_complete (h : Run (historySystem opts) KeepsDirty x)
    (hcall : (x.1.pc t).flushCall = some matching)
    (hstep : (historySystem opts).step x (t, .run) = some y)
    (hevict : ∀ page entry, inScope matching.scope page = true →
      x.1.pool.pageTable.lookup page = some entry → entry.state = .evicting →
        (x.1.pool.frames entry.frameId).dirty = false)
    (hp : Path (historySystem opts) (UntilReturn t) y z)
    (hret : (z.1.pc t).outcome = some (matching.outcome (.ok ()))) :
    ∀ page entry, inScope matching.scope page = true →
      x.1.pool.pageTable.lookup page = some entry →
        entry.state = .resident ∨ entry.state = .evicting →
          (x.1.pool.frames entry.frameId).dirty = true →
            z.2.IsSynced ((x.1.pool.frames entry.frameId).imageName entry.frameId) := by
  intro page entry hin he hst hd
  rcases hst with hst | hst
  · have hi := inv_of_run (h.untrack fun _ _ h => h.1)
    obtain ⟨rfl, hs⟩ := hi.wellFormed.bound_resident he hst
    have hok := keepsDirty_of_flushCall hcall
    have hw : x.1.pool.Pending ((x.1.pool.frames entry.frameId).imageName entry.frameId) :=
      ⟨.inl hs, hd, .refl _⟩
    have hn := covered_of_path h (.inr hw) (.next .refl hok hstep)
    have ha : Act opts x.1 t .run y.1 := step_act (track_step.mp hstep).1
    have hcs : (criticalSection opts x.1.pool (x.1.pc t)).isSome = true := by
      rcases Pc.flushCall_some hcall with ⟨file, hpc, -⟩ | ⟨hpc, -⟩ <;> rw [hpc] <;> rfl
    have hm := (ha.moves hcs).resolve_left fun h => nomatch h.1
    have hret := Pc.outcome_some hret
    rcases hm.takes_snapshot hcall with hpc | ⟨error, hpc⟩
    · refine synced_at_return (.next h hok hstep) hpc hn ?_ hp hret
      rw [mem_dirtyPages]
      exact ⟨hin, entry, he, hst, hd⟩
    · have hpc' := returned_of_path hpc hp
      rw [hret] at hpc'
      simp only [Pc.idle.injEq] at hpc'
      cases outcome_injective hpc'
  · rw [hevict page entry hin he hst] at hd
    cases hd

end FlushAll

end Steps

section Sample

/-- A new page, released, and a call of `FlushAll` by another thread, which `busy` precedes. -/
def sampleFlushAll (busy : List (Bool × Choice Bool Unit)) : List (Bool × Choice Bool Unit) :=
  sampleRegister false 1 ++ sampleNewPage false 1 ++ sampleRelease false ++ busy ++
    [(true, .call .flushAll)]

/-- `NewPage` takes the only frame away from the new page, and has not written it yet. -/
def sampleEviction : List (Bool × Choice Bool Unit) :=
  [(false, .call (.newPage sampleFile sampleInitializer)), (false, .run), (false, .run),
    (false, .run)]

lemma sampleFlushAll_runs (evict : Bool) : (execute (historySystem sampleOptions) KeepsDirty
    ((World.initial sampleDisk, .initial sampleDisk) : World 1 Bool Unit × History 1)
    (sampleFlushAll (if evict then sampleEviction else []))).isSome := by
  cases evict <;> decide +kernel

def sampleFlushAllState (evict : Bool) : World 1 Bool Unit × History 1 :=
  Option.get _ (sampleFlushAll_runs evict)

lemma sampleFlushAll_run (evict : Bool) :
    Run (historySystem sampleOptions) KeepsDirty (sampleFlushAllState evict) :=
  (historyRun_initial sampleDisk).of_execute (sampleFlushAll_runs evict)

lemma sampleSnapshot_runs (evict : Bool) :
    ((historySystem sampleOptions).step (sampleFlushAllState evict) (true, .run)).isSome := by
  cases evict <;> decide +kernel

def sampleSnapshotState (evict : Bool) : World 1 Bool Unit × History 1 :=
  Option.get _ (sampleSnapshot_runs evict)

lemma sampleReturn_runs (evict : Bool) : (execute (historySystem sampleOptions) (UntilReturn true)
    (sampleSnapshotState evict) (if evict then [(true, .run)] else
      [(true, .run), (true, .run)] ++ sampleWriteback true ++ [(true, .run)])).isSome := by
  cases evict <;> decide +kernel

def sampleReturnState (evict : Bool) : World 1 Bool Unit × History 1 :=
  Option.get _ (sampleReturn_runs evict)

theorem flush_matching_complete_all : (sampleReturnState false).2.IsSynced
    (((sampleFlushAllState false).1.pool.frames 0).imageName 0) := by
  have hresident : (sampleFlushAllState false).1.pool.pageTable.entries.all
      (fun item => item.2.state == .resident) = true := by decide +kernel
  refine flush_matching_complete (sampleFlushAll_run false)
    (show ((sampleFlushAllState false).1.pc true).flushCall = some .flushAll by decide +kernel)
    (Option.some_get (sampleSnapshot_runs false)).symm (fun page entry _ he hs => ?_)
    (Path.of_execute (sampleReturn_runs false)) (by decide +kernel) ⟨sampleFile, 1⟩
    ⟨.resident, 0, none⟩ rfl (by decide +kernel) (.inl rfl) (by decide +kernel)
  have := (Table.all_entries _ fun _ entry => entry.state == .resident).mp hresident page entry he
  rw [hs] at this
  cases this

/-- `FlushAll` returns success without a write while the only dirty page is being evicted. -/
theorem flush_all_skips_evicting : ¬ ∀ (x y z : World 1 Bool Unit × History 1) (t : Bool) matching,
    Run (historySystem sampleOptions) KeepsDirty x → (x.1.pc t).flushCall = some matching →
      (historySystem sampleOptions).step x (t, .run) = some y →
        Path (historySystem sampleOptions) (UntilReturn t) y z →
          (z.1.pc t).outcome = some (matching.outcome (.ok ())) →
            ∀ page entry, inScope matching.scope page = true →
              x.1.pool.pageTable.lookup page = some entry →
                entry.state = .resident ∨ entry.state = .evicting →
                  (x.1.pool.frames entry.frameId).dirty = true →
                    z.2.IsSynced ((x.1.pool.frames entry.frameId).imageName entry.frameId) := by
  intro h
  have hsynced := h _ _ _ true .flushAll (sampleFlushAll_run true) (by decide +kernel)
    (Option.some_get (sampleSnapshot_runs true)).symm (Path.of_execute (sampleReturn_runs true))
    (by decide +kernel) ⟨sampleFile, 1⟩ ⟨.evicting, 0, none⟩ rfl (by decide +kernel) (.inr rfl)
    (by decide +kernel)
  obtain ⟨other, ho, -⟩ := hsynced
  have hnone : (sampleReturnState true).2.synced = [] := by decide +kernel
  rw [sampleReturnState] at hnone
  rw [hnone] at ho
  cases ho

end Sample

end DBlusBlus.BufferPool
