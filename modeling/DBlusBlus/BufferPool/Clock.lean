import DBlusBlus.BufferPool.RetireOverlap

/-! The clock gives every referenced frame a second chance, and the pool takes only what it finds. -/

namespace DBlusBlus.BufferPool

open Transition

variable {N : ℕ} [NeZero N]

namespace ClockReplacer

section Sweep

variable {r s : ClockReplacer N} {eligible : Fin N → Bool} {i j k steps : ℕ}

def frameAt (r : ClockReplacer N) (k : ℕ) : Fin N := Fin.ofNat N (r.hand + k)

lemma frameAt_zero : r.frameAt 0 = r.hand := by
  rw [frameAt, Nat.add_zero, Fin.ofNat_val_eq_self]

lemma frameAt_succ : r.frameAt (k + 1) = r.frameAt k + 1 := by
  refine Fin.ext ?_
  rw [Fin.val_add, frameAt, frameAt, Fin.val_ofNat, Fin.val_ofNat, Fin.val_one', ← Nat.add_assoc,
    ← Nat.add_mod]

lemma frameAt_rotate : r.frameAt (N + k) = r.frameAt k := by
  refine Fin.ext ?_
  rw [frameAt, frameAt, Fin.val_ofNat, Fin.val_ofNat, Nat.add_left_comm, Nat.add_mod_left]

lemma exists_frameAt (r : ClockReplacer N) (f : Fin N) : ∃ k < N, r.frameAt k = f := by
  have hf := f.isLt
  have hh := r.hand.isLt
  by_cases h : r.hand.val ≤ f.val
  · refine ⟨f - r.hand, by omega, Fin.ext ?_⟩
    rw [frameAt, Fin.val_ofNat, Nat.add_sub_cancel' h, Nat.mod_eq_of_lt hf]
  · refine ⟨f + N - r.hand, by omega, Fin.ext ?_⟩
    rw [frameAt, Fin.val_ofNat, Nat.add_sub_cancel' (by omega), Nat.add_mod_right,
      Nat.mod_eq_of_lt hf]

lemma frameAt_inj (hi : i < N) (hj : j < N) (h : r.frameAt i = r.frameAt j) : i = j := by
  have hval := congrArg Fin.val h
  rw [frameAt, frameAt, Fin.val_ofNat, Fin.val_ofNat] at hval
  have hmod : i % N = j % N := Nat.ModEq.add_left_cancel' _ hval
  rwa [Nat.mod_eq_of_lt hi, Nat.mod_eq_of_lt hj] at hmod

/-- The replacer after a search has passed `k` frames. -/
structure Swept (r : ClockReplacer N) (eligible : Fin N → Bool) (k : ℕ) (s : ClockReplacer N) :
    Prop where
  referenced : ∀ f, s.referenced f = true ↔
    r.referenced f = true ∧ ¬ (eligible f = true ∧ ∃ i < k, r.frameAt i = f)
  hand : s.hand = r.frameAt k
  visits : s.lastPassVisits = k

/-- The search ends at its `k`-th frame, unless it has ended before. -/
def Stops (r : ClockReplacer N) (eligible : Fin N → Bool) (k : ℕ) : Prop :=
  eligible (r.frameAt k) = true ∧
    (r.referenced (r.frameAt k) = true → ∃ i < k, r.frameAt i = r.frameAt k)

lemma Swept.start : Swept r eligible 0 { r with lastPassVisits := 0 } where
  referenced f := by simp
  hand := frameAt_zero.symm
  visits := rfl

lemma Swept.pass {referenced : Fin N → Bool} (h : Swept r eligible k s)
    (hb : ∀ f, referenced f = true ↔
      s.referenced f = true ∧ ¬ (eligible f = true ∧ f = r.frameAt k)) :
    Swept r eligible (k + 1) ⟨referenced, s.hand + 1, s.lastPassVisits + 1⟩ where
  referenced f := by
    have hlast : (∃ i < k + 1, r.frameAt i = f) ↔ (∃ i < k, r.frameAt i = f) ∨ f = r.frameAt k := by
      constructor
      · rintro ⟨i, hi, rfl⟩
        rcases Nat.lt_succ_iff_lt_or_eq.mp hi with hi | rfl
        · exact .inl ⟨i, hi, rfl⟩
        · exact .inr rfl
      · rintro (⟨i, hi, rfl⟩ | rfl)
        · exact ⟨i, Nat.lt_succ_of_lt hi, rfl⟩
        · exact ⟨k, Nat.lt_succ_self k, rfl⟩
    rw [hb, h.referenced, hlast, and_assoc, ← not_or, ← and_or_left]
  hand := by rw [h.hand, frameAt_succ]
  visits := by rw [h.visits]

lemma Swept.stops (h : Swept r eligible k s) : Stops r eligible k ↔
    eligible (r.frameAt k) = true ∧ ¬ s.referenced (r.frameAt k) = true := by
  rw [Stops, h.referenced]
  constructor
  · rintro ⟨he, hb⟩
    exact ⟨he, fun hs => hs.2 ⟨he, hb hs.1⟩⟩
  · rintro ⟨he, hn⟩
    refine ⟨he, fun hr => ?_⟩
    by_contra hne
    exact hn ⟨hr, fun hs => hne hs.2⟩

/-- How a search ends that starts with its `k`-th frame. -/
inductive Sweep (r : ClockReplacer N) (eligible : Fin N → Bool) (k limit : ℕ) :
    Option (Fin N) × ClockReplacer N → Prop
  | none {s : ClockReplacer N} (h : ∀ i, k ≤ i → i < limit → ¬ Stops r eligible i)
    (hs : Swept r eligible limit s) :
    Sweep r eligible k limit (.none, s)
  | found {j : ℕ} {s : ClockReplacer N} (hk : k ≤ j) (hj : j < limit) (hstop : Stops r eligible j)
    (h : ∀ i, k ≤ i → i < j → ¬ Stops r eligible i) (hs : Swept r eligible (j + 1) s) :
    Sweep r eligible k limit (some (r.frameAt j), s)

lemma Sweep.earlier {limit : ℕ} {result : Option (Fin N) × ClockReplacer N}
    (h : Sweep r eligible (k + 1) limit result) (hk : ¬ Stops r eligible k) :
    Sweep r eligible k limit result := by
  have hskip (i : ℕ) (hi : k ≤ i) (hn : ¬ k + 1 ≤ i) : ¬ Stops r eligible i := by
    obtain rfl : i = k := by omega
    exact hk
  cases h with
  | none h hs =>
    refine .none (fun i hi => ?_) hs
    by_cases hn : k + 1 ≤ i
    · exact h i hn
    · exact fun _ => hskip i hi hn
  | found hj hl hstop h hs =>
    refine .found (Nat.le_of_succ_le hj) hl hstop (fun i hi => ?_) hs
    by_cases hn : k + 1 ≤ i
    · exact h i hn
    · exact fun _ => hskip i hi hn

theorem visit_sweep (h : Swept r eligible k s) :
    Sweep r eligible k (k + steps) (visit eligible steps s) := by
  induction steps generalizing k s with
  | zero => exact .none (fun i hi hn => absurd hn (by omega)) h
  | succ steps ih =>
    have hstops := h.stops
    have next {s' : ClockReplacer N} (hs : Swept r eligible (k + 1) s')
        (hn : ¬ Stops r eligible k) :
        Sweep r eligible k (k + (steps + 1)) (visit eligible steps s') := by
      refine Sweep.earlier ?_ hn
      rw [show k + (steps + 1) = k + 1 + steps by omega]
      exact ih hs
    rw [visit]
    dsimp only
    rw [h.hand]
    by_cases he : eligible (r.frameAt k) = true
    · rw [if_neg (by rw [he]; exact Bool.noConfusion)]
      by_cases hb : s.referenced (r.frameAt k) = true
      · rw [if_pos hb]
        refine next ?_ fun hs => (hstops.mp hs).2 hb
        rw [← h.hand]
        refine h.pass fun f => ?_
        dsimp only
        rw [h.hand]
        by_cases hf : f = r.frameAt k
        · rw [hf, Function.update_self]
          simp [he]
        · rw [Function.update_of_ne hf]
          simp [hf]
      · rw [if_neg hb]
        refine .found le_rfl (by omega) (hstops.mpr ⟨he, hb⟩) (fun i hi hn => ?_) ?_
        · exact absurd hn (Nat.not_lt.mpr hi)
        rw [← h.hand]
        refine h.pass fun f => ?_
        rw [iff_self_and]
        rintro hf ⟨-, rfl⟩
        exact hb hf
    · rw [if_pos (Bool.not_eq_true _ ▸ he)]
      refine next ?_ fun hs => he hs.1
      rw [← h.hand]
      refine h.pass fun f => ?_
      rw [iff_self_and]
      rintro - ⟨hf, rfl⟩
      exact he hf

lemma stops_first (hi : i < N) : Stops r eligible i ↔
    eligible (r.frameAt i) = true ∧ r.referenced (r.frameAt i) = false := by
  rw [Stops, ← Bool.not_eq_true]
  refine and_congr_right fun _ => ⟨fun h hr => ?_, fun h hr => absurd hr h⟩
  obtain ⟨j, hj, heq⟩ := h hr
  exact hj.ne (frameAt_inj (hj.trans hi) hi heq)

lemma stops_second (i : ℕ) : Stops r eligible (N + i) ↔ eligible (r.frameAt i) = true := by
  rw [Stops, frameAt_rotate, and_iff_left_iff_imp]
  exact fun _ _ => ⟨i, Nat.lt_add_of_pos_left (Nat.pos_of_neZero N), rfl⟩

/-- The frame with a second chance: the first eligible one without a reference, or else the first
eligible one. -/
inductive SecondChance (r : ClockReplacer N) (eligible : Fin N → Bool) :
    Option (Fin N) × ClockReplacer N → Prop
  | none {s : ClockReplacer N} (h : ∀ f, eligible f = false) (hb : s.referenced = r.referenced)
    (hh : s.hand = r.hand) (hv : s.lastPassVisits = 2 * N) : SecondChance r eligible (.none, s)
  | clear {k : ℕ} {s : ClockReplacer N} (hk : k < N) (he : eligible (r.frameAt k) = true)
    (hc : r.referenced (r.frameAt k) = false)
    (hfirst : ∀ i < k, eligible (r.frameAt i) = true → r.referenced (r.frameAt i) = true)
    (hb : ∀ f, s.referenced f = true ↔
      r.referenced f = true ∧ ¬ (eligible f = true ∧ ∃ i < k, r.frameAt i = f))
    (hh : s.hand = r.frameAt k + 1) (hv : s.lastPassVisits = k + 1) :
    SecondChance r eligible (some (r.frameAt k), s)
  | referenced {k : ℕ} {s : ClockReplacer N} (hk : k < N) (he : eligible (r.frameAt k) = true)
    (hr : ∀ f, eligible f = true → r.referenced f = true)
    (hfirst : ∀ i < k, eligible (r.frameAt i) = false)
    (hb : ∀ f, s.referenced f = true ↔ r.referenced f = true ∧ eligible f = false)
    (hh : s.hand = r.frameAt k + 1) (hv : s.lastPassVisits = N + k + 1) :
    SecondChance r eligible (some (r.frameAt k), s)

theorem findCandidate_secondChance (r : ClockReplacer N) (eligible : Fin N → Bool) :
    SecondChance r eligible (r.findCandidate eligible) := by
  have h : Sweep r eligible 0 (0 + 2 * N) (r.findCandidate eligible) := visit_sweep Swept.start
  rw [Nat.zero_add] at h
  generalize r.findCandidate eligible = result at h ⊢
  cases h with
  | none h hs =>
    have hnone (f : Fin N) : eligible f = false := by
      obtain ⟨k, hk, rfl⟩ := r.exists_frameAt f
      rw [← Bool.not_eq_true, ← stops_second k]
      exact h _ (Nat.zero_le _) (by omega)
    refine .none hnone (funext fun f => ?_) ?_ hs.visits
    · rw [Bool.eq_iff_iff, hs.referenced, hnone f]
      simp
    · rw [hs.hand, Nat.two_mul, frameAt_rotate]
      exact (frameAt_rotate (k := 0)).trans frameAt_zero
  | @found j s hk hj hstop h hs =>
    have hhand := hs.hand
    rw [frameAt_succ] at hhand
    by_cases hN : j < N
    · obtain ⟨he, hc⟩ := (stops_first hN).mp hstop
      refine .clear hN he hc (fun i hi hei => ?_) (fun f => ?_) hhand hs.visits
      · by_contra hr
        exact h i (Nat.zero_le i) hi ((stops_first (hi.trans hN)).mpr ⟨hei, Bool.not_eq_true _ ▸ hr⟩)
      · rw [hs.referenced]
        refine and_congr_right fun hr => not_congr (and_congr_right fun _ => ?_)
        constructor
        · rintro ⟨i, hi, rfl⟩
          rcases Nat.lt_succ_iff_lt_or_eq.mp hi with hi | rfl
          · exact ⟨i, hi, rfl⟩
          · rw [hc] at hr
            cases hr
        · rintro ⟨i, hi, rfl⟩
          exact ⟨i, Nat.lt_succ_of_lt hi, rfl⟩
    · obtain ⟨k, rfl⟩ := Nat.exists_eq_add_of_le (Nat.le_of_not_lt hN)
      have hkN : k < N := by omega
      have hall (f : Fin N) (he : eligible f = true) : r.referenced f = true := by
        obtain ⟨i, hi, rfl⟩ := r.exists_frameAt f
        by_contra hr
        exact h i (Nat.zero_le i) (by omega) ((stops_first hi).mpr ⟨he, Bool.not_eq_true _ ▸ hr⟩)
      rw [frameAt_rotate] at hhand ⊢
      refine .referenced hkN ((stops_second k).mp hstop) hall (fun i hi => ?_) (fun f => ?_) hhand
        hs.visits
      · rw [← Bool.not_eq_true, ← stops_second i]
        exact h _ (Nat.zero_le _) (by omega)
      · obtain ⟨i, hi, rfl⟩ := r.exists_frameAt f
        rw [hs.referenced, ← Bool.not_eq_true]
        exact and_congr_right fun _ => not_congr (and_iff_left ⟨i, by omega, rfl⟩)

end Sweep

end ClockReplacer

section Pool

variable {V : Type} {opts : BufferPoolOptions} {pool pool' : Pool N} {pc pc' : Pc N V}

def Pool.Replaceable (pool : Pool N) (f : Fin N) : Prop :=
  (pool.frames f).state = .resident ∧ (pool.frames f).pinCount = 0 ∧
    (pool.frames f).ioState = .none ∧
    ∃ entry, pool.files.lookup (pool.frames f).page.id.fileId = some entry ∧ entry.state = .active

def Pool.Reserves (pool pool' : Pool N) : Prop :=
  ∀ f, (pool'.frames f).state = .evicting →
    (pool.frames f).state = .evicting ∨ pool.Replaceable f

omit [NeZero N] in
lemma Pool.Reserves.of_frames (h : pool'.frames = pool.frames) : pool.Reserves pool' := by
  intro f hf
  rw [h] at hf
  exact .inl hf

omit [NeZero N] in
lemma Pool.Reserves.of_update {g : Fin N} {frame : BufferFrame}
    (h : pool'.frames = Function.update pool.frames g frame)
    (hs : frame.state = .evicting → (pool.frames g).state = .evicting ∨ pool.Replaceable g) :
    pool.Reserves pool' := by
  intro f hf
  rw [h] at hf
  by_cases hg : f = g
  · subst hg
    rw [Function.update_self] at hf
    exact hs hf
  · rw [Function.update_of_ne hg] at hf
    exact .inl hf

omit [NeZero N] in
lemma reserveVictim_reserves {f : Fin N} (replacer : ClockReplacer N)
    (he : isVictimEligible pool f = true) (requester : Requester) (victim : PageId) :
    pool.Reserves
      (reserveVictim { pool with replacer := replacer } requester f victim : Turn N V).pool := by
  rw [reserveVictim]
  dsimp only
  split
  · exact .of_update rfl fun _ => .inr ((isVictimEligible_iff f).mp he)
  · exact .of_update rfl fun _ => .inr ((isVictimEligible_iff f).mp he)

lemma acquireFrame_reserves (requester : Requester) (candidateNotified : Bool) :
    pool.Reserves (acquireFrame opts pool requester candidateNotified : Turn N V).pool := by
  rw [acquireFrame]
  split
  · exact .of_frames rfl
  · cases hc : pool.replacer.findCandidate (isVictimEligible pool) with
    | mk candidate replacer =>
      cases candidate with
      | none => exact .of_frames rfl
      | some f =>
        dsimp only
        split
        · exact .of_frames rfl
        · exact reserveVictim_reserves replacer (ClockReplacer.findCandidate_eligible hc) _ _

omit [NeZero N] in
lemma candidateObserved_reserves (requester : Requester) (f : Fin N) (victim : PageId) :
    pool.Reserves (candidateObserved pool requester f victim : Turn N V).pool := by
  rw [candidateObserved]
  split
  · exact .of_frames rfl
  · rename_i hn
    rw [not_or, Bool.not_eq_false] at hn
    exact reserveVictim_reserves pool.replacer hn.1 requester victim

omit [NeZero N] in
lemma finishFailed_reserves {pool' : Pool N} (file : FileId) (error : BufferError)
    (h : pool.Reserves pool') :
    pool.Reserves (finishFailed pool' file error : Turn N V).pool := by
  rw [finishFailed]
  split
  · exact h
  · exact h

lemma reserves_of_missing {turn : Turn N V} (hcs : criticalSection opts pool pc = some turn)
    (hm : Missing pool pc) : pool.Reserves turn.pool := by
  cases pc with
  | retireDrain file disposition =>
    obtain rfl := Option.some.inj hcs
    have hm : pool.files.lookup file = none := hm
    unfold retireDrain
    rw [hm]
    exact .of_frames rfl
  | acquireFrame requester candidateNotified =>
    obtain rfl := Option.some.inj hcs
    exact acquireFrame_reserves requester candidateNotified
  | candidateObserved requester f victim =>
    obtain rfl := Option.some.inj hcs
    exact candidateObserved_reserves requester f victim
  | frameAcquired requester f =>
    obtain rfl := Option.some.inj hcs
    cases requester with
    | fetch page mode load =>
      rw [frameAcquired]
      dsimp only
      split
      · exact .of_update rfl fun h => by cases h
      · split
        · exact .of_update rfl fun h => by cases h
        · exact .of_update rfl fun h => by cases h
    | newPage file init =>
      have hm : pool.files.lookup file = none := hm
      rw [frameAcquired, hm]
      exact .of_frames rfl
  | requestFailed requester error =>
    obtain rfl := Option.some.inj hcs
    cases requester with
    | fetch page mode load => exact .of_frames rfl
    | newPage file init => exact finishFailed_reserves file _ (.of_frames rfl)
  | finishLoad page mode load f read outcome =>
    obtain rfl := Option.some.inj hcs
    rw [finishLoad]
    split
    · exact .of_frames rfl
    · exact .of_update rfl fun h => by cases h
    · rw [publishLoad]
      dsimp only
      split
      · exact .of_update rfl fun h => by cases h
      · exact .of_update rfl fun h => by cases h
  | newPageReserved file init f pageNo =>
    obtain rfl := Option.some.inj hcs
    have hm : pool.files.lookup file = none := hm
    unfold newPageReserved
    split
    · exact finishFailed_reserves file _ (.of_frames rfl)
    · rw [hm]
      exact .of_frames rfl
  | newPageFinish page f built outcome =>
    obtain rfl := Option.some.inj hcs
    rw [newPageFinish]
    split
    · exact .of_frames rfl
    · split
      · exact finishFailed_reserves _ _ (.of_update rfl fun h => by cases h)
      · dsimp only
        split
        · exact .of_update rfl fun h => by cases h
        · exact .of_update rfl fun h => by cases h
  | finishWrite writer written =>
    cases writer with
    | evict requester f victim =>
      obtain rfl := Option.some.inj hcs
      cases written with
      | ok => exact .of_update (Function.update_idem ..) fun h => by cases h
      | error error =>
        have hm : pool.pageTable.lookup victim = none := hm
        rw [finishEviction]
        dsimp only
        split
        · exact .of_update rfl fun h => by cases h
        · exact .of_update rfl fun h => by cases h
    | flush => exact hm.elim
  | _ => exact hm.elim

lemma Move.reserves (hm : Move opts pool pc pool' pc') (hf : Missing pool pc → pool.Reserves pool') :
    pool.Reserves pool' := by
  cases hm with
  | fault hm => exact hf hm
  | reserveVictim replacer hpc he hl =>
    exact .of_update rfl fun _ => .inr ((isVictimEligible_iff _).mp he)
  | finishEviction => exact .of_update (Function.update_idem ..) fun h => by cases h
  | bindNew =>
    split
    all_goals exact .of_update rfl fun h => by cases h
  | _ => first
    | exact .of_frames rfl
    | exact .of_update rfl fun h => by cases h
    | exact .of_update rfl fun h => .inl h

lemma Move.requestFailed_from {requester : Requester} {error : BufferError}
    (hm : Move opts pool pc pool' (.requestFailed requester error)) :
    (∃ n, pc = .acquireFrame requester n) ∨
      ∃ writer cause, pc = .finishWrite writer (.error cause) ∧ error.code = cause.code := by
  generalize hpc : (Pc.requestFailed requester error : Pc N V) = pc' at hm
  cases hm with
  | quiet replacer hq =>
    cases hq with
    | noFrame =>
      cases hpc
      exact .inl ⟨_, rfl⟩
    | @matchingEnd status caller => cases caller <;> cases status <;> cases hpc
    | @flushSettled page caller => cases caller <;> cases hpc
    | @unpinNone f assignment => cases assignment <;> cases hpc
    | _ => cases hpc
  | restoreVictim =>
    cases hpc
    exact .inr ⟨_, _, rfl, rfl⟩
  | @failWriteback _ _ _ _ caller => cases caller <;> cases hpc
  | @unpin f assignment => cases assignment <;> cases hpc
  | _ => cases hpc

lemma acquireFrame_failed {requester requester' : Requester} {candidateNotified : Bool}
    {error : BufferError}
    (h : (acquireFrame opts pool requester candidateNotified : Turn N V).pc =
      .requestFailed requester' error) :
    pool.freeList = [] ∧ ∀ f, ¬ pool.Replaceable f := by
  rw [acquireFrame] at h
  split at h
  · cases h
  · rename_i hfree
    refine ⟨hfree, fun f hf => ?_⟩
    have hsearch := pool.replacer.findCandidate_secondChance (isVictimEligible pool)
    generalize pool.replacer.findCandidate (isVictimEligible pool) = result at h hsearch
    have taken (g : Fin N) (replacer : ClockReplacer N)
        (h : (if opts.observer && !candidateNotified then
          ⟨{ pool with replacer := replacer },
            .candidateObserved requester g (pool.frames g).page.id, .notify, false⟩
          else reserveVictim { pool with replacer := replacer } requester g
            (pool.frames g).page.id : Turn N V).pc = .requestFailed requester' error) : False := by
      split at h
      · cases h
      · rw [reserveVictim] at h
        dsimp only at h
        split at h <;> cases h
    cases hsearch with
    | none hnone =>
      have he := (isVictimEligible_iff f).mpr hf
      rw [hnone f] at he
      cases he
    | clear => exact taken _ _ h
    | referenced => exact taken _ _ h

end Pool

section Runs

variable {T V : Type} [DecidableEq T] [DecidableEq V] {opts : BufferPoolOptions}
  {w w' : World N T V} {t : T} {choice : Choice T V}

lemma reportsIo_of_run (h : Run (poolSystem opts) (fun _ _ => True) w) (t : T) :
    (w.pc t).ReportsIo := by
  refine pc_of_run ?_ ?_ h t
  · exact .of_quiet rfl (by simp)
  · intro w w' t choice ha
    exact ha.reportsIo

lemma Act.reserves (ha : Act opts w t choice w') : w.pool.Reserves w'.pool := by
  cases ha with
  | critical hlock hcs hm => exact hm.reserves (reserves_of_missing hcs)
  | grant | latchForCopy | copyImage | build | mutate | markDirty | release | assign | readPage =>
    exact .of_update rfl fun h => .inl h
  | _ => exact .of_frames rfl

lemma Act.noReplaceableFrame {requester : Requester} {error : BufferError}
    (ha : Act opts w t choice w') (hr : (w.pc t).ReportsIo) (hne : w.pc t ≠ w'.pc t)
    (hpc : w'.pc t = .requestFailed requester error) (hcode : error.code = .noReplaceableFrame) :
    w.pool.freeList = [] ∧ ∀ f, ¬ w.pool.Replaceable f := by
  cases ha with
  | @critical turn hlock hcs hm =>
    rw [World.finish_pc] at hpc
    rw [hpc] at hm
    rcases hm.requestFailed_from with ⟨n, hacquire⟩ | ⟨writer, cause, hwrite, hcause⟩
    · rw [hacquire] at hcs
      obtain rfl := Option.some.inj hcs
      exact acquireFrame_failed hpc
    · have hio := (hr.written writer cause hwrite).1
      rw [← hcause, hcode] at hio
      cases hio
  | call =>
    rw [World.setPc_pc] at hpc
    rename_i call _ _
    cases call with
    | registerFile file validator =>
      rw [startCall] at hpc
      split at hpc <;> cases hpc
    | _ => cases hpc
  | mutate | markDirty | move | noGuard | wake => exact absurd rfl hne
  | release | assign =>
    rw [releaseGuard_pc] at hpc
    cases hpc
  | written | writeFailed | extended => simp [World.setPc] at hpc
  | _ =>
    rw [World.setPc_pc] at hpc
    cases hpc

/-- The search is the second-chance one, it fails only when no frame can be taken, and only frames
that can be taken become victims. -/
theorem clock_search (opts : BufferPoolOptions) (T V : Type) [DecidableEq T] [DecidableEq V] :
    (∀ (r : ClockReplacer N) (eligible : Fin N → Bool),
      r.SecondChance eligible (r.findCandidate eligible)) ∧
    ∀ (w w' : World N T V) (t : T) (choice : Choice T V),
      Run (poolSystem opts) (fun _ _ => True) w → step opts w t choice = some w' →
      (∀ requester error, w.pc t ≠ w'.pc t → w'.pc t = .requestFailed requester error →
        error.code = .noReplaceableFrame →
          w.pool.freeList = [] ∧ ∀ f, ¬ w.pool.Replaceable f) ∧
      ∀ f, (w'.pool.frames f).state = .evicting →
        (w.pool.frames f).state = .evicting ∨ w.pool.Replaceable f := by
  refine ⟨ClockReplacer.findCandidate_secondChance, fun w w' t choice hr hs => ?_⟩
  have ha := step_act hs
  exact ⟨fun requester error hne hpc hcode =>
    ha.noReplaceableFrame (reportsIo_of_run hr t) hne hpc hcode, ha.reserves⟩

theorem clock_search_second :
    (ClockReplacer.findCandidate ⟨fun _ => true, 2, 0⟩ (· == (1 : Fin 3))).1 = some 1 ∧
      ClockReplacer.SecondChance ⟨fun _ => true, 2, 0⟩ (· == (1 : Fin 3))
        (ClockReplacer.findCandidate ⟨fun _ => true, 2, 0⟩ (· == 1)) :=
  ⟨by decide, (clock_search sampleOptions Bool Bool).1 _ _⟩

end Runs

end DBlusBlus.BufferPool
