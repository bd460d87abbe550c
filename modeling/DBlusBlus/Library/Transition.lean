import Mathlib.Data.Nat.Notation
import Mathlib.Logic.Relation
import Mathlib.Tactic.ByContra

/-! Labelled transition systems, their runs under a step condition, and the invariant rules. -/

namespace Transition

variable {σ α η : Type*}

structure System (σ α : Type*) where
  initial : σ → Prop
  step : σ → α → Option σ

/-- States reached by runs whose every step is allowed by `ok`. -/
inductive Run (S : System σ α) (ok : σ → α → Prop) : σ → Prop
  | start {s} : S.initial s → Run S ok s
  | next {s a s'} : Run S ok s → ok s a → S.step s a = some s' → Run S ok s'

inductive Path (S : System σ α) (ok : σ → α → Prop) (s : σ) : σ → Prop
  | refl : Path S ok s s
  | next {t a t'} : Path S ok s t → ok t a → S.step t a = some t' → Path S ok s t'

variable {S : System σ α} {ok ok' : σ → α → Prop} {s s' : σ}

lemma Run.path (h : Run S ok s) (hp : Path S ok s s') : Run S ok s' := by
  induction hp with
  | refl => exact h
  | next _ ha hs ih => exact .next ih ha hs

lemma Run.mono (h : Run S ok s) (hok : ∀ s a, ok s a → ok' s a) : Run S ok' s := by
  induction h with
  | start hi => exact .start hi
  | next _ ha hs ih => exact .next ih (hok _ _ ha) hs

/-- The conditions of a run may be traded for what runs to its states say. -/
lemma Run.mono_of_run (h : Run S ok s) (hok : ∀ s a, Run S ok s → ok s a → ok' s a) :
    Run S ok' s := by
  induction h with
  | start hi => exact .start hi
  | next hr ha hs ih => exact .next ih (hok _ _ hr ha) hs

lemma Run.invariant {I : σ → Prop} (h : Run S ok s) (h₀ : ∀ s, S.initial s → I s)
    (hstep : ∀ s a s', I s → ok s a → S.step s a = some s' → I s') : I s := by
  induction h with
  | start hi => exact h₀ _ hi
  | next _ ha hs ih => exact hstep _ _ _ ih ha hs

/-- An invariant may use that the state before the step is itself reached. -/
lemma Run.invariant_of_run {I : σ → Prop} (h : Run S ok s) (h₀ : ∀ s, S.initial s → I s)
    (hstep : ∀ s a s', Run S ok s → I s → ok s a → S.step s a = some s' → I s') : I s := by
  induction h with
  | start hi => exact h₀ _ hi
  | next hr ha hs ih => exact hstep _ _ _ hr ih ha hs

lemma Path.invariant {I : σ → Prop} (h : Path S ok s s') (hs : I s)
    (hstep : ∀ s a s', I s → ok s a → S.step s a = some s' → I s') : I s' := by
  induction h with
  | refl => exact hs
  | next _ ha he ih => exact hstep _ _ _ ih ha he

lemma Path.invariant_of_path {I : σ → Prop} (h : Path S ok s s') (hs : I s)
    (hstep : ∀ t a t', Path S ok s t → I t → ok t a → S.step t a = some t' → I t') : I s' := by
  induction h with
  | refl => exact hs
  | next hp ha he ih => exact hstep _ _ _ hp ih ha he

lemma Path.mono (h : Path S ok s s') (hok : ∀ s a, ok s a → ok' s a) : Path S ok' s s' := by
  induction h with
  | refl => exact .refl
  | next _ ha hs ih => exact .next ih (hok _ _ ha) hs

lemma Path.trans {t : σ} (h : Path S ok s t) (h' : Path S ok t s') : Path S ok s s' := by
  induction h' with
  | refl => exact h
  | next _ ha hs ih => exact .next ih ha hs

lemma Path.mono_of_run {okr : σ → α → Prop} (hr : Run S okr s) (h : Path S ok s s')
    (hokr : ∀ s a, ok s a → okr s a) (hok : ∀ s a, Run S okr s → ok s a → ok' s a) :
    Path S ok' s s' := by
  induction h with
  | refl => exact .refl
  | next hp ha hs ih => exact .next ih (hok _ _ (hr.path (hp.mono hokr)) ha) hs

/-- Some state between the two, ends included, has the property. -/
def Along (S : System σ α) (ok : σ → α → Prop) (s s' : σ) (P : σ → Prop) : Prop :=
  ∃ t, Path S ok s t ∧ Path S ok t s' ∧ P t

lemma Along.here {P : σ → Prop} (h : Path S ok s s') (hp : P s') : Along S ok s s' P :=
  ⟨s', h, .refl, hp⟩

lemma Along.next {P : σ → Prop} {t : σ} {a : α} (h : Along S ok s s' P) (ha : ok s' a)
    (hs : S.step s' a = some t) : Along S ok s t P := by
  obtain ⟨u, hu, hu', hp⟩ := h
  exact ⟨u, hu, .next hu' ha hs, hp⟩

/-- Runs a list of labels, checking the condition before each step. -/
def execute (S : System σ α) (ok : σ → α → Prop) [∀ s a, Decidable (ok s a)] :
    σ → List α → Option σ
  | s, [] => some s
  | s, a :: as => if ok s a then (S.step s a).bind fun s' => execute S ok s' as else none

lemma Run.execute [∀ s a, Decidable (ok s a)] {as : List α} (h : Run S ok s)
    (he : Transition.execute S ok s as = some s') : Run S ok s' := by
  induction as generalizing s with
  | nil =>
    obtain rfl := Option.some.inj he
    exact h
  | cons a as ih =>
    simp only [Transition.execute] at he
    split at he
    · rename_i ha
      obtain ⟨t, ht, he⟩ := Option.bind_eq_some_iff.mp he
      exact ih (.next h ha ht) he
    · cases he

lemma Run.of_execute [∀ s a, Decidable (ok s a)] {as : List α} (h : Run S ok s)
    (he : (Transition.execute S ok s as).isSome) :
    Run S ok ((Transition.execute S ok s as).get he) :=
  h.execute (Option.some_get he).symm

lemma Path.of_execute [∀ s a, Decidable (ok s a)] {as : List α}
    (he : (Transition.execute S ok s as).isSome) :
    Path S ok s ((Transition.execute S ok s as).get he) := by
  have reach {as : List α} {t s' : σ} (h : Path S ok s t)
      (he : Transition.execute S ok t as = some s') : Path S ok s s' := by
    induction as generalizing t with
    | nil =>
      obtain rfl := Option.some.inj he
      exact h
    | cons a as ih =>
      simp only [Transition.execute] at he
      split at he
      · rename_i ha
        obtain ⟨u, hu, he⟩ := Option.bind_eq_some_iff.mp he
        exact ih (.next h ha hu) he
      · cases he
  exact reach .refl (Option.some_get he).symm

section Measure

variable {I : σ → Prop} {μ : σ → ℕ}

/-- Allowed steps keep the invariant and lower the measure. -/
def Lowers (S : System σ α) (ok : σ → α → Prop) (I : σ → Prop) (μ : σ → ℕ) : Prop :=
  ∀ s a s', I s → ok s a → S.step s a = some s' → I s' ∧ μ s' < μ s

lemma Lowers.length_le [∀ s a, Decidable (ok s a)] (h : Lowers S ok I μ) (hs : I s)
    {as : List α} (he : Transition.execute S ok s as = some s') : as.length ≤ μ s := by
  induction as generalizing s with
  | nil => exact Nat.zero_le _
  | cons a as ih =>
    simp only [Transition.execute] at he
    split at he
    · rename_i ha
      obtain ⟨t, ht, he⟩ := Option.bind_eq_some_iff.mp he
      obtain ⟨hI, hμ⟩ := h s a t hs ha ht
      exact Nat.le_trans (Nat.succ_le_succ (ih hI he)) hμ
    · cases he

lemma Lowers.invariant (h : Lowers S ok I μ) (hs : I s) (hp : Path S ok s s') : I s' :=
  Path.invariant hp hs fun t a t' ht ha he => (h t a t' ht ha he).1

/-- Some path ends where no allowed step is left. -/
lemma Lowers.exists_end (h : Lowers S ok I μ) (hs : I s) :
    ∃ s', Path S ok s s' ∧ ∀ a, ok s' a → S.step s' a = none := by
  by_contra! hnever
  have longer (n : ℕ) : ∃ s', Path S ok s s' ∧ μ s' + n ≤ μ s := by
    induction n with
    | zero => exact ⟨s, .refl, Nat.le_refl _⟩
    | succ n ih =>
      obtain ⟨t, hp, hn⟩ := ih
      obtain ⟨a, ha, he⟩ := hnever t hp
      obtain ⟨t', he⟩ := Option.ne_none_iff_exists'.mp he
      have hlt := (h t a t' (h.invariant hs hp) ha he).2
      exact ⟨t', .next hp ha he, by omega⟩
  obtain ⟨s', -, hle⟩ := longer (μ s + 1)
  omega

end Measure

/-- The system together with a record of its past, which the steps never read. -/
def System.track (S : System σ α) (h₀ : σ → η) (record : η → σ → α → σ → η) :
    System (σ × η) α where
  initial x := S.initial x.1 ∧ x.2 = h₀ x.1
  step x a := (S.step x.1 a).map fun s' => (s', record x.2 x.1 a s')

variable {h₀ : σ → η} {record : η → σ → α → σ → η} {x x' : σ × η} {a : α}

lemma track_step : (S.track h₀ record).step x a = some x' ↔
    S.step x.1 a = some x'.1 ∧ x'.2 = record x.2 x.1 a x'.1 := by
  simp only [System.track, Option.map_eq_some_iff, Prod.ext_iff]
  constructor
  · rintro ⟨t, ht, rfl, hx⟩
    exact ⟨ht, hx.symm⟩
  · rintro ⟨ht, hx⟩
    exact ⟨_, ht, rfl, hx.symm⟩

lemma Run.untrack {okx : σ × η → α → Prop} (h : Run (S.track h₀ record) okx x)
    (hok : ∀ x a, okx x a → ok x.1 a) : Run S ok x.1 := by
  induction h with
  | start hi => exact .start hi.1
  | next _ ha hs ih => exact .next ih (hok _ _ ha) (track_step.mp hs).1

/-- A run seen through a map of the states that every step respects. -/
lemma Run.image {τ β : Type*} {S' : System τ β} {ok' : τ → β → Prop} (p : σ → τ) (l : σ → α → β)
    (hi : ∀ s, S.initial s → S'.initial (p s))
    (hs : ∀ s a s', S.step s a = some s' → S'.step (p s) (l s a) = some (p s'))
    (hok : ∀ s a, ok s a → ok' (p s) (l s a)) (h : Run S ok s) : Run S' ok' (p s) := by
  induction h with
  | start h => exact .start (hi _ h)
  | next _ ha he ih => exact .next ih (hok _ _ ha) (hs _ _ _ he)

/-- The part of a condition that reads the label alone is checked on the labels. -/
lemma Run.of_execute_labels [∀ s a, Decidable (ok s a)] {okl : α → Prop} {as : List α}
    (h : Run S (fun s a => ok s a ∧ okl a) s) (hl : ∀ a ∈ as, okl a)
    (he : Transition.execute S ok s as = some s') : Run S (fun s a => ok s a ∧ okl a) s' := by
  induction as generalizing s with
  | nil =>
    obtain rfl := Option.some.inj he
    exact h
  | cons a as ih =>
    simp only [Transition.execute] at he
    split at he
    · rename_i ha
      obtain ⟨t, ht, he⟩ := Option.bind_eq_some_iff.mp he
      exact ih (.next h ⟨ha, hl a (List.mem_cons_self ..)⟩ ht)
        (fun b hb => hl b (List.mem_cons_of_mem _ hb)) he
    · cases he

/-- Every run of the system carries a record. -/
lemma Run.tracked (h : Run S ok s) (h₀ : σ → η) (record : η → σ → α → σ → η) :
    ∃ e, Run (S.track h₀ record) (fun x a => ok x.1 a) (s, e) := by
  induction h with
  | @start s hi => exact ⟨h₀ s, .start ⟨hi, rfl⟩⟩
  | @next s a s' _ ha hs ih =>
    obtain ⟨e, he⟩ := ih
    exact ⟨record e s a s', .next (a := a) he ha (track_step.mpr ⟨hs, rfl⟩)⟩

end Transition
