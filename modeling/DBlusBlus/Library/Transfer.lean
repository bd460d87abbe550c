import Mathlib.Data.Int.Notation
import Mathlib.Data.List.Basic
import Mathlib.Order.Basic

/-! Moving a number of units by calls that may move fewer, be interrupted or fail. -/

namespace Transfer

variable {σ ε : Type*}

inductive Outcome
  | done (count : ℕ)
  | failed (errno : ℤ)
deriving DecidableEq

/-- `moving` waits for the call at a position, after so many units. -/
inductive Progress (ε : Type*)
  | moving (transferred position : ℕ)
  | returned (result : Except ε Unit)

structure Mover (σ ε : Type*) where
  total : ℕ
  interrupted : ℤ
  position : ℕ → Except ε ℕ
  accepted : σ → ℕ → ℕ → ℕ
  accepted_le : ∀ s position count, accepted s position count ≤ count
  move : σ → ℕ → ℕ → ℕ → σ
  stalled : ℕ → ε
  failed : ℤ → ε

/-- Outcomes after which a call is not simply made again. -/
def effective (interrupted : ℤ) (outcomes : List Outcome) : List Outcome :=
  outcomes.filter fun o => o ≠ .failed interrupted

lemma foldl_rank {τ : Type*} {step : τ → Outcome → τ} {interrupted : ℤ} (rank : τ → ℕ)
    (hstay : ∀ x, step x (.failed interrupted) = x)
    (hlose : ∀ x o, o ≠ .failed interrupted → rank (step x o) ≤ rank x - 1) (x : τ)
    (outcomes : List Outcome) :
    rank (outcomes.foldl step x) ≤ rank x - (effective interrupted outcomes).length := by
  induction outcomes generalizing x with
  | nil => exact Nat.le_refl _
  | cons o outcomes ih =>
    rw [List.foldl_cons]
    by_cases hi : o = .failed interrupted
    · rw [hi, hstay, effective, List.filter_cons_of_neg (by simp)]
      exact ih x
    · rw [effective, List.filter_cons_of_pos (by simpa using hi), List.length_cons]
      have h := ih (step x o)
      have := hlose x o hi
      rw [effective] at h
      omega

namespace Mover

variable (m : Mover σ ε)

def enter (transferred : ℕ) : Progress ε :=
  if transferred < m.total then
    match m.position transferred with
    | .error e => .returned (.error e)
    | .ok position => .moving transferred position
  else .returned (.ok ())

def step : Progress ε × σ → Outcome → Progress ε × σ
  | (.returned result, s), _ => (.returned result, s)
  | (.moving transferred position, s), .failed errno =>
    if errno = m.interrupted then (.moving transferred position, s)
    else (.returned (.error (m.failed errno)), s)
  | (.moving transferred position, s), .done count =>
    let moved := m.accepted s position (min count (m.total - transferred))
    if moved = 0 then (.returned (.error (m.stalled transferred)), s)
    else (m.enter (transferred + moved), m.move s transferred position moved)

def run (s : σ) (outcomes : List Outcome) : Progress ε × σ :=
  outcomes.foldl m.step (m.enter 0, s)

/-- `I` speaks of a number of units moved, and every call that moves some keeps it. -/
def Keeps (I : ℕ → σ → Prop) : Prop :=
  ∀ transferred position count s, I transferred s → transferred < m.total →
    m.position transferred = .ok position → count ≤ m.total - transferred →
    0 < m.accepted s position count →
    I (transferred + m.accepted s position count)
      (m.move s transferred position (m.accepted s position count))

/-- The errors that may end a transfer after so many units. -/
def Ends (transferred : ℕ) (e : ε) : Prop :=
  m.position transferred = .error e ∨ e = m.stalled transferred ∨
    ∃ errno, errno ≠ m.interrupted ∧ e = m.failed errno

def Holds (I : ℕ → σ → Prop) : Progress ε × σ → Prop
  | (.moving transferred position, s) =>
    transferred < m.total ∧ m.position transferred = .ok position ∧ I transferred s
  | (.returned (.ok ()), s) => I m.total s
  | (.returned (.error e), s) =>
    ∃ transferred, transferred < m.total ∧ I transferred s ∧ m.Ends transferred e

variable {m} {I : ℕ → σ → Prop} {s : σ} {transferred : ℕ} {x : Progress ε × σ} {o : Outcome}

lemma holds_enter (h : I transferred s) (hle : transferred ≤ m.total) :
    m.Holds I (m.enter transferred, s) := by
  rw [enter]
  split
  · rename_i hlt
    split
    · rename_i e he
      exact ⟨transferred, hlt, h, .inl he⟩
    · rename_i position hp
      exact ⟨hlt, hp, h⟩
  · obtain rfl : transferred = m.total := by omega
    exact h

lemma Holds.step (hI : m.Keeps I) (h : m.Holds I x) : m.Holds I (m.step x o) := by
  obtain ⟨progress, s⟩ := x
  cases progress with
  | returned result => exact h
  | moving transferred position =>
    obtain ⟨hlt, hp, hi⟩ := h
    cases o with
    | failed errno =>
      simp only [Mover.step]
      split
      · exact ⟨hlt, hp, hi⟩
      · rename_i hne
        exact ⟨transferred, hlt, hi, .inr (.inr ⟨errno, hne, rfl⟩)⟩
    | done count =>
      simp only [Mover.step]
      split
      · exact ⟨transferred, hlt, hi, .inr (.inl rfl)⟩
      · rename_i hne
        have hle := m.accepted_le s position (min count (m.total - transferred))
        refine holds_enter (hI _ _ _ _ hi hlt hp (by omega) (by omega)) ?_
        omega

lemma holds_run (hI : m.Keeps I) (h₀ : I 0 s) (outcomes : List Outcome) :
    m.Holds I (m.run s outcomes) :=
  List.foldlRecOn outcomes _ (holds_enter h₀ (Nat.zero_le _)) fun _ h _ _ => h.step hI

/-- How many effective outcomes a transfer can still take. -/
def rank (m : Mover σ ε) : Progress ε → ℕ
  | .moving transferred _ => m.total - transferred - 1 + 1
  | .returned _ => 0

lemma returned_of_rank {progress : Progress ε} (h : m.rank progress = 0) :
    ∃ result, progress = .returned result := by
  cases progress with
  | moving transferred position => cases h
  | returned result => exact ⟨result, rfl⟩

lemma rank_enter (transferred : ℕ) : m.rank (m.enter transferred) ≤ m.total - transferred := by
  rw [enter]
  split
  · split
    · exact Nat.zero_le _
    · rw [rank]
      omega
  · exact Nat.zero_le _

lemma step_interrupted (x : Progress ε × σ) : m.step x (.failed m.interrupted) = x := by
  obtain ⟨progress, s⟩ := x
  cases progress with
  | returned result => rfl
  | moving transferred position => exact if_pos rfl

lemma rank_step (x : Progress ε × σ) (o : Outcome) (ho : o ≠ .failed m.interrupted) :
    m.rank (m.step x o).1 ≤ m.rank x.1 - 1 := by
  obtain ⟨progress, s⟩ := x
  cases progress with
  | returned result => exact Nat.zero_le _
  | moving transferred position =>
    cases o with
    | failed errno =>
      rw [step, if_neg fun h => ho (congrArg _ h)]
      exact Nat.zero_le _
    | done count =>
      simp only [step]
      split
      · exact Nat.zero_le _
      · have := m.rank_enter
          (transferred + m.accepted s position (min count (m.total - transferred)))
        dsimp only
        rw [rank.eq_1 m transferred]
        omega

/-- A transfer is over after as many effective outcomes as it has units. -/
theorem run_returned {outcomes : List Outcome} (s : σ)
    (h : m.total ≤ (effective m.interrupted outcomes).length) :
    ∃ result, (m.run s outcomes).1 = .returned result := by
  have hrank : m.rank (m.run s outcomes).1 ≤
      m.rank (m.enter 0) - (effective m.interrupted outcomes).length :=
    foldl_rank (fun x => m.rank x.1) step_interrupted rank_step _ outcomes
  have := m.rank_enter 0
  have hzero : m.rank (m.run s outcomes).1 = 0 := by omega
  exact returned_of_rank hzero

end Mover

end Transfer
