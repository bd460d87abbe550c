import DBlusBlus.Library.Codec

/-! Patterns of strings: each position holds one letter or stands for any. -/

namespace Pattern

variable {γ : Type} {p q : List (Option γ)} {s t : List γ} {k : ℕ} {z : γ}

def exact (t : List γ) : List (Option γ) := t.map some

def gap (k : ℕ) : List (Option γ) := List.replicate k none

/-- The instance of the pattern that has `z` in every gap. -/
def fill (z : γ) (p : List (Option γ)) : List γ := p.map (·.getD z)

def Fits : List (Option γ) → List γ → Prop
  | [], _ => True
  | _ :: _, [] => False
  | o :: p, x :: s => (∀ a ∈ o, x = a) ∧ Fits p s

@[simp] lemma length_exact : (exact t).length = t.length := List.length_map ..

@[simp] lemma length_gap : (gap k : List (Option γ)).length = k := List.length_replicate

@[simp] lemma length_fill : (fill z p).length = p.length := List.length_map ..

@[simp] lemma fill_append : fill z (p ++ q) = fill z p ++ fill z q := List.map_append ..

@[simp] lemma fill_exact : fill z (exact t) = t := by
  simp [fill, exact, Function.comp_def]

@[simp] lemma fill_gap : fill z (gap k) = List.replicate k z := by
  simp [fill, gap]

lemma exact_getElem? {i : ℕ} : (exact t)[i]? ≠ some none := by
  simp [exact]

lemma gap_getElem? {i : ℕ} : (gap k : List (Option γ))[i]? = some none ↔ i < k := by
  rw [gap, List.getElem?_replicate]
  split <;> simp [*]

lemma Fits.length_le (h : Fits p s) : p.length ≤ s.length := by
  induction p generalizing s with
  | nil => exact Nat.zero_le _
  | cons o p ih =>
    cases s with
    | nil => exact h.elim
    | cons x s => exact Nat.succ_le_succ (ih h.2)

lemma fits_append : Fits (p ++ q) s ↔ Fits p s ∧ Fits q (s.drop p.length) := by
  induction p generalizing s with
  | nil => simp [Fits]
  | cons o p ih =>
    cases s with
    | nil => simp [Fits]
    | cons x s =>
      simp only [List.cons_append, Fits, ih, List.length_cons, List.drop_succ_cons, and_assoc]

lemma fits_exact : Fits (exact t) s ↔ t <+: s := by
  induction t generalizing s with
  | nil => simp [exact, Fits]
  | cons a t ih =>
    cases s with
    | nil => simp [exact, Fits]
    | cons x s =>
      rw [List.cons_prefix_cons, ← ih]
      simp [exact, Fits, eq_comm]

lemma fits_gap : Fits (gap k) s ↔ k ≤ s.length := by
  induction k generalizing s with
  | zero => simp [gap, Fits]
  | succ k ih =>
    cases s with
    | nil => simp [gap, Fits, List.replicate_succ]
    | cons x s =>
      rw [List.length_cons, Nat.succ_le_succ_iff, ← ih]
      simp [gap, Fits, List.replicate_succ]

lemma fits_take (h : p.length ≤ k) : Fits p (s.take k) ↔ Fits p s := by
  induction p generalizing s k with
  | nil => simp [Fits]
  | cons o p ih =>
    obtain ⟨k, rfl⟩ : ∃ k', k = k' + 1 := ⟨k - 1, by simp at h; omega⟩
    cases s with
    | nil => simp
    | cons x s => rw [List.take_succ_cons, Fits, Fits, ih (Nat.le_of_succ_le_succ h)]

/-- A string as long as the pattern is an instance when it agrees with one outside the gaps. -/
lemma fits_iff_agrees (h : s.length = p.length) :
    Fits p s ↔ ∀ i : ℕ, p[i]? ≠ some none → s[i]? = (fill z p)[i]? := by
  induction p generalizing s with
  | nil =>
    obtain rfl := List.length_eq_zero_iff.mp h
    simp [Fits, fill]
  | cons o p ih =>
    cases s with
    | nil => cases h
    | cons x s =>
      rw [Fits, ih (Nat.succ.inj h)]
      constructor
      · rintro ⟨ho, hp⟩ i hi
        cases i with
        | zero =>
          cases o with
          | none => exact absurd rfl hi
          | some a => simp [fill, ho a rfl]
        | succ i => exact hp i hi
      · refine fun ha => ⟨fun a hoa => ?_, fun i hi => ha (i + 1) hi⟩
        obtain rfl := hoa
        simpa [fill] using ha 0 (by simp)

lemma fits_fill : Fits p (fill z p) :=
  (fits_iff_agrees length_fill).mpr fun _ _ => rfl

end Pattern
