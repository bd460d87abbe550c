import Mathlib.Algebra.BigOperators.Group.Finset.Basic
import Mathlib.Algebra.Order.BigOperators.Group.Finset
import Mathlib.Algebra.BigOperators.Ring.Finset
import Mathlib.Tactic.Ring

/-! Counting a resource over finitely many holders. A step of one holder moves units between that
holder and the shared state, so the total follows from the holder's own difference. -/

namespace Accounting

variable {T : Type*} [Fintype T] {f g : T → ℕ} {t u : T}

def total (f : T → ℕ) : ℕ := ∑ t, f t

lemma total_congr (h : ∀ t, f t = g t) : total f = total g :=
  Finset.sum_congr rfl fun t _ => h t

lemma total_eq_zero : total f = 0 ↔ ∀ t, f t = 0 := by
  simp [total]

lemma total_add (f g : T → ℕ) : total (fun t => f t + g t) = total f + total g :=
  Finset.sum_add_distrib

lemma exists_holder (h : 0 < total f) : ∃ t, 0 < f t := by
  by_contra! hn
  have := total_eq_zero.mpr fun t => Nat.le_zero.mp (hn t)
  omega

variable [DecidableEq T]

lemma total_split (f : T → ℕ) (t : T) :
    total f = f t + ∑ u ∈ Finset.univ.erase t, f u :=
  (Finset.add_sum_erase _ f (Finset.mem_univ t)).symm

lemma le_total (f : T → ℕ) (t : T) : f t ≤ total f := by
  rw [total_split f t]
  omega

lemma add_le_total (f : T → ℕ) (h : t ≠ u) : f t + f u ≤ total f := by
  have hu : u ∈ Finset.univ.erase t := by simp [Ne.symm h]
  have := Finset.single_le_sum (f := f) (fun _ _ => Nat.zero_le _) hu
  rw [total_split f t]
  omega

/-- Only `t` acts: the total moves by exactly what `t` gives up and takes. -/
lemma total_step (t : T) (h : ∀ u, u ≠ t → g u = f u) : total g + f t = total f + g t := by
  have hs : ∑ u ∈ Finset.univ.erase t, g u = ∑ u ∈ Finset.univ.erase t, f u :=
    Finset.sum_congr rfl fun u hu => h u (Finset.ne_of_mem_erase hu)
  rw [total_split f t, total_split g t, hs]
  omega

lemma holder_unique (h : total f ≤ 1) (ht : 0 < f t) (hu : 0 < f u) : t = u := by
  by_contra hne
  have := add_le_total f hne
  omega

lemma total_eq_one : total f = 1 ↔ ∃ t, f t = 1 ∧ ∀ u, u ≠ t → f u = 0 := by
  constructor
  · intro h
    obtain ⟨t, ht⟩ := exists_holder (f := f) (by omega)
    refine ⟨t, ?_, ?_⟩
    · have := le_total f t
      omega
    · intro u hu
      have := add_le_total f hu
      omega
  · rintro ⟨t, ht, hu⟩
    have := total_split f t
    rw [Finset.sum_eq_zero (fun u h => hu u (Finset.ne_of_mem_erase h))] at this
    omega

def unit (p : Prop) [Decidable p] : ℕ := if p then 1 else 0

section Unit

variable {p : Prop} [Decidable p]

@[simp] lemma unit_of (h : p) : unit p = 1 := if_pos h

@[simp] lemma unit_of_not (h : ¬ p) : unit p = 0 := if_neg h

@[simp] lemma unit_pos : 0 < unit p ↔ p := by
  by_cases h : p <;> simp [h]

lemma unit_congr {q : Prop} [Decidable q] (h : p ↔ q) : unit p = unit q := if_congr h rfl rfl

lemma unit_le_one : unit p ≤ 1 := by
  by_cases h : p <;> simp [h]

end Unit

section Balanced

variable {H R : Type*} [Fintype H] [DecidableEq R]
variable {hold hold' : H → List R} {due due' : R → ℕ} {r : R} {x y : H}

/-- Every unit that is due is in exactly one holder's list. -/
def Balanced (hold : H → List R) (due : R → ℕ) : Prop :=
  ∀ r, total (fun x => (hold x).count r) = due r

namespace Balanced

lemma holder (h : Balanced hold due) (hr : 0 < due r) : ∃ x, r ∈ hold x := by
  rw [← h r] at hr
  obtain ⟨x, hx⟩ := exists_holder hr
  exact ⟨x, List.count_pos_iff.mp hx⟩

variable [DecidableEq H]

lemma pos (h : Balanced hold due) (hx : r ∈ hold x) : 0 < due r := by
  rw [← h r]
  exact (List.count_pos_iff.mpr hx).trans_le (le_total (fun x => (hold x).count r) x)

lemma unique (h : Balanced hold due) (hr : due r ≤ 1) (hx : r ∈ hold x) (hy : r ∈ hold y) :
    x = y := by
  rw [← h r] at hr
  exact holder_unique hr (List.count_pos_iff.mpr hx) (List.count_pos_iff.mpr hy)

lemma step (h : Balanced hold due) (x : H) (hne : ∀ y, y ≠ x → hold' y = hold y)
    (hx : ∀ r, due' r + (hold x).count r = due r + (hold' x).count r) :
    Balanced hold' due' := by
  intro r
  have hs := total_step (f := fun y => (hold y).count r) (g := fun y => (hold' y).count r) x
    fun y hy => by rw [hne y hy]
  have := h r
  have := hx r
  omega

lemma step₂ (h : Balanced hold due) (hxy : x ≠ y)
    (hne : ∀ z, z ≠ x → z ≠ y → hold' z = hold z)
    (hx : ∀ r, due' r + (hold x).count r + (hold y).count r =
      due r + (hold' x).count r + (hold' y).count r) :
    Balanced hold' due' := by
  let mid := Function.update hold x (hold' x)
  have hm : Balanced mid fun r => total fun z => (mid z).count r := fun _ => rfl
  refine hm.step y (fun z hz => ?_) fun r => ?_
  · by_cases hzx : z = x
    · subst hzx
      simp [mid]
    · simp [mid, hzx, hne z hzx hz]
  · have hs := total_step (f := fun z => (hold z).count r) (g := fun z => (mid z).count r) x
      fun z hz => by simp [mid, hz]
    have := h r
    have := hx r
    simp only [mid, Function.update_self, Function.update_of_ne hxy.symm] at hs ⊢
    omega

omit [DecidableEq H]

lemma count_exchange {a : R} {bs : List R} (ha : a ∉ bs) (l : List R) :
    (l.flatMap fun r => if r = a then bs else [r]).count r =
      if r = a then 0 else l.count r + bs.count r * l.count a := by
  induction l with
  | nil => simp
  | cons b l ih =>
    rw [List.flatMap_cons, List.count_append, ih]
    by_cases hb : b = a
    · subst hb
      by_cases hr : r = b
      · subst hr
        simp [List.count_eq_zero_of_not_mem ha]
      · simp [hr, Ne.symm hr]
        ring
    · by_cases hr : r = a
      · subst hr
        simp [hb]
      · simp [hr, hb, List.count_cons]
        ring

lemma exchange_self {a : R} {bs l : List R} (ha : a ∉ l) :
    (l.flatMap fun r => if r = a then bs else [r]) = l := by
  induction l with
  | nil => rfl
  | cons b l ih =>
    simp only [List.mem_cons, not_or] at ha
    rw [List.flatMap_cons, ih ha.2, if_neg (Ne.symm ha.1)]
    rfl

lemma exchange (h : Balanced hold due) {a : R} {bs : List R} (ha : a ∉ bs)
    (hhold : ∀ x, hold' x = (hold x).flatMap fun r => if r = a then bs else [r])
    (hdue : ∀ r, due' r = if r = a then 0 else due r + bs.count r * due a) :
    Balanced hold' due' := by
  intro r
  rw [hdue]
  simp only [hhold, count_exchange ha]
  by_cases hr : r = a
  · simp [hr, total]
  · simp only [hr, if_false]
    rw [total_add, h r, ← h a, total, total, Finset.mul_sum]

@[simp] lemma count_cons_unit (a : R) (l : List R) :
    (a :: l).count r = unit (a = r) + l.count r := by
  by_cases h : a = r
  · subst h
    simp [Nat.add_comm]
  · simp [h]

end Balanced

end Balanced

end Accounting
