import Mathlib

/-! Shift registers with linear feedback over the field of two elements: what the register cannot
take back to zero. -/

namespace Register

open Finset

variable {n : ℕ}

/-- The contents of a register, the bit that leaves it next at index zero. -/
abbrev Word (n : ℕ) := Fin (n + 1) → ZMod 2

def shifted (r : Word n) : Word n := Fin.lastCases 0 fun i => r i.succ

@[simp] lemma shifted_last (r : Word n) : shifted r (Fin.last n) = 0 := Fin.lastCases_last

@[simp] lemma shifted_castSucc (r : Word n) (i : Fin n) : shifted r i.castSucc = r i.succ :=
  Fin.lastCases_castSucc ..

/-- One step: the register shifts, and the bit that leaves it is fed back at the taps. -/
def step (taps : Word n) : Module.End (ZMod 2) (Word n) where
  toFun r := shifted r + r 0 • taps
  map_add' r s := by
    funext i
    cases i using Fin.lastCases <;> simp <;> ring
  map_smul' c r := by
    funext i
    cases i using Fin.lastCases <;> simp <;> ring

def one : Word n := Pi.single 0 1

/-- What the register holds after bits were fed in, each so many steps ago. -/
def syndrome (taps : Word n) (ages : Finset ℕ) : Word n := ∑ age ∈ ages, (step taps ^ age) one

variable {taps r s : Word n} {ages : Finset ℕ} {a b m : ℕ}

lemma step_apply (r : Word n) : step taps r = shifted r + r 0 • taps := rfl

lemma step_single_succ (j : Fin n) :
    step taps (Pi.single j.succ 1) = Pi.single j.castSucc 1 := by
  rw [step_apply, Pi.single_eq_of_ne (Fin.succ_ne_zero j).symm, zero_smul, add_zero]
  funext i
  cases i using Fin.lastCases with
  | last => rw [shifted_last, Pi.single_eq_of_ne (Fin.castSucc_lt_last j).ne']
  | cast i =>
    rw [shifted_castSucc, Pi.single_apply, Pi.single_apply]
    exact if_congr (Fin.succ_inj.trans Fin.castSucc_inj.symm) rfl rfl

lemma pow_single (j : Fin (n + 1)) : (step taps ^ j.val) (Pi.single j 1) = one := by
  induction j using Fin.induction with
  | zero => rfl
  | succ j ih =>
    rw [Fin.val_succ, pow_succ, Module.End.mul_apply, step_single_succ]
    exact ih

lemma pow_single_of_le {j : Fin (n + 1)} (h : j.val ≤ m) :
    (step taps ^ m) (Pi.single j 1) = (step taps ^ (m - j)) one := by
  rw [← Nat.sub_add_cancel h, pow_add, Module.End.mul_apply, pow_single, Nat.add_sub_cancel]

lemma sum_step (ht : ∑ i, taps i = 1) (r : Word n) : ∑ i, step taps r i = ∑ i, r i := by
  have hshift : ∑ i, shifted r i = ∑ i : Fin n, r i.succ := by
    rw [Fin.sum_univ_castSucc, shifted_last, add_zero]
    exact sum_congr rfl fun i _ => shifted_castSucc r i
  simp only [step_apply, Pi.add_apply, Pi.smul_apply, smul_eq_mul]
  rw [sum_add_distrib, ← mul_sum, ht, mul_one, hshift, Fin.sum_univ_succ, add_comm]

lemma sum_pow (ht : ∑ i, taps i = 1) (r : Word n) : ∑ i, (step taps ^ m) r i = ∑ i, r i := by
  induction m with
  | zero => rfl
  | succ m ih => rw [pow_succ', Module.End.mul_apply, sum_step ht, ih]

theorem syndrome_odd (ht : ∑ i, taps i = 1) (h : Odd ages.card) : syndrome taps ages ≠ 0 := by
  intro hz
  have hsum : ∑ i, syndrome taps ages i = ages.card := by
    simp only [syndrome, Finset.sum_apply]
    rw [sum_comm, card_eq_sum_ones, Nat.cast_sum]
    refine sum_congr rfl fun age _ => ?_
    rw [sum_pow ht, one, Finset.sum_pi_single', if_pos (mem_univ _), Nat.cast_one]
  rw [hz, (ZMod.natCast_eq_one_iff_odd).mpr h] at hsum
  simp at hsum

lemma step_injective (ht : taps (Fin.last n) = 1) : Function.Injective (step taps) := by
  refine (injective_iff_map_eq_zero _).mpr fun r hr => ?_
  rw [step_apply] at hr
  have hzero : r 0 = 0 := by
    have hlast := congrFun hr (Fin.last n)
    rwa [Pi.add_apply, shifted_last, zero_add, Pi.smul_apply, smul_eq_mul, ht, mul_one] at hlast
  rw [hzero, zero_smul, add_zero] at hr
  funext i
  cases i using Fin.cases with
  | zero => exact hzero
  | succ i =>
    rw [← shifted_castSucc r i, hr]
    rfl

lemma pow_injective (ht : taps (Fin.last n) = 1) : Function.Injective (step taps ^ m) := by
  rw [Module.End.coe_pow]
  exact (step_injective ht).iterate m

theorem syndrome_pair (ht : taps (Fin.last n) = 1) (h : a < b)
    (hperiod : (step taps ^ (b - a)) one ≠ one) : syndrome taps {a, b} ≠ 0 := by
  intro hz
  rw [syndrome, sum_pair h.ne, ← Nat.sub_add_cancel h.le, Nat.add_comm (b - a), pow_add,
    Module.End.mul_apply, ← map_add] at hz
  have hzero : one + (step taps ^ (b - a)) one = 0 := by
    refine pow_injective ht (m := a) ?_
    rw [map_zero]
    exact hz
  exact hperiod (by rw [eq_neg_of_add_eq_zero_right hzero, ZModModule.neg_eq_self])

/-- Bits no further apart than the register is wide. -/
theorem syndrome_window (ht : taps (Fin.last n) = 1) (hne : ages.Nonempty)
    (h : ∀ age ∈ ages, a ≤ age ∧ age ≤ a + n) : syndrome taps ages ≠ 0 := by
  intro hz
  obtain ⟨oldest, hmem⟩ := hne
  have position {age : ℕ} (hage : age ∈ ages) :
      (Fin.ofNat (n + 1) (n + a - age)).val = n + a - age := by
    have := h age hage
    rw [Fin.val_ofNat, Nat.mod_eq_of_lt (by omega)]
  have hsum : ∑ age ∈ ages, (Pi.single (Fin.ofNat (n + 1) (n + a - age)) 1 : Word n) = 0 := by
    refine pow_injective ht (m := a + n) ?_
    rw [map_zero, ← hz, syndrome, map_sum]
    refine sum_congr rfl fun age hage => ?_
    have := h age hage
    have hj := position hage
    rw [pow_single_of_le (by omega), hj]
    congr 2
    omega
  have hbit := congrFun hsum (Fin.ofNat (n + 1) (n + a - oldest))
  rw [Finset.sum_apply, sum_eq_single_of_mem oldest hmem, Pi.single_eq_same] at hbit
  · exact one_ne_zero hbit
  · intro age hage hneq
    refine Pi.single_eq_of_ne (fun heq => hneq ?_) _
    have hval := congrArg Fin.val heq
    rw [position hage, position hmem] at hval
    have := h age hage
    have := h oldest hmem
    omega

end Register
