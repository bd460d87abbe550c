import Mathlib.Logic.Function.Basic

/-! Handles that are each in the custody of at most one owner. -/

namespace Custody

variable {V H : Type*} {owner : V → Option H} {v u : V} {h k : H}

def Exclusive (owner : V → Option H) : Prop :=
  ∀ v u h, owner v = some h → owner u = some h → v = u

def Held (owner : V → Option H) (h : H) : Prop := ∃ v, owner v = some h

variable [DecidableEq V]

lemma Exclusive.acquire (he : Exclusive owner) (hh : ¬ Held owner h) :
    Exclusive (Function.update owner v (some h)) := by
  intro x y k hx hy
  rw [Function.update_apply] at hx hy
  split at hx <;> split at hy
  · rename_i hxv hyv
    exact hxv.trans hyv.symm
  · obtain rfl := Option.some.inj hx
    exact absurd ⟨y, hy⟩ hh
  · obtain rfl := Option.some.inj hy
    exact absurd ⟨x, hx⟩ hh
  · exact he x y k hx hy

lemma held_acquire (hv : owner v = none) :
    Held (Function.update owner v (some h)) k ↔ k = h ∨ Held owner k := by
  constructor
  · rintro ⟨x, hx⟩
    rw [Function.update_apply] at hx
    split at hx
    · exact .inl (Option.some.inj hx).symm
    · exact .inr ⟨x, hx⟩
  · rintro (rfl | ⟨x, hx⟩)
    · exact ⟨v, Function.update_self ..⟩
    · refine ⟨x, ?_⟩
      rw [Function.update_of_ne, hx]
      rintro rfl
      rw [hv] at hx
      cases hx

lemma Exclusive.release (he : Exclusive owner) : Exclusive (Function.update owner v none) := by
  intro x y k hx hy
  rw [Function.update_apply] at hx hy
  split at hx
  · cases hx
  · split at hy
    · cases hy
    · exact he x y k hx hy

lemma Exclusive.held_release (he : Exclusive owner) (hv : owner v = some h) :
    Held (Function.update owner v none) k ↔ k ≠ h ∧ Held owner k := by
  constructor
  · rintro ⟨x, hx⟩
    rw [Function.update_apply] at hx
    split at hx
    · cases hx
    · rename_i hne
      refine ⟨?_, x, hx⟩
      rintro rfl
      exact hne (he x v k hx hv)
  · rintro ⟨hne, x, hx⟩
    refine ⟨x, ?_⟩
    rw [Function.update_of_ne, hx]
    rintro rfl
    rw [hv] at hx
    exact hne (Option.some.inj hx).symm

lemma held_release_none (hv : owner v = none) : Function.update owner v none = owner := by
  rw [← hv, Function.update_eq_self]

lemma Exclusive.transfer (he : Exclusive owner) (hv : owner v = none) :
    Exclusive (Function.update (Function.update owner u none) v (owner u)) ∧
      ∀ k, Held (Function.update (Function.update owner u none) v (owner u)) k ↔ Held owner k := by
  cases hu : owner u with
  | none =>
    rw [held_release_none hu, held_release_none hv]
    exact ⟨he, fun _ => .rfl⟩
  | some h =>
    have hfree : ¬ Held (Function.update owner u none) h := by
      rw [he.held_release hu]
      exact fun hh => hh.1 rfl
    have hv' : Function.update owner u none v = none := by
      rw [Function.update_apply]
      split
      · rfl
      · exact hv
    refine ⟨he.release.acquire hfree, fun k => ?_⟩
    rw [held_acquire hv', he.held_release hu]
    by_cases hk : k = h
    · subst hk
      exact ⟨fun _ => ⟨u, hu⟩, fun _ => .inl rfl⟩
    · exact ⟨fun hh => (hh.resolve_left hk).2, fun hh => .inr ⟨hk, hh⟩⟩

end Custody
