import Mathlib.Data.List.AList

/-! Association lists with one value type, read as functions from keys. -/

namespace Table

variable {α β : Type*} [DecidableEq α] {s : AList fun _ : α => β}

@[simp] lemma lookup_insert (a a' : α) (b : β) :
    (s.insert a' b).lookup a = if a = a' then some b else s.lookup a := by
  by_cases h : a = a'
  · subst h
    simp
  · simp [h]

@[simp] lemma lookup_erase (a a' : α) :
    (s.erase a').lookup a = if a = a' then none else s.lookup a := by
  by_cases h : a = a'
  · subst h
    simp
  · simp [h]

lemma mem_iff {a : α} : a ∈ s ↔ ∃ b, s.lookup a = some b := by
  rw [← AList.lookup_isSome, Option.isSome_iff_exists]

lemma all_entries (s : AList fun _ : α => β) (p : α → β → Bool) :
    (s.entries.all fun item => p item.1 item.2) = true ↔
      ∀ a b, s.lookup a = some b → p a b = true := by
  simp only [List.all_eq_true, Sigma.forall]
  exact forall₂_congr fun a b => imp_congr AList.mem_lookup_iff.symm Iff.rfl

section Size

variable {a : α} {b c : β}

lemma mem_keys (h : s.lookup a = some b) : a ∈ s.keys :=
  AList.mem_keys.mpr (mem_iff.mpr ⟨b, h⟩)

lemma length_insert_le : (s.insert a b).keys.length ≤ s.keys.length + 1 := by
  rw [AList.keys_insert, List.length_cons]
  exact Nat.succ_le_succ (List.length_erase_le ..)

lemma length_insert_of_lookup (h : s.lookup a = some c) :
    (s.insert a b).keys.length = s.keys.length := by
  rw [AList.keys_insert, List.length_cons, List.length_erase_of_mem (mem_keys h)]
  have := List.length_pos_of_mem (mem_keys h)
  omega

lemma length_erase_le : (s.erase a).keys.length ≤ s.keys.length := by
  rw [AList.keys_erase]
  exact List.length_erase_le ..

lemma length_erase_of_lookup (h : s.lookup a = some c) :
    (s.erase a).keys.length + 1 = s.keys.length := by
  rw [AList.keys_erase, List.length_erase_of_mem (mem_keys h)]
  have := List.length_pos_of_mem (mem_keys h)
  omega

end Size

end Table
