import Mathlib.Data.List.Infix
import Mathlib.Data.List.TakeDrop
import Mathlib.Logic.Equiv.Defs

/-! Codecs that accept exactly the extensions of their encodings, and writes into a part of a
string. -/

namespace Codec

variable {γ : Type*} {a b s pre mid post xs ys zs : List γ} {i k o p : ℕ}

lemma append_prefix_iff : a ++ b <+: s ↔ a <+: s ∧ b <+: s.drop a.length := by
  constructor
  · rintro ⟨t, rfl⟩
    simp
  · rintro ⟨⟨t, rfl⟩, h⟩
    rw [List.drop_left] at h
    obtain ⟨u, rfl⟩ := h
    exact ⟨u, by simp⟩

lemma prefix_take_iff (h : a.length ≤ k) : a <+: s.take k ↔ a <+: s := by
  rw [List.prefix_take_iff]
  exact and_iff_left h

lemma prefix_iff_take (h : a.length = k) : a <+: s ↔ s.take k = a := by
  rw [List.prefix_iff_eq_take, h, eq_comm]

/-- Writes `ys` over the part of `xs` that starts at `o`. -/
def splice (xs : List γ) (o : ℕ) (ys : List γ) : List γ :=
  xs.take o ++ ys ++ xs.drop (o + ys.length)

lemma splice_zero : splice xs 0 ys = ys ++ xs.drop ys.length := by simp [splice]

lemma length_splice (h : o + ys.length ≤ xs.length) : (splice xs o ys).length = xs.length := by
  simp only [splice, List.length_append, List.length_take, List.length_drop]
  omega

lemma splice_next (h : o + (ys ++ zs).length ≤ xs.length) :
    splice (splice xs o ys) (o + ys.length) zs = splice xs o (ys ++ zs) := by
  have ho : (xs.take o ++ ys).length = o + ys.length := by
    rw [List.length_append] at h
    rw [List.length_append, List.length_take]
    omega
  rw [splice, splice, List.take_left' ho, ← List.drop_drop, ← ho, List.drop_left, splice,
    List.drop_drop, ho, List.append_assoc, List.append_assoc, List.append_assoc, List.append_assoc,
    List.length_append, ← Nat.add_assoc]

lemma getElem?_splice_outside (h : o + ys.length ≤ xs.length) (hi : i < o ∨ o + ys.length ≤ i) :
    (splice xs o ys)[i]? = xs[i]? := by
  have ho : (xs.take o).length = o := by
    rw [List.length_take]
    omega
  rw [splice, List.append_assoc]
  rcases hi with hi | hi
  · rw [List.getElem?_append_left (by omega), List.getElem?_take_of_lt hi]
  · rw [List.getElem?_append_right (by omega), List.getElem?_append_right (by omega),
      List.getElem?_drop]
    congr 1
    omega

lemma drop_take_splice (h : o ≤ xs.length) : ((splice xs o ys).drop o).take ys.length = ys := by
  have ho : (xs.take o).length = o := by
    rw [List.length_take]
    omega
  rw [splice, List.append_assoc, List.drop_left' ho, List.take_left]

lemma splice_append (h : pre.length = o) : splice (pre ++ xs) o ys = pre ++ splice xs 0 ys := by
  subst h
  simp [splice]

lemma splice_mid (ho : pre.length = o) (hm : mid.length = ys.length) :
    splice (pre ++ (mid ++ post)) o ys = pre ++ (ys ++ post) := by
  rw [splice_append ho, splice_zero, ← hm, List.drop_left]

/-- Fields written one after the other over the front of `xs`. -/
def overlay (xs : List γ) (fields : List (List γ)) : List γ :=
  fields.flatten ++ xs.drop fields.flatten.length

lemma splice_overlay {fields : List (List γ)} (h : fields.flatten.length = o) :
    splice (overlay xs fields) o ys = overlay xs (fields ++ [ys]) := by
  rw [overlay, splice_append h, splice_zero]
  simp [overlay]

lemma overlay_replicate {fields : List (List γ)} {z : γ} {n : ℕ}
    (h : fields.flatten.length + k ≤ n) :
    overlay (List.replicate n z) fields =
      overlay (List.replicate n z) (fields ++ [List.replicate k z]) := by
  simp only [overlay, List.flatten_append, List.flatten_cons, List.flatten_nil, List.append_nil,
    List.append_assoc, List.drop_replicate, List.length_append, List.length_replicate,
    List.replicate_append_replicate]
  congr 2
  omega

lemma splice_field {fields rest : List (List γ)} (h : fields.flatten.length = o)
    (hm : mid.length = ys.length) :
    splice (overlay xs (fields ++ mid :: rest)) o ys = overlay xs (fields ++ ys :: rest) := by
  simp only [overlay, List.flatten_append, List.flatten_cons, List.append_assoc]
  rw [splice_mid h hm]
  simp [hm]

lemma length_overlay {fields : List (List γ)} (h : fields.flatten.length ≤ xs.length) :
    (overlay xs fields).length = xs.length := by
  rw [overlay, List.length_append, List.length_drop]
  omega

end Codec

/-- A format of fixed width whose decoder accepts a string exactly for the value that the string
starts with. -/
structure Codec (γ α : Type*) where
  width : ℕ
  encode : α → List γ
  decode : List γ → Option α
  length_encode : ∀ a, (encode a).length = width
  decode_eq_some : ∀ s a, decode s = some a ↔ encode a <+: s

namespace Codec

variable {α β γ : Type*} (c : Codec γ α) {a b : α} {s t : List γ}

lemma decode_encode_append : c.decode (c.encode a ++ t) = some a :=
  (c.decode_eq_some _ _).mpr (List.prefix_append ..)

lemma decode_encode : c.decode (c.encode a) = some a :=
  (c.decode_eq_some _ _).mpr List.prefix_rfl

lemma encode_injective : Function.Injective c.encode := by
  intro a b h
  have ha := c.decode_encode (a := a)
  rw [h, c.decode_encode] at ha
  exact (Option.some.inj ha).symm

lemma decode_window {o : ℕ} :
    c.decode ((s.drop o).take c.width) = some a ↔ c.encode a <+: s.drop o := by
  rw [c.decode_eq_some, prefix_take_iff (c.length_encode a).le]

def map (e : α ≃ β) : Codec γ β where
  width := c.width
  encode b := c.encode (e.symm b)
  decode s := (c.decode s).map e
  length_encode b := c.length_encode _
  decode_eq_some s b := by
    rw [Option.map_eq_some_iff, ← c.decode_eq_some]
    constructor
    · rintro ⟨a, h, rfl⟩
      simpa using h
    · intro h
      exact ⟨_, h, e.apply_symm_apply b⟩

end Codec
