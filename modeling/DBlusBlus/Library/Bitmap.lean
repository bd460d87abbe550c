import Mathlib.Data.UInt
import Mathlib.Data.List.OfFn

/-! Byte strings read as sequences of bits, the low bit of each byte first. -/

namespace Bitmap

variable {bytes other : List UInt8} {n k : ℕ} {f : ℕ → Bool}

def bit (bytes : List UInt8) (k : ℕ) : Bool :=
  (bytes[k / 8]?.getD 0).toBitVec.getLsbD (k % 8)

def word : (w : ℕ) → (ℕ → Bool) → BitVec w
  | 0, _ => 0
  | w + 1, f => (word w fun i => f (i + 1)).concat (f 0)

lemma getLsbD_word {w i : ℕ} (h : i < w) : (word w f).getLsbD i = f i := by
  induction w generalizing f i with
  | zero => omega
  | succ w ih =>
    rw [word, BitVec.getLsbD_concat]
    cases i with
    | zero => rfl
    | succ i => exact ih (Nat.lt_of_succ_lt_succ h)

def ofBits (n : ℕ) (f : ℕ → Bool) : List UInt8 :=
  List.ofFn fun i : Fin n => UInt8.ofBitVec (word 8 fun j => f (8 * i + j))

@[simp] lemma length_ofBits : (ofBits n f).length = n := List.length_ofFn

lemma bit_ofBits (h : k < 8 * n) : bit (ofBits n f) k = f k := by
  have hk : k / 8 < n := by omega
  have hm : k % 8 < 8 := Nat.mod_lt _ (by decide)
  have hd : 8 * (k / 8) + k % 8 = k := Nat.div_add_mod k 8
  rw [bit, List.getElem?_eq_getElem (by simpa using hk), Option.getD_some]
  simp only [ofBits, List.getElem_ofFn, UInt8.toBitVec_ofBitVec, getLsbD_word hm, hd]

lemma ext (hl : bytes.length = other.length)
    (h : ∀ k < 8 * bytes.length, bit bytes k = bit other k) : bytes = other := by
  apply List.ext_getElem hl
  intro i hi hi'
  apply UInt8.toBitVec_inj.mp
  apply BitVec.eq_of_getLsbD_eq
  intro j hj
  have hb := h (8 * i + j) (by omega)
  have hd : (8 * i + j) / 8 = i := by omega
  have hm : (8 * i + j) % 8 = j := by omega
  simpa only [bit, hd, hm, List.getElem?_eq_getElem hi, List.getElem?_eq_getElem hi',
    Option.getD_some] using hb

lemma eq_ofBits_iff (hl : bytes.length = n) :
    bytes = ofBits n f ↔ ∀ k < 8 * n, bit bytes k = f k := by
  constructor
  · rintro rfl k hk
    exact bit_ofBits hk
  · intro h
    apply ext (by simpa using hl)
    intro k hk
    rw [hl] at hk
    rw [h k hk, bit_ofBits hk]

lemma ofBits_false : ofBits n (fun _ => false) = List.replicate n 0 := by
  symm
  rw [eq_ofBits_iff List.length_replicate]
  intro k hk
  have hk : k / 8 < (List.replicate n (0 : UInt8)).length := by
    rw [List.length_replicate]
    omega
  rw [bit, List.getElem?_eq_getElem hk, List.getElem_replicate]
  simp

def mask (k : ℕ) : UInt8 := UInt8.ofBitVec (BitVec.twoPow 8 (k % 8))

lemma and_mask_ne_zero {byte : UInt8} :
    byte &&& mask k ≠ 0 ↔ byte.toBitVec.getLsbD (k % 8) = true := by
  have hm : k % 8 < 8 := Nat.mod_lt _ (by decide)
  rw [Ne, ← UInt8.toBitVec_inj, mask, UInt8.toBitVec_and, BitVec.and_twoPow]
  constructor
  · intro h
    by_contra hb
    exact h (if_neg hb)
  · intro h hz
    rw [if_pos h] at hz
    have := congrArg (·.getLsbD (k % 8)) hz
    simp [hm] at this

lemma and_eq_zero_iff {byte other : UInt8} :
    byte &&& other = 0 ↔
      ∀ j < 8, other.toBitVec.getLsbD j = true → byte.toBitVec.getLsbD j = false := by
  rw [← UInt8.toBitVec_inj, UInt8.toBitVec_and]
  constructor
  · intro h j hj ho
    have := congrArg (·.getLsbD j) h
    simpa [ho] using this
  · intro h
    apply BitVec.eq_of_getLsbD_eq
    intro j hj
    have hz : (0 : UInt8).toBitVec.getLsbD j = false := BitVec.getLsbD_zero
    rw [BitVec.getLsbD_and, hz, Bool.and_eq_false_imp]
    intro hb
    by_contra ho
    rw [h j hj (by simpa using ho)] at hb
    cases hb

lemma getLsbD_or_mask {byte : UInt8} {i : ℕ} :
    (byte ||| mask k).toBitVec.getLsbD i = (byte.toBitVec.getLsbD i || decide (i = k % 8)) := by
  have hm : k % 8 < 8 := Nat.mod_lt _ (by decide)
  simp [mask, hm, eq_comm]

lemma getLsbD_and_not_mask {byte : UInt8} {i : ℕ} (hi : i < 8) :
    (byte &&& ~~~mask k).toBitVec.getLsbD i =
      (byte.toBitVec.getLsbD i && !decide (i = k % 8)) := by
  simp [mask, hi]

lemma bit_of_set {byte byte' : UInt8} {b : Bool} (hb : bytes[k / 8]? = some byte)
    (h : ∀ j < 8, byte'.toBitVec.getLsbD j = if j = k % 8 then b else byte.toBitVec.getLsbD j)
    (i : ℕ) : bit (bytes.set (k / 8) byte') i = if i = k then b else bit bytes i := by
  obtain ⟨hk, rfl⟩ := List.getElem?_eq_some_iff.mp hb
  by_cases hi : i / 8 = k / 8
  · have he : i = k ↔ i % 8 = k % 8 := by omega
    rw [bit, bit, hi, List.getElem?_set_self hk, hb, Option.getD_some, Option.getD_some,
      h _ (Nat.mod_lt _ (by decide))]
    simp only [he]
  · have hne : i ≠ k := fun h => hi (by rw [h])
    rw [bit, bit, List.getElem?_set_ne (Ne.symm hi), if_neg hne]

lemma bit_set {byte : UInt8} (hb : bytes[k / 8]? = some byte) (i : ℕ) :
    bit (bytes.set (k / 8) (byte ||| mask k)) i = if i = k then true else bit bytes i := by
  refine bit_of_set hb (fun j _ => ?_) i
  rw [getLsbD_or_mask]
  split_ifs with h <;> simp [h]

lemma bit_clear {byte : UInt8} (hb : bytes[k / 8]? = some byte) (i : ℕ) :
    bit (bytes.set (k / 8) (byte &&& ~~~mask k)) i = if i = k then false else bit bytes i := by
  refine bit_of_set hb (fun j hj => ?_) i
  rw [getLsbD_and_not_mask hj]
  split_ifs with h <;> simp [h]

end Bitmap
