import DBlusBlus.Common.Crc32c
import DBlusBlus.Library.Bitmap
import DBlusBlus.Library.Register
import Mathlib.Data.Nat.Bitwise

/-! The remainder of the checksum is a shift register with linear feedback. -/

namespace DBlusBlus

open Finset Register

def bitValue (b : Bool) : ZMod 2 := if b then 1 else 0

def word (x : UInt32) : Word 31 := fun i => bitValue (x.toBitVec.getLsbD i)

def crcTaps : Word 31 := word crc32cReflectedPolynomial

section Words

variable {x y : UInt32} {b c : Bool} {m : ℕ}

lemma bitValue_xor : bitValue (b ^^ c) = bitValue b + bitValue c := by
  cases b <;> cases c <;> rfl

lemma word_xor (x y : UInt32) : word (x ^^^ y) = word x + word y := by
  funext i
  rw [word, UInt32.toBitVec_xor, BitVec.getLsbD_xor, bitValue_xor]
  rfl

lemma bitValue_injective : Function.Injective bitValue := by
  intro b c h
  cases b <;> cases c <;> first | rfl | exact absurd h (by decide)

lemma word_injective : Function.Injective word := by
  intro x y h
  refine UInt32.toBitVec_inj.mp (BitVec.eq_of_getLsbD_eq fun i hi => ?_)
  exact bitValue_injective (congrFun h ⟨i, hi⟩)

lemma word_one : word 1 = one := by decide

lemma word_shift (x : UInt32) : word (x >>> 1) = shifted (word x) := by
  funext i
  have hbit : (x >>> 1).toBitVec.getLsbD i = x.toBitVec.getLsbD (1 + i) := by
    rw [UInt32.toBitVec_shiftRight]
    exact BitVec.getLsbD_ushiftRight ..
  rw [word, hbit]
  cases i using Fin.lastCases with
  | last => rw [shifted_last, BitVec.getLsbD_of_ge _ _ (by decide)]; rfl
  | cast i =>
    rw [shifted_castSucc, word, Fin.val_castSucc, Fin.val_succ, Nat.add_comm]

lemma low_bit (x : UInt32) : x &&& 1 ≠ 0 ↔ x.toBitVec.getLsbD 0 = true := by
  rw [Ne, ← UInt32.toBitVec_inj, UInt32.toBitVec_and]
  have h : x.toBitVec &&& (1 : UInt32).toBitVec = (BitVec.ofBool (x.toBitVec.getLsbD 0)).setWidth 32 :=
    BitVec.and_one_eq_setWidth_ofBool_getLsbD
  rw [h]
  cases x.toBitVec.getLsbD 0 <;> decide

lemma word_crc32cBit (x : UInt32) : word (crc32cBit x) = step crcTaps (word x) := by
  have hzero : word x 0 = bitValue (x.toBitVec.getLsbD 0) := rfl
  rw [crc32cBit, step_apply, hzero]
  simp only [low_bit]
  split_ifs with h
  · rw [word_xor, word_shift, h, bitValue, if_pos rfl, one_smul]
    rfl
  · rw [word_shift, Bool.eq_false_of_not_eq_true h, bitValue, if_neg Bool.noConfusion, zero_smul,
      add_zero]

lemma word_iterate (x : UInt32) : word (crc32cBit^[m] x) = (step crcTaps ^ m) (word x) := by
  induction m with
  | zero => rfl
  | succ m ih => rw [Function.iterate_succ_apply', word_crc32cBit, ih, pow_succ', Module.End.mul_apply]

lemma sum_crcTaps : ∑ i, crcTaps i = 1 := by decide

lemma crcTaps_last : crcTaps (Fin.last 31) = 1 := by decide

end Words

section Period

def remainderStep (r : ℕ) : ℕ := r / 2 ^^^ r % 2 * 0x82F63B78

lemma toNat_crc32cBit (x : UInt32) : (crc32cBit x).toNat = remainderStep x.toNat := by
  have hshift : (x >>> 1).toNat = x.toNat / 2 := by
    rw [UInt32.toNat_shiftRight]
    exact Nat.shiftRight_one _
  have hlow : x &&& 1 ≠ 0 ↔ x.toNat % 2 = 1 := by
    rw [Ne, ← UInt32.toNat_inj, UInt32.toNat_and]
    change ¬ x.toNat &&& 1 = 0 ↔ _
    rw [Nat.and_one_is_mod]
    omega
  rw [crc32cBit, remainderStep]
  simp only [hlow]
  split_ifs with h
  · rw [UInt32.toNat_xor, hshift, h, one_mul]
    rfl
  · rw [hshift, Nat.mod_two_ne_one.mp h, zero_mul, Nat.xor_zero]

def avoidsOne : ℕ → ℕ → Bool
  | 0, _ => true
  | k + 1, r => !(remainderStep r).beq 1 && avoidsOne k (remainderStep r)

lemma iterate_ne_one {k m : ℕ} {x : UInt32} (h : avoidsOne k x.toNat = true) (hpos : 0 < m)
    (hm : m ≤ k) : crc32cBit^[m] x ≠ 1 := by
  induction k generalizing m x with
  | zero => omega
  | succ k ih =>
    rw [avoidsOne, Bool.and_eq_true, ← toNat_crc32cBit] at h
    obtain ⟨m, rfl⟩ := Nat.exists_eq_succ_of_ne_zero hpos.ne'
    rw [Function.iterate_succ_apply]
    cases m with
    | zero =>
      intro hone
      have hone : crc32cBit x = 1 := hone
      rw [hone] at h
      exact absurd h.1 (by decide)
    | succ m => exact ih h.2 (Nat.succ_pos m) (Nat.le_of_succ_le_succ hm)

set_option maxRecDepth 100000 in
lemma avoidsOne_page : avoidsOne 65567 (1 : UInt32).toNat = true := by decide +kernel

theorem pow_one_ne {m : ℕ} (hpos : 0 < m) (hm : m ≤ 65567) : (step crcTaps ^ m) one ≠ one := by
  rw [← word_one, ← word_iterate]
  have hne := iterate_ne_one avoidsOne_page hpos hm
  exact fun h => hne (word_injective h)

end Period

section Fold

variable {bytes bytes' : List UInt8} {r : UInt32}

lemma pow_word_byte (byte : UInt8) : (step crcTaps ^ 8) (word byte.toUInt32) =
    ∑ j ∈ range 8, bitValue (byte.toBitVec.getLsbD j) • (step crcTaps ^ (8 - j)) one := by
  have hbit (j : ℕ) (hj : j < 32) :
      byte.toUInt32.toBitVec.getLsbD j = byte.toBitVec.getLsbD j := by
    rw [UInt8.toBitVec_toUInt32, BitVec.getLsbD_setWidth]
    simp [hj]
  have hhigh (j : ℕ) (hj : 8 ≤ j) : byte.toBitVec.getLsbD j = false := BitVec.getLsbD_of_ge _ _ hj
  rw [← univ_sum_single (word byte.toUInt32), map_sum]
  have hterm (i : Fin 32) : (step crcTaps ^ 8) (Pi.single i (word byte.toUInt32 i)) =
      bitValue (byte.toBitVec.getLsbD i) • (step crcTaps ^ (8 - i.val)) one := by
    rw [← mul_one (word byte.toUInt32 i), ← smul_eq_mul, Pi.single_smul, map_smul, word,
      hbit i i.isLt]
    by_cases hi : i.val ≤ 8
    · rw [pow_single_of_le hi]
    · rw [hhigh i (by omega), bitValue, if_neg Bool.noConfusion, zero_smul, zero_smul]
  rw [sum_congr rfl fun i _ => hterm i,
    ← sum_range fun j => bitValue (byte.toBitVec.getLsbD j) • (step crcTaps ^ (8 - j)) one]
  refine (sum_subset (range_mono (by decide)) fun j _ hj => ?_).symm
  rw [hhigh j (Nat.le_of_not_lt fun h => hj (mem_range.mpr h)), bitValue, if_neg Bool.noConfusion,
    zero_smul]

lemma word_crc32cByte (r : UInt32) (byte : UInt8) : word (crc32cByte r byte) =
    (step crcTaps ^ 8) (word r) +
      ∑ j ∈ range 8, bitValue (byte.toBitVec.getLsbD j) • (step crcTaps ^ (8 - j)) one := by
  rw [crc32cByte, word_iterate, word_xor, map_add, pow_word_byte]

/-- Every bit of the input is in the register for as long as there are bits after it. -/
theorem word_fold (bytes : List UInt8) (r : UInt32) : word (bytes.foldl crc32cByte r) =
    (step crcTaps ^ (8 * bytes.length)) (word r) + ∑ k ∈ range (8 * bytes.length),
      bitValue (Bitmap.bit bytes k) • (step crcTaps ^ (8 * bytes.length - k)) one := by
  induction bytes using List.reverseRecOn with
  | nil => simp
  | append_singleton bytes byte ih =>
    have hlength : 8 * (bytes ++ [byte]).length = 8 * bytes.length + 8 := by
      rw [List.length_append, List.length_singleton, Nat.mul_succ]
    have hold (k : ℕ) (hk : k < 8 * bytes.length) :
        Bitmap.bit (bytes ++ [byte]) k = Bitmap.bit bytes k := by
      rw [Bitmap.bit, Bitmap.bit, List.getElem?_append_left (by omega)]
    have hnew (j : ℕ) (hj : j < 8) :
        Bitmap.bit (bytes ++ [byte]) (8 * bytes.length + j) = byte.toBitVec.getLsbD j := by
      have hd : (8 * bytes.length + j) / 8 = bytes.length := by omega
      have hm : (8 * bytes.length + j) % 8 = j := by omega
      rw [Bitmap.bit, hd, hm, List.getElem?_concat_length, Option.getD_some]
    rw [List.foldl_concat, word_crc32cByte, ih, map_add, map_sum, hlength, sum_range_add, add_assoc,
      ← Module.End.mul_apply, ← pow_add, Nat.add_comm 8]
    refine congrArg _ (congrArg₂ _ (sum_congr rfl fun k hk => ?_) (sum_congr rfl fun j hj => ?_))
    · have hk := mem_range.mp hk
      rw [map_smul, ← Module.End.mul_apply, ← pow_add, hold k hk]
      congr 3
      omega
    · have hj := mem_range.mp hj
      rw [hnew j hj]
      congr 3
      omega

lemma bitValue_add (b c : Bool) : bitValue b + bitValue c = if b ≠ c then 1 else 0 := by
  cases b <;> cases c <;> decide

/-- Two checksums differ by what the differing bits leave in the register. -/
theorem word_crc32c_add (h : bytes'.length = bytes.length) :
    word (crc32c bytes) + word (crc32c bytes') =
      ∑ k ∈ range (8 * bytes.length) with Bitmap.bit bytes k ≠ Bitmap.bit bytes' k,
        (step crcTaps ^ (8 * bytes.length - k)) one := by
  have hcancel (a b c : Word 31) : a + c + (b + c) = a + b := by
    rw [add_add_add_comm, ZModModule.add_self, add_zero]
  rw [crc32c, crc32c, word_xor, word_xor, hcancel, word_fold, word_fold, h, add_comm (_ + _) (_ + _),
    add_comm _ (∑ _ ∈ _, _), add_comm _ (∑ _ ∈ _, _), hcancel, ← sum_add_distrib, sum_filter]
  refine sum_congr rfl fun k _ => ?_
  rw [← add_smul, bitValue_add]
  by_cases hb : Bitmap.bit bytes k = Bitmap.bit bytes' k
  · rw [if_neg (not_not.mpr hb.symm), if_neg (not_not.mpr hb), zero_smul]
  · rw [if_pos (Ne.symm hb), if_pos hb, one_smul]

end Fold

end DBlusBlus
