import Mathlib.Data.Nat.Digits.Defs
import DBlusBlus.Library.InPlace
import DBlusBlus.Page.Header

/-! The integers of 1, 2, 4 and 8 bytes, written in place. -/

namespace DBlusBlus.Record

open InPlace

/-- The integers that `EncodeLittleEndian` takes, each with the cast to its unsigned type. -/
class FixedWidthInteger (Integer : Type) where
  bytes : ℕ
  unsigned : Integer ≃ BitVec (8 * bytes)

section Instances

instance : FixedWidthInteger UInt8 :=
  ⟨1, UInt8.toBitVec, UInt8.ofBitVec, UInt8.ofBitVec_toBitVec, UInt8.toBitVec_ofBitVec⟩

instance : FixedWidthInteger UInt16 :=
  ⟨2, UInt16.toBitVec, UInt16.ofBitVec, UInt16.ofBitVec_toBitVec, UInt16.toBitVec_ofBitVec⟩

instance : FixedWidthInteger UInt32 :=
  ⟨4, UInt32.toBitVec, UInt32.ofBitVec, UInt32.ofBitVec_toBitVec, UInt32.toBitVec_ofBitVec⟩

instance : FixedWidthInteger UInt64 :=
  ⟨8, UInt64.toBitVec, UInt64.ofBitVec, UInt64.ofBitVec_toBitVec, UInt64.toBitVec_ofBitVec⟩

instance : FixedWidthInteger Int8 :=
  ⟨1, Int8.toBitVec, Int8.ofBitVec, Int8.ofBitVec_toBitVec, Int8.toBitVec_ofBitVec⟩

instance : FixedWidthInteger Int16 :=
  ⟨2, Int16.toBitVec, Int16.ofBitVec, Int16.ofBitVec_toBitVec, Int16.toBitVec_ofBitVec⟩

instance : FixedWidthInteger Int32 :=
  ⟨4, Int32.toBitVec, Int32.ofBitVec, Int32.ofBitVec_toBitVec, Int32.toBitVec_ofBitVec⟩

instance : FixedWidthInteger Int64 :=
  ⟨8, Int64.toBitVec, Int64.ofBitVec, Int64.ofBitVec_toBitVec, Int64.toBitVec_ofBitVec⟩

end Instances

/-- The loop that stores the low byte of `bits` and shifts it out, from `offset` on. -/
def storeBytes {w : ℕ} : ℕ → ℕ → BitVec w → List UInt8 → List UInt8
  | 0, _, _, destination => destination
  | remaining + 1, offset, bits, destination =>
    storeBytes remaining (offset + 1) (bits >>> 8)
      (destination.set offset (UInt8.ofBitVec (bits.setWidth 8)))

section Integers

variable {Integer : Type} [FixedWidthInteger Integer]

def encodeLittleEndian (destination : List UInt8) (value : Integer) : Written UInt8 :=
  if destination.length < FixedWidthInteger.bytes Integer then ⟨false, destination⟩
  else ⟨true, storeBytes (FixedWidthInteger.bytes Integer) 0 (FixedWidthInteger.unsigned value)
    destination⟩

def decodeLittleEndian (source : List UInt8) : Option Integer :=
  (DBlusBlus.decodeLittleEndian (FixedWidthInteger.bytes Integer) source).map
    FixedWidthInteger.unsigned.symm

/-- `EncodeLittleEndian` of `value` into `destination.subspan(offset, sizeof(value))`. -/
def field (offset : ℕ) (value : Integer) : List UInt8 → Written UInt8 :=
  through offset (FixedWidthInteger.bytes Integer) (encodeLittleEndian · value)

def integerImage (value : Integer) : List UInt8 :=
  littleEndianBytes (FixedWidthInteger.bytes Integer) (FixedWidthInteger.unsigned value)

variable {destination source : List UInt8} {value : Integer} {offset : ℕ}

@[simp] lemma length_integerImage :
    (integerImage value).length = FixedWidthInteger.bytes Integer :=
  littleEndianBytes_length ..

lemma storeBytes_eq {w : ℕ} (remaining offset : ℕ) (bits : BitVec w) (destination : List UInt8)
    (h : offset + remaining ≤ destination.length) :
    storeBytes remaining offset bits destination =
      Codec.splice destination offset (littleEndianBytes remaining bits) := by
  induction remaining generalizing offset bits destination with
  | zero => simp [storeBytes, littleEndianBytes, Codec.splice]
  | succ remaining ih =>
    have hset : destination.set offset (UInt8.ofBitVec (bits.setWidth 8)) =
        Codec.splice destination offset [UInt8.ofBitVec (bits.setWidth 8)] := by
      rw [List.set_eq_take_append_cons_drop, if_pos (by omega), Codec.splice, List.append_assoc]
      rfl
    rw [storeBytes, ih _ _ _ (by rw [List.length_set]; omega), hset, littleEndianBytes]
    apply Codec.splice_next
    rw [List.singleton_append, List.length_cons, littleEndianBytes_length]
    omega

lemma encodeLittleEndian_eq (h : FixedWidthInteger.bytes Integer ≤ destination.length) :
    encodeLittleEndian destination value =
      ⟨true, Codec.splice destination 0 (integerImage value)⟩ := by
  rw [encodeLittleEndian, if_neg (by omega), storeBytes_eq _ _ _ _ (by omega)]
  rfl

lemma stores_field : Stores (field offset value) offset (integerImage value) := by
  apply Stores.through
  · intro destination hroom
    rw [length_integerImage] at hroom
    exact encodeLittleEndian_eq (by omega)
  · exact length_integerImage

lemma decodeLittleEndian_eq_some :
    decodeLittleEndian source = some value ↔ integerImage value <+: source := by
  rw [decodeLittleEndian, Option.map_eq_some_iff]
  constructor
  · rintro ⟨bits, hbits, rfl⟩
    rw [integerImage, Equiv.apply_symm_apply]
    exact DBlusBlus.decodeLittleEndian_eq_some.mp hbits
  · intro hp
    exact ⟨_, DBlusBlus.decodeLittleEndian_eq_some.mpr hp, Equiv.symm_apply_apply ..⟩

end Integers

section Stored

/-- The number that `count` bytes from `offset` on stand for, the least significant byte first. -/
def stored (source : List UInt8) (offset count : ℕ) : ℕ :=
  Nat.ofDigits 256 (((source.drop offset).take count).map UInt8.toNat)

variable {w k offset : ℕ} {source : List UInt8}

lemma ofDigits_littleEndianBytes (bits : BitVec w) :
    Nat.ofDigits 256 ((littleEndianBytes k bits).map UInt8.toNat) = bits.toNat % 256 ^ k := by
  induction k generalizing bits with
  | zero => simp [littleEndianBytes, Nat.mod_one]
  | succ k ih =>
    have hlow : (UInt8.ofBitVec (bits.setWidth 8)).toNat = bits.toNat % 256 := by
      change (bits.setWidth 8).toNat = _
      rw [BitVec.toNat_setWidth]
    have hhigh : (bits >>> 8).toNat = bits.toNat / 256 := by
      rw [BitVec.toNat_ushiftRight, Nat.shiftRight_eq_div_pow]
    rw [littleEndianBytes, List.map_cons, Nat.ofDigits_cons, ih, hlow, hhigh, Nat.pow_succ',
      Nat.mod_mul]

lemma stored_eq {bits : BitVec (8 * k)} (h : littleEndianBytes k bits <+: source.drop offset) :
    stored source offset k = bits.toNat := by
  have hpow : 256 ^ k = 2 ^ (8 * k) := by rw [Nat.pow_mul]
  rw [stored, (Codec.prefix_iff_take (littleEndianBytes_length k bits)).mp h,
    ofDigits_littleEndianBytes, hpow, Nat.mod_eq_of_lt bits.isLt]

lemma exists_bits (h : offset + k ≤ source.length) :
    ∃ bits : BitVec (8 * k), littleEndianBytes k bits <+: source.drop offset := by
  have hk : k ≤ (source.drop offset).length := by
    rw [List.length_drop]
    omega
  obtain ⟨bits, hbits⟩ := Option.isSome_iff_exists.mp (decodeLittleEndian_isSome hk)
  exact ⟨bits, DBlusBlus.decodeLittleEndian_eq_some.mp hbits⟩

lemma exists_integer (Integer : Type) [FixedWidthInteger Integer] (source : List UInt8)
    (offset : ℕ) (h : offset + FixedWidthInteger.bytes Integer ≤ source.length) :
    ∃ value : Integer, integerImage value <+: source.drop offset := by
  obtain ⟨bits, hbits⟩ := exists_bits h
  refine ⟨FixedWidthInteger.unsigned.symm bits, ?_⟩
  rw [integerImage, Equiv.apply_symm_apply]
  exact hbits

lemma stored_encodeLittleEndian {Integer : Type} [FixedWidthInteger Integer]
    {destination : List UInt8} (value : Integer)
    (h : FixedWidthInteger.bytes Integer ≤ destination.length) :
    stored (encodeLittleEndian destination value).destination 0 (FixedWidthInteger.bytes Integer) =
      (FixedWidthInteger.unsigned value).toNat := by
  rw [encodeLittleEndian_eq h, Codec.splice_zero]
  exact stored_eq (List.prefix_append ..)

end Stored

end DBlusBlus.Record
