import Mathlib.Data.List.OfFn
import Mathlib.Data.UInt
import DBlusBlus.Library.Codec

/-! Little-endian integers over byte spans. A span is the list of its bytes. -/

namespace DBlusBlus

def littleEndianBytes {w : ℕ} : ℕ → BitVec w → List UInt8
  | 0, _ => []
  | k + 1, bits => UInt8.ofBitVec (bits.setWidth 8) :: littleEndianBytes k (bits >>> 8)

@[simp] lemma littleEndianBytes_length {w : ℕ} (k : ℕ) (bits : BitVec w) :
    (littleEndianBytes k bits).length = k := by
  induction k generalizing bits with
  | zero => rfl
  | succ k ih => simp [littleEndianBytes, ih]

/-- Writes the `k` low bytes of `bits` over the front of the destination; `none` when it is too short. -/
def encodeLittleEndian {w : ℕ} (k : ℕ) (destination : List UInt8) (bits : BitVec w) :
    Option (List UInt8) :=
  if destination.length < k then none
  else some (littleEndianBytes k bits ++ destination.drop k)

/-- Reads `k` bytes, the last one first, shifting the accumulator as the source does. -/
def decodeLittleEndian (k : ℕ) (source : List UInt8) : Option (BitVec (8 * k)) :=
  if source.length < k then none
  else some ((source.take k).foldr (fun byte bits => bits <<< 8 ||| byte.toBitVec.setWidth _) 0)

/-- A write through `destination.subspan(offset, count)`. -/
def writeSubspan (destination : List UInt8) (offset count : ℕ)
    (write : List UInt8 → Option (List UInt8)) : Option (List UInt8) :=
  (write ((destination.drop offset).take count)).map fun part =>
    destination.take offset ++ part ++ destination.drop (offset + count)

lemma writeSubspan_encodeLittleEndian {w : ℕ} {destination : List UInt8} {offset k : ℕ}
    (bits : BitVec w) (h : offset + k ≤ destination.length) :
    writeSubspan destination offset k (encodeLittleEndian k · bits) =
      some (Codec.splice destination offset (littleEndianBytes k bits)) := by
  have hlen : ((destination.drop offset).take k).length = k := by
    rw [List.length_take, List.length_drop]
    omega
  rw [writeSubspan, encodeLittleEndian, if_neg (by omega)]
  simp [Codec.splice]

lemma writeSubspan_field {w offset k : ℕ} {destination : List UInt8} {fields : List (List UInt8)}
    (bits : BitVec w) (ho : fields.flatten.length = offset) (h : offset + k ≤ destination.length) :
    writeSubspan (Codec.overlay destination fields) offset k (encodeLittleEndian k · bits) =
      some (Codec.overlay destination (fields ++ [littleEndianBytes k bits])) := by
  rw [writeSubspan_encodeLittleEndian, Codec.splice_overlay ho]
  rw [Codec.length_overlay (by omega)]
  exact h

section Decode

variable {k w : ℕ} {bytes s : List UInt8}

lemma littleEndianBytes_getElem (bits : BitVec w) {i : ℕ}
    (hi : i < (littleEndianBytes k bits).length) :
    (littleEndianBytes k bits)[i] = UInt8.ofBitVec ((bits >>> (8 * i)).setWidth 8) := by
  induction k generalizing bits i with
  | zero => simp at hi
  | succ k ih =>
    cases i with
    | zero => simp [littleEndianBytes]
    | succ i =>
      simp only [littleEndianBytes, List.getElem_cons_succ]
      rw [ih, ← BitVec.shiftRight_add]
      congr 3
      omega

/-- The accumulator of `decodeLittleEndian`. -/
def assemble (w : ℕ) (bytes : List UInt8) : BitVec w :=
  bytes.foldr (fun byte bits => bits <<< 8 ||| byte.toBitVec.setWidth w) 0

lemma assemble_getLsbD (i : ℕ) : (assemble w bytes).getLsbD i =
    (decide (i < w) && (bytes[i / 8]?.getD 0).toBitVec.getLsbD (i % 8)) := by
  induction bytes generalizing i with
  | nil => simp [assemble]
  | cons byte bytes ih =>
    have ih' := ih (i - 8)
    simp only [assemble, List.foldr_cons, BitVec.getLsbD_or, BitVec.getLsbD_shiftLeft,
      BitVec.getLsbD_setWidth] at ih' ⊢
    rw [ih']
    by_cases hi : i < 8
    · rw [Nat.div_eq_of_lt hi, Nat.mod_eq_of_lt hi]
      simp [hi]
    · have hd : i / 8 = (i - 8) / 8 + 1 := by omega
      have hm : i % 8 = (i - 8) % 8 := by omega
      have hb : byte.toBitVec.getLsbD i = false := BitVec.getLsbD_of_ge _ _ (by omega)
      have hw : i < w → i - 8 < w := by omega
      rw [hb, hd, hm, List.getElem?_cons_succ]
      by_cases h : i < w
      · simp [h, hi, hw h]
      · simp [h]

lemma assemble_littleEndianBytes (bits : BitVec (8 * k)) :
    assemble (8 * k) (littleEndianBytes k bits) = bits := by
  apply BitVec.eq_of_getLsbD_eq
  intro i hi
  rw [assemble_getLsbD]
  have hk : i / 8 < (littleEndianBytes k bits).length := by
    rw [littleEndianBytes_length]
    omega
  rw [List.getElem?_eq_getElem hk, littleEndianBytes_getElem]
  have h8 : i % 8 < 8 := by omega
  simp only [hi, decide_true, Option.getD_some, UInt8.toBitVec_ofBitVec, BitVec.getLsbD_setWidth,
    h8, BitVec.getLsbD_ushiftRight, Bool.true_and]
  congr 1
  omega

lemma littleEndianBytes_assemble (h : bytes.length = k) :
    littleEndianBytes k (assemble (8 * k) bytes) = bytes := by
  apply List.ext_getElem (by simp [h])
  intro i hi hb
  rw [littleEndianBytes_getElem]
  apply UInt8.toBitVec_inj.mp
  apply BitVec.eq_of_getLsbD_eq
  intro j hj
  have hd : (8 * i + j) / 8 = i := by omega
  have hm : (8 * i + j) % 8 = j := by omega
  have hlt : 8 * i + j < 8 * k := by omega
  simp only [BitVec.getLsbD_setWidth, hj, BitVec.getLsbD_ushiftRight, assemble_getLsbD, hd, hm, hlt,
    List.getElem?_eq_getElem hb, decide_true, Bool.true_and, Option.getD_some]

lemma decodeLittleEndian_eq_some {bits : BitVec (8 * k)} :
    decodeLittleEndian k s = some bits ↔ littleEndianBytes k bits <+: s := by
  rw [decodeLittleEndian]
  split
  · rename_i h
    refine iff_of_false (by simp) fun hp => ?_
    have := hp.length_le
    rw [littleEndianBytes_length] at this
    omega
  · rename_i h
    have hlen : (s.take k).length = k := by
      rw [List.length_take]
      omega
    change some (assemble (8 * k) (s.take k)) = _ ↔ _
    rw [Option.some_inj, List.prefix_iff_eq_take, littleEndianBytes_length]
    constructor
    · rintro rfl
      exact littleEndianBytes_assemble hlen
    · rintro h
      rw [← h, assemble_littleEndianBytes]

lemma decodeLittleEndian_isSome (h : k ≤ s.length) : (decodeLittleEndian k s).isSome := by
  rw [decodeLittleEndian, if_neg (by omega)]
  rfl

end Decode

def wordCodec (k : ℕ) : Codec UInt8 (BitVec (8 * k)) where
  width := k
  encode := littleEndianBytes k
  decode := decodeLittleEndian k
  length_encode := littleEndianBytes_length k
  decode_eq_some _ _ := decodeLittleEndian_eq_some

end DBlusBlus
