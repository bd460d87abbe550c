import DBlusBlus.Common.CrcRegister
import DBlusBlus.Page.Finalize

/-! Which changes of a page its checksum detects. -/

namespace DBlusBlus

open Finset Register

def PageBytes.bit (page : PageBytes) (k : ℕ) : Bool :=
  (page.byteAt (k / 8)).toBitVec.getLsbD (k % 8)

/-- The bits of a page at which two images differ. -/
def differingBits (p q : PageBytes) : Finset ℕ := {k ∈ range (8 * pageSize) | p.bit k ≠ q.bit k}

/-- For how many steps a bit of the page is in the register, 31 steps after the page is. A bit of the
checksum is there as itself. -/
def bitAge (k : ℕ) : ℕ := if 128 ≤ k ∧ k < 160 then 159 - k else 65567 - k

variable {p q : PageBytes} {k i : ℕ}

lemma bit_ofFn (page : PageBytes) (k : ℕ) : Bitmap.bit (List.ofFn page) k = page.bit k := by
  rw [Bitmap.bit, PageBytes.bit, List.getElem?_ofFn, PageBytes.byteAt]
  split_ifs <;> rfl

lemma bit_checksumInput (page : PageBytes) (k : ℕ) :
    page.checksumInput.bit k = if 128 ≤ k ∧ k < 160 then false else page.bit k := by
  have hbyte : (page.overwrite checksumOffset (List.replicate checksumSize 0)).byteAt (k / 8) = _ :=
    PageBytes.byteAt_overwrite (by decide)
  rw [PageBytes.bit, PageBytes.checksumInput, hbyte]
  by_cases h : 128 ≤ k ∧ k < 160
  · have hin : checksumOffset ≤ k / 8 ∧
        k / 8 < checksumOffset + (List.replicate checksumSize (0 : UInt8)).length := by
      change 16 ≤ k / 8 ∧ k / 8 < 20
      omega
    rw [if_pos h, if_pos hin, List.getElem?_replicate]
    split_ifs <;> exact BitVec.getLsbD_zero
  · have hout : ¬ (checksumOffset ≤ k / 8 ∧
        k / 8 < checksumOffset + (List.replicate checksumSize (0 : UInt8)).length) := by
      change ¬ (16 ≤ k / 8 ∧ k / 8 < 20)
      omega
    rw [if_neg h, if_neg hout]
    rfl

lemma getLsbD_of_verify (hp : verifyPageChecksum p = true) (hi : i < 32) :
    (computePageChecksum p).toBitVec.getLsbD i = p.bit (128 + i) := by
  rw [verifyPageChecksum, beq_iff_eq, PageBytes.subspan_eq_slice, decodeU32,
    Option.map_eq_some_iff] at hp
  obtain ⟨bits, hbits, heq⟩ := hp
  rw [decodeLittleEndian, if_neg (by rw [PageBytes.length_slice]; decide), Option.some_inj,
    List.take_of_length_le (by rw [PageBytes.length_slice]; decide)] at hbits
  have hbits : assemble 32 (p.slice checksumOffset checksumSize) = bits := hbits
  have hd : (128 + i) / 8 = checksumOffset + i / 8 := by
    change _ = 16 + i / 8
    omega
  have hm : (128 + i) % 8 = i % 8 := by omega
  have hlt : i / 8 < checksumSize := by
    change i / 8 < 4
    omega
  rw [← heq, UInt32.toBitVec_ofBitVec, ← hbits, assemble_getLsbD, PageBytes.slice_getElem?,
    if_pos hlt, Option.getD_some, PageBytes.bit, hd, hm]
  simp [hi]

lemma word_checksum_add : word (computePageChecksum p) + word (computePageChecksum q) =
    ∑ k ∈ differingBits p q with ¬ (128 ≤ k ∧ k < 160), (step crcTaps ^ (65536 - k)) one := by
  have hlength : (List.ofFn q.checksumInput).length = (List.ofFn p.checksumInput).length := by
    rw [List.length_ofFn, List.length_ofFn]
  have h := word_crc32c_add hlength
  rw [List.length_ofFn] at h
  rw [computePageChecksum, computePageChecksum, h, differingBits, filter_filter]
  refine sum_congr (filter_congr fun k _ => ?_) fun _ _ => rfl
  rw [bit_ofFn, bit_ofFn, bit_checksumInput, bit_checksumInput]
  by_cases hk : 128 ≤ k ∧ k < 160
  · rw [if_pos hk, if_pos hk]
    exact iff_of_false (fun hne => hne rfl) fun hne => hne.2 hk
  · rw [if_neg hk, if_neg hk]
    exact (and_iff_left hk).symm

lemma pow_word_add (hp : verifyPageChecksum p = true) (hq : verifyPageChecksum q = true) :
    (step crcTaps ^ 31) (word (computePageChecksum p) + word (computePageChecksum q)) =
      ∑ k ∈ differingBits p q with 128 ≤ k ∧ k < 160, (step crcTaps ^ (159 - k)) one := by
  rw [← univ_sum_single (word (computePageChecksum p) + word (computePageChecksum q)), map_sum]
  have hterm (i : Fin 32) : (step crcTaps ^ 31)
      (Pi.single i ((word (computePageChecksum p) + word (computePageChecksum q)) i)) =
      if p.bit (128 + i) ≠ q.bit (128 + i) then (step crcTaps ^ (31 - i.val)) one else 0 := by
    rw [Pi.add_apply, word, word, getLsbD_of_verify hp i.isLt, getLsbD_of_verify hq i.isLt,
      bitValue_add]
    split_ifs
    · exact pow_single_of_le (Nat.le_of_lt_succ i.isLt)
    · rw [Pi.single_zero, map_zero]
  rw [sum_congr rfl fun i _ => hterm i, ← sum_range fun i =>
    if p.bit (128 + i) ≠ q.bit (128 + i) then (step crcTaps ^ (31 - i)) one else 0, ← sum_filter]
  refine sum_bij (fun i _ => 128 + i) (fun i hi => ?_) (fun i _ j _ h => ?_) (fun k hk => ?_)
    fun i _ => ?_
  · obtain ⟨hi, hne⟩ := mem_filter.mp hi
    have hi := mem_range.mp hi
    refine mem_filter.mpr ⟨mem_filter.mpr ⟨mem_range.mpr ?_, hne⟩, by omega⟩
    change 128 + i < 65536
    omega
  · exact Nat.add_left_cancel h
  · obtain ⟨hk, hrange⟩ := mem_filter.mp hk
    have hne := (mem_filter.mp hk).2
    obtain ⟨i, rfl⟩ := Nat.exists_eq_add_of_le hrange.1
    exact ⟨i, mem_filter.mpr ⟨mem_range.mpr (by omega), hne⟩, rfl⟩
  · congr 2
    omega

lemma bitAge_inj {j : ℕ} (hi : i < 65536) (hj : j < 65536) (h : bitAge i = bitAge j) : i = j := by
  unfold bitAge at h
  split_ifs at h <;> omega

lemma lt_of_mem_differingBits (h : k ∈ differingBits p q) : k < 65536 :=
  mem_range.mp (mem_filter.mp h).1

lemma bitAge_injOn : Set.InjOn bitAge (differingBits p q) := fun _ hi _ hj h =>
  bitAge_inj (lt_of_mem_differingBits hi) (lt_of_mem_differingBits hj) h

theorem syndrome_of_verify (hp : verifyPageChecksum p = true) (hq : verifyPageChecksum q = true) :
    syndrome crcTaps ((differingBits p q).image bitAge) = 0 := by
  have hfield := pow_word_add hp hq
  rw [word_checksum_add, map_sum] at hfield
  rw [syndrome, sum_image bitAge_injOn, ← sum_filter_add_sum_filter_not _
    fun k => 128 ≤ k ∧ k < 160]
  have hin : ∑ k ∈ differingBits p q with 128 ≤ k ∧ k < 160, (step crcTaps ^ bitAge k) one =
      ∑ k ∈ differingBits p q with 128 ≤ k ∧ k < 160, (step crcTaps ^ (159 - k)) one := by
    refine sum_congr rfl fun k hk => ?_
    rw [bitAge, if_pos (mem_filter.mp hk).2]
  have hout : ∑ k ∈ differingBits p q with ¬ (128 ≤ k ∧ k < 160), (step crcTaps ^ bitAge k) one =
      ∑ k ∈ differingBits p q with ¬ (128 ≤ k ∧ k < 160),
        (step crcTaps ^ 31) ((step crcTaps ^ (65536 - k)) one) := by
    refine sum_congr rfl fun k hk => ?_
    obtain ⟨hk, hn⟩ := mem_filter.mp hk
    have hlt := lt_of_mem_differingBits hk
    have hage : 65567 - k = 31 + (65536 - k) := by omega
    rw [bitAge, if_neg hn, ← Module.End.mul_apply, ← pow_add, hage]
  rw [hin, hout, hfield, ZModModule.add_self]

lemma bit_eq_of_byte (h : p.byteAt (k / 8) = q.byteAt (k / 8)) : p.bit k = q.bit k := by
  rw [PageBytes.bit, PageBytes.bit, h]

lemma differingBits_nonempty (hne : q ≠ p) : (differingBits p q).Nonempty := by
  by_contra hempty
  rw [not_nonempty_iff_eq_empty] at hempty
  refine hne (funext fun i => UInt8.toBitVec_inj.mp (BitVec.eq_of_getLsbD_eq fun j hj => ?_))
  have hi : i.val < 8192 := i.isLt
  have hd : (8 * i.val + j) / 8 = i := by omega
  have hm : (8 * i.val + j) % 8 = j := by omega
  have hmem : 8 * i.val + j ∉ differingBits p q := hempty ▸ notMem_empty _
  by_contra hbit
  refine hmem (mem_filter.mpr ⟨mem_range.mpr ?_, fun heq => hbit ?_⟩)
  · change _ < 8 * 8192
    omega
  · rw [PageBytes.bit, PageBytes.bit, hd, hm, PageBytes.byteAt, PageBytes.byteAt, dif_pos i.isLt,
      dif_pos i.isLt] at heq
    exact heq.symm

def Burst (p q : PageBytes) (start : ℕ) : Prop :=
  ∀ i : Fin pageSize, p i ≠ q i → start ≤ i.val ∧ i.val < start + 4

lemma Burst.window {start : ℕ} (h : Burst p q start)
    (hstart : start + 4 ≤ 16 ∨ start = 16 ∨ 20 ≤ start) :
    ∃ youngest, ∀ age ∈ (differingBits p q).image bitAge, youngest ≤ age ∧ age ≤ youngest + 31 := by
  have hbits (k : ℕ) (hk : k ∈ differingBits p q) : 8 * start ≤ k ∧ k < 8 * start + 32 := by
    have hlt := lt_of_mem_differingBits hk
    have hbyte : k / 8 < pageSize := by
      change _ < 8192
      omega
    have hne : p ⟨k / 8, hbyte⟩ ≠ q ⟨k / 8, hbyte⟩ := by
      intro heq
      refine (mem_filter.mp hk).2 (bit_eq_of_byte ?_)
      rw [PageBytes.byteAt, PageBytes.byteAt, dif_pos hbyte, dif_pos hbyte, heq]
    have := h _ hne
    dsimp only at this
    omega
  refine ⟨if start = 16 then 0 else 65536 - 8 * start, fun age hage => ?_⟩
  obtain ⟨k, hk, rfl⟩ := mem_image.mp hage
  have := hbits k hk
  have := lt_of_mem_differingBits hk
  unfold bitAge
  split_ifs <;> omega

/-- The errors that the checksum is there for: an odd number of bits, two bits, four bytes away from
the checksum field, and the field alone. -/
def Detectable (p q : PageBytes) : Prop :=
  Odd (differingBits p q).card ∨ (differingBits p q).card = 2 ∨
    (∃ start, (start + 4 ≤ 16 ∨ 20 ≤ start) ∧ Burst p q start) ∨ Burst p q 16

theorem verify_of_detectable (hp : verifyPageChecksum p = true) (hne : q ≠ p)
    (h : Detectable p q) : verifyPageChecksum q = false := by
  by_contra hq
  have hzero := syndrome_of_verify hp (Bool.eq_true_of_not_eq_false hq)
  have window {start : ℕ} (hb : Burst p q start)
      (hstart : start + 4 ≤ 16 ∨ start = 16 ∨ 20 ≤ start) : False := by
    obtain ⟨youngest, hwindow⟩ := hb.window hstart
    exact syndrome_window crcTaps_last ((differingBits_nonempty hne).image _) hwindow hzero
  rcases h with hodd | htwo | ⟨start, hstart, hburst⟩ | hburst
  · rw [← card_image_of_injOn bitAge_injOn] at hodd
    exact syndrome_odd sum_crcTaps hodd hzero
  · obtain ⟨i, j, hij, hset⟩ := card_eq_two.mp htwo
    have hi : i < 65536 := lt_of_mem_differingBits (p := p) (q := q) (by simp [hset])
    have hj : j < 65536 := lt_of_mem_differingBits (p := p) (q := q) (by simp [hset])
    have hage (k : ℕ) : bitAge k ≤ 65567 := by
      unfold bitAge
      split_ifs <;> omega
    have hi' := hage i
    have hj' := hage j
    rw [hset, image_insert, image_singleton] at hzero
    rcases lt_or_gt_of_ne fun h => hij (bitAge_inj hi hj h) with hlt | hgt
    · exact syndrome_pair crcTaps_last hlt (pow_one_ne (by omega) (by omega)) hzero
    · rw [pair_comm] at hzero
      exact syndrome_pair crcTaps_last hgt (pow_one_ne (by omega) (by omega)) hzero
  · exact window hburst (hstart.imp_right .inr)
  · exact window hburst (.inr (.inl rfl))

lemma finalize_finalize :
    finalizePageChecksum (finalizePageChecksum p) = finalizePageChecksum p := by
  rw [finalizePageChecksum, computePageChecksum_finalize, ← slice_finalize_checksum]
  exact PageBytes.overwrite_slice (by decide)

/-- What the page checksum detects, and what finalizing does. -/
theorem pageChecksum_detects :
    (∀ p q : PageBytes, verifyPageChecksum p = true → q ≠ p → Detectable p q →
      verifyPageChecksum q = false) ∧
    ∀ p : PageBytes, SameContent (finalizePageChecksum p) p ∧
      verifyPageChecksum (finalizePageChecksum p) = true ∧
      finalizePageChecksum (finalizePageChecksum p) = finalizePageChecksum p :=
  ⟨fun _ _ => verify_of_detectable,
    fun p => ⟨sameContent_finalize p, verify_finalize, finalize_finalize⟩⟩

end DBlusBlus
