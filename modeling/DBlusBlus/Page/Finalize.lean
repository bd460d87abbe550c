import DBlusBlus.Page.Access
import DBlusBlus.Page.Checksum

/-! Finalizing the checksum of a page. -/

namespace DBlusBlus

variable {bytes : PageBytes} {offset count : ℕ}

lemma slice_finalize (h : offset + count ≤ 16 ∨ 20 ≤ offset) :
    (finalizePageChecksum bytes).slice offset count = bytes.slice offset count := by
  rw [finalizePageChecksum, PageBytes.slice_overwrite_of_disjoint]
  · rw [littleEndianBytes_length]
    decide
  · rw [littleEndianBytes_length]
    exact h

lemma slice_finalize_checksum : (finalizePageChecksum bytes).slice checksumOffset checksumSize =
    littleEndianBytes checksumSize (computePageChecksum bytes).toBitVec := by
  have hlen := littleEndianBytes_length checksumSize (computePageChecksum bytes).toBitVec
  have hself : (finalizePageChecksum bytes).slice checksumOffset
      (littleEndianBytes checksumSize (computePageChecksum bytes).toBitVec).length = _ :=
    PageBytes.slice_overwrite_self (by rw [hlen]; decide)
  rw [hlen] at hself
  exact hself

lemma checksumInput_eq {bytes' : PageBytes} :
    bytes'.checksumInput = bytes.checksumInput ↔ SameContent bytes' bytes := by
  constructor
  · intro h i hi
    have hi' := congrFun h i
    rwa [PageBytes.checksumInput, PageBytes.checksumInput, PageBytes.overwrite_outside _ _ _ _ hi,
      PageBytes.overwrite_outside _ _ _ _ hi] at hi'
  · intro h
    funext i
    rw [PageBytes.checksumInput, PageBytes.checksumInput]
    by_cases hi : i.val < 16 ∨ 20 ≤ i.val
    · rw [PageBytes.overwrite_outside _ _ _ _ hi, PageBytes.overwrite_outside _ _ _ _ hi]
      exact h i hi
    · have hin : (List.replicate checksumSize (0 : UInt8))[i.val - checksumOffset]? = some 0 := by
        rw [List.getElem?_replicate, if_pos]
        change i.val - 16 < 4
        omega
      have hle : checksumOffset ≤ i.val := by
        change 16 ≤ i.val
        omega
      rw [PageBytes.overwrite, PageBytes.overwrite, hin, if_pos hle, if_pos hle]
      rfl

lemma computePageChecksum_finalize :
    computePageChecksum (finalizePageChecksum bytes) = computePageChecksum bytes := by
  rw [computePageChecksum, checksumInput_eq.mpr (sameContent_finalize bytes), computePageChecksum]

theorem verify_finalize : verifyPageChecksum (finalizePageChecksum bytes) = true := by
  rw [verifyPageChecksum, PageBytes.subspan_eq_slice, slice_finalize_checksum,
    computePageChecksum_finalize, beq_iff_eq]
  have h : decodeU32 (((littleEndianBytes 4 (computePageChecksum bytes).toBitVec).drop 0).take 4) =
      some (computePageChecksum bytes) := decodeU32_window.mpr List.prefix_rfl
  rw [List.drop_zero, List.take_of_length_le (by rw [littleEndianBytes_length])] at h
  exact h

end DBlusBlus
