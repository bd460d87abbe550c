import Mathlib.Data.UInt
import Mathlib.Data.List.Sort

/-! Identifiers shared by the storage layers. -/

namespace DBlusBlus

structure FileId where
  value : UInt32
deriving DecidableEq

/-- Page numbers are positions as well as names, so they stay plain 64-bit integers. -/
abbrev PageNo := UInt64

def invalidFileId : FileId := ⟨0⟩
def invalidPageNo : PageNo := 0xFFFFFFFFFFFFFFFF

structure PageId where
  fileId : FileId
  pageNo : PageNo
deriving DecidableEq

def PageId.invalid : PageId := ⟨invalidFileId, invalidPageNo⟩

/-- The defaulted three-way comparison of the source: file first, page number second. -/
def PageId.le (a b : PageId) : Prop :=
  a.fileId.value < b.fileId.value ∨ (a.fileId = b.fileId ∧ a.pageNo ≤ b.pageNo)

instance : DecidableRel PageId.le := fun a b => by
  unfold PageId.le
  infer_instance

lemma pageNo_succ_cases (p : PageNo) : p + 1 = 0 ∨ p < p + 1 := by
  rw [UInt64.lt_iff_toNat_lt, ← UInt64.toNat_inj, UInt64.toNat_add]
  have := p.toNat_lt
  simp only [UInt64.toNat_one, UInt64.toNat_zero]
  omega

lemma pageNo_lt_succ {p q : PageNo} (hp : p + 1 ≠ 0) : q < p + 1 ↔ q < p ∨ q = p := by
  have h := (pageNo_succ_cases p).resolve_left hp
  rw [UInt64.lt_iff_toNat_lt, UInt64.toNat_add, UInt64.toNat_one] at h
  simp only [UInt64.lt_iff_toNat_lt, ← UInt64.toNat_inj, UInt64.toNat_add, UInt64.toNat_one]
  have := p.toNat_lt
  omega

lemma pageNo_lt_succ_of_lt {p q : PageNo} (h : p < q) : p < p + 1 := by
  refine (pageNo_succ_cases p).resolve_left fun hz => ?_
  rw [UInt64.lt_iff_toNat_lt] at h
  rw [← UInt64.toNat_inj, UInt64.toNat_add, UInt64.toNat_one, UInt64.toNat_zero] at hz
  have := p.toNat_lt
  have := q.toNat_lt
  omega

end DBlusBlus
