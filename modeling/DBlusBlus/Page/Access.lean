import DBlusBlus.Library.Edit
import DBlusBlus.Page.Header

/-! Parts of a page: reads, writes, and what a write leaves of the rest. -/

namespace DBlusBlus

open Span

namespace PageBytes

variable {ε : Type} (bytes : PageBytes) (offset count : ℕ) (data : List UInt8)

def byteAt (k : ℕ) : UInt8 := if h : k < pageSize then bytes ⟨k, h⟩ else 0

def slice : List UInt8 := List.ofFn fun i : Fin count => bytes.byteAt (offset + i)

/-- `subspan(offset, count)` of the page. -/
def read : Except (Exit ε) (List UInt8) :=
  if offset + count ≤ pageSize then .ok (bytes.slice offset count) else .error .fault

def write : Except (Exit ε) PageBytes :=
  if offset + data.length ≤ pageSize then .ok (bytes.overwrite offset data) else .error .fault

end PageBytes

namespace PageBytes

variable {ε : Type} {bytes bytes' : PageBytes} {offset count start k : ℕ} {data : List UInt8}

@[simp] lemma length_slice : (bytes.slice offset count).length = count := List.length_ofFn

lemma slice_getElem? : (bytes.slice offset count)[k]? =
    if k < count then some (bytes.byteAt (offset + k)) else none := by
  rw [slice, List.getElem?_ofFn]
  split <;> rfl

lemma slice_congr (h : ∀ i < count, bytes.byteAt (offset + i) = bytes'.byteAt (offset + i)) :
    bytes.slice offset count = bytes'.slice offset count := by
  rw [slice, slice, List.ofFn_inj]
  funext i
  exact h i i.isLt

lemma slice_add {more : ℕ} :
    bytes.slice offset (count + more) = bytes.slice offset count ++ bytes.slice (offset + count) more := by
  apply List.ext_getElem?
  intro i
  rw [List.getElem?_append, length_slice, slice_getElem?, slice_getElem?, slice_getElem?]
  by_cases h : i < count
  · rw [if_pos h, if_pos (by omega), if_pos h]
  · rw [if_neg h, show offset + count + (i - count) = offset + i by omega]
    by_cases hm : i < count + more
    · rw [if_pos hm, if_pos (by omega)]
    · rw [if_neg hm, if_neg (by omega)]

lemma subspan_eq_slice (h : offset + count ≤ pageSize) :
    bytes.subspan offset count h = bytes.slice offset count := by
  rw [subspan, slice, List.ofFn_inj]
  funext i
  rw [byteAt, dif_pos (by omega)]

lemma byteAt_overwrite (h : offset + data.length ≤ pageSize) :
    (bytes.overwrite offset data).byteAt k =
      if offset ≤ k ∧ k < offset + data.length then data[k - offset]?.getD 0
      else bytes.byteAt k := by
  by_cases hk : k < pageSize
  · rw [byteAt, dif_pos hk, byteAt, dif_pos hk, overwrite]
    dsimp only
    by_cases ho : offset ≤ k
    · by_cases hd : k < offset + data.length
      · rw [if_pos ho, if_pos ⟨ho, hd⟩, List.getElem?_eq_getElem (by omega)]
        rfl
      · rw [if_pos ho, if_neg (fun h => hd h.2), List.getElem?_eq_none (by omega)]
        rfl
    · rw [if_neg ho, if_neg (fun h => ho h.1)]
  · rw [byteAt, dif_neg hk, byteAt, dif_neg hk, if_neg (by omega)]

lemma slice_overwrite_of_disjoint (h : start + data.length ≤ pageSize)
    (hd : offset + count ≤ start ∨ start + data.length ≤ offset) :
    (bytes.overwrite start data).slice offset count = bytes.slice offset count := by
  apply slice_congr
  intro i hi
  rw [byteAt_overwrite h, if_neg (by omega)]

lemma slice_overwrite_self (h : offset + data.length ≤ pageSize) :
    (bytes.overwrite offset data).slice offset data.length = data := by
  apply List.ext_getElem?
  intro i
  rw [slice_getElem?, byteAt_overwrite h]
  by_cases hi : i < data.length
  · rw [if_pos hi, if_pos (by omega), Nat.add_sub_cancel_left, List.getElem?_eq_getElem hi]
    rfl
  · rw [if_neg hi, List.getElem?_eq_none (by omega)]

lemma overwrite_slice (h : offset + count ≤ pageSize) :
    bytes.overwrite offset (bytes.slice offset count) = bytes := by
  funext i
  rw [overwrite]
  split
  · rename_i ho
    rw [slice_getElem?]
    split
    · rw [Option.getD_some, byteAt, dif_pos (by omega)]
      congr
      omega
    · rfl
  · rfl

lemma read_eq (h : offset + count ≤ pageSize) :
    (bytes.read offset count : Except (Exit ε) _) = .ok (bytes.slice offset count) :=
  if_pos h

lemma read_bind {β : Type} {b : β} {f : List UInt8 → Except (Exit ε) β} :
    (bytes.read offset count >>= f) = .ok b ↔
      offset + count ≤ pageSize ∧ f (bytes.slice offset count) = .ok b := by
  by_cases h : offset + count ≤ pageSize <;> simp [read, h, bind, Except.bind]

lemma write_eq (h : offset + data.length ≤ pageSize) :
    (bytes.write offset data : Except (Exit ε) _) = .ok (bytes.overwrite offset data) :=
  if_pos h

lemma read_safe (h : offset + count ≤ pageSize) :
    Safe (bytes.read offset count : Except (Exit ε) _) := by
  rw [read_eq h]
  exact Safe.ok

end PageBytes

end DBlusBlus
