import DBlusBlus.Heap.Reload

/-! Pointers to previous versions on the same page lead to lower slots. -/

namespace DBlusBlus

open Span

/-- The tuple in slot `s` names slot `t` of its own page as its previous version. -/
def PointsTo (page : HeapPage) (bytes : PageBytes) (slots : List HeapSlotEntry) (s t : ℕ) : Prop :=
  ∃ slot header, slots[s]? = some slot ∧ slot.Retained ∧
    decodeTupleHeader (bytes.slice slot.tupleOffset.toNat slot.tupleLength.toNat) = .ok header ∧
    header.prevPageNo = page.id.pageNo ∧ header.prevSlot.toNat = t

/-- Versions that have been checked when they were inserted point down. -/
def Descends (page : HeapPage) (bytes : PageBytes) (slots : List HeapSlotEntry) : Prop :=
  ∀ s t, PointsTo page bytes slots s t → t < s

section Walks

variable {page : HeapPage} {bytes : PageBytes} {slots : List HeapSlotEntry} {walk : List ℕ} {s : ℕ}

lemma Descends.pairwise (h : Descends page bytes slots)
    (hw : walk.IsChain (PointsTo page bytes slots)) : walk.Pairwise (· > ·) :=
  List.isChain_iff_pairwise.mp (hw.imp h)

lemma Descends.nodup (h : Descends page bytes slots)
    (hw : walk.IsChain (PointsTo page bytes slots)) : walk.Nodup :=
  (h.pairwise hw).imp fun hgt => Nat.ne_of_gt hgt

lemma Descends.length_le (h : Descends page bytes slots)
    (hw : (s :: walk).IsChain (PointsTo page bytes slots)) : walk.length ≤ s := by
  induction walk generalizing s with
  | nil => exact Nat.zero_le _
  | cons t walk ih =>
    obtain ⟨hst, hw⟩ := List.isChain_cons_cons.mp hw
    have hlt := h s t hst
    have := ih hw
    rw [List.length_cons]
    omega

end Walks

section Steps

variable {page : HeapPage} {bytes bytes' : PageBytes} {headers headers' : HeapPageHeaders}
  {slots slots' : List HeapSlotEntry}

lemma PageStep.descends (hstep : PageStep page bytes headers slots bytes' headers' slots')
    (hv : LocallyValid page.id.pageNo bytes headers slots) (h : Descends page bytes slots) :
    Descends page bytes' slots' := by
  rintro s t ⟨slot, header, hs, hr, hd, hp, hprev⟩
  cases hstep with
  | same => exact h s t ⟨slot, header, hs, hr, hd, hp, hprev⟩
  | @inserted tuple hroomy hc =>
    have hl := hroomy.lower
    have hroom := hroomy.room
    rcases getElem?_concat hs with hk | ⟨rfl, rfl⟩
    · have hlt := (List.getElem?_eq_some_iff.mp hk).1
      have hstart := ((hv.canonical slot (List.mem_of_getElem? hk)).owns hr).2.1.2.1
      rw [hroomy.slice_of_disjoint (by omega) (by omega) (.inr hstart)] at hd
      exact h s t ⟨slot, header, hk, hr, hd, hp, hprev⟩
    · rw [hroomy.toNat_offset, hroomy.toNat_length, hroomy.slice_tuple] at hd
      obtain ⟨other, ho, -, -, hallowed⟩ := validateTupleForSlot_eq_ok.mp hc
      obtain rfl := Except.ok.inj (ho.symm.trans hd)
      have hcount := hroomy.toNat_slotCount
      rcases hallowed with hinvalid | ⟨-, hself, hout⟩
      · exact absurd (hp.symm.trans hinvalid) hv.ordinary.2
      · have hne : other.prevSlot ≠ headers.heap.slotCount := fun he => hself ⟨hp, he⟩
        have hlt : ¬ headers.heap.slotCount + 1 ≤ other.prevSlot := fun hle => hout ⟨hp, hle⟩
        rw [UInt16.le_iff_toNat_le] at hlt
        rw [Ne, ← UInt16.toNat_inj, hroomy.count] at hne
        change (headers.heap.slotCount + 1).toNat = _ at hcount
        omega
  | @marked slotId old hs' hn =>
    have hold {k : ℕ} {other : HeapSlotEntry} (hk : slots[k]? = some other) (hro : other.Retained)
        (hdo : decodeTupleHeader ((DBlusBlus.marked slotId old bytes).slice
          other.tupleOffset.toNat other.tupleLength.toNat) = .ok header) : t < k := by
      have hstart := ((hv.canonical other (List.mem_of_getElem? hk)).owns hro).2.1.2.1
      have hb := hv.slotOffset_bounds hs'
      have ho := hv.order
      rw [slice_marked hv hs' (.inr (show _ + 8 ≤ _ by omega))] at hdo
      exact h k t ⟨other, header, hk, hro, hdo, hp, hprev⟩
    rcases set_getElem? hs with ⟨rfl, rfl⟩ | ⟨-, hk⟩
    · have hro : old.Retained := ⟨by rw [hn]; simp, hr.2⟩
      have hlt := hold hs' hro hd
      exact hlt
    · exact hold hk hr hd
  | compacted hstate hplan ha =>
    obtain ⟨old, ho, ⟨hn, pd, hpd, -, hsource, hlength, rfl, hsmall⟩ | ⟨-, rfl⟩⟩ :=
      hplan.planned hv hstate hs
    · dsimp only at hd
      rw [hsmall, ← hlength, ha.slice hv hpd, hsource, hlength] at hd
      exact h s t ⟨old, header, ho,
        (hv.canonical old (List.mem_of_getElem? ho)).retained hn, hd, hp, hprev⟩
    · exact absurd rfl hr.2

lemma performAll_descends (calls : List HeapPageCall)
    (hv : LocallyValid page.id.pageNo bytes headers slots) (h : Descends page bytes slots) :
    ∃ headers' slots', LocallyValid page.id.pageNo (page.performAll calls bytes).2 headers' slots' ∧
      Descends page (page.performAll calls bytes).2 slots' := by
  induction calls generalizing bytes headers slots with
  | nil => exact ⟨_, _, hv, h⟩
  | cons call calls ih =>
    obtain ⟨_, _, hstep⟩ := perform_pageStep call hv
    exact ih (hstep.valid hv) (hstep.descends hv h)

end Steps

section Theorem

variable {page : HeapPage}

end Theorem

end DBlusBlus
