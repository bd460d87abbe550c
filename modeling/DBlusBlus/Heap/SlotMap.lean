import DBlusBlus.Heap.Atomic
import DBlusBlus.Tuple.Grammar

/-! A heap page as a list of slots that only grows: every run from an initialized page refines it. -/

namespace DBlusBlus

open Span

inductive SlotFate
  | live | retained | reclaimed
deriving DecidableEq

/-- What was inserted into a slot and what became of it. -/
structure StoredTuple where
  bytes : List UInt8
  fate : SlotFate
deriving DecidableEq

namespace StoredTuple

variable (stored : StoredTuple)

def killed : StoredTuple := { stored with fate := .retained }

def reclaimed : StoredTuple :=
  match stored.fate with
  | .retained => { stored with fate := .reclaimed }
  | _ => stored

def occupied : ℕ := if stored.fate = .reclaimed then 0 else stored.bytes.length

end StoredTuple

abbrev SlotMap := List StoredTuple

inductive HeapPageCall
  | insert (tuple : List UInt8)
  | markDead (slotId : SlotId)
  | compact

inductive HeapPageReply
  | inserted (result : Except (Exit HeapPageInsertFailure) Rid)
  | marked (result : Except (Exit HeapPageMarkDeadFailure) Unit)
  | compacted (result : Except (Exit HeapPageCompactFailure) Unit)

namespace HeapPage

variable (page : HeapPage)

def perform : HeapPageCall → PageBytes → HeapPageReply × PageBytes
  | .insert tuple, bytes =>
    let done := Edit.run (page.insert tuple) bytes
    (.inserted done.1, done.2)
  | .markDead slotId, bytes =>
    let done := Edit.run (page.markDead slotId) bytes
    (.marked done.1, done.2)
  | .compact, bytes =>
    let done := Edit.run page.compact bytes
    (.compacted done.1, done.2)

def performAll : List HeapPageCall → PageBytes → List HeapPageReply × PageBytes
  | [], bytes => ([], bytes)
  | call :: calls, bytes =>
    let next := page.perform call bytes
    let rest := performAll calls next.2
    (next.1 :: rest.1, rest.2)

end HeapPage

namespace SlotMap

variable (page : HeapPage)

def occupied (map : SlotMap) : ℕ := (map.map StoredTuple.occupied).sum

def lookup (map : SlotMap) (slotId : SlotId) : Option (List UInt8) :=
  map[slotId.toNat]?.bind fun stored => if stored.fate = .live then some stored.bytes else none

def Checked (map : SlotMap) (tuple : List UInt8) : Prop :=
  validateTupleForSlot tuple page.schemaHistory ⟨page.id, UInt16.ofNat map.length⟩
    (UInt16.ofNat (map.length + 1)) = .ok ()

inductive Step : SlotMap → HeapPageCall → HeapPageReply → SlotMap → Prop
  | tooLarge {map : SlotMap} {tuple : List UInt8} (hn : 8135 < tuple.length) :
    Step map (.insert tuple) (.inserted (.error (.error ⟨.tupleTooLarge, .none, .none⟩))) map
  | invalidTuple {map : SlotMap} {tuple : List UInt8} {error : HeapPageValidationError}
    (hn : tuple.length ≤ 8135) (hc : ¬ Checked page map tuple) :
    Step map (.insert tuple) (.inserted (.error (.error ⟨.invalidTuple, .none, error⟩))) map
  | insufficientSpace {map : SlotMap} {tuple : List UInt8} (hn : tuple.length ≤ 8135)
    (hc : Checked page map tuple)
    (hs : 8144 - 8 * map.length - map.occupied < tuple.length + 8) :
    Step map (.insert tuple) (.inserted (.error (.error ⟨.insufficientSpace, .none, .none⟩))) map
  | inserted {map : SlotMap} {tuple : List UInt8} (hn : tuple.length ≤ 8135)
    (hc : Checked page map tuple)
    (hs : tuple.length + 8 ≤ 8144 - 8 * map.length - map.occupied) :
    Step map (.insert tuple) (.inserted (.ok ⟨page.id, UInt16.ofNat map.length⟩))
      (map ++ [⟨tuple, .live⟩])
  | slotOutOfRange {map : SlotMap} {slotId : SlotId} (h : map.length ≤ slotId.toNat) :
    Step map (.markDead slotId) (.marked (.error (.error ⟨.slotOutOfRange, .none⟩))) map
  | alreadyDead {map : SlotMap} {slotId : SlotId} {stored : StoredTuple}
    (hs : map[slotId.toNat]? = some stored) (hf : stored.fate ≠ .live) :
    Step map (.markDead slotId) (.marked (.error (.error ⟨.alreadyDead, .none⟩))) map
  | markedDead {map : SlotMap} {slotId : SlotId} {stored : StoredTuple}
    (hs : map[slotId.toNat]? = some stored) (hf : stored.fate = .live) :
    Step map (.markDead slotId) (.marked (.ok ())) (map.set slotId.toNat stored.killed)
  | compacted {map : SlotMap} :
    Step map .compact (.compacted (.ok ())) (map.map StoredTuple.reclaimed)

inductive Run : SlotMap → List HeapPageCall → List HeapPageReply → SlotMap → Prop
  | nil {map : SlotMap} : Run map [] [] map
  | cons {map map' map'' : SlotMap} {call : HeapPageCall} {calls : List HeapPageCall}
    {reply : HeapPageReply} {replies : List HeapPageReply} (hstep : Step page map call reply map')
    (hrun : Run map' calls replies map'') : Run map (call :: calls) (reply :: replies) map''

end SlotMap

/-- The entry of a slot and its bytes are what the slot map says. -/
def Stands (bytes : PageBytes) (slot : HeapSlotEntry) (stored : StoredTuple) : Prop :=
  match stored.fate with
  | .live => slot.state = .normal ∧
    bytes.slice slot.tupleOffset.toNat slot.tupleLength.toNat = stored.bytes
  | .retained => slot.state = .dead ∧ slot.tupleLength ≠ 0 ∧
    bytes.slice slot.tupleOffset.toNat slot.tupleLength.toNat = stored.bytes
  | .reclaimed => slot = ⟨0, 0, .dead, 0⟩

/-- The page stores the slot map and wastes no byte. -/
structure Represents (page : HeapPage) (bytes : PageBytes) (headers : HeapPageHeaders)
    (slots : List HeapSlotEntry) (map : SlotMap) : Prop where
  valid : LocallyValid page.id.pageNo bytes headers slots
  length : slots.length = map.length
  stands : ∀ (k : ℕ) (slot : HeapSlotEntry) (stored : StoredTuple), slots[k]? = some slot →
    map[k]? = some stored → Stands bytes slot stored
  packed : headers.heap.upper.toNat + map.occupied = pageSize

section Steps

variable {page : HeapPage} {bytes bytes' : PageBytes} {headers : HeapPageHeaders}
  {slots : List HeapSlotEntry} {map : SlotMap} {slot : HeapSlotEntry} {stored : StoredTuple}
  {tuple : List UInt8} {slotId : SlotId} {k : ℕ}

lemma Stands.retained (h : Stands bytes slot stored) (hf : stored.fate ≠ .reclaimed)
    {upper : UInt16} (hc : slot.Canonical upper) : slot.Retained ∧
    bytes.slice slot.tupleOffset.toNat slot.tupleLength.toNat = stored.bytes := by
  unfold Stands at h
  cases hfate : stored.fate with
  | live =>
    rw [hfate] at h
    exact ⟨hc.retained h.1, h.2⟩
  | retained =>
    rw [hfate] at h
    exact ⟨⟨by rw [h.1]; simp, h.2.1⟩, h.2.2⟩
  | reclaimed => exact absurd hfate hf

lemma Stands.congr (h : Stands bytes slot stored)
    (hb : slot.Retained → bytes'.slice slot.tupleOffset.toNat slot.tupleLength.toNat =
      bytes.slice slot.tupleOffset.toNat slot.tupleLength.toNat) {upper : UInt16}
    (hc : slot.Canonical upper) : Stands bytes' slot stored := by
  have hret := fun hf => (h.retained hf hc).1
  unfold Stands at h ⊢
  cases hfate : stored.fate with
  | live =>
    rw [hfate] at h
    rw [hb (hret (by rw [hfate]; simp))]
    exact h
  | retained =>
    rw [hfate] at h
    rw [hb (hret (by rw [hfate]; simp))]
    exact h
  | reclaimed =>
    rw [hfate] at h
    exact h

namespace Represents

variable (h : Represents page bytes headers slots map)
include h

lemma stored_of_slot (hs : slots[k]? = some slot) :
    ∃ stored, map[k]? = some stored ∧ Stands bytes slot stored := by
  have hlt := (List.getElem?_eq_some_iff.mp hs).1
  rw [h.length] at hlt
  have hm : map[k]? = some map[k] := List.getElem?_eq_getElem hlt
  exact ⟨_, hm, h.stands k slot _ hs hm⟩

lemma slot_of_stored (hm : map[k]? = some stored) :
    ∃ slot, slots[k]? = some slot ∧ Stands bytes slot stored := by
  have hlt := (List.getElem?_eq_some_iff.mp hm).1
  rw [← h.length] at hlt
  have hs : slots[k]? = some slots[k] := List.getElem?_eq_getElem hlt
  exact ⟨_, hs, h.stands k _ stored hs hm⟩

lemma slotCount : headers.heap.slotCount = UInt16.ofNat map.length := by
  rw [← h.length, ← h.valid.count, UInt16.ofNat_toNat]

lemma checked_iff : map.Checked page tuple ↔ validateTupleForSlot tuple page.schemaHistory
    ⟨page.id, headers.heap.slotCount⟩ (headers.heap.slotCount + 1) = .ok () := by
  rw [SlotMap.Checked, h.slotCount, UInt16.ofNat_add]
  rfl

lemma space : headers.heap.upper.toNat - headers.heap.lower.toNat =
    8144 - 8 * map.length - map.occupied := by
  have hl : headers.heap.lower.toNat = 48 + 8 * slots.length := h.valid.lower
  have hp : headers.heap.upper.toNat + map.occupied = 8192 := h.packed
  rw [h.length] at hl
  omega

lemma tupleBytes {ε : Type} :
    (page.tupleBytes bytes slotId : Except (Exit ε) _) = .ok (map.lookup slotId) := by
  rw [tupleBytes_eq h.valid, liveTuple, SlotMap.lookup]
  rcases hs : slots[slotId.toNat]? with _ | slot
  · rw [List.getElem?_eq_none_iff, h.length] at hs
    rw [List.getElem?_eq_none hs]
    rfl
  · obtain ⟨stored, hm, hst⟩ := h.stored_of_slot hs
    rw [hm, Option.bind_some, Option.bind_some]
    unfold Stands at hst
    cases hfate : stored.fate with
    | live =>
      rw [hfate] at hst
      rw [if_pos hst.1, if_pos rfl, hst.2]
    | retained =>
      rw [hfate] at hst
      rw [if_neg (by rw [hst.1]; simp), if_neg (by simp)]
    | reclaimed =>
      rw [hfate] at hst
      rw [hst, if_neg (by simp), if_neg (by simp)]

lemma inserted (hc : map.Checked page tuple)
    (hs : tuple.length + 8 ≤ 8144 - 8 * map.length - map.occupied) :
    Represents page (inserted headers.heap tuple bytes)
      ⟨headers.common, insertedHeader headers.heap tuple⟩ (slots ++ [insertedSlot headers.heap tuple])
      (map ++ [⟨tuple, .live⟩]) := by
  have hlen : 48 ≤ tuple.length := validateTupleForSlot_length (h.checked_iff.mp hc)
  rw [← h.space] at hs
  have hroomy := h.valid.roomy (show 0 < tuple.length by omega) hs
  have hroom := hroomy.room
  have hl := hroomy.lower
  refine ⟨h.valid.inserted hroomy, ?_, fun k slot stored hk hm => ?_, ?_⟩
  · rw [List.length_append, List.length_append, h.length]
    rfl
  · rcases getElem?_concat hk with hk | ⟨rfl, rfl⟩
    · have hlt := (List.getElem?_eq_some_iff.mp hk).1
      rw [List.getElem?_append_left (by rwa [← h.length])] at hm
      have hcanonical := h.valid.canonical slot (List.mem_of_getElem? hk)
      refine (h.stands k slot stored hk hm).congr (fun hr => ?_) hcanonical
      obtain ⟨-, hstart, -⟩ := (hcanonical.owns hr).2.1
      exact hroomy.slice_of_disjoint (by omega) (by omega) (.inr hstart)
    · rw [h.length, List.getElem?_append_right (Nat.le_refl _), Nat.sub_self] at hm
      obtain rfl := Option.some.inj hm
      refine ⟨rfl, ?_⟩
      rw [hroomy.toNat_offset, hroomy.toNat_length, hroomy.slice_tuple]
  · have hp := h.packed
    rw [hroomy.toNat_upper, SlotMap.occupied, List.map_append, List.sum_append, List.map_singleton,
      List.sum_singleton]
    change _ + (map.occupied + tuple.length) = pageSize
    omega

lemma marked (hs : slots[slotId.toNat]? = some slot) (hm : map[slotId.toNat]? = some stored)
    (hf : stored.fate = .live) : Represents page (marked slotId slot bytes) headers
      (slots.set slotId.toNat slot.killed) (map.set slotId.toNat stored.killed) := by
  have hst := h.stands _ _ _ hs hm
  have hcanonical := h.valid.canonical slot (List.mem_of_getElem? hs)
  have hslices {k : ℕ} {other : HeapSlotEntry} (hk : slots[k]? = some other) (hr : other.Retained) :
      (DBlusBlus.marked slotId slot bytes).slice other.tupleOffset.toNat other.tupleLength.toNat =
        bytes.slice other.tupleOffset.toNat other.tupleLength.toNat := by
    have hstart := ((h.valid.canonical other (List.mem_of_getElem? hk)).owns hr).2.1.2.1
    have hb := h.valid.slotOffset_bounds hs
    have ho := h.valid.order
    exact slice_marked h.valid hs (.inr (show _ + 8 ≤ _ by omega))
  have hnormal : slot.state = .normal := by
    unfold Stands at hst
    rw [hf] at hst
    exact hst.1
  have hr := hcanonical.retained hnormal
  have hbytes := (hst.retained (by rw [hf]; simp) hcanonical).2
  refine ⟨h.valid.marked hs hnormal, ?_, fun k other kept hk hk' => ?_, ?_⟩
  · rw [List.length_set, List.length_set, h.length]
  · rcases set_getElem? hk with ⟨rfl, rfl⟩ | ⟨hne, hk⟩
    · rw [List.getElem?_set_self (List.getElem?_eq_some_iff.mp hm).1] at hk'
      obtain rfl := Option.some.inj hk'
      exact ⟨rfl, hr.2, (hslices hs hr).trans hbytes⟩
    · rw [List.getElem?_set_ne (Ne.symm hne)] at hk'
      exact (h.stands k other kept hk hk').congr (hslices hk)
        (h.valid.canonical other (List.mem_of_getElem? hk))
  · have hsame : (map.set slotId.toNat stored.killed).map StoredTuple.occupied =
        map.map StoredTuple.occupied := by
      refine List.ext_getElem? fun j => ?_
      rw [List.getElem?_map, List.getElem?_map, List.getElem?_set]
      split_ifs with hj hlt
      · subst hj
        rw [hm, Option.map_some, Option.map_some, StoredTuple.occupied, StoredTuple.occupied, hf]
        rfl
      · subst hj
        exact absurd (List.getElem?_eq_some_iff.mp hm).1 hlt
      · rfl
    rw [SlotMap.occupied, hsame]
    exact h.packed

lemma normalBytes_eq : normalBytes slots = SlotMap.occupied (map.map StoredTuple.reclaimed) := by
  rw [normalBytes, SlotMap.occupied, List.map_map]
  refine congrArg List.sum (List.ext_getElem? fun k => ?_)
  rw [List.getElem?_map, List.getElem?_map]
  rcases hs : slots[k]? with _ | slot
  · rw [List.getElem?_eq_none_iff, h.length] at hs
    rw [List.getElem?_eq_none hs]
    rfl
  · obtain ⟨stored, hm, hst⟩ := h.stored_of_slot hs
    rw [hm, Option.map_some, Option.map_some, Function.comp, StoredTuple.reclaimed]
    unfold Stands at hst
    cases hfate : stored.fate with
    | live =>
      rw [hfate] at hst
      rw [if_pos hst.1, StoredTuple.occupied, hfate, if_neg (by simp), ← hst.2,
        PageBytes.length_slice]
    | retained =>
      rw [hfate] at hst
      rw [if_neg (by rw [hst.1]; simp), StoredTuple.occupied, if_pos rfl]
    | reclaimed =>
      rw [hfate] at hst
      rw [hst, if_neg (by simp), StoredTuple.occupied, hfate, if_pos rfl]

lemma live_or_dead : ∀ slot ∈ slots, slot.state = .normal ∨ slot.state = .dead := by
  intro slot hslot
  obtain ⟨k, hk⟩ := List.mem_iff_getElem?.mp hslot
  obtain ⟨stored, -, hst⟩ := h.stored_of_slot hk
  unfold Stands at hst
  cases hfate : stored.fate with
  | live =>
    rw [hfate] at hst
    exact .inl hst.1
  | retained =>
    rw [hfate] at hst
    exact .inr hst.1
  | reclaimed =>
    rw [hfate] at hst
    rw [hst]
    exact .inr rfl

lemma compacted {plan : CompactionPlan} (hp : PlanFor slots plan)
    (ha : Applied headers slots plan bytes bytes') :
    Represents page bytes' ⟨headers.common, compactedHeader headers.heap plan.newUpper⟩
      plan.plannedSlots (map.map StoredTuple.reclaimed) := by
  have hstate := h.live_or_dead
  have hc := ha.compacted h.valid hp hstate
  refine ⟨h.valid.compacted hp hstate ha, ?_, fun k slot' stored' hk hm' => ?_, ?_⟩
  · rw [hp.length, h.length, List.length_map]
  · have hlt := (List.getElem?_eq_some_iff.mp hk).1
    rw [hp.length] at hlt
    have hs : slots[k]? = some slots[k] := List.getElem?_eq_getElem hlt
    generalize slots[k] = slot at hs
    obtain ⟨stored, hm, hst⟩ := h.stored_of_slot hs
    rw [List.getElem?_map, hm] at hm'
    obtain rfl := Option.some.inj hm'
    have hdead (hd : slot.state = .dead) (hf : stored.reclaimed.fate = .reclaimed) :
        Stands bytes' slot' stored.reclaimed := by
      unfold Stands
      rw [hf]
      exact Option.some.inj (hk.symm.trans (hc.dead k slot hs hd))
    unfold Stands at hst
    cases hfate : stored.fate with
    | live =>
      rw [hfate] at hst
      obtain ⟨offset, hk', hbytes⟩ := hc.normal k slot hs hst.1
      obtain rfl := Option.some.inj (hk.symm.trans hk')
      unfold Stands
      rw [StoredTuple.reclaimed, hfate]
      dsimp only
      rw [hfate]
      exact ⟨hst.1, hbytes.trans hst.2⟩
    | retained =>
      rw [hfate] at hst
      exact hdead hst.1 (by rw [StoredTuple.reclaimed, hfate])
    | reclaimed =>
      rw [hfate] at hst
      exact hdead (by rw [hst]) (by rw [StoredTuple.reclaimed, hfate]; exact hfate)
  · have htotal := h.valid.total_le
    rw [total_livePayloads h.valid.room] at htotal
    rw [compactedHeader, hc.upper, h.normalBytes_eq]
    rw [h.normalBytes_eq] at htotal
    omega

end Represents

/-- Every call does on the page what it does on the slot map. -/
theorem perform_step (call : HeapPageCall) (h : Represents page bytes headers slots map) :
    ∃ headers' slots' map', SlotMap.Step page map call (page.perform call bytes).1 map' ∧
      Represents page (page.perform call bytes).2 headers' slots' map' := by
  cases call with
  | insert tuple =>
    have houtcome : InsertOutcome page bytes headers.heap tuple
        (Edit.run (page.insert tuple) bytes) := insert_outcome h.valid
    rw [HeapPage.perform]
    generalize Edit.run (page.insert tuple) bytes = result at houtcome ⊢
    cases houtcome with
    | tooLarge hn => exact ⟨_, _, _, .tooLarge hn, h⟩
    | invalidTuple hn hc =>
      refine ⟨_, _, _, .invalidTuple hn fun hok => ?_, h⟩
      rw [h.checked_iff, hc] at hok
      cases hok
    | insufficientSpace hn hc hs =>
      rw [h.space] at hs
      exact ⟨_, _, _, .insufficientSpace hn (h.checked_iff.mpr hc) hs, h⟩
    | done hn hc hs =>
      rw [h.space] at hs
      have hnext := h.inserted (h.checked_iff.mpr hc) hs
      rw [h.slotCount]
      exact ⟨_, _, _, .inserted hn (h.checked_iff.mpr hc) hs, hnext⟩
  | markDead slotId =>
    have houtcome : MarkDeadOutcome bytes slots slotId (Edit.run (page.markDead slotId) bytes) :=
      markDead_outcome h.valid
    rw [HeapPage.perform]
    generalize Edit.run (page.markDead slotId) bytes = result at houtcome ⊢
    have hlive {slot : HeapSlotEntry} (hs : slots[slotId.toNat]? = some slot) :
        ∃ stored, map[slotId.toNat]? = some stored ∧
          (slot.state = .normal ↔ stored.fate = .live) := by
      obtain ⟨stored, hm, hst⟩ := h.stored_of_slot hs
      refine ⟨stored, hm, ?_⟩
      unfold Stands at hst
      cases hfate : stored.fate with
      | live =>
        rw [hfate] at hst
        exact iff_of_true hst.1 rfl
      | retained =>
        rw [hfate] at hst
        rw [hst.1]
        simp
      | reclaimed =>
        rw [hfate] at hst
        rw [hst]
        simp
    cases houtcome with
    | outOfRange hle => exact ⟨_, _, _, .slotOutOfRange (by rwa [← h.length]), h⟩
    | alreadyDead hs hd =>
      obtain ⟨stored, hm, hiff⟩ := hlive hs
      rw [hd] at hiff
      exact ⟨_, _, _, .alreadyDead hm fun hf => absurd (hiff.mpr hf) (by simp), h⟩
    | invalidSlotState hs hu =>
      rcases h.live_or_dead _ (List.mem_of_getElem? hs) with hn | hn
      · rw [hu] at hn
        cases hn
      · rw [hu] at hn
        cases hn
    | done hs hn =>
      obtain ⟨stored, hm, hiff⟩ := hlive hs
      exact ⟨_, _, _, .markedDead hm (hiff.mp hn), h.marked hs hm (hiff.mp hn)⟩
  | compact =>
    have houtcome := compact_outcome h.valid
    rw [HeapPage.perform]
    generalize Edit.run page.compact bytes = result at houtcome ⊢
    cases houtcome with
    | unsupported hk hu =>
      rcases h.live_or_dead _ (List.mem_of_getElem? hk) with hn | hn
      · rw [hu] at hn
        cases hn
      · rw [hu] at hn
        cases hn
    | done hstate hplan hp ha => exact ⟨_, _, _, .compacted, h.compacted hp ha⟩

theorem performAll_run (calls : List HeapPageCall) (h : Represents page bytes headers slots map) :
    ∃ headers' slots' map', SlotMap.Run page map calls (page.performAll calls bytes).1 map' ∧
      Represents page (page.performAll calls bytes).2 headers' slots' map' := by
  induction calls generalizing bytes headers slots map with
  | nil => exact ⟨_, _, _, .nil, h⟩
  | cons call calls ih =>
    obtain ⟨_, _, _, hstep, hnext⟩ := perform_step call h
    obtain ⟨_, _, _, hrun, hlast⟩ := ih hnext
    exact ⟨_, _, _, .cons hstep hrun, hlast⟩

lemma represents_initialized (pageLsn : UInt64) (h : IsValidHeapPageNumber page.id.pageNo) :
    Represents page (initialized page.id.pageNo pageLsn) (initialHeaders page.id.pageNo pageLsn) []
      [] :=
  ⟨initialized_valid h, rfl, fun _ _ _ hk => (by simp at hk), rfl⟩

end Steps

def HeapPageReply.rid : HeapPageReply → Option Rid
  | .inserted (.ok rid) => some rid
  | _ => none

/-- The errors that no run gets. -/
def HeapPageReply.Sound : HeapPageReply → Prop
  | .inserted result => ∀ failure, result = .error (.error failure) →
    failure.code ≠ .pageInvalid ∧ failure.code ≠ .slotIdExhausted
  | .marked result => ∀ failure, result = .error (.error failure) →
    failure.code ≠ .pageInvalid ∧ failure.code ≠ .invalidSlotState
  | .compacted result => result = .ok ()

namespace SlotMap

variable {page : HeapPage} {map map' : SlotMap} {calls : List HeapPageCall}
  {replies : List HeapPageReply} {call : HeapPageCall} {reply : HeapPageReply}

lemma Step.sound (h : Step page map call reply map') : reply.Sound := by
  cases h with
  | compacted => rfl
  | inserted | markedDead =>
    intro failure hf
    cases hf
  | _ =>
    intro failure hf
    cases hf
    exact ⟨by simp, by simp⟩

lemma Run.sound (h : Run page map calls replies map') : ∀ reply ∈ replies, reply.Sound := by
  induction h with
  | nil => simp
  | cons hstep hrun ih =>
    intro reply hr
    rcases List.mem_cons.mp hr with rfl | hr
    · exact hstep.sound
    · exact ih reply hr

def slotAt (page : HeapPage) (index : ℕ) : Rid := ⟨page.id, UInt16.ofNat index⟩

lemma Step.rids (h : Step page map call reply map') :
    (List.range map.length).map (slotAt page) ++ reply.rid.toList =
      (List.range map'.length).map (slotAt page) := by
  cases h with
  | inserted =>
    rw [List.length_append, List.length_singleton, List.range_succ, List.map_append]
    rfl
  | markedDead =>
    rw [List.length_set]
    exact List.append_nil _
  | compacted =>
    rw [List.length_map]
    exact List.append_nil _
  | _ => exact List.append_nil _

lemma Run.rids (h : Run page map calls replies map') :
    (List.range map.length).map (slotAt page) ++ replies.filterMap HeapPageReply.rid =
      (List.range map'.length).map (slotAt page) := by
  induction h with
  | nil => exact List.append_nil _
  | @cons _ _ _ _ _ reply replies hstep hrun ih =>
    have hsplit : (reply :: replies).filterMap HeapPageReply.rid =
        reply.rid.toList ++ replies.filterMap HeapPageReply.rid := by
      rw [List.filterMap_cons]
      cases reply.rid <;> rfl
    rw [hsplit, ← List.append_assoc, hstep.rids, ih]

end SlotMap

section Theorem

variable {page : HeapPage}

def sampleHeapPage : HeapPage where
  id := ⟨⟨1⟩, 1⟩
  schemaHistory := ⟨[sampleTupleLayout], fun layout h => by
    obtain rfl := List.mem_singleton.mp h
    exact ⟨_, _, sampleTupleLayout_build⟩⟩

def sampleTuple : List UInt8 := Pattern.fill 0 (tuplePattern sampleTupleLayout {} sampleValues)

end Theorem

end DBlusBlus
