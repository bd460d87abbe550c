import DBlusBlus.Library.Codec

/-! Records of a fixed size that are written over the front of a string and read back from it. -/

namespace InPlace

open Codec

variable {γ : Type*}

/-- A string after a call that writes into it, and whether the call reports success. -/
structure Written (γ : Type*) where
  succeeded : Bool
  destination : List γ

def Written.result (written : Written γ) : Option (List γ) :=
  if written.succeeded then some written.destination else none

/-- A call that builds its record elsewhere, and copies it over as the last thing it does. -/
def copied (destination : List γ) : Option (List γ) → Written γ
  | some written => ⟨true, written⟩
  | none => ⟨false, destination⟩

lemma result_copied {destination : List γ} {copy : Option (List γ)} :
    (copied destination copy).result = copy := by
  cases copy <;> rfl

/-- A call on the part of `destination` that starts at `offset`. -/
def through (offset count : ℕ) (call : List γ → Written γ) (destination : List γ) : Written γ :=
  let part := call ((destination.drop offset).take count)
  ⟨part.succeeded,
    destination.take offset ++ part.destination ++ destination.drop (offset + count)⟩

/-- Calls on one string, each made whatever became of those before it. -/
def inOrder : List (List γ → Written γ) → List γ → Written γ
  | [], destination => ⟨true, destination⟩
  | call :: calls, destination =>
    let first := call destination
    let rest := inOrder calls first.destination
    ⟨first.succeeded && rest.succeeded, rest.destination⟩

/-- The call writes `image` at `offset` and nothing else. -/
def Stores (call : List γ → Written γ) (offset : ℕ) (image : List γ) : Prop :=
  ∀ destination : List γ, offset + image.length ≤ destination.length →
    call destination = ⟨true, splice destination offset image⟩

/-- Calls that store the fields of a record one after the other. -/
inductive Contiguous : ℕ → List (List γ → Written γ) → List (List γ) → Prop
  | nil {offset : ℕ} : Contiguous offset [] []
  | cons {offset next : ℕ} {call : List γ → Written γ} {calls : List (List γ → Written γ)}
      {image : List γ} {images : List (List γ)} (here : Stores call offset image)
      (hnext : offset + image.length = next) (rest : Contiguous next calls images) :
      Contiguous offset (call :: calls) (image :: images)

section Calls

variable {offset count : ℕ} {call : List γ → Written γ} {calls : List (List γ → Written γ)}
  {image destination : List γ} {images : List (List γ)}

lemma Stores.through (h : Stores call 0 image) (hcount : image.length = count) :
    Stores (through offset count call) offset image := by
  intro destination hroom
  have hpart : ((destination.drop offset).take count).length = count := by
    rw [List.length_take, List.length_drop]
    omega
  rw [InPlace.through, h _ (by omega), splice_zero, hcount, List.drop_of_length_le hpart.le,
    List.append_nil, splice, hcount]

lemma Contiguous.stores (h : Contiguous offset calls images) :
    Stores (inOrder calls) offset images.flatten := by
  induction h with
  | nil =>
    intro destination _
    simp [inOrder, splice]
  | @cons offset next call calls image images here hnext rest ih =>
    intro destination hroom
    rw [List.flatten_cons] at hroom ⊢
    have happend : (image ++ images.flatten).length = image.length + images.flatten.length :=
      List.length_append
    subst hnext
    have hlength : (splice destination offset image).length = destination.length :=
      length_splice (by omega)
    rw [inOrder, here destination (by omega)]
    dsimp only
    rw [ih _ (by omega), splice_next hroom]
    rfl

end Calls

/-- An encoder and a decoder of one kind of record. -/
structure Format (γ : Type*) where
  Value : Type
  size : ℕ
  encode : List γ → Value → Written γ
  decode : List γ → Option Value

namespace Format

variable (format : Format γ)

def Accepts (r : format.Value) : Prop :=
  ∃ destination, (format.encode destination r).succeeded = true

/-- The encoder and the decoder are inverse to each other, and the decoder refuses the `Malformed`
strings. -/
structure Exact (Malformed : List γ → Prop) : Prop where
  writes : ∀ r, format.Accepts r → ∃ image : List γ, image.length = format.size ∧
    ∀ destination, format.size ≤ destination.length →
      format.encode destination r = ⟨true, image ++ destination.drop format.size⟩
  decodes : ∀ r, format.Accepts r → ∀ destination, format.size ≤ destination.length →
    format.decode (format.encode destination r).destination = some r
  reproduces : ∀ source r, format.size ≤ source.length → format.decode source = some r →
    ∀ destination, format.size ≤ destination.length →
      format.encode destination r =
        ⟨true, source.take format.size ++ destination.drop format.size⟩
  refuses : ∀ source, format.decode source = none ↔
    ∀ destination r, format.encode destination r ≠ ⟨true, source⟩
  malformed : ∀ source, format.size ≤ source.length →
    (format.decode source = none ↔ Malformed source)
  unchanged : ∀ destination r, (format.encode destination r).succeeded = false →
    (format.encode destination r).destination = destination

/-- The encoder writes the image of each value that it accepts, and the decoder reads it. -/
structure Implements (accepts : format.Value → Prop) (image : format.Value → List γ) : Prop where
  length_image : ∀ r, (image r).length = format.size
  accepted : ∀ destination r, format.size ≤ destination.length → accepts r →
    format.encode destination r = ⟨true, splice destination 0 (image r)⟩
  refused : ∀ destination r, ¬ (format.size ≤ destination.length ∧ accepts r) →
    format.encode destination r = ⟨false, destination⟩
  decode_eq_some : ∀ source r,
    format.decode source = some r ↔ accepts r ∧ image r <+: source

lemma Implements.of_contiguous {format : Format γ} {accepts : format.Value → Prop}
    {calls : format.Value → List (List γ → Written γ)} {fields : format.Value → List (List γ)}
    (hcalls : ∀ r, Contiguous 0 (calls r) (fields r))
    (hlength : ∀ r, (fields r).flatten.length = format.size)
    (haccepted : ∀ destination r, format.size ≤ destination.length → accepts r →
      format.encode destination r = inOrder (calls r) destination)
    (hrefused : ∀ destination r, ¬ (format.size ≤ destination.length ∧ accepts r) →
      format.encode destination r = ⟨false, destination⟩)
    (hdecode : ∀ source r,
      format.decode source = some r ↔ accepts r ∧ (fields r).flatten <+: source) :
    format.Implements accepts fun r => (fields r).flatten where
  length_image := hlength
  accepted destination r hroom hr := by
    rw [haccepted destination r hroom hr]
    apply (hcalls r).stores
    rw [hlength]
    omega
  refused := hrefused
  decode_eq_some := hdecode

lemma Implements.of_room {format : Format γ} {calls : format.Value → List (List γ → Written γ)}
    {fields : format.Value → List (List γ)} (hcalls : ∀ r, Contiguous 0 (calls r) (fields r))
    (hlength : ∀ r, (fields r).flatten.length = format.size)
    (hencode : ∀ destination r, format.encode destination r =
      if destination.length < format.size then ⟨false, destination⟩
      else inOrder (calls r) destination)
    (hdecode : ∀ source r, format.decode source = some r ↔ (fields r).flatten <+: source) :
    format.Implements (fun _ => True) fun r => (fields r).flatten := by
  apply Implements.of_contiguous hcalls hlength
  · intro destination r hroom _
    rw [hencode, if_neg (by omega)]
  · intro destination r hno
    rw [hencode, if_pos]
    by_contra hroom
    exact hno ⟨not_lt.mp hroom, trivial⟩
  · intro source r
    rw [hdecode, and_iff_right trivial]

namespace Implements

variable {format : Format γ} {accepts : format.Value → Prop} {image : format.Value → List γ}
  (h : format.Implements accepts image) {source destination written : List γ} {r : format.Value}

include h

lemma encode_eq (hroom : format.size ≤ destination.length) (hr : accepts r) :
    format.encode destination r = ⟨true, image r ++ destination.drop format.size⟩ := by
  rw [h.accepted destination r hroom hr, splice_zero, h.length_image]

lemma of_succeeded (hs : (format.encode destination r).succeeded = true) :
    format.size ≤ destination.length ∧ accepts r := by
  by_contra hno
  rw [h.refused destination r hno] at hs
  cases hs

lemma accepts_of (hr : format.Accepts r) : accepts r := by
  obtain ⟨destination, hs⟩ := hr
  exact (h.of_succeeded hs).2

lemma image_eq_take (hd : format.decode source = some r) : image r = source.take format.size := by
  obtain ⟨-, hp⟩ := (h.decode_eq_some source r).mp hd
  exact ((prefix_iff_take (h.length_image r)).mp hp).symm

lemma decode_eq_none : format.decode source = none ↔
    ∀ destination r, format.encode destination r ≠ ⟨true, source⟩ := by
  constructor
  · intro hn destination r he
    obtain ⟨hroom, hr⟩ := h.of_succeeded (congrArg Written.succeeded he)
    rw [h.encode_eq hroom hr, Written.mk.injEq] at he
    have hd : format.decode source = some r :=
      (h.decode_eq_some source r).mpr ⟨hr, he.2 ▸ List.prefix_append ..⟩
    rw [hn] at hd
    cases hd
  · intro hno
    rw [Option.eq_none_iff_forall_ne_some]
    intro r hd
    obtain ⟨hr, hp⟩ := (h.decode_eq_some source r).mp hd
    have hroom : format.size ≤ source.length := (h.length_image r).symm.le.trans hp.length_le
    apply hno source r
    rw [h.encode_eq hroom hr, h.image_eq_take hd, List.take_append_drop]

/-- The decoder refuses what is the image of a refused value. -/
lemma decode_eq_none_iff {malformed : Prop} (hexists : ∃ r, image r <+: source)
    (haccepts : ∀ r, image r <+: source → (accepts r ↔ ¬ malformed)) :
    format.decode source = none ↔ malformed := by
  obtain ⟨r, hr⟩ := hexists
  constructor
  · intro hn
    by_contra hm
    rw [(h.decode_eq_some source r).mpr ⟨(haccepts r hr).mpr hm, hr⟩] at hn
    cases hn
  · intro hm
    rw [Option.eq_none_iff_forall_ne_some]
    intro r' hd
    obtain ⟨ha, hp⟩ := (h.decode_eq_some source r').mp hd
    exact (haccepts r' hp).mp ha hm

theorem exact {Malformed : List γ → Prop} (hm : ∀ source, format.size ≤ source.length →
    (format.decode source = none ↔ Malformed source)) : format.Exact Malformed where
  writes r hr := ⟨image r, h.length_image r, fun _ hroom => h.encode_eq hroom (h.accepts_of hr)⟩
  decodes r hr destination hroom := by
    rw [h.encode_eq hroom (h.accepts_of hr), h.decode_eq_some]
    exact ⟨h.accepts_of hr, List.prefix_append ..⟩
  reproduces source r _ hd destination hroom := by
    rw [← h.image_eq_take hd]
    exact h.encode_eq hroom ((h.decode_eq_some source r).mp hd).1
  refuses _ := h.decode_eq_none
  malformed := hm
  unchanged destination r hs := by
    rw [h.refused destination r]
    rintro ⟨hroom, hr⟩
    rw [h.encode_eq hroom hr] at hs
    cases hs

end Implements

end Format

end InPlace
