import Mathlib

/-! Payloads of a buffer that are packed against its end, one after the other, where each lies below
the ones that have been packed. -/

namespace Packing

structure Payload (ι : Type*) where
  key : ι
  source : ℕ
  length : ℕ

variable {ι γ : Type*} {limit base k i : ℕ} {p q : Payload ι} {payloads : List (Payload ι)}
  {pd : Payload ι × ℕ} {buffer : ℕ → γ}

def Payload.stop (p : Payload ι) : ℕ := p.source + p.length

/-- The first payload ends at `limit` or before, each other one where the one before it starts. -/
def Below : ℕ → List (Payload ι) → Prop
  | _, [] => True
  | limit, p :: payloads => p.stop ≤ limit ∧ Below p.source payloads

def total (payloads : List (Payload ι)) : ℕ := (payloads.map Payload.length).sum

def placed : ℕ → List (Payload ι) → List (Payload ι × ℕ)
  | _, [] => []
  | limit, p :: payloads => (p, limit - p.length) :: placed (limit - p.length) payloads

def move (destination source count : ℕ) (buffer : ℕ → γ) : ℕ → γ := fun k =>
  if destination ≤ k ∧ k < destination + count then buffer (source + (k - destination)) else buffer k

def moveAll : ℕ → List (Payload ι) → (ℕ → γ) → ℕ → γ
  | _, [], buffer => buffer
  | limit, p :: payloads, buffer =>
    moveAll (limit - p.length) payloads (move (limit - p.length) p.source p.length buffer)

@[simp] lemma total_nil : total ([] : List (Payload ι)) = 0 := rfl

@[simp] lemma total_cons : total (p :: payloads) = p.length + total payloads := List.sum_cons

lemma move_self {destination count : ℕ} : move destination destination count buffer = buffer := by
  funext k
  rw [move]
  split
  · congr
    omega
  · rfl

lemma Below.mono {limit' : ℕ} (h : Below limit payloads) (hle : limit ≤ limit') :
    Below limit' payloads := by
  cases payloads with
  | nil => trivial
  | cons p payloads => exact ⟨Nat.le_trans h.1 hle, h.2⟩

lemma Below.room (h : Below limit payloads) (hb : ∀ p ∈ payloads, base ≤ p.source)
    (hle : base ≤ limit) : base + total payloads ≤ limit := by
  induction payloads generalizing limit with
  | nil => exact hle
  | cons p payloads ih =>
    have hrest := ih h.2 (fun q hq => hb q (List.mem_cons_of_mem _ hq))
      (hb p (List.mem_cons_self ..))
    have hstop := h.1
    rw [Payload.stop] at hstop
    rw [total_cons]
    omega

lemma Below.stop_le (h : Below limit payloads) (hm : p ∈ payloads) : p.stop ≤ limit := by
  induction payloads generalizing limit with
  | nil => simp at hm
  | cons q payloads ih =>
    rcases List.mem_cons.mp hm with rfl | hm
    · exact h.1
    · have hq := h.1
      rw [Payload.stop] at hq
      exact Nat.le_trans (ih h.2 hm) (by omega)

lemma Below.tail (h : Below limit (p :: payloads)) : Below (limit - p.length) payloads := by
  have hp := h.1
  rw [Payload.stop] at hp
  exact h.2.mono (by omega)

lemma below_of_pairwise (hp : payloads.Pairwise fun p q => q.stop ≤ p.source)
    (hl : ∀ p ∈ payloads, p.stop ≤ limit) : Below limit payloads := by
  induction payloads generalizing limit with
  | nil => trivial
  | cons p payloads ih =>
    obtain ⟨hhead, hrest⟩ := List.pairwise_cons.mp hp
    exact ⟨hl p (List.mem_cons_self ..), ih hrest hhead⟩

lemma mem_of_placed (h : pd ∈ placed limit payloads) : pd.1 ∈ payloads := by
  induction payloads generalizing limit with
  | nil => simp [placed] at h
  | cons p payloads ih =>
    rcases List.mem_cons.mp h with rfl | h
    · exact List.mem_cons_self ..
    · exact List.mem_cons_of_mem _ (ih h)

lemma exists_placed (limit : ℕ) (h : p ∈ payloads) : ∃ d, (p, d) ∈ placed limit payloads := by
  induction payloads generalizing limit with
  | nil => simp at h
  | cons q payloads ih =>
    rcases List.mem_cons.mp h with rfl | h
    · exact ⟨_, List.mem_cons_self ..⟩
    · obtain ⟨d, hd⟩ := ih (limit - q.length) h
      exact ⟨d, List.mem_cons_of_mem _ hd⟩

lemma placed_bounds (hb : Below limit payloads) (h : pd ∈ placed limit payloads) :
    limit - total payloads ≤ pd.2 ∧ pd.2 + pd.1.length ≤ limit ∧ pd.1.source ≤ pd.2 := by
  induction payloads generalizing limit with
  | nil => simp [placed] at h
  | cons p payloads ih =>
    have hp := hb.1
    rw [Payload.stop] at hp
    rw [total_cons]
    rcases List.mem_cons.mp h with rfl | h
    · dsimp only
      omega
    · have := ih hb.tail h
      omega

lemma placed_pairwise (hb : Below limit payloads) :
    (placed limit payloads).Pairwise fun a b => b.2 + b.1.length ≤ a.2 := by
  induction payloads generalizing limit with
  | nil => exact List.Pairwise.nil
  | cons p payloads ih =>
    exact List.pairwise_cons.mpr ⟨fun b h => (placed_bounds hb.tail h).2.1, ih hb.tail⟩

lemma placed_apart (hb : Below limit payloads) {a b : Payload ι × ℕ} (hpa : a ∈ placed limit payloads)
    (hpb : b ∈ placed limit payloads) (hne : a ≠ b) :
    a.2 + a.1.length ≤ b.2 ∨ b.2 + b.1.length ≤ a.2 := by
  have hsymm : Std.Symm fun a b : Payload ι × ℕ =>
      a.2 + a.1.length ≤ b.2 ∨ b.2 + b.1.length ≤ a.2 := ⟨fun _ _ => Or.symm⟩
  have hpairs : (placed limit payloads).Pairwise fun a b =>
      a.2 + a.1.length ≤ b.2 ∨ b.2 + b.1.length ≤ a.2 := (placed_pairwise hb).imp Or.inr
  exact hpairs.forall hpa hpb hne

/-- No payload that has not been moved lies where another one is put. -/
lemma placed_clear (hb : Below limit payloads) :
    (placed limit payloads).Pairwise fun a b => b.1.stop ≤ a.2 := by
  induction payloads generalizing limit with
  | nil => exact List.Pairwise.nil
  | cons p payloads ih =>
    exact List.pairwise_cons.mpr
      ⟨fun b h => hb.tail.stop_le (mem_of_placed h), ih hb.tail⟩

lemma placed_map_fst : (placed limit payloads).map Prod.fst = payloads := by
  induction payloads generalizing limit with
  | nil => rfl
  | cons p payloads ih => rw [placed, List.map_cons, ih]

lemma placed_monotone (hb : Below limit payloads) {a b : Payload ι × ℕ}
    (hpa : a ∈ placed limit payloads) (hpb : b ∈ placed limit payloads)
    (h : a.1.source < b.1.source) : a.2 + a.1.length ≤ b.2 := by
  induction payloads generalizing limit with
  | nil => simp [placed] at hpa
  | cons p payloads ih =>
    rcases List.mem_cons.mp hpa with rfl | hpa
    · rcases List.mem_cons.mp hpb with rfl | hpb
      · exact absurd h (Nat.lt_irrefl _)
      · have hle := hb.2.stop_le (mem_of_placed hpb)
        rw [Payload.stop] at hle
        dsimp only at h
        omega
    · rcases List.mem_cons.mp hpb with rfl | hpb
      · exact (placed_bounds hb.tail hpa).2.1
      · exact ih hb.tail hpa hpb

lemma placed_tight (hb : Below limit payloads) (hs : ∀ p ∈ payloads, base ≤ p.source)
    (ht : base + total payloads = limit) (h : pd ∈ placed limit payloads) : pd.2 = pd.1.source := by
  induction payloads generalizing limit with
  | nil => simp [placed] at h
  | cons p payloads ih =>
    have hrest : ∀ q ∈ payloads, base ≤ q.source := fun q hq => hs q (List.mem_cons_of_mem _ hq)
    have hroom := hb.2.room hrest (hs p (List.mem_cons_self ..))
    have hp := hb.1
    rw [Payload.stop] at hp
    rw [total_cons] at ht
    rcases List.mem_cons.mp h with rfl | h
    · dsimp only
      omega
    · exact ih hb.tail hrest (by omega) h

lemma placed_cover (hb : Below limit payloads) (hk : limit - total payloads ≤ k) (hlt : k < limit) :
    ∃ pd ∈ placed limit payloads, pd.2 ≤ k ∧ k < pd.2 + pd.1.length := by
  induction payloads generalizing limit with
  | nil =>
    rw [total_nil] at hk
    omega
  | cons p payloads ih =>
    have hp := hb.1
    rw [Payload.stop] at hp
    rw [total_cons] at hk
    by_cases h : limit - p.length ≤ k
    · exact ⟨_, List.mem_cons_self .., h, by dsimp only; omega⟩
    · obtain ⟨pd, hpd, hin⟩ := ih hb.tail (by omega) (Nat.lt_of_not_le h)
      exact ⟨pd, List.mem_cons_of_mem _ hpd, hin⟩

lemma moveAll_outside (hb : Below limit payloads) (hk : k < limit - total payloads ∨ limit ≤ k) :
    moveAll limit payloads buffer k = buffer k := by
  induction payloads generalizing limit buffer with
  | nil => rfl
  | cons p payloads ih =>
    have hp := hb.1
    rw [Payload.stop] at hp
    rw [total_cons] at hk
    rw [moveAll, ih hb.tail (by omega), move, if_neg (by omega)]

theorem moveAll_placed (hb : Below limit payloads) (h : pd ∈ placed limit payloads)
    (hi : i < pd.1.length) :
    moveAll limit payloads buffer (pd.2 + i) = buffer (pd.1.source + i) := by
  induction payloads generalizing limit buffer with
  | nil => simp [placed] at h
  | cons p payloads ih =>
    have hp := hb.1
    rw [Payload.stop] at hp
    rw [moveAll]
    rcases List.mem_cons.mp h with rfl | h
    · dsimp only at hi ⊢
      rw [moveAll_outside hb.tail (by omega), move, if_pos (by omega)]
      congr 1
      omega
    · have hq := hb.2.stop_le (mem_of_placed h)
      rw [Payload.stop] at hq
      rw [ih hb.tail h, move, if_neg (by omega)]

lemma moveAll_tight (hb : Below limit payloads) (hs : ∀ p ∈ payloads, base ≤ p.source)
    (ht : base + total payloads = limit) : moveAll limit payloads buffer = buffer := by
  induction payloads generalizing limit with
  | nil => rfl
  | cons p payloads ih =>
    have hhead := placed_tight hb hs ht (List.mem_cons_self ..)
    have hrest : ∀ q ∈ payloads, base ≤ q.source := fun q hq => hs q (List.mem_cons_of_mem _ hq)
    rw [total_cons] at ht
    dsimp only at hhead
    rw [moveAll, hhead, move_self, ← hhead]
    exact ih hb.tail hrest (by omega)

end Packing
