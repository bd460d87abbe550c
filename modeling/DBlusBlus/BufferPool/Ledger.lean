import DBlusBlus.BufferPool.Durable

/-! Every published mutation is synchronized, or still waits in the frame that it was made in. -/

namespace DBlusBlus.BufferPool

open Accounting Transition

variable {N : ℕ} {T V : Type} {page : PageId} {f : Fin N}

/-- Images of one residency, the first not newer than the second. -/
structure ImageName.Precedes (name other : ImageName N) : Prop where
  page : other.page = name.page
  frame : other.frame = name.frame
  bindingEpoch : other.bindingEpoch = name.bindingEpoch
  generation : name.generation ≤ other.generation

lemma ImageName.Precedes.refl (name : ImageName N) : name.Precedes name := ⟨rfl, rfl, rfl, le_rfl⟩

lemma ImageName.Precedes.trans {name other last : ImageName N} (h : name.Precedes other)
    (h' : other.Precedes last) : name.Precedes last :=
  ⟨h'.page.trans h.page, h'.frame.trans h.frame, h'.bindingEpoch.trans h.bindingEpoch,
    h.generation.trans h'.generation⟩

/-- This image, or a newer one of the same residency, was written and synchronized. -/
def History.IsSynced (history : History N) (name : ImageName N) : Prop :=
  ∃ other ∈ history.synced, name.Precedes other

/-- The frame is dirty and holds this image, or a newer one of the same residency. -/
structure Pool.Pending (pool : Pool N) (name : ImageName N) : Prop where
  inUse : (pool.frames name.frame).InUse
  dirty : (pool.frames name.frame).dirty = true
  current : name.Precedes ((pool.frames name.frame).imageName name.frame)

/-- Every published mutation is accounted for, and every dirty frame holds a published one. -/
structure World.Ledger (w : World N T V) (history : History N) : Prop where
  covered : ∀ name ∈ history.mutations, history.IsSynced name ∨ w.pool.Pending name
  named : ∀ f, (w.pool.frames f).InUse → (w.pool.frames f).dirty = true →
    (w.pool.frames f).imageName f ∈ history.mutations

section Steps

variable [DecidableEq T] [DecidableEq V] [NeZero N] [Fintype T] [Fintype V]
  {opts : BufferPoolOptions} {w w' : World N T V} {t u : T} {choice : Choice T V}
  {history : History N} {name : ImageName N}

omit [DecidableEq T] [NeZero N] [Fintype T] [Fintype V] in
lemma isSynced_mono (h : history.IsSynced name) :
    (history.record w (t, choice) w').IsSynced name := by
  obtain ⟨other, ho, hle⟩ := h
  exact ⟨other, synced_mono ho, hle⟩

omit [DecidableEq T] [NeZero N] [Fintype T] [Fintype V] in
lemma mem_record_mutations : name ∈ (history.record w (t, choice) w').mutations ↔
    name ∈ history.mutations ∨ ∃ f, (w'.pool.frames f).modificationGeneration ≠
      (w.pool.frames f).modificationGeneration ∧ (w'.pool.frames f).imageName f = name := by
  simp [History.record, or_comm]

lemma Act.mutated (ha : Act opts w t choice w') (hi : w.Inv opts)
    (hg : (w'.pool.frames f).modificationGeneration ≠
      (w.pool.frames f).modificationGeneration) :
    (w'.pool.frames f).InUse ∧ (w'.pool.frames f).dirty = true := by
  have hchange := ha.frameChange hi f
  generalize w'.pool.frames f = frame' at hchange hg ⊢
  cases hchange with
  | critical _ hs =>
    cases hs with
    | kept _ _ _ _ _ h => exact absurd h hg
    | hidden _ h => exact absurd h hg
    | cleaned _ _ _ _ _ h | loaded _ _ _ h =>
      rw [h] at hg
      exact absurd rfl hg
    | created _ _ _ h =>
      rw [h]
      exact ⟨.inl rfl, rfl⟩
  | touch ht =>
    cases ht with
    | marked _ hgu => exact ⟨.inl (hi.guard_resident hgu), rfl⟩
    | _ => exact absurd rfl hg

lemma Act.dirtyBefore (ha : Act opts w t choice w') (hi : w.Inv opts)
    (hu : (w'.pool.frames f).InUse) (hd : (w'.pool.frames f).dirty = true)
    (hg : (w'.pool.frames f).modificationGeneration =
      (w.pool.frames f).modificationGeneration) :
    (w.pool.frames f).InUse ∧ (w.pool.frames f).dirty = true ∧
      (w'.pool.frames f).imageName f = (w.pool.frames f).imageName f := by
  have hchange := ha.frameChange hi f
  generalize w'.pool.frames f = frame' at hchange hu hd hg ⊢
  cases hchange with
  | critical _ hs =>
    cases hs with
    | kept hu _ hpage _ he _ hdirty =>
      exact ⟨hu, hdirty ▸ hd, by rw [BufferFrame.imageName, hpage, he, hg]; rfl⟩
    | hidden hn => exact absurd hu hn
    | cleaned _ _ _ _ _ h =>
      rw [h] at hd
      cases hd
    | loaded _ hs _ h =>
      rw [h] at hd
      have := (hi.wellFormed.loading hs).2.1
      simp [this] at hd
    | created _ _ _ h =>
      rw [h] at hg
      simp at hg
  | touch ht =>
    cases ht with
    | marked => simp at hg
    | _ => exact ⟨hu, hd, rfl⟩

lemma Pool.Pending.step (h : w.pool.Pending name) (hi : w.Inv opts) (hi' : w'.Inv opts)
    (hsy : w.Synced history) (hfl : w.FlushRetirements) (ha : Act opts w t choice w') :
    (history.record w (t, choice) w').IsSynced name ∨ w'.pool.Pending name := by
  by_cases hc : (w'.pool.frames name.frame).dirty = false ∨
      (w'.pool.frames name.frame).state = .free ∨
        (w'.pool.frames name.frame).page.id ≠ (w.pool.frames name.frame).page.id
  · obtain ⟨writer, hpc, hname⟩ := ha.cleaned_writer hi hfl h.dirty hc
    have hm := hsy t writer hpc
    rw [hname] at hm
    exact .inl ⟨_, synced_mono hm, h.current⟩
  · right
    simp only [not_or, Bool.not_eq_false, not_not] at hc
    obtain ⟨hd, hs, hid⟩ := hc
    have hu : (w'.pool.frames name.frame).InUse := by
      cases hst : (w'.pool.frames name.frame).state with
      | free => exact absurd hst hs
      | loading =>
        have := (hi'.wellFormed.loading hst).2.1
        rw [hd] at this
        cases this
      | resident => exact .inl hst
      | evicting => exact .inr hst
    have bound : (w.pool.frames name.frame).state ≠ .free := by
      rcases h.inUse with hs | hs <;> simp [hs]
    refine ⟨hu, hd, h.current.trans ⟨hid, rfl, ha.bindingEpoch hi bound, ?_⟩⟩
    exact (ha.frameChange hi name.frame).generation_le

namespace World.Ledger

lemma step (h : w.Ledger history) (hi : w.Inv opts) (hi' : w'.Inv opts)
    (hsy : w.Synced history) (hfl : w.FlushRetirements) (ha : Act opts w t choice w') :
    w'.Ledger (history.record w (t, choice) w') where
  covered name hm := by
    rcases mem_record_mutations.mp hm with hold | ⟨f, hg, rfl⟩
    · rcases h.covered name hold with hs | hp
      · exact .inl (isSynced_mono hs)
      · exact hp.step hi hi' hsy hfl ha
    · obtain ⟨hu, hd⟩ := ha.mutated hi hg
      exact .inr ⟨hu, hd, .refl _⟩
  named f hu hd := by
    rw [mem_record_mutations]
    by_cases hg : (w'.pool.frames f).modificationGeneration =
        (w.pool.frames f).modificationGeneration
    · obtain ⟨hu, hd, hname⟩ := ha.dirtyBefore hi hu hd hg
      exact .inl (hname ▸ h.named f hu hd)
    · exact .inr ⟨f, hg, rfl⟩

omit [DecidableEq T] [DecidableEq V] [Fintype T] [Fintype V] in
lemma initial (disk : Disk) : (World.initial disk : World N T V).Ledger (.initial disk) where
  covered _ hm := absurd hm List.not_mem_nil
  named _ hu := by rcases hu with hu | hu <;> cases hu

end World.Ledger

theorem ledger_of_run {x : World N T V × History N} (h : Run (historySystem opts)
    (fun x a => ClosesAlone x.1 a ∧ NoDiscard a) x) : x.1.Ledger x.2 := by
  refine h.invariant_of_run (I := fun x => x.1.Ledger x.2) ?_ ?_
  · rintro ⟨w, history⟩ ⟨⟨disk, hw⟩, hx⟩
    dsimp only at hw hx ⊢
    subst hw hx
    exact World.Ledger.initial disk
  · rintro ⟨w, history⟩ ⟨t, choice⟩ ⟨w', history'⟩ hrun hx hok hs
    have hi := inv_of_run (hrun.untrack fun _ _ h => h.1)
    have hi' := inv_of_run ((Run.next hrun hok hs).untrack fun _ _ h => h.1)
    obtain ⟨hsy, hfl⟩ := synced_of_run hrun
    obtain ⟨hstep, hrec⟩ := track_step.mp hs
    dsimp only at hstep hrec
    subst hrec
    exact hx.step hi hi' hsy hfl (step_act hstep)

end Steps

end DBlusBlus.BufferPool
