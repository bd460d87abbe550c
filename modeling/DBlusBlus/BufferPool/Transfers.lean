import DBlusBlus.BufferPool.Ownership
import DBlusBlus.BufferPool.LoadHistory

/-! The threads that move a page between its frame and its file, and what the others can do to its
frame meanwhile. -/

namespace DBlusBlus.BufferPool

open Accounting Transition

variable {N : ℕ} {T V : Type} {page : PageId} {f : Fin N}

def Writer.transfer : Writer N → PageId × Fin N
  | .evict _ f victim => (victim, f)
  | .flush f page _ _ _ => (page, f)

/-- The page that a thread reads, constructs or writes, and the frame that holds it. -/
def Pc.transfer : Pc N V → Option (PageId × Fin N)
  | .latchForCopy f page _ _ | .copyImage f page _ _ => some (page, f)
  | .writePage writer _ | .syncFile writer _ | .finishWrite writer _ => some writer.transfer
  | pc => pc.filling

lemma Pc.transfer_of_filling {pc : Pc N V} (h : pc.filling = some (page, f)) :
    pc.transfer = some (page, f) := by
  cases pc <;> first | exact h | cases h

lemma Writer.transfer_fst (writer : Writer N) : writer.transfer.1 = writer.pageId := by
  cases writer <;> rfl

inductive TransferRight (page : PageId) (f : Fin N) : Resource N → Prop
  | load (load : Option LoadId) : TransferRight page f (.entry page (.loading f load))
  | eviction : TransferRight page f (.frame f (.eviction page))
  | writeback (bindingEpoch : ℕ) : TransferRight page f (.frame f (.writeback page bindingEpoch))

lemma Writer.transfer_right (writer : Writer N) :
    ∃ r ∈ writer.resources, TransferRight writer.transfer.1 writer.transfer.2 r := by
  cases writer with
  | evict => exact ⟨_, List.mem_cons_self .., .eviction⟩
  | flush => exact ⟨_, List.mem_cons_self .., .writeback _⟩

lemma Pc.transfer_right {pc : Pc N V} (loads : LoadId → LoadOperation N)
    (h : pc.transfer = some (page, f)) : ∃ r ∈ pc.resources loads, TransferRight page f r := by
  have filled (h : pc.filling = some (page, f)) :
      ∃ r ∈ pc.resources loads, TransferRight page f r := by
    obtain ⟨load, hm⟩ := Pc.filling_mem loads h
    exact ⟨_, hm, .load load⟩
  have written {writer : Writer N} (h : some writer.transfer = some (page, f)) :
      ∃ r ∈ writer.resources, TransferRight page f r := by
    obtain ⟨r, hr, ht⟩ := writer.transfer_right
    rw [Option.some.inj h] at ht
    exact ⟨r, hr, ht⟩
  cases pc
  case latchForCopy | copyImage =>
    cases h
    exact ⟨_, List.mem_cons_self .., .writeback _⟩
  case writePage writer _ | syncFile writer _ | finishWrite writer _ => exact written h
  all_goals exact filled h

lemma Pc.exclusive_notMem (pc : Pc N V) (loads : LoadId → LoadOperation N) (f : Fin N) :
    Resource.frame f .exclusive ∉ pc.resources loads := by
  have writer (writer : Writer N) : Resource.frame f .exclusive ∉ writer.resources := by
    cases writer <;> simp [Writer.resources, Requester.frame_notMem]
  have joiner (load : LoadId) : Resource.frame f .exclusive ∉ (loads load).joiner load := by
    rw [LoadOperation.joiner]
    split
    · split <;> simp
    · simp
  cases pc <;> simp [Pc.resources, Requester.frame_notMem, writer, joiner]

section Rights

variable [NeZero N] {pool : Pool N} {limit : ℕ} {r r' : Resource N} {f' : Fin N}

namespace TransferRight

lemma demand_le (hr : TransferRight page f r) : pool.demand r ≤ 1 := by
  cases hr <;> exact unit_le_one

lemma entry (hr : TransferRight page f r) (h : pool.WellFormed limit) (hd : 0 < pool.demand r) :
    (∃ load, r = .entry page (.loading f load) ∧
      pool.pageTable.lookup page = some ⟨.loading, f, load⟩) ∨
    r = .frame f (.eviction page) ∧ pool.pageTable.lookup page = some ⟨.evicting, f, none⟩ ∨
    r = .frame f (.writeback page (pool.frames f).bindingEpoch) ∧
      pool.pageTable.lookup page = some ⟨.resident, f, none⟩ := by
  cases hr with
  | load load => exact .inl ⟨load, rfl, demand_loading.mp hd⟩
  | eviction =>
    obtain ⟨hs, -, rfl⟩ := demand_eviction.mp hd
    exact .inr (.inl ⟨rfl, (h.evicting hs).1⟩)
  | writeback bindingEpoch =>
    obtain ⟨hs, -, rfl, rfl⟩ := demand_writeback.mp hd
    exact .inr (.inr ⟨rfl, (h.resident hs).1⟩)

lemma unique (hr : TransferRight page f r) (hr' : TransferRight page f' r')
    (h : pool.WellFormed limit) (hd : 0 < pool.demand r) (hd' : 0 < pool.demand r') : r = r' := by
  rcases hr.entry h hd with ⟨load, rfl, he⟩ | ⟨rfl, he⟩ | ⟨rfl, he⟩ <;>
    rcases hr'.entry h hd' with ⟨load', rfl, he'⟩ | ⟨rfl, he'⟩ | ⟨rfl, he'⟩ <;>
    cases Option.some.inj (he.symm.trans he') <;> rfl

end TransferRight

end Rights

section Steps

variable [DecidableEq T] [DecidableEq V] [NeZero N] [Fintype T] [Fintype V]
  {opts : BufferPoolOptions} {w w' : World N T V} {t u : T} {choice : Choice T V}

namespace World.Inv

lemma transfer_entry (h : w.Inv opts) (ht : (w.pc t).transfer = some (page, f)) :
    ∃ entry, w.pool.pageTable.lookup page = some entry ∧ entry.frameId = f ∧
      entry.state ≠ .loadIntent := by
  obtain ⟨r, hm, hr⟩ := Pc.transfer_right w.pool.loads ht
  rcases hr.entry h.wellFormed ((h.ready t).due r hm) with ⟨load, -, he⟩ | ⟨-, he⟩ | ⟨-, he⟩ <;>
    exact ⟨_, he, rfl, by simp⟩

lemma transfer_bound (h : w.Inv opts) (ht : (w.pc t).transfer = some (page, f)) :
    (w.pool.frames f).page.id = page ∧ (w.pool.frames f).state ≠ .free := by
  obtain ⟨entry, he, rfl, hi⟩ := h.transfer_entry ht
  exact (h.wellFormed.bindings.entry page entry he).bound hi

lemma transfer_unique {f' : Fin N} (h : w.Inv opts) (ht : (w.pc t).transfer = some (page, f))
    (hu : (w.pc u).transfer = some (page, f')) : t = u := by
  obtain ⟨r, hm, hr⟩ := Pc.transfer_right w.pool.loads ht
  obtain ⟨r', hm', hr'⟩ := Pc.transfer_right w.pool.loads hu
  obtain rfl := hr.unique hr' h.wellFormed ((h.ready t).due r hm) ((h.ready u).due r' hm')
  have ht : r ∈ w.holding (.inl t) := hm
  exact Sum.inl.inj (Balanced.unique h.accounted hr.demand_le ht hm')

lemma transfer_unique_frame {page' : PageId} (h : w.Inv opts)
    (ht : (w.pc t).transfer = some (page, f)) (hu : (w.pc u).transfer = some (page', f)) :
    t = u := by
  obtain rfl : page = page' := (h.transfer_bound ht).1.symm.trans (h.transfer_bound hu).1
  exact h.transfer_unique ht hu

lemma entry_of_filling (h : w.Accounted) (ht : (w.pc t).filling = some (page, f)) :
    ∃ load, w.pool.pageTable.lookup page = some ⟨.loading, f, load⟩ ∧
      Resource.entry page (.loading f load) ∈ w.holding (.inl t) := by
  obtain ⟨load, hm⟩ := Pc.filling_mem w.pool.loads ht
  have hm : Resource.entry page (.loading f load) ∈ w.holding (.inl t) := hm
  exact ⟨load, demand_loading.mp (Balanced.pos h hm), hm⟩

lemma filling_loading (h : w.Inv opts) (ht : (w.pc t).filling = some (page, f)) :
    (w.pool.frames f).page.id = page ∧ (w.pool.frames f).state = .loading := by
  obtain ⟨load, he, -⟩ := entry_of_filling h.accounted ht
  exact h.wellFormed.bound_loading he

lemma filling_unique {page' : PageId} (h : w.Inv opts) (ht : (w.pc t).filling = some (page, f))
    (hu : (w.pc u).filling = some (page', f)) : t = u :=
  h.transfer_unique_frame (Pc.transfer_of_filling ht) (Pc.transfer_of_filling hu)

/-- Whoever holds a latch exclusively has a pin. -/
lemma exclusive_pinned (h : w.Inv opts) (hl : (w.pool.frames f).latch.exclusive = true) :
    0 < (w.pool.frames f).pinCount := by
  have hd : 0 < w.pool.demand (.frame f .exclusive) := by
    simp [Pool.demand, BufferFrame.demand, hl]
  obtain ⟨u | ⟨u, v⟩, hx⟩ := Balanced.holder h.accounted hd
  · exact absurd hx (Pc.exclusive_notMem _ _ _)
  · rw [World.holding] at hx
    have hp : Resource.frame f .pin ∈ w.holding (.inr (u, v)) := by
      rw [World.holding]
      cases hg : w.guards u v with
      | none => simp [hg, guardResources] at hx
      | some g =>
        rw [hg] at hx
        cases hm : g.mode <;> simp_all [guardResources, LatchMode.role]
    exact demand_pin.mp (Balanced.pos h.accounted hp)

end World.Inv

def GuardOp.releases : GuardOp T V → Option (GuardVar V)
  | .release v => some v
  | .moveAssign destination source => if destination = source then none else some destination
  | _ => none

inductive FrameTouch (w : World N T V) (t : T) (choice : Choice T V) (f : Fin N) :
    BufferFrame → Prop
  | kept : FrameTouch w t choice f (w.pool.frames f)
  | latched {mode} : (w.pool.frames f).latch.canAcquire mode = true →
    FrameTouch w t choice f { w.pool.frames f with
      latch := (w.pool.frames f).latch.acquire mode }
  | copied {page bindingEpoch caller} : w.pc t = .copyImage f page bindingEpoch caller →
    FrameTouch w t choice f { w.pool.frames f with
      latch := (w.pool.frames f).latch.release .shared }
  | released {op v bindingEpoch mode} : choice = .guard op → op.releases = some v →
    w.guards t v = some ⟨f, bindingEpoch, mode⟩ →
    FrameTouch w t choice f { w.pool.frames f with
      latch := (w.pool.frames f).latch.release mode }
  | mutated {v bytes bindingEpoch} : choice = .guard (.mutate v bytes) →
    w.guards t v = some ⟨f, bindingEpoch, .exclusive⟩ →
    FrameTouch w t choice f { w.pool.frames f with page := ⟨(w.pool.frames f).page.id, bytes⟩ }
  | marked {v bindingEpoch} : choice = .guard (.markDirty v) →
    w.guards t v = some ⟨f, bindingEpoch, .exclusive⟩ →
    FrameTouch w t choice f { w.pool.frames f with
      modificationGeneration := (w.pool.frames f).modificationGeneration + 1, dirty := true }
  | filled {page bytes} : (w.pc t).filling = some (page, f) →
    FrameTouch w t choice f { w.pool.frames f with page := ⟨(w.pool.frames f).page.id, bytes⟩ }

omit [DecidableEq T] [NeZero N] [Fintype T] [Fintype V] in
lemma frameTouch_setFrame {g : Fin N} {frame : BufferFrame}
    (h : FrameTouch w t choice g frame) (f : Fin N) :
    FrameTouch w t choice f ((w.pool.setFrame g frame).frames f) := by
  by_cases hf : f = g
  · subst hf
    simpa using h
  · simpa [hf] using FrameTouch.kept

omit [Fintype T] [Fintype V] in
theorem Act.touches (ha : Act opts w t choice w') :
    (∃ turn, choice = .run ∧ criticalSection opts w.pool (w.pc t) = some turn ∧
      Move opts w.pool (w.pc t) turn.pool turn.pc ∧ w' = w.finish opts t turn) ∨
    (∀ f, FrameTouch w t choice f (w'.pool.frames f)) ∧
      w'.pool = { w.pool with frames := w'.pool.frames } := by
  cases ha with
  | critical hlock hcs hm => exact .inl ⟨_, rfl, hcs, hm, rfl⟩
  | grant _ hc | latchForCopy _ hc => exact .inr ⟨frameTouch_setFrame (.latched hc), rfl⟩
  | copyImage hpc => exact .inr ⟨frameTouch_setFrame (.copied hpc), rfl⟩
  | build hpc => exact .inr ⟨frameTouch_setFrame (.filled (by rw [hpc]; rfl)), rfl⟩
  | readPage hpc => exact .inr ⟨frameTouch_setFrame (.filled (by rw [hpc]; rfl)), rfl⟩
  | mutate _ hg => exact .inr ⟨frameTouch_setFrame (.mutated rfl hg), rfl⟩
  | markDirty _ _ hg => exact .inr ⟨frameTouch_setFrame (.marked rfl hg), rfl⟩
  | release _ hg => exact .inr ⟨frameTouch_setFrame (.released rfl rfl hg), rfl⟩
  | assign _ hne hg =>
    exact .inr ⟨frameTouch_setFrame (.released rfl (if_neg hne) hg), rfl⟩
  | _ => exact .inr ⟨fun _ => .kept, rfl⟩

omit [Fintype T] [Fintype V] in
lemma Act.diskBytes (ha : Act opts w t choice w') : w'.disk.bytes = w.disk.bytes ∨
    ∃ writer image bytes result torn, w.pc t = .writePage writer image ∧
      choice = .writePage result torn ∧ (result = .ok () → bytes = image) ∧
      w'.disk.bytes = Function.update w.disk.bytes writer.pageId bytes ∧ w'.pool = w.pool := by
  cases ha with
  | @written writer image torn hpc =>
    exact .inr ⟨writer, image, image, _, torn, hpc, rfl, fun _ => rfl, rfl, rfl⟩
  | @writeFailed writer image error torn hpc =>
    exact .inr ⟨writer, image, torn, _, torn, hpc, rfl, fun h => (nomatch h), rfl, rfl⟩
  | _ => exact .inl rfl

end Steps

end DBlusBlus.BufferPool
