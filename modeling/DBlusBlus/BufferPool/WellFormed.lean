import DBlusBlus.BufferPool.Resources

/-! The bindings between frames and page table entries, and the invariant of the pool's own data. -/

namespace DBlusBlus.BufferPool

variable {N : ℕ} [NeZero N]

def BufferFrame.WritebackOk (frame : BufferFrame) : Prop :=
  frame.ioState = .none ∨ frame.ioState = .writebackInProgress ∧ frame.dirty = true

/-- What the state of a frame says about its metadata and about the entry under its page. -/
def BufferFrame.Ok (limit : ℕ) (entry : Option (PageTableEntry N)) (f : Fin N)
    (frame : BufferFrame) : Prop :=
  match frame.state with
  | .free => frame.page.id = PageId.invalid ∧ frame.ioState = .none ∧ frame.pinCount = 0 ∧
      frame.dirty = false
  | .loading => frame.pinCount = 0 ∧ frame.dirty = false ∧
      ∃ load, entry = some ⟨.loading, f, load⟩ ∧
        frame.ioState = if load.isSome then .readInProgress else .none
  | .resident => entry = some ⟨.resident, f, none⟩ ∧ frame.pinCount ≤ limit ∧ frame.WritebackOk
  | .evicting => entry = some ⟨.evicting, f, none⟩ ∧ frame.pinCount = 0 ∧ frame.WritebackOk

def PageTableEntryState.frameState : PageTableEntryState → FrameState
  | .loadIntent => .free
  | .loading => .loading
  | .resident => .resident
  | .evicting => .evicting

/-- An intent owns no frame; every other entry names a frame that is bound to its page. -/
structure PageTableEntry.Ok (frames : Fin N → BufferFrame) (page : PageId)
    (entry : PageTableEntry N) : Prop where
  intent : entry.state = .loadIntent → entry.frameId = 0 ∧ entry.load.isSome
  bound : entry.state ≠ .loadIntent →
    (frames entry.frameId).page.id = page ∧ (frames entry.frameId).state ≠ .free

structure Bindings (limit : ℕ) (frames : Fin N → BufferFrame)
    (lookup : PageId → Option (PageTableEntry N)) : Prop where
  frame : ∀ f, (frames f).Ok limit (lookup (frames f).page.id) f
  entry : ∀ page entry, lookup page = some entry → entry.Ok frames page

namespace Bindings

variable {limit : ℕ} {frames : Fin N → BufferFrame} {lookup lookup' : PageId → Option (PageTableEntry N)}
  {f : Fin N} {page : PageId} {frame : BufferFrame}

lemma names (h : Bindings limit frames lookup) (hf : (frames f).state ≠ .free) :
    ∃ entry, lookup (frames f).page.id = some entry ∧ entry.state ≠ .loadIntent ∧
      entry.frameId = f := by
  have := h.frame f
  rw [BufferFrame.Ok] at this
  split at this
  · exact absurd ‹_› hf
  · obtain ⟨-, -, load, he, -⟩ := this
    exact ⟨_, he, by simp, rfl⟩
  · exact ⟨_, this.1, by simp, rfl⟩
  · exact ⟨_, this.1, by simp, rfl⟩

lemma bound (h : Bindings limit frames lookup) {entry : PageTableEntry N}
    (he : lookup page = some entry) (hi : entry.state ≠ .loadIntent) :
    (frames entry.frameId).page.id = page ∧
      (frames entry.frameId).state = entry.state.frameState := by
  obtain ⟨hid, hs⟩ := (h.entry page entry he).bound hi
  refine ⟨hid, ?_⟩
  have hf := h.frame entry.frameId
  rw [BufferFrame.Ok, hid, he] at hf
  split at hf
  · exact absurd ‹_› hs
  · obtain ⟨-, -, load, he, -⟩ := hf
    rw [Option.some.inj he]
    assumption
  · rw [Option.some.inj hf.1]
    assumption
  · rw [Option.some.inj hf.1]
    assumption

lemma update (h : Bindings limit frames lookup) (f : Fin N) (page : PageId)
    (hf : (frames f).state = .free ∨ (frames f).page.id = page)
    (hold : ∀ entry, lookup page = some entry → entry.state ≠ .loadIntent → entry.frameId = f)
    (hne : ∀ q, q ≠ page → lookup' q = lookup q)
    (hframe : frame.Ok limit (lookup' frame.page.id) f)
    (hentry : ∀ entry, lookup' page = some entry → entry.Ok (Function.update frames f frame) page) :
    Bindings limit (Function.update frames f frame) lookup' := by
  constructor
  · intro g
    by_cases hg : g = f
    · subst hg
      simpa using hframe
    · rw [Function.update_of_ne hg]
      by_cases hs : (frames g).state = .free
      · have := h.frame g
        simp only [BufferFrame.Ok, hs] at this ⊢
        exact this
      · obtain ⟨entry, he, hi, hn⟩ := h.names hs
        rw [hne]
        · exact h.frame g
        · intro hp
          rw [hp] at he
          exact hg (hn.symm.trans (hold entry he hi))
  · intro q entry hq
    by_cases hp : q = page
    · subst hp
      exact hentry entry hq
    · rw [hne q hp] at hq
      refine ⟨(h.entry q entry hq).intent, fun hi => ?_⟩
      have hb := (h.entry q entry hq).bound hi
      have hg : entry.frameId ≠ f := by
        rintro rfl
        rcases hf with hf | hf
        · exact hb.2 hf
        · exact hp (hb.1.symm.trans hf)
      rwa [Function.update_of_ne hg]

lemma updateFrame (h : Bindings limit frames lookup) (f : Fin N)
    (hid : frame.page.id = (frames f).page.id) (hs : frame.state = (frames f).state)
    (hframe : frame.Ok limit (lookup (frames f).page.id) f) :
    Bindings limit (Function.update frames f frame) lookup := by
  constructor
  · intro g
    by_cases hg : g = f
    · subst hg
      simpa [hid] using hframe
    · rw [Function.update_of_ne hg]
      exact h.frame g
  · intro q entry hq
    refine ⟨(h.entry q entry hq).intent, fun hi => ?_⟩
    have hb := (h.entry q entry hq).bound hi
    by_cases hg : entry.frameId = f
    · subst hg
      rwa [Function.update_self, hid, hs]
    · rwa [Function.update_of_ne hg]

lemma updateEntry (h : Bindings limit frames lookup) (page : PageId)
    (hold : ∀ entry, lookup page = some entry → entry.state = .loadIntent)
    (hne : ∀ q, q ≠ page → lookup' q = lookup q)
    (hentry : ∀ entry, lookup' page = some entry → entry.Ok frames page) :
    Bindings limit frames lookup' := by
  constructor
  · intro f
    by_cases hs : (frames f).state = .free
    · have := h.frame f
      simp only [BufferFrame.Ok, hs] at this ⊢
      exact this
    · obtain ⟨entry, he, hi, -⟩ := h.names hs
      rw [hne]
      · exact h.frame f
      · intro hp
        rw [hp] at he
        exact hi (hold entry he)
  · intro q entry hq
    by_cases hp : q = page
    · subst hp
      exact hentry entry hq
    · rw [hne q hp] at hq
      exact h.entry q entry hq

end Bindings

/-- Only the page under construction may lie at the published bound, where a wrapped bound is no
bound. -/
def PageTableEntry.Addressed (published : PageNo) (page : PageId) (entry : PageTableEntry N) :
    Prop :=
  if entry.state = .loading ∧ entry.load = none then page.pageNo = published ∧ page.pageNo ≠ 0
  else page.pageNo < published ∨ published = 0

structure Pool.WellFormed (limit : ℕ) (pool : Pool N) : Prop where
  bindings : Bindings limit pool.frames pool.pageTable.lookup
  nodup : pool.freeList.Nodup
  listed : ∀ f ∈ pool.freeList, (pool.frames f).state = .free
  latched : ∀ f, (pool.frames f).latch.exclusive = true → (pool.frames f).latch.shared = 0
  claims : ∀ load, (pool.loads load).claims ≤ limit
  fresh : ∀ load, pool.nextLoad ≤ load → pool.loads load = LoadOperation.initial
  unfinished : ∀ load, (pool.loads load).done = false → (pool.loads load).frameId = none
  addressed : ∀ page entry, pool.pageTable.lookup page = some entry →
    ∃ file, pool.files.lookup page.fileId = some file ∧
      entry.Addressed file.publishedPageCount page

namespace Pool.WellFormed

variable {limit : ℕ} {pool : Pool N} {f : Fin N} {frame : BufferFrame} {page : PageId}

lemma free (h : pool.WellFormed limit) (hs : (pool.frames f).state = .free) :
    (pool.frames f).page.id = PageId.invalid ∧ (pool.frames f).ioState = .none ∧
      (pool.frames f).pinCount = 0 ∧ (pool.frames f).dirty = false := by
  have := h.bindings.frame f
  simpa only [BufferFrame.Ok, hs] using this

lemma loading (h : pool.WellFormed limit) (hs : (pool.frames f).state = .loading) :
    (pool.frames f).pinCount = 0 ∧ (pool.frames f).dirty = false ∧
      ∃ load, pool.pageTable.lookup (pool.frames f).page.id = some ⟨.loading, f, load⟩ ∧
        (pool.frames f).ioState = if load.isSome then .readInProgress else .none := by
  have := h.bindings.frame f
  simpa only [BufferFrame.Ok, hs] using this

lemma resident (h : pool.WellFormed limit) (hs : (pool.frames f).state = .resident) :
    pool.pageTable.lookup (pool.frames f).page.id = some ⟨.resident, f, none⟩ ∧
      (pool.frames f).pinCount ≤ limit ∧ (pool.frames f).WritebackOk := by
  have := h.bindings.frame f
  simpa only [BufferFrame.Ok, hs] using this

lemma evicting (h : pool.WellFormed limit) (hs : (pool.frames f).state = .evicting) :
    pool.pageTable.lookup (pool.frames f).page.id = some ⟨.evicting, f, none⟩ ∧
      (pool.frames f).pinCount = 0 ∧ (pool.frames f).WritebackOk := by
  have := h.bindings.frame f
  simpa only [BufferFrame.Ok, hs] using this

lemma bound_loading (h : pool.WellFormed limit) {load : Option LoadId}
    (he : pool.pageTable.lookup page = some ⟨.loading, f, load⟩) :
    (pool.frames f).page.id = page ∧ (pool.frames f).state = .loading :=
  h.bindings.bound he (by simp)

lemma bound_resident (h : pool.WellFormed limit) {entry : PageTableEntry N}
    (he : pool.pageTable.lookup page = some entry) (hs : entry.state = .resident) :
    (pool.frames entry.frameId).page.id = page ∧
      (pool.frames entry.frameId).state = .resident := by
  have := h.bindings.bound he (by simp [hs])
  rwa [hs] at this

lemma resident_of_pinned (h : pool.WellFormed limit) (hp : 0 < (pool.frames f).pinCount) :
    (pool.frames f).state = .resident := by
  cases hs : (pool.frames f).state with
  | free =>
    have := h.free hs
    omega
  | loading =>
    have := h.loading hs
    omega
  | resident => rfl
  | evicting =>
    have := h.evicting hs
    omega

lemma notMem_freeList (h : pool.WellFormed limit) (hs : (pool.frames f).state ≠ .free) :
    f ∉ pool.freeList :=
  fun hf => hs (h.listed f hf)

lemma listed_update (h : pool.WellFormed limit) (f : Fin N)
    (hs : frame.state = .free ∨ f ∉ pool.freeList) :
    ∀ g ∈ pool.freeList, (Function.update pool.frames f frame g).state = .free := by
  intro g hg
  by_cases hf : g = f
  · subst hf
    rw [Function.update_self]
    exact hs.resolve_right (not_not_intro hg)
  · rw [Function.update_of_ne hf]
    exact h.listed g hg

lemma latched_update (h : pool.WellFormed limit) (f : Fin N)
    (hl : frame.latch.exclusive = true → frame.latch.shared = 0) :
    ∀ g, (Function.update pool.frames f frame g).latch.exclusive = true →
      (Function.update pool.frames f frame g).latch.shared = 0 := by
  intro g
  by_cases hf : g = f
  · subst hf
    rwa [Function.update_self]
  · rw [Function.update_of_ne hf]
    exact h.latched g

lemma addressed_update (h : pool.WellFormed limit)
    {lookup' : PageId → Option (PageTableEntry N)} (page : PageId)
    (hne : ∀ q, q ≠ page → lookup' q = pool.pageTable.lookup q)
    (hp : ∀ entry, lookup' page = some entry → ∃ file, pool.files.lookup page.fileId = some file ∧
      entry.Addressed file.publishedPageCount page) :
    ∀ q entry, lookup' q = some entry → ∃ file, pool.files.lookup q.fileId = some file ∧
      entry.Addressed file.publishedPageCount q := by
  intro q entry hq
  by_cases hqp : q = page
  · subst hqp
    exact hp entry hq
  · rw [hne q hqp] at hq
    exact h.addressed q entry hq

lemma setFrame (h : pool.WellFormed limit) (f : Fin N)
    (hid : frame.page.id = (pool.frames f).page.id) (hs : frame.state = (pool.frames f).state)
    (hl : frame.latch.exclusive = true → frame.latch.shared = 0)
    (hframe : frame.Ok limit (pool.pageTable.lookup (pool.frames f).page.id) f) :
    (pool.setFrame f frame).WellFormed limit :=
  { h with
    bindings := h.bindings.updateFrame f hid hs hframe
    listed := h.listed_update f <| by
      by_cases hf : (pool.frames f).state = .free
      · exact .inl (hs.trans hf)
      · exact .inr (h.notMem_freeList hf)
    latched := h.latched_update f hl }

lemma bind (h : pool.WellFormed limit) (entry : PageTableEntry N)
    (hf : (pool.frames entry.frameId).state = .free ∨
      (pool.frames entry.frameId).page.id = page)
    (hold : ∀ old, pool.pageTable.lookup page = some old → old.state ≠ .loadIntent →
      old.frameId = entry.frameId)
    (hi : entry.state ≠ .loadIntent) (hid : frame.page.id = page) (hs : frame.state ≠ .free)
    (hframe : frame.Ok limit (some entry) entry.frameId) :
    Bindings limit (Function.update pool.frames entry.frameId frame)
      (pool.pageTable.insert page entry).lookup := by
  refine h.bindings.update entry.frameId page hf hold (fun q hq => ?_) ?_ fun new he => ?_
  · rw [Table.lookup_insert, if_neg hq]
  · rwa [Table.lookup_insert, if_pos hid]
  · rw [Table.lookup_insert, if_pos rfl] at he
    obtain rfl := Option.some.inj he
    exact ⟨fun h => absurd h hi, fun _ => by rw [Function.update_self]; exact ⟨hid, hs⟩⟩

lemma rebind (h : pool.WellFormed limit) (page : PageId) (entry : PageTableEntry N)
    (frame : BufferFrame)
    (hf : (pool.frames entry.frameId).state = .free ∨
      (pool.frames entry.frameId).page.id = page)
    (hn : entry.frameId ∉ pool.freeList)
    (hold : ∀ old, pool.pageTable.lookup page = some old → old.state ≠ .loadIntent →
      old.frameId = entry.frameId)
    (hi : entry.state ≠ .loadIntent) (hid : frame.page.id = page) (hs : frame.state ≠ .free)
    (hl : frame.latch = (pool.frames entry.frameId).latch)
    (hframe : frame.Ok limit (some entry) entry.frameId)
    (ha : ∃ file, pool.files.lookup page.fileId = some file ∧
      entry.Addressed file.publishedPageCount page) :
    ((pool.setFrame entry.frameId frame).setEntry page entry).WellFormed limit :=
  { h with
    bindings := h.bind entry hf hold hi hid hs hframe
    listed := h.listed_update _ (.inr hn)
    latched := h.latched_update _ (hl ▸ h.latched _)
    addressed := h.addressed_update page
      (fun q hq => by
        rw [Pool.setEntry_pageTable, Table.lookup_insert, if_neg hq, Pool.setFrame_pageTable])
      fun new he => by
        rw [Pool.setEntry_pageTable, Table.lookup_insert, if_pos rfl] at he
        rwa [← Option.some.inj he] }

lemma resetFrame (h : pool.WellFormed limit) (hs : (pool.frames f).state ≠ .free)
    (hid : (pool.frames f).page.id = page) :
    ((pool.eraseEntry page).resetFrame f).WellFormed limit := by
  have hne (q : PageId) (hq : q ≠ page) :
      (pool.pageTable.erase page).lookup q = pool.pageTable.lookup q := by
    rw [Table.lookup_erase, if_neg hq]
  have hnone : (pool.pageTable.erase page).lookup page = none := by
    rw [Table.lookup_erase, if_pos rfl]
  refine { h with bindings := ?_, listed := ?_, latched := ?_, addressed := ?_ }
  · refine h.bindings.update f page (.inr hid) (fun entry he _ => ?_) hne ?_ ?_
    · obtain ⟨entry', he', -, hn⟩ := h.bindings.names hs
      rw [hid, he] at he'
      rw [Option.some.inj he', hn]
    · exact ⟨rfl, rfl, rfl, rfl⟩
    · intro entry he
      rw [Pool.resetFrame_pageTable, Pool.setFrame_pageTable, Pool.eraseEntry_pageTable,
        hnone] at he
      cases he
  · exact h.listed_update f (.inl rfl)
  · exact h.latched_update f (h.latched f)
  · refine h.addressed_update page hne fun entry he => ?_
    rw [Pool.resetFrame_pageTable, Pool.setFrame_pageTable, Pool.eraseEntry_pageTable, hnone] at he
    cases he

lemma releaseFrameToFreeList (h : pool.WellFormed limit) (hs : (pool.frames f).state = .free)
    (hf : f ∉ pool.freeList) : (pool.releaseFrameToFreeList f).WellFormed limit :=
  { h with
    nodup := List.nodup_cons.mpr ⟨hf, h.nodup⟩
    listed := fun g hg => by
      rcases List.mem_cons.mp hg with rfl | hg
      · exact hs
      · exact h.listed g hg }

lemma returnFrame (h : pool.WellFormed limit) (hs : (pool.frames f).state ≠ .free)
    (hid : (pool.frames f).page.id = page) :
    (((pool.eraseEntry page).resetFrame f).releaseFrameToFreeList f).WellFormed limit :=
  (h.resetFrame hs hid).releaseFrameToFreeList (by simp) (h.notMem_freeList hs)

lemma setFile (h : pool.WellFormed limit) {file : FileId} {entry entry' : FileEntry}
    (he : pool.files.lookup file = some entry)
    (hp : entry'.publishedPageCount = entry.publishedPageCount) :
    (pool.setFile file entry').WellFormed limit := by
  refine { h with addressed := fun page item hi => ?_ }
  obtain ⟨known, hk, ha⟩ := h.addressed page item hi
  by_cases hf : page.fileId = file
  · rw [hf, he] at hk
    obtain rfl := Option.some.inj hk
    exact ⟨entry', by simp [hf], hp ▸ ha⟩
  · exact ⟨known, by simpa [hf] using hk, ha⟩

lemma setLoad (h : pool.WellFormed limit) {load : LoadId} (operation : LoadOperation N)
    (hl : load < pool.nextLoad) (hc : operation.claims ≤ limit)
    (hu : operation.done = false → operation.frameId = none) :
    (pool.setLoad load operation).WellFormed limit := by
  refine { h with claims := fun m => ?_, fresh := fun m hm => ?_, unfinished := fun m => ?_ }
  · rw [Pool.setLoad_loads, Function.update_apply]
    split
    · exact hc
    · exact h.claims m
  · rw [Pool.setLoad_nextLoad] at hm
    rw [Pool.setLoad_loads, Function.update_of_ne (hl.trans_le hm).ne']
    exact h.fresh m hm
  · rw [Pool.setLoad_loads, Function.update_apply]
    split
    · exact hu
    · exact h.unfinished m

end Pool.WellFormed

/-- Every page of the file is resident, unpinned and idle, and no page is being created in it. -/
structure Pool.Drained (pool : Pool N) (file : FileId) : Prop where
  quiet : ∀ entry, pool.files.lookup file = some entry → entry.newPageInProgress = false
  frame : ∀ page entry, pool.pageTable.lookup page = some entry → page.fileId = file →
    entry.state = .resident ∧ (pool.frames entry.frameId).pinCount = 0 ∧
      (pool.frames entry.frameId).ioState = .none

/-- What a thread may rely on when it enters its next critical section. -/
structure Ready {V : Type} (pool : Pool N) (pc : Pc N V) : Prop where
  due : ∀ r ∈ pc.resources pool.loads, 0 < pool.demand r
  pending : ∀ page entry load, pool.pageTable.lookup page = some entry → entry.load = some load →
    (pool.loads load).done = false ∧ load < pool.nextLoad
  sole : ∀ page entry, pool.pageTable.lookup page = some entry → entry.state = .loading →
    entry.load = none → Resource.turn page.fileId ∈ pc.resources pool.loads →
    Resource.entry page (.loading entry.frameId none) ∈ pc.resources pool.loads
  retiring : ∀ file disposition, pc = .retireDrain file disposition →
    ∃ entry, pool.files.lookup file = some entry
  drained : ∀ file, pc = .retireReset file → pool.Drained file

end DBlusBlus.BufferPool
