import DBlusBlus.BufferPool.Closing

/-! What a thread can change in the pool outside its critical sections. -/

namespace DBlusBlus.BufferPool

variable {N : ℕ} {pool pool' : Pool N} {scope : Option FileId} {limit : ℕ}

/-- Outside its critical sections a thread only reaches the bytes and the latch of a frame, and the
dirty bit and generation of a frame it has pinned. -/
structure BufferFrame.Touched (frame frame' : BufferFrame) : Prop where
  id : frame'.page.id = frame.page.id
  state : frame'.state = frame.state
  ioState : frame'.ioState = frame.ioState
  pinCount : frame'.pinCount = frame.pinCount
  bindingEpoch : frame'.bindingEpoch = frame.bindingEpoch
  dirty : frame'.dirty = frame.dirty ∨ 0 < frame.pinCount ∧ frame'.dirty = true

lemma BufferFrame.Touched.refl (frame : BufferFrame) : frame.Touched frame :=
  ⟨rfl, rfl, rfl, rfl, rfl, .inl rfl⟩

structure Touch (pool pool' : Pool N) : Prop where
  frame : ∀ f, (pool.frames f).Touched (pool'.frames f)
  freeList : pool'.freeList = pool.freeList
  pageTable : pool'.pageTable = pool.pageTable
  files : pool'.files = pool.files
  quiescing : pool'.quiescing = pool.quiescing
  loads : pool'.loads = pool.loads
  nextLoad : pool'.nextLoad = pool.nextLoad

lemma Touch.refl (pool : Pool N) : Touch pool pool :=
  ⟨fun _ => .refl _, rfl, rfl, rfl, rfl, rfl, rfl⟩

lemma touch_setFrame {f : Fin N} {frame : BufferFrame} (h : (pool.frames f).Touched frame) :
    Touch pool (pool.setFrame f frame) := by
  refine ⟨fun g => ?_, rfl, rfl, rfl, rfl, rfl, rfl⟩
  by_cases hg : g = f
  · subst hg
    simpa using h
  · simpa [hg] using BufferFrame.Touched.refl _

lemma Touch.shrinks (ht : Touch pool pool') (hc : pool.Closed scope) :
    Shrinks scope pool pool' := by
  intro page entry hp he
  rw [ht.pageTable] at he
  refine ⟨he, (ht.frame _).pinCount, fun hd => ?_⟩
  rcases (ht.frame entry.frameId).dirty with heq | ⟨hpin, -⟩
  · rwa [← heq]
  · have := (hc.frame page entry hp he).2
    omega

lemma Touch.closed (ht : Touch pool pool') (hc : pool.Closed scope) : pool'.Closed scope := by
  refine ⟨?_, fun file entry hs he => ?_, fun page entry => (ht.shrinks hc).frame hc⟩
  · have hg := hc.gate
    cases scope with
    | none => exact ht.quiescing.trans hg
    | some file => simpa only [ht.files] using hg
  · rw [ht.files] at he
    exact hc.quiet file entry hs he

lemma Touch.drained (ht : Touch pool pool') {file : FileId} (hd : pool.Drained file) :
    pool'.Drained file := by
  refine ⟨fun entry he => ?_, fun page entry he hp => ?_⟩
  · rw [ht.files] at he
    exact hd.quiet entry he
  · rw [ht.pageTable] at he
    obtain ⟨hs, hpin, hio⟩ := hd.frame page entry he hp
    exact ⟨hs, (ht.frame _).pinCount.trans hpin, (ht.frame _).ioState.trans hio⟩

variable [NeZero N]

omit [NeZero N] in
lemma BufferFrame.Touched.ok {frame frame' : BufferFrame} {f : Fin N}
    {entry : Option (PageTableEntry N)} (ht : frame.Touched frame')
    (h : frame.Ok limit entry f) : frame'.Ok limit entry f := by
  have hw (hw : frame.WritebackOk) : frame'.WritebackOk := by
    rcases hw with hio | ⟨hio, hd⟩
    · exact .inl (ht.ioState.trans hio)
    · refine .inr ⟨ht.ioState.trans hio, ?_⟩
      rcases ht.dirty with heq | ⟨-, heq⟩
      · exact heq.trans hd
      · exact heq
  have hclean (hp : frame.pinCount = 0) (hd : frame.dirty = false) : frame'.dirty = false := by
    rcases ht.dirty with heq | ⟨hpin, -⟩
    · exact heq.trans hd
    · omega
  rw [Ok] at h ⊢
  rw [ht.state, ht.id, ht.ioState, ht.pinCount]
  split at h
  · exact ⟨h.1, h.2.1, h.2.2.1, hclean h.2.2.1 h.2.2.2⟩
  · exact ⟨h.1, hclean h.1 h.2.1, h.2.2⟩
  · exact ⟨h.1, h.2.1, hw h.2.2⟩
  · exact ⟨h.1, h.2.1, hw h.2.2⟩

lemma Touch.wellFormed (ht : Touch pool pool') (h : pool.WellFormed limit)
    (hl : ∀ f, (pool'.frames f).latch.exclusive = true → (pool'.frames f).latch.shared = 0) :
    pool'.WellFormed limit where
  bindings := by
    refine ⟨fun f => ?_, fun page entry he => ?_⟩
    · rw [ht.pageTable, (ht.frame f).id]
      exact (ht.frame f).ok (h.bindings.frame f)
    · rw [ht.pageTable] at he
      refine ⟨(h.bindings.entry page entry he).intent, fun hi => ?_⟩
      rw [(ht.frame _).id, (ht.frame _).state]
      exact (h.bindings.entry page entry he).bound hi
  nodup := ht.freeList ▸ h.nodup
  listed f hf := by
    rw [(ht.frame f).state]
    exact h.listed f (ht.freeList ▸ hf)
  latched := hl
  claims := ht.loads ▸ h.claims
  fresh := by
    rw [ht.loads, ht.nextLoad]
    exact h.fresh
  unfinished := ht.loads ▸ h.unfinished
  addressed := by
    rw [ht.pageTable, ht.files]
    exact h.addressed

end DBlusBlus.BufferPool
