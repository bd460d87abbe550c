import DBlusBlus.BufferPool.Closing

/-! Where threads stand in lifecycle calls and in the flush loops that follow a drain. -/

namespace DBlusBlus.BufferPool

variable {N : ℕ} {V : Type}

/-- Where a thread stands in `FlushMatching`; the page being flushed counts as not done. -/
structure FlushLoop where
  rest : List PageId
  firstFailure : BufferStatus
  caller : MatchingCaller

def FlushCaller.loop (page : PageId) : FlushCaller → Option FlushLoop
  | .flushPage => none
  | .matching rest firstFailure caller => some ⟨page :: rest, firstFailure, caller⟩

def Writer.loop : Writer N → Option FlushLoop
  | .evict _ _ _ => none
  | .flush _ page _ _ caller => caller.loop page

def Pc.loop : Pc N V → Option FlushLoop
  | .flushMatching rest firstFailure caller => some ⟨rest, firstFailure, caller⟩
  | .flushPage page caller | .latchForCopy _ page _ caller | .copyImage _ page _ caller =>
    caller.loop page
  | .writePage writer _ | .syncFile writer _ | .finishWrite writer _ => writer.loop
  | _ => none

def MatchingCaller.lifecycle : MatchingCaller → Option FileId
  | .retireFile file => some file
  | _ => none

/-- The callers that drain before they flush, with what they drain. -/
def MatchingCaller.drains : MatchingCaller → Option (Option FileId)
  | .retireFile file => some (some file)
  | .shutdown => some none
  | _ => none

def Call.lifecycle : Call → Option FileId
  | .registerFile file _ | .retireFile file _ => some file
  | _ => none

/-- The file of the `RegisterFile` or `RetireFile` call that a thread is in. -/
def Pc.lifecycle : Pc N V → Option FileId
  | .registerPageCount file _ | .registerFile file _ _ | .retireFile file _
  | .retireDrain file _ | .retireReset file => some file
  | pc => pc.loop.bind fun loop => loop.caller.lifecycle

/-- The file of a `RetireFile` call that drains or flushes. -/
def Pc.retiring : Pc N V → Option FileId
  | .retireDrain file _ => some file
  | pc => pc.loop.bind fun loop => loop.caller.lifecycle

lemma startCall_loop (call : Call) : (startCall call : Pc N V).loop = none := by
  cases call with
  | registerFile file validator =>
    rw [startCall]
    split <;> rfl
  | _ => rfl

lemma startCall_lifecycle {call : Call} {file : FileId}
    (h : (startCall call : Pc N V).lifecycle = some file) : call.lifecycle = some file := by
  cases call with
  | registerFile other validator =>
    rw [startCall] at h
    split at h
    · cases h
    · exact h
  | retireFile => exact h
  | _ => cases h

lemma flushReturnPc_loop (page : PageId) (status : BufferStatus) (caller : FlushCaller) :
    (flushReturnPc page status caller : Pc N V).loop =
      match caller with
      | .flushPage => none
      | .matching rest firstFailure caller =>
        some ⟨rest, match firstFailure with | .ok () => status | .error error => .error error,
          caller⟩ := by
  cases caller <;> rfl

lemma matchingEndPc_loop (status : BufferStatus) (caller : MatchingCaller) :
    (matchingEndPc status caller : Pc N V).loop = none := by
  cases caller <;> cases status <;> rfl

lemma drains_lifecycle {caller : MatchingCaller} {file : FileId}
    (h : caller.drains = some (some file)) : caller.lifecycle = some file := by
  cases caller with
  | retireFile other =>
    simp only [MatchingCaller.drains, Option.some.injEq] at h
    rw [← h]
    rfl
  | _ => cases h

lemma Pc.loop_retiring {pc : Pc N V} {loop : FlushLoop} {file : FileId}
    (hl : pc.loop = some loop) (hd : loop.caller.drains = some (some file)) :
    pc.retiring = some file := by
  have : pc.retiring = pc.loop.bind fun loop => loop.caller.lifecycle := by
    cases pc <;> first | rfl | cases hl
  rw [this, hl]
  exact drains_lifecycle hd

lemma Pc.lifecycle_of_retiring {pc : Pc N V} {file : FileId} (h : pc.retiring = some file) :
    pc.lifecycle = some file := by
  cases pc <;> first | exact h | cases h

section Drains

variable {pool : Pool N} {file : FileId} {entry : FileEntry} {scope : Option FileId}
  {page : PageId}

lemma fileDrained_iff : fileDrained pool file entry = true ↔
    entry.newPageInProgress = false ∧
      ∀ page item, pool.pageTable.lookup page = some item → page.fileId = file →
        item.state = .resident ∧ (pool.frames item.frameId).pinCount = 0 ∧
          (pool.frames item.frameId).ioState = .none := by
  rw [fileDrained, Bool.and_eq_true, Bool.not_eq_true']
  refine and_congr_right fun _ => ?_
  refine (Table.all_entries pool.pageTable (fun page item => page.fileId != file ||
    (item.state == .resident && (pool.frames item.frameId).pinCount == 0 &&
      (pool.frames item.frameId).ioState == .none))).trans ?_
  refine forall₃_congr fun page item _ => ?_
  by_cases hf : page.fileId = file <;> simp [hf, and_assoc]

lemma poolDrained_iff : poolDrained pool = true ↔
    (∀ f, (pool.frames f).pinCount = 0 ∧ (pool.frames f).ioState = .none) ∧
    (∀ page item, pool.pageTable.lookup page = some item → item.state = .resident) ∧
    ∀ file entry, pool.files.lookup file = some entry → entry.newPageInProgress = false := by
  rw [poolDrained, Bool.and_eq_true, Bool.and_eq_true, and_assoc]
  refine and_congr ?_ (and_congr ?_ ?_)
  · simp
  · refine (Table.all_entries pool.pageTable (fun _ item => item.state == .resident)).trans ?_
    simp
  · refine (Table.all_entries pool.files (fun _ entry => !entry.newPageInProgress)).trans ?_
    simp

lemma mem_dirtyPages : page ∈ dirtyPages pool scope ↔
    inScope scope page = true ∧ ∃ item, pool.pageTable.lookup page = some item ∧
      item.state = .resident ∧ (pool.frames item.frameId).dirty = true := by
  rw [dirtyPages, List.mem_insertionSort, List.mem_filterMap]
  constructor
  · rintro ⟨⟨q, item⟩, hm, hq⟩
    split at hq
    · rename_i hc
      obtain rfl := Option.some.inj hq
      simp only [Bool.and_eq_true, beq_iff_eq] at hc
      exact ⟨hc.1.1, item, AList.mem_lookup_iff.mpr hm, hc.1.2, hc.2⟩
    · cases hq
  · rintro ⟨hs, item, hl, hr, hd⟩
    exact ⟨⟨page, item⟩, AList.mem_lookup_iff.mp hl, by simp [hs, hr, hd]⟩

end Drains

section Moves

variable [NeZero N] {opts : BufferPoolOptions} {pool pool' : Pool N} {pc pc' : Pc N V}
  {limit : ℕ} {file : FileId}

omit [NeZero N] in
lemma flushReturnPc_lifecycle {page : PageId} {status : BufferStatus} {caller : FlushCaller} :
    (flushReturnPc page status caller : Pc N V).lifecycle =
      (Pc.flushPage page caller : Pc N V).lifecycle := by
  cases caller <;> rfl

lemma Move.lifecycle (hm : Move opts pool pc pool' pc') (hl : pc'.lifecycle = some file) :
    pc.lifecycle = some file := by
  cases hm with
  | quiet replacer hq =>
    cases hq with
    | @matchingEnd status caller => cases caller <;> cases status <;> first | exact hl | cases hl
    | flushSettled => exact flushReturnPc_lifecycle.symm.trans hl
    | @unpinNone f assignment => cases assignment <;> cases hl
    | _ => first | exact hl | cases hl
  | failWriteback => exact flushReturnPc_lifecycle.symm.trans hl
  | @startWriteback page caller entry he hs =>
    cases caller <;> exact hl
  | @unpin f assignment => cases assignment <;> cases hl
  | _ => first | exact hl | cases hl

inductive LoopStep (pool : Pool N) (pc : Pc N V) (loop : FlushLoop) : Prop
  | retired {file entry} : pc = .retireDrain file .flushDirty →
    pool.files.lookup file = some entry → fileDrained pool file entry = true →
    loop = ⟨dirtyPages pool (some file), .ok (), .retireFile file⟩ → LoopStep pool pc loop
  | shutdown : pc = .shutdownDrain → poolDrained pool = true →
    loop = ⟨dirtyPages pool none, .ok (), .shutdown⟩ → LoopStep pool pc loop
  | same {old} : pc.loop = some old → old.caller = loop.caller →
    (loop.firstFailure = .ok () → old.firstFailure = .ok () ∧ old.rest = loop.rest) →
    LoopStep pool pc loop
  | settled {page old} : pc.loop = some old → old.caller = loop.caller →
    (loop.firstFailure = .ok () → old.firstFailure = .ok () ∧ old.rest = page :: loop.rest) →
    Settled pool page → LoopStep pool pc loop

lemma Move.loop {loop : FlushLoop} {scope : Option FileId} (h : pool.WellFormed limit)
    (hm : Move opts pool pc pool' pc') (hl : pc'.loop = some loop)
    (hd : loop.caller.drains = some scope) : LoopStep pool pc loop := by
  cases hm with
  | quiet replacer hq =>
    cases hq with
    | drainFlush hf hdr =>
      obtain rfl := Option.some.inj hl
      exact .retired rfl hf hdr rfl
    | shutdownFlush hdr =>
      obtain rfl := Option.some.inj hl
      exact .shutdown rfl hdr rfl
    | flushFile =>
      obtain rfl := Option.some.inj hl
      cases hd
    | flushAll =>
      obtain rfl := Option.some.inj hl
      cases hd
    | matchingNext => exact .same hl rfl fun hk => ⟨hk, rfl⟩
    | matchingEnd =>
      rw [matchingEndPc_loop] at hl
      cases hl
    | @flushSettled page caller hs =>
      rw [flushReturnPc_loop] at hl
      cases caller with
      | flushPage => cases hl
      | matching rest firstFailure caller =>
        obtain rfl := Option.some.inj hl
        refine .settled rfl rfl (fun hk => ?_) hs
        cases firstFailure with
        | ok => exact ⟨rfl, rfl⟩
        | error => cases hk
    | flushWait => exact .same hl rfl fun hk => ⟨hk, rfl⟩
    | @unpinNone f assignment => cases assignment <;> cases hl
    | _ => cases hl
  | @startWriteback page caller entry he hs =>
    refine .same (hl ▸ ?_) rfl fun hk => ⟨hk, rfl⟩
    rw [(h.bound_resident he hs).1]
    rfl
  | finishWriteback => exact .same hl rfl fun hk => ⟨hk, rfl⟩
  | @failWriteback f page bindingEpoch copiedGeneration caller error =>
    rw [flushReturnPc_loop] at hl
    cases caller with
    | flushPage => cases hl
    | matching rest firstFailure caller =>
      obtain rfl := Option.some.inj hl
      refine .same rfl rfl fun hk => ?_
      cases firstFailure <;> cases hk
  | @unpin f assignment => cases assignment <;> cases hl
  | _ => cases hl

lemma Move.retireReset (hm : Move opts pool pc pool' (.retireReset file)) :
    (∃ entry, pc = .retireDrain file .discardDirty ∧ pool.files.lookup file = some entry ∧
      fileDrained pool file entry = true) ∨
    pc = .retireReset file ∨ pc = .flushMatching [] (.ok ()) (.retireFile file) := by
  generalize hpc : (.retireReset file : Pc N V) = pc' at hm
  cases hm with
  | quiet replacer hq =>
    cases hq with
    | drainDiscard hf hd =>
      cases hpc
      exact .inl ⟨_, rfl, hf, hd⟩
    | @matchingEnd status caller =>
      cases caller <;> cases status <;> cases hpc
      exact .inr (.inr rfl)
    | @flushSettled page caller => cases caller <;> cases hpc
    | @unpinNone f assignment => cases assignment <;> cases hpc
    | _ => cases hpc
  | resetRetired =>
    cases hpc
    exact .inr (.inl rfl)
  | @failWriteback _ _ _ _ caller => cases caller <;> cases hpc
  | @unpin f assignment => cases assignment <;> cases hpc
  | _ => cases hpc

lemma Move.retireDrain {disposition : RetireDisposition}
    (hm : Move opts pool pc pool' (.retireDrain file disposition)) :
    (∃ entry, pool'.files.lookup file = some entry ∧ entry.state = .retiring) ∨
      pc = .retireDrain file disposition ∧ pool'.files = pool.files := by
  generalize hpc : (.retireDrain file disposition : Pc N V) = pc' at hm
  cases hm with
  | quiet replacer hq =>
    cases hq with
    | retireAgain hf hr =>
      cases hpc
      exact .inl ⟨_, hf, hr⟩
    | drainWait =>
      cases hpc
      exact .inr ⟨rfl, rfl⟩
    | @matchingEnd status caller => cases caller <;> cases status <;> cases hpc
    | @flushSettled page caller => cases caller <;> cases hpc
    | @unpinNone f assignment => cases assignment <;> cases hpc
    | _ => cases hpc
  | beginRetire =>
    cases hpc
    exact .inl ⟨_, lookup_setFile _ _, rfl⟩
  | @failWriteback _ _ _ _ caller => cases caller <;> cases hpc
  | @unpin f assignment => cases assignment <;> cases hpc
  | _ => cases hpc

lemma Move.shutdownDrain (hm : Move opts pool pc pool' .shutdownDrain) :
    pool'.quiescing = true ∨ pc = .shutdownDrain ∧ pool'.quiescing = pool.quiescing := by
  generalize hpc : (.shutdownDrain : Pc N V) = pc' at hm
  cases hm with
  | quiet replacer hq =>
    cases hq with
    | shutdownWait => exact .inr ⟨rfl, rfl⟩
    | @matchingEnd status caller => cases caller <;> cases status <;> cases hpc
    | @flushSettled page caller => cases caller <;> cases hpc
    | @unpinNone f assignment => cases assignment <;> cases hpc
    | _ => cases hpc
  | quiesce => exact .inl rfl
  | @failWriteback _ _ _ _ caller => cases caller <;> cases hpc
  | @unpin f assignment => cases assignment <;> cases hpc
  | _ => cases hpc

end Moves

end DBlusBlus.BufferPool
