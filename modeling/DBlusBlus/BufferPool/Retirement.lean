import DBlusBlus.BufferPool.Pins

/-! What a retiring file admits until its registration is removed. -/

namespace DBlusBlus.BufferPool

open Transition

variable {N : ℕ} {T V : Type} {file : FileId}

/-- A frame of a retiring file is not pinned, published or chosen as a victim. -/
structure BufferFrame.Gated (file : FileId) (frame frame' : BufferFrame) : Prop where
  pins : frame.page.id.fileId = file ∨ frame'.page.id.fileId = file →
    frame'.pinCount ≤ frame.pinCount
  unpublished : frame.page.id.fileId = file → frame.state = .loading → frame'.state ≠ .resident
  victim : frame.page.id.fileId = file → frame'.state = .evicting → frame.state = .evicting

lemma BufferFrame.Gated.refl (frame : BufferFrame) : frame.Gated file frame :=
  ⟨fun _ => le_rfl, fun _ h => by simp [h], fun _ => id⟩

structure Gated (file : FileId) (pool pool' : Pool N) : Prop where
  frame : ∀ f, (pool.frames f).Gated file (pool'.frames f)
  intent : ∀ page entry, page.fileId = file → pool'.pageTable.lookup page = some entry →
    entry.state = .loadIntent → pool.pageTable.lookup page = some entry

section Moves

variable {pool pool' : Pool N}

lemma gated_of_frame (g : Fin N) (hg : (pool.frames g).Gated file (pool'.frames g))
    (hframe : ∀ f, f ≠ g → pool'.frames f = pool.frames f)
    (hentry : ∀ page entry, page.fileId = file → pool'.pageTable.lookup page = some entry →
      entry.state = .loadIntent → pool.pageTable.lookup page = some entry) :
    Gated file pool pool' := by
  refine ⟨fun f => ?_, hentry⟩
  by_cases hf : f = g
  · subst hf
    exact hg
  · rw [hframe f hf]
    exact .refl _

lemma gated_of_entry (hframe : pool'.frames = pool.frames)
    (hentry : ∀ page entry, page.fileId = file → pool'.pageTable.lookup page = some entry →
      entry.state = .loadIntent → pool.pageTable.lookup page = some entry) :
    Gated file pool pool' :=
  ⟨fun f => by rw [hframe]; exact .refl _, hentry⟩

lemma insert_not_intent {page : PageId} {new : PageTableEntry N} (hn : new.state ≠ .loadIntent)
    (q : PageId) (entry : PageTableEntry N)
    (he : (pool.pageTable.insert page new).lookup q = some entry)
    (hs : entry.state = .loadIntent) : pool.pageTable.lookup q = some entry := by
  rw [Table.lookup_insert] at he
  split at he
  · obtain rfl := Option.some.inj he
    exact absurd hs hn
  · exact he

lemma erase_kept {page : PageId} (q : PageId) (entry : PageTableEntry N)
    (he : (pool.pageTable.erase page).lookup q = some entry) :
    pool.pageTable.lookup q = some entry := by
  rw [Table.lookup_erase] at he
  split at he
  · cases he
  · exact he

variable [NeZero N] {pc pc' : Pc N V} {limit : ℕ} {opts : BufferPoolOptions} {entry : FileEntry}

/-- No move opens the gate of a retiring file. -/
lemma Move.gated (h : pool.WellFormed limit) (hr : Ready pool pc)
    (he : pool.files.lookup file = some entry) (hret : entry.state = .retiring)
    (hm : Move opts pool pc pool' pc') : Gated file pool pool' := by
  have other {f : FileId} {known : FileEntry} (hf : pool.files.lookup f = some known)
      (ha : known.state = .active) : f ≠ file := by
    rintro rfl
    rw [he] at hf
    rw [← Option.some.inj hf, hret] at ha
    cases ha
  have unfetchable {page : PageId} (hf : Fetchable pool page) : page.fileId ≠ file := by
    obtain ⟨-, known, hk, ha, -⟩ := hf.file
    exact other hk ha
  cases hm with
  | fault hm _ => exact absurd hm (hr.not_missing h)
  | @resetRetired _ page item hi hp =>
    refine gated_of_frame item.frameId ⟨by simp, by simp, by simp⟩ (fun g hg => by simp [hg]) ?_
    exact fun q item _ hq _ => erase_kept q item hq
  | @installIntent page _ _ hf hn =>
    refine gated_of_entry rfl fun q item hq hi hs => ?_
    have hqp : q ≠ page := by
      rintro rfl
      exact unfetchable hf hq
    simpa [hqp] using hi
  | @pinHit page _ _ item hf hi hs _ =>
    have hid := (h.bound_resident hi hs).1
    refine gated_of_frame item.frameId ⟨?_, ?_, ?_⟩ (fun g hg => by simp [hg])
      fun _ _ _ hi _ => hi
    all_goals simp [hid, unfetchable hf]
  | @reserveVictim _ requester f item replacer hpc hel hl =>
    obtain ⟨hs, -, -, known, hk, ha⟩ := (isVictimEligible_iff f).mp hel
    refine gated_of_frame f ⟨by simp, ?_, ?_⟩ (fun g hg => by simp [hg])
      fun q item _ hi => insert_not_intent (by simp) q item hi
    all_goals simp [other hk ha]
  | @startEviction requester f victim =>
    exact gated_of_frame f ⟨by simp, by simp +contextual, by simp⟩ (fun g hg => by simp [hg])
      fun _ _ _ hi _ => hi
  | @dropClean requester f victim | @finishEviction requester f victim =>
    exact gated_of_frame f ⟨by simp, by simp, by simp⟩ (fun g hg => by simp [hg])
      fun q item _ hi _ => erase_kept q item hi
  | @restoreVictim requester f victim error item hl =>
    have hs := (demand_eviction.mp (hr.due _ (List.mem_cons_self ..))).1
    exact gated_of_frame f ⟨by simp, by simp [hs], by simp⟩ (fun g hg => by simp [hg])
      fun q item _ hi => insert_not_intent (by simp) q item hi
  | @failIntent page =>
    exact gated_of_entry rfl fun q item _ hi _ => erase_kept q item hi
  | @bindLoad page mode load f item known hi hk =>
    have hs := (demand_unbound.mp (hr.due (.frame f .unbound) (List.mem_cons_self ..))).1
    exact gated_of_frame f ⟨by simp [bindFrame], by simp [hs], by simp [bindFrame]⟩
      (fun g hg => by simp [bindFrame, hg])
      fun q item _ hi => insert_not_intent (by simp) q item hi
  | @failLoad page mode load f =>
    exact gated_of_frame f ⟨by simp, by simp, by simp⟩ (fun g hg => by simp [hg])
      fun q item _ hi _ => erase_kept q item hi
  | @publishLoad page mode load f read outcome item hlf hi =>
    obtain ⟨-, -, known, hk, ha⟩ := loadFailure_none hlf
    have hid := (h.bound_loading (demand_loading.mp (hr.due (.entry page (.loading f (some load)))
      (by simp [Pc.resources])))).1
    refine gated_of_frame f ⟨?_, ?_, ?_⟩ (fun g hg => by simp [hg])
      fun q item _ hi => insert_not_intent (by simp) q item hi
    all_goals simp [hid, other hk ha]
  | @bindNew other' init f pageNo known hk h0 hp =>
    have hs := (demand_unbound.mp (hr.due (.frame f .unbound) (List.mem_cons_self ..))).1
    rw [if_neg (by simpa [AList.lookup_eq_none] using newPage_absent h hr hk h0 hp)]
    exact gated_of_frame f ⟨by simp [bindFrame], by simp [hs], by simp [bindFrame]⟩
      (fun g hg => by simp [bindFrame, hg])
      fun q item _ hi => insert_not_intent (by simp) q item hi
  | @failNew page f =>
    exact gated_of_frame f ⟨by simp, by simp, by simp⟩ (fun g hg => by simp [hg])
      fun q item _ hi _ => erase_kept q item hi
  | @publishNew page f outcome known item hk _ ha hi =>
    have hid := (h.bound_loading (demand_loading.mp (hr.due (.entry page (.loading f none))
      (by simp [Pc.resources])))).1
    refine gated_of_frame f ⟨?_, ?_, ?_⟩ (fun g hg => by simp [hg])
      fun q item _ hi => insert_not_intent (by simp) q item hi
    all_goals simp [hid, other hk ha]
  | @startWriteback page caller item =>
    exact gated_of_frame item.frameId ⟨by simp, by simp +contextual, by simp⟩
      (fun g hg => by simp [hg]) fun _ _ _ hi _ => hi
  | @finishWriteback f | @failWriteback f =>
    exact gated_of_frame f ⟨by simp, by simp +contextual, by simp⟩ (fun g hg => by simp [hg])
      fun _ _ _ hi _ => hi
  | @unpin f assignment hp =>
    exact gated_of_frame f ⟨by simp, by simp +contextual, by simp⟩ (fun g hg => by simp [hg])
      fun _ _ _ hi _ => hi
  | _ => exact gated_of_entry rfl fun _ _ _ hi _ => hi

end Moves

def Writer.building : Writer N → Option FileId
  | .evict requester _ _ => some requester.pageId.fileId
  | .flush _ _ _ _ _ => none

/-- The file of a `LoadPage` or `NewPage` that has not published or given up yet. -/
def Pc.building : Pc N V → Option FileId
  | .acquireFrame requester _ | .candidateObserved requester _ _ | .victimReserved requester _ _
  | .frameAcquired requester _ | .requestFailed requester _ => some requester.pageId.fileId
  | .writePage writer _ | .syncFile writer _ | .finishWrite writer _ => writer.building
  | .readPage page _ _ _ _ | .finishLoad page _ _ _ _ _ => some page.fileId
  | .newPageCount file _ _ _ | .newPageExtend file _ _ | .newPageReserved file _ _ _ => some file
  | .newPageBuild page _ _ _ | .newPageFinish page _ _ _ => some page.fileId
  | _ => none

def Pc.failed : Pc N V → Prop
  | .requestFailed _ _ | .newPageReserved _ _ _ _ => True
  | .finishLoad _ _ _ _ read outcome => read ≠ .ok () ∨ outcome ≠ .valid
  | _ => False

/-- The page that the call has entered into the page table, and the frame that it holds. -/
def Pc.builtPage : Pc N V → Option PageId
  | .requestFailed (.fetch page _ _) _ | .finishLoad page _ _ _ _ _ | .newPageFinish page _ _ _ =>
    some page
  | _ => none

def Pc.builtFrame : Pc N V → Option (Fin N)
  | .finishLoad _ _ _ f _ _ | .newPageReserved _ _ f _ | .newPageFinish _ f _ _ => some f
  | _ => none

structure BuildFailed (pool' : Pool N) (pc pc' : Pc N V) (file : FileId) (error : BufferError) :
    Prop where
  returned : pc' = .idle (.newPage file (.error error)) ∨
    ∃ page mode, page.fileId = file ∧ pc' = .idle (.fetch page mode (.error error))
  code : error.code = .fileRetiredOrClosing ∨ pc.failed
  page : ∀ page, pc.builtPage = some page → pool'.pageTable.lookup page = none
  frame : ∀ f, pc.builtFrame = some f → (pool'.frames f).state = .free ∧ f ∈ pool'.freeList

section Building

variable [NeZero N] {pool pool' : Pool N} {pc pc' : Pc N V} {limit : ℕ} {opts : BufferPoolOptions}
  {entry : FileEntry}

omit [NeZero N] in
lemma loadFailure_some {page : PageId} {read : DiskStatus} {outcome : PageValidationOutcome}
    {error : BufferError} (h : loadFailure pool page read outcome = .ok (some error)) :
    error.code = .fileRetiredOrClosing ∨ read ≠ .ok () ∨ outcome ≠ .valid := by
  cases read with
  | error e => exact .inr (.inl (by simp))
  | ok =>
    cases outcome with
    | valid =>
      simp only [loadFailure] at h
      split at h
      · cases h
      · split at h
        · obtain rfl := Option.some.inj (Except.ok.inj h)
          exact .inl rfl
        · cases h
    | _ => exact .inr (.inr (by simp))

lemma Move.building (h : pool.WellFormed limit) (hr : Ready pool pc)
    (he : pool.files.lookup file = some entry) (hret : entry.state = .retiring)
    (hb : pc.building = some file) (hm : Move opts pool pc pool' pc') :
    pc'.building = some file ∨ ∃ error, BuildFailed pool' pc pc' file error := by
  have retired {f : FileId} {known : FileEntry} (hf : pool.files.lookup f = some known)
      (hn : f = file) : known.state = .retiring := by
    subst hn
    rw [he] at hf
    rw [← Option.some.inj hf, hret]
  cases hm with
  | fault hm _ => exact absurd hm (hr.not_missing h)
  | quiet replacer hq =>
    cases hq with
    | noFrame | candidateFound | candidateLost | newPageCount => exact .inl hb
    | _ => cases hb
  | claimFrame | startEviction | dropClean | finishEviction | restoreVictim => exact .inl hb
  | reserveVictim _ hpc => rcases hpc with ⟨n, rfl⟩ | ⟨v, rfl⟩ <;> exact .inl hb
  | bindLoad => exact .inl hb
  | bindNew => exact .inl hb
  | @failIntent page mode load error =>
    obtain rfl := Option.some.inj hb
    refine .inr ⟨_, .inr ⟨page, mode, rfl, rfl⟩, .inr trivial, fun q hq => ?_, fun f hf => by cases hf⟩
    obtain rfl := Option.some.inj hq
    simp
  | @endTurn other init error known =>
    obtain rfl := Option.some.inj hb
    exact .inr ⟨_, .inl rfl, .inr trivial, fun q hq => (by cases hq), fun f hf => (by cases hf)⟩
  | @failLoad page mode load f read outcome error hf =>
    obtain rfl := Option.some.inj hb
    refine .inr ⟨_, .inr ⟨page, mode, rfl, rfl⟩, ?_, fun q hq => ?_, fun g hg => ?_⟩
    · rcases loadFailure_some hf with hc | hc
      · exact .inl hc
      · exact .inr hc
    · obtain rfl := Option.some.inj hq
      simp
    · obtain rfl := Option.some.inj hg
      simp
  | @publishLoad page mode load f read outcome item hlf =>
    obtain rfl := Option.some.inj hb
    obtain ⟨-, -, known, hk, ha⟩ := loadFailure_none hlf
    simp [retired hk rfl] at ha
  | @returnFrame other init f pageNo known error hk =>
    obtain rfl := Option.some.inj hb
    have hs := (demand_unbound.mp (hr.due (.frame f .unbound) (List.mem_cons_self ..))).1
    refine .inr ⟨_, .inl rfl, .inr trivial, fun q hq => (by cases hq), fun g hg => ?_⟩
    obtain rfl := Option.some.inj hg
    simpa using hs
  | @failNew page f built outcome known hk hfail =>
    obtain rfl := Option.some.inj hb
    refine .inr ⟨_, .inl rfl, .inl ?_, fun q hq => ?_, fun g hg => ?_⟩
    · simp [retired hk rfl, makeError]
    · obtain rfl := Option.some.inj hq
      simp
    · obtain rfl := Option.some.inj hg
      simp
  | @publishNew page f outcome known item hk _ ha =>
    obtain rfl := Option.some.inj hb
    simp [retired hk rfl] at ha
  | _ => cases hb

end Building

variable [NeZero N] [DecidableEq T] [DecidableEq V] [Fintype T] [Fintype V]
  {opts : BufferPoolOptions} {w w' : World N T V} {t : T} {choice : Choice T V}

/-- A step while the file is retiring. -/
structure RetirementGate (w w' : World N T V) (t : T) (file : FileId) : Prop where
  gated : Gated file w.pool w'.pool
  registered : ∀ entry', w'.pool.files.lookup file = some entry' →
    entry'.state = .retiring ∧ ∀ entry, w.pool.files.lookup file = some entry →
      entry'.newPageInProgress = true → entry.newPageInProgress = true
  building : (w.pc t).building = some file → (w'.pc t).building = some file ∨
    ∃ error, BuildFailed w'.pool (w.pc t) (w'.pc t) file error

structure ResetsDrained (w w' : World N T V) (file : FileId) : Prop where
  entry : ∀ page entry, w.pool.pageTable.lookup page = some entry →
    w'.pool.pageTable.lookup page = none → page.fileId = file ∧ entry.state = .resident
  frame : ∀ f, w'.pool.frames f ≠ w.pool.frames f →
    (w.pool.frames f).page.id.fileId = file ∧ (w.pool.frames f).state = .resident ∧
      (w.pool.frames f).pinCount = 0 ∧ (w.pool.frames f).ioState = .none

omit [NeZero N] [DecidableEq T] [DecidableEq V] [Fintype T] [Fintype V] in
lemma Touch.gated {pool pool' : Pool N} (ht : Touch pool pool') : Gated file pool pool' where
  frame f := by
    have hf := ht.frame f
    exact ⟨fun _ => hf.pinCount.le, fun _ hs => by simp [hf.state, hs],
      fun _ hs => hf.state.symm.trans hs⟩
  intent page entry _ he _ := by rwa [ht.pageTable] at he

omit [Fintype T] [Fintype V] in
lemma Act.building (ha : Act opts w t choice w') (hb : (w.pc t).building = some file) :
    (∃ turn, w' = w.finish opts t turn ∧ Move opts w.pool (w.pc t) turn.pool turn.pc) ∨
      (w'.pc t).building = some file := by
  cases ha with
  | @critical turn hlock hcs hm => exact .inl ⟨turn, rfl, hm⟩
  | call hi | mutate hi | markDirty hi | release hi | assign hi | move hi | noGuard hi =>
    obtain ⟨last, hpc⟩ := Pc.exists_idle hi
    rw [hpc] at hb
    cases hb
  | wake => exact .inr hb
  | _ => simp_all [Pc.building]

omit [DecidableEq T] [DecidableEq V] [Fintype T] [Fintype V] in
lemma Move.retired {pool pool' : Pool N} {pc : Pc N V} (hc : pc.retireCall = some file)
    (hm : Move opts pool pc pool' (.idle (.retireFile file (.ok ())))) :
    pool'.files.lookup file = none ∧
      ∀ page : PageId, page.fileId = file → pool'.pageTable.lookup page = none := by
  generalize hpc : (.idle (.retireFile file (.ok ())) : Pc N V) = pc' at hm
  cases hm with
  | quiet replacer hq =>
    cases hq with
    | @matchingEnd status caller => cases caller <;> cases status <;> cases hpc
    | @flushSettled page caller => cases caller <;> cases hpc
    | @unpinNone f assignment => cases assignment <;> cases hpc
    | _ => cases hpc
  | closeFile hn =>
    cases hpc
    exact ⟨by simp, hn⟩
  | @failWriteback _ _ _ _ caller => cases caller <;> cases hpc
  | @unpin f assignment => cases assignment <;> cases hpc
  | _ => cases hpc

omit [DecidableEq T] [DecidableEq V] [Fintype T] [Fintype V] in
lemma Move.resetsDrained {pool pool' : Pool N} {pc' : Pc N V} {limit : ℕ}
    (h : pool.WellFormed limit) (hd : pool.Drained file)
    (hm : Move opts pool (.retireReset file) pool' pc') :
    (∀ page entry, pool.pageTable.lookup page = some entry → pool'.pageTable.lookup page = none →
      page.fileId = file ∧ entry.state = .resident) ∧
    ∀ f, pool'.frames f ≠ pool.frames f → (pool.frames f).page.id.fileId = file ∧
      (pool.frames f).state = .resident ∧ (pool.frames f).pinCount = 0 ∧
        (pool.frames f).ioState = .none := by
  cases hm with
  | fault hm _ => exact hm.elim
  | quiet replacer hq => cases hq
  | reserveVictim _ hpc => rcases hpc with ⟨n, hpc⟩ | ⟨v, hpc⟩ <;> cases hpc
  | closeFile hn =>
    refine ⟨fun page entry he hn => ?_, fun f hf => absurd rfl hf⟩
    rw [he] at hn
    cases hn
  | @resetRetired _ page entry he hp =>
    obtain ⟨hs, hpin, hio⟩ := hd.frame page entry he hp
    obtain ⟨hid, hf⟩ := h.bound_resident he hs
    refine ⟨fun q item hq hn => ?_, fun f hne => ?_⟩
    · by_cases hqp : q = page
      · subst hqp
        obtain rfl := Option.some.inj (he.symm.trans hq)
        exact ⟨hp, hs⟩
      · simp [hqp, hq] at hn
    · by_cases hfe : f = entry.frameId
      · subst hfe
        exact ⟨hid ▸ hp, hf, hpin, hio⟩
      · simp [hfe] at hne

lemma World.Inv.retirementGate (h : w.Inv opts) (hs : BufferPool.step opts w t choice = some w')
    {entry : FileEntry} (he : w.pool.files.lookup file = some entry)
    (hret : entry.state = .retiring) : RetirementGate w w' t file := by
  have ha := step_act hs
  have hr := h.ready t
  refine ⟨?_, ?_, fun hb => ?_⟩
  · rcases ha.critical_or_light h.accounted with ⟨turn, -, -, -, hm, rfl⟩ | hl
    · exact hm.gated h.wellFormed hr he hret
    · exact hl.touch.gated
  · rcases ha.critical_or_light h.accounted with ⟨turn, -, -, -, hm, rfl⟩ | hl
    · intro entry' he'
      rcases hm.file (hr.not_missing h.wellFormed) file with heq | ⟨_, _, _, _, hn, _⟩ |
        ⟨-, -, -, hn⟩ | ⟨known, new, hk, hnew, hu⟩
      · obtain rfl : entry = entry' := Option.some.inj (he.symm.trans (heq.symm.trans he'))
        exact ⟨hret, fun known hk => by rw [Option.some.inj (hk.symm.trans he)]; exact id⟩
      · rw [he] at hn
        cases hn
      · exact absurd (hn.symm.trans he') (by simp)
      · obtain rfl := Option.some.inj (he.symm.trans hk)
        obtain rfl := Option.some.inj (hnew.symm.trans he')
        refine ⟨hu.retiring hret, fun known hk hp => ?_⟩
        obtain rfl := Option.some.inj (he.symm.trans hk)
        rcases hu.turn hp with hp | ⟨-, ha⟩
        · exact hp
        · rw [hret] at ha
          cases ha
    · rw [hl.touch.files]
      intro entry' he'
      obtain rfl := Option.some.inj (he.symm.trans he')
      exact ⟨hret, fun known hk => by rw [Option.some.inj (hk.symm.trans he)]; exact id⟩
  · rcases ha.building hb with ⟨turn, rfl, hm⟩ | hb
    · rw [World.finish_pc]
      exact hm.building h.wellFormed hr he hret hb
    · exact .inl hb

theorem retirement_gate (h : Run (poolSystem opts) OneLifecycle w) :
    ∀ t choice w', step opts w t choice = some w' →
    (∀ file entry, w.pool.files.lookup file = some entry → entry.state = .retiring →
      RetirementGate w w' t file) ∧
    (∀ file, w.pc t = .retireReset file → ResetsDrained w w' file) ∧
    ∀ file, (w.pc t).retireCall = some file → w'.pc t = .idle (.retireFile file (.ok ())) →
      w'.pool.files.lookup file = none ∧
        ∀ page : PageId, page.fileId = file → w'.pool.pageTable.lookup page = none := by
  intro t choice w' hs
  have hi := inv_of_run (closesAlone_of_oneLifecycle h).1
  refine ⟨fun file entry => hi.retirementGate hs, fun file hpc => ?_, fun file hc hpc => ?_⟩
  · cases step_act hs with
    | critical hlock hcs hm =>
      obtain ⟨he, hf⟩ := (hpc ▸ hm).resetsDrained hi.wellFormed (hi.resetting t file hpc).2.2
      exact ⟨he, hf⟩
    | wake => exact ⟨fun _ _ he hn => absurd (he.symm.trans hn) (by simp), fun _ hf => absurd rfl hf⟩
    | call hb | mutate hb | markDirty hb | release hb | assign hb | move hb | noGuard hb =>
      rw [hpc] at hb
      cases hb
    | _ => simp_all
  · cases step_act hs with
    | critical hlock hcs hm =>
      rw [World.finish_pc] at hpc
      exact (hpc ▸ hm).retired hc
    | call hb | mutate hb | markDirty hb | release hb | assign hb | move hb | noGuard hb =>
      obtain ⟨last, hcall⟩ := Pc.exists_idle hb
      rw [hcall] at hc
      cases hc
    | wake =>
      rw [show w.pc t = _ from hpc] at hc
      cases hc
    | grant hcall =>
      rw [hcall] at hc
      cases hc
    | _ => simp_all [Pc.retireCall]

section Sample

lemma sampleRetiring_runs : (execute (poolSystem sampleOptions) OneLifecycle
    (World.initial sampleDisk : World 1 Bool Unit)
    (sampleRegister true 1 ++ sampleNewPage true 1 ++
      [(false, .call (.retireFile sampleFile .flushDirty)), (false, .run), (false, .run)])).isSome := by
  decide +kernel

/-- A file that waits for the guard of its only page. -/
def sampleRetiringWorld : World 1 Bool Unit := Option.get _ sampleRetiring_runs

lemma sampleRetiring_run : Run (poolSystem sampleOptions) OneLifecycle sampleRetiringWorld :=
  (run_initial sampleDisk).of_execute sampleRetiring_runs

theorem retirement_gate_release : ∃ w',
    step sampleOptions sampleRetiringWorld true (.guard (.release none)) = some w' ∧
      RetirementGate sampleRetiringWorld w' true sampleFile := by
  have hf : (sampleRetiringWorld.pool.files.lookup sampleFile).map FileEntry.state =
      some .retiring := by decide +kernel
  have hs : (step sampleOptions sampleRetiringWorld true (.guard (.release none))).isSome := by
    decide +kernel
  obtain ⟨entry, he, hret⟩ := Option.map_eq_some_iff.mp hf
  obtain ⟨w', hw⟩ := Option.isSome_iff_exists.mp hs
  exact ⟨w', hw, (retirement_gate sampleRetiring_run true _ w' hw).1 sampleFile entry he hret⟩

end Sample

end DBlusBlus.BufferPool
