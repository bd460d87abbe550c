import DBlusBlus.BufferPool.Ownership

/-! Page creation: who has the turn in a file, and what moves its published bound. -/

namespace DBlusBlus.BufferPool

open Accounting Transition

variable {N : ℕ} {T V : Type} {file : FileId} {page : PageId}

def Requester.turn : Requester → Option FileId
  | .fetch _ _ _ => none
  | .newPage file _ => some file

def Writer.turn : Writer N → Option FileId
  | .evict requester _ _ => requester.turn
  | .flush _ _ _ _ _ => none

def Pc.asking : Pc N V → Option FileId
  | .acquireFrame requester _ | .candidateObserved requester _ _ | .victimReserved requester _ _
  | .frameAcquired requester _ | .requestFailed requester _ => requester.turn
  | .writePage writer _ | .syncFile writer _ | .finishWrite writer _ => writer.turn
  | _ => none

def Pc.turn : Pc N V → Option FileId
  | .newPageCount file _ _ _ | .newPageExtend file _ _ | .newPageReserved file _ _ _ => some file
  | .newPageBuild page _ _ _ | .newPageFinish page _ _ _ => some page.fileId
  | pc => pc.asking

/-- The page that a successful `NewPage` is about to return. -/
def Pc.created : Pc N V → Option PageId
  | .makeGuard (.newPage file (.ok pageNo)) _ _ => some ⟨file, pageNo⟩
  | _ => none

lemma Requester.turn_mem {requester : Requester} (h : requester.turn = some file) :
    Resource.turn file ∈ (requester.resources : List (Resource N)) := by
  cases requester with
  | fetch => cases h
  | newPage =>
    cases h
    simp [Requester.resources]

lemma Pc.turn_mem {pc : Pc N V} {loads : LoadId → LoadOperation N} (h : pc.turn = some file) :
    Resource.turn file ∈ pc.resources loads := by
  have writer {writer : Writer N} (h : writer.turn = some file) :
      Resource.turn file ∈ writer.resources := by
    cases writer with
    | evict requester f victim => exact List.mem_cons_of_mem _ (Requester.turn_mem h)
    | flush => cases h
  cases pc
  case acquireFrame | candidateObserved | requestFailed => exact Requester.turn_mem h
  case victimReserved | frameAcquired => exact List.mem_cons_of_mem _ (Requester.turn_mem h)
  case writePage | syncFile | finishWrite => exact writer h
  case newPageCount | newPageExtend | newPageReserved | newPageBuild | newPageFinish =>
    cases h
    simp [Pc.resources]
  all_goals cases h

section Moves

variable [NeZero N] {pool pool' : Pool N} {pc pc' : Pc N V} {limit : ℕ} {opts : BufferPoolOptions}

/-- The bound of a registration moves exactly when a page is created. -/
lemma Move.published {entry entry' : FileEntry} (hm : Move opts pool pc pool' pc')
    (hn : ¬ Missing pool pc) (he : pool.files.lookup file = some entry)
    (he' : pool'.files.lookup file = some entry') :
    (entry'.publishedPageCount = entry.publishedPageCount ∧ ∀ n, pc'.created ≠ some ⟨file, n⟩) ∨
      ∃ n f, pc = .newPageFinish ⟨file, n⟩ f true .valid ∧
        pc' = .makeGuard (.newPage file (.ok n)) f .exclusive ∧
        entry'.publishedPageCount = n + 1 := by
  have kept (hp : pool'.files.lookup file = pool.files.lookup file) :
      entry'.publishedPageCount = entry.publishedPageCount := by
    rw [he, he'] at hp
    rw [Option.some.inj hp]
  have updated {other : FileId} {known new : FileEntry}
      (hk : pool.files.lookup other = some known)
      (hp : pool'.files.lookup file = if file = other then some new else pool.files.lookup file)
      (hnew : new.publishedPageCount = known.publishedPageCount) :
      entry'.publishedPageCount = entry.publishedPageCount := by
    by_cases ho : file = other
    · subst ho
      rw [if_pos rfl, he'] at hp
      rw [he] at hk
      rw [Option.some.inj hp, Option.some.inj hk, hnew]
    · exact kept (by rwa [if_neg ho] at hp)
  cases hm with
  | fault hm _ => exact absurd hm hn
  | quiet replacer hq =>
    refine .inl ⟨kept rfl, fun n => ?_⟩
    cases hq with
    | @matchingEnd status caller => cases caller <;> cases status <;> simp [matchingEndPc, Pc.created]
    | @flushSettled page caller => cases caller <;> simp [flushReturnPc, Pc.created]
    | @unpinNone f assignment => cases assignment <;> simp [unpinPc, Pc.created]
    | _ => simp [Pc.created]
  | @registerFile other validator count hq hf =>
    refine .inl ⟨?_, by simp [Pc.created]⟩
    refine kept ?_
    have : file ≠ other := by
      rintro rfl
      exact hf (Table.mem_iff.mpr ⟨entry, he⟩)
    simp [this]
  | @closeFile other =>
    refine .inl ⟨kept ?_, by simp [Pc.created]⟩
    have : file ≠ other := by
      rintro rfl
      simp at he'
    simp [this]
  | beginRetire hk | endTurn hk | claimTurn _ hk | returnFrame hk | failNew hk =>
    exact .inl ⟨updated hk (Table.lookup_insert ..) rfl, by simp [Pc.created]⟩
  | bindNew => exact .inl ⟨kept (by split <;> rfl), by simp [Pc.created]⟩
  | @publishNew page f outcome known item hk hv ha hi =>
    by_cases ho : file = page.fileId
    · subst ho
      subst hv
      refine .inr ⟨page.pageNo, f, rfl, rfl, ?_⟩
      simp only [Pool.setFile_files, Table.lookup_insert, if_true, Option.some.injEq] at he'
      rw [← he']
    · refine .inl ⟨kept (by simp [ho]), fun n hc => ho ?_⟩
      cases hc
      rfl
  | @failWriteback _ _ _ _ caller =>
    refine .inl ⟨kept rfl, fun n => ?_⟩
    cases caller <;> simp [flushReturnPc, Pc.created]
  | @unpin f assignment =>
    refine .inl ⟨kept rfl, fun n => ?_⟩
    cases assignment <;> simp [unpinPc, Pc.created]
  | _ => exact .inl ⟨kept rfl, by simp [Pc.created]⟩

lemma Move.newPageCount {init : PageInitializer} {f : Fin N} {published : PageNo}
    (hm : Move opts pool pc pool' (.newPageCount file init f published)) :
    pool'.files = pool.files ∧ ∃ entry, pool.files.lookup file = some entry ∧
      published = entry.publishedPageCount := by
  generalize hpc : (.newPageCount file init f published : Pc N V) = pc' at hm
  cases hm with
  | quiet replacer hq =>
    cases hq with
    | newPageCount he =>
      cases hpc
      exact ⟨rfl, _, he, rfl⟩
    | @matchingEnd status caller => cases caller <;> cases status <;> cases hpc
    | @flushSettled page caller => cases caller <;> cases hpc
    | @unpinNone f assignment => cases assignment <;> cases hpc
    | _ => cases hpc
  | @failWriteback _ _ _ _ caller => cases caller <;> cases hpc
  | @unpin f assignment => cases assignment <;> cases hpc
  | _ => cases hpc

lemma Move.newPageBuild {init : PageInitializer} {f : Fin N} {validator : PageValidator}
    (hm : Move opts pool pc pool' (.newPageBuild page init f validator)) :
    pc = .newPageReserved page.fileId init f (.ok page.pageNo) ∧ page.pageNo ≠ 0 ∧
      ∃ entry, pool.files.lookup page.fileId = some entry ∧
        page.pageNo = entry.publishedPageCount := by
  generalize hpc : (.newPageBuild page init f validator : Pc N V) = pc' at hm
  cases hm with
  | quiet replacer hq =>
    cases hq with
    | @matchingEnd status caller => cases caller <;> cases status <;> cases hpc
    | @flushSettled page caller => cases caller <;> cases hpc
    | @unpinNone f assignment => cases assignment <;> cases hpc
    | _ => cases hpc
  | bindNew he h0 hp =>
    cases hpc
    exact ⟨rfl, h0, _, he, hp⟩
  | @failWriteback _ _ _ _ caller => cases caller <;> cases hpc
  | @unpin f assignment => cases assignment <;> cases hpc
  | _ => cases hpc

lemma Move.created (hm : Move opts pool pc pool' pc') (hc : pc'.created = some page) :
    ∃ f, pc = .newPageFinish page f true .valid := by
  cases hm with
  | quiet replacer hq =>
    cases hq with
    | @matchingEnd status caller => cases caller <;> cases status <;> cases hc
    | @flushSettled page caller => cases caller <;> cases hc
    | @unpinNone f assignment => cases assignment <;> cases hc
    | _ => cases hc
  | @publishNew _ f _ _ _ _ hv =>
    cases hc
    exact ⟨f, by rw [hv]⟩
  | @failWriteback _ _ _ _ caller => cases caller <;> cases hc
  | @unpin f assignment => cases assignment <;> cases hc
  | _ => cases hc

/-- A `NewPage` call before its frame. -/
def Pc.unextended : Pc N V → Bool
  | .newPageTurn _ _ => true
  | pc => pc.asking.isSome

lemma Move.unextended (hm : Move opts pool pc pool' pc') (h : pc'.unextended = true) :
    pc.unextended = true := by
  cases hm with
  | quiet replacer hq =>
    cases hq with
    | @matchingEnd status caller => cases caller <;> cases status <;> cases h
    | @flushSettled page caller => cases caller <;> cases h
    | @unpinNone f assignment => cases assignment <;> cases h
    | _ => first | exact h | cases h
  | reserveVictim _ hpc => rcases hpc with ⟨n, rfl⟩ | ⟨v, rfl⟩ <;> exact h
  | claimTurn => rfl
  | @failWriteback _ _ _ _ caller => cases caller <;> cases h
  | @unpin f assignment => cases assignment <;> cases h
  | _ => first | exact h | cases h

/-- Stops that a thread reaches outside its critical sections only. -/
def Pc.fromOutside : Pc N V → Bool
  | .registerFile _ _ _ | .newPageExtend _ _ _ | .newPageReserved _ _ _ _
  | .newPageFinish _ _ _ _ => true
  | _ => false

lemma Move.not_fromOutside (hm : Move opts pool pc pool' pc') : pc'.fromOutside = false := by
  cases hm with
  | quiet replacer hq =>
    cases hq with
    | @matchingEnd status caller => cases caller <;> cases status <;> rfl
    | @flushSettled page caller => cases caller <;> rfl
    | @unpinNone f assignment => cases assignment <;> rfl
    | _ => rfl
  | @failWriteback _ _ _ _ caller => cases caller <;> rfl
  | @unpin f assignment => cases assignment <;> rfl
  | _ => rfl

end Moves

section Steps

variable [DecidableEq T] [DecidableEq V] [NeZero N] [Fintype T] [Fintype V]
  {opts : BufferPoolOptions} {w w' : World N T V} {t u : T} {choice : Choice T V}

namespace World.Inv

lemma turn_entry (h : w.Inv opts) (ht : (w.pc t).turn = some file) :
    ∃ entry, w.pool.files.lookup file = some entry ∧ entry.newPageInProgress = true := by
  have hm : Resource.turn file ∈ w.holding (.inl t) := Pc.turn_mem ht
  exact demand_turn.mp (Balanced.pos h.accounted hm)

lemma turn_unique (h : w.Inv opts) (ht : (w.pc t).turn = some file)
    (hu : (w.pc u).turn = some file) : t = u := by
  have hm : Resource.turn file ∈ w.holding (.inl t) := Pc.turn_mem ht
  have hm' : Resource.turn file ∈ w.holding (.inl u) := Pc.turn_mem hu
  obtain ⟨entry, he, hn⟩ := h.turn_entry ht
  have hone : w.pool.demand (.turn file) ≤ 1 := by
    simp only [Pool.demand, he, turnDemand]
    exact unit_le_one
  exact Sum.inl.inj (Balanced.unique h.accounted hone hm hm')

lemma building_published (h : w.Inv opts) {f : Fin N} {built : Bool}
    {outcome : PageValidationOutcome} (hpc : w.pc t = .newPageFinish page f built outcome)
    {entry : FileEntry} (he : w.pool.files.lookup page.fileId = some entry) :
    page.pageNo = entry.publishedPageCount ∧ page.pageNo ≠ 0 := by
  have hm : Resource.entry page (.loading f none) ∈ w.holding (.inl t) := by
    simp [World.holding, hpc, Pc.resources]
  have hi := demand_loading.mp (Balanced.pos h.accounted hm)
  obtain ⟨known, hk, ha⟩ := h.wellFormed.addressed page _ hi
  obtain rfl := Option.some.inj (he.symm.trans hk)
  simpa [PageTableEntry.Addressed] using ha

end World.Inv

inductive RegistrationStep (w w' : World N T V) (t : T) (choice : Choice T V) (file : FileId) : Prop
  | same : w'.pool.files.lookup file = w.pool.files.lookup file →
    RegistrationStep w w' t choice file
  | opened {validator count} : choice = .run → w.pc t = .registerFile file validator count →
    w.pool.files.lookup file = none →
    w'.pool.files.lookup file = some ⟨.active, validator, count, false⟩ →
    RegistrationStep w w' t choice file
  | closed : choice = .run → w.pc t = .retireReset file → w'.pool.files.lookup file = none →
    RegistrationStep w w' t choice file
  | updated {entry entry'} : w.pool.files.lookup file = some entry →
    w'.pool.files.lookup file = some entry' → RegistrationStep w w' t choice file

lemma Act.registration (ha : Act opts w t choice w') (hi : w.Inv opts) (file : FileId) :
    RegistrationStep w w' t choice file := by
  rcases ha.critical_or_light hi.accounted with ⟨turn, rfl, -, -, hm, rfl⟩ | hl
  · rcases hm.file ((hi.ready t).not_missing hi.wellFormed) file with heq |
      ⟨_, _, hpc, -, hn, he⟩ | ⟨hpc, -, -, hn⟩ | ⟨_, _, he, he', -⟩
    · exact .same heq
    · exact .opened rfl hpc hn he
    · exact .closed rfl hpc hn
    · exact .updated he he'
  · exact .same (by rw [hl.touch.files])

/-- A `NewPage` call succeeds in this step. -/
def Creates (w w' : World N T V) (t : T) (page : PageId) : Prop :=
  (w.pc t).created = none ∧ (w'.pc t).created = some page

/-- The pages that `NewPage` has returned, the last one first. -/
def recordCreated (created : List PageId) (w w' : World N T V) (t : T) : List PageId :=
  match (w.pc t).created, (w'.pc t).created with
  | none, some page => page :: created
  | _, _ => created

omit [NeZero N] [Fintype T] [Fintype V] [DecidableEq T] [DecidableEq V] in
lemma recordCreated_cases (created : List PageId) (w w' : World N T V) (t : T) :
    (recordCreated created w w' t = created ∧ ∀ page, ¬ Creates w w' t page) ∨
      ∃ page, Creates w w' t page ∧ recordCreated created w w' t = page :: created := by
  unfold recordCreated Creates
  cases (w.pc t).created <;> cases (w'.pc t).created <;> simp

omit [Fintype T] [Fintype V] in
lemma Act.creates (ha : Act opts w t choice w') (hc : Creates w w' t page) :
    ∃ turn, w' = w.finish opts t turn ∧ Move opts w.pool (w.pc t) turn.pool turn.pc := by
  obtain ⟨hn, hc⟩ := hc
  cases ha with
  | @critical turn hlock hcs hm => exact ⟨turn, rfl, hm⟩
  | mutate | markDirty | move | noGuard | wake =>
    rw [show (w.pc t).created = _ from hc] at hn
    cases hn
  | @call call =>
    rw [World.setPc_pc] at hc
    cases call with
    | registerFile file validator =>
      rw [startCall] at hc
      split at hc <;> cases hc
    | _ => cases hc
  | _ => simp [Pc.created] at hc

omit [Fintype T] [Fintype V] in
lemma Creates.finishing (hc : Creates w w' t page) (ha : Act opts w t choice w') :
    ∃ f, w.pc t = .newPageFinish page f true .valid := by
  obtain ⟨turn, rfl, hm⟩ := ha.creates hc
  exact hm.created (by rw [← hc.2, World.finish_pc])

theorem Act.published (ha : Act opts w t choice w') (hi : w.Inv opts) {entry entry' : FileEntry}
    (he : w.pool.files.lookup file = some entry) (he' : w'.pool.files.lookup file = some entry') :
    (entry'.publishedPageCount = entry.publishedPageCount ∧ ∀ n, ¬ Creates w w' t ⟨file, n⟩) ∨
      (entry'.publishedPageCount = entry.publishedPageCount + 1 ∧
        Creates w w' t ⟨file, entry.publishedPageCount⟩ ∧
        ∃ f, w.pc t = .newPageFinish ⟨file, entry.publishedPageCount⟩ f true .valid) := by
  have critical {turn : Turn N V} (hw : w' = w.finish opts t turn)
      (hm : Move opts w.pool (w.pc t) turn.pool turn.pc) :
      (entry'.publishedPageCount = entry.publishedPageCount ∧ ∀ n, ¬ Creates w w' t ⟨file, n⟩) ∨
        (entry'.publishedPageCount = entry.publishedPageCount + 1 ∧
          Creates w w' t ⟨file, entry.publishedPageCount⟩ ∧
          ∃ f, w.pc t = .newPageFinish ⟨file, entry.publishedPageCount⟩ f true .valid) := by
    subst hw
    rcases hm.published ((hi.ready t).not_missing hi.wellFormed) he he' with
      ⟨hp, hc⟩ | ⟨n, f, hpc, hpc', hp⟩
    · refine .inl ⟨hp, fun n hn => hc n ?_⟩
      rw [← hn.2, World.finish_pc]
    · have hn := (hi.building_published hpc he).1
      dsimp only at hn
      subst hn
      refine .inr ⟨hp, ⟨by rw [hpc]; rfl, ?_⟩, f, hpc⟩
      rw [World.finish_pc, hpc']
      rfl
  by_cases hc : ∃ n, Creates w w' t ⟨file, n⟩
  · obtain ⟨n, hc⟩ := hc
    obtain ⟨turn, hw, hm⟩ := ha.creates hc
    exact critical hw hm
  · rcases ha.critical_or_light hi.accounted with ⟨turn, -, -, -, hm, hw⟩ | hl
    · exact critical hw hm
    · rw [hl.touch.files, he] at he'
      obtain rfl := Option.some.inj he'
      exact .inl ⟨rfl, fun n hn => hc ⟨n, hn⟩⟩

lemma Act.turn_kept (ha : Act opts w t choice w') (hi : w.Inv opts) (hu : (w.pc u).turn = some file)
    {entry : FileEntry} (he : w.pool.files.lookup file = some entry) :
    ∃ entry', w'.pool.files.lookup file = some entry' ∧
      (u ≠ t → entry'.publishedPageCount = entry.publishedPageCount) := by
  have kept {entry' : FileEntry} (he' : w'.pool.files.lookup file = some entry') :
      u ≠ t → entry'.publishedPageCount = entry.publishedPageCount := by
    intro hne
    rcases ha.published hi he he' with ⟨hp, -⟩ | ⟨-, -, f, hpc⟩
    · exact hp
    · exact absurd (hi.turn_unique hu (by rw [hpc]; rfl)) hne
  cases ha.registration hi file with
  | same hs =>
    rw [he] at hs
    exact ⟨entry, hs, kept hs⟩
  | opened _ _ hn =>
    rw [he] at hn
    cases hn
  | closed _ hpc =>
    obtain ⟨known, hk, hn⟩ := hi.turn_entry hu
    have := (hi.resetting t file hpc).2.2.quiet known hk
    rw [hn] at this
    cases this
  | updated _ he' => exact ⟨_, he', kept he'⟩

omit [Fintype T] [Fintype V] in
lemma Act.pageCount (ha : Act opts w t choice w') (file : FileId) :
    w'.disk.pageCount file = w.disk.pageCount file ∨
      ∃ init f n, w.pc t = .newPageExtend file init f ∧ choice = .extendFile (.ok n) ∧
        w'.pc t = .newPageReserved file init f (.ok n) ∧
        w'.disk.pageCount file = w.disk.pageCount file + 1 := by
  cases ha with
  | @extended other init f n hpc =>
    by_cases ho : file = other
    · subst ho
      exact .inr ⟨init, f, n, hpc, rfl, World.setPc_pc .., by simp⟩
    · exact .inl (by simp [ho])
  | _ => exact .inl rfl

end Steps

end DBlusBlus.BufferPool
