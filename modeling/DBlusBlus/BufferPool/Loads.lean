import DBlusBlus.BufferPool.Retirement

/-! Fetches that share one load, and the outcome they share. -/

namespace DBlusBlus.BufferPool

open Accounting Transition

variable {N : ℕ} {T V : Type}

def LoadOperation.result (operation : LoadOperation N) : Option (BufferResult (Fin N)) :=
  if operation.done then
    match operation.frameId with
    | some f => some (.ok f)
    | none => some (.error operation.error)
  else none

lemma LoadOperation.done_of_result {operation : LoadOperation N} {result : BufferResult (Fin N)}
    (h : operation.result = some result) : operation.done = true := by
  rw [LoadOperation.result] at h
  split at h
  · assumption
  · cases h

def returnPc (page : PageId) (mode : LatchMode) : BufferResult (Fin N) → Pc N V
  | .ok f => .makeGuard (.fetch page mode (.ok ())) f mode
  | .error error => .idle (.fetch page mode (.error error))

abbrev Claim := PageId × LatchMode × LoadId

def Requester.loader : Requester → Option Claim
  | .fetch page mode load => some (page, mode, load)
  | .newPage _ _ => none

def Writer.loader : Writer N → Option Claim
  | .evict requester _ _ => requester.loader
  | .flush _ _ _ _ _ => none

def Pc.loader : Pc N V → Option Claim
  | .acquireFrame requester _ | .candidateObserved requester _ _ | .victimReserved requester _ _
  | .frameAcquired requester _ | .requestFailed requester _ => requester.loader
  | .readPage page mode load _ _ | .finishLoad page mode load _ _ _ => some (page, mode, load)
  | .writePage writer _ | .syncFile writer _ | .finishWrite writer _ => writer.loader
  | _ => none

def Pc.claimed : Pc N V → Option Claim
  | .joinLoad page mode load => some (page, mode, load)
  | pc => pc.loader

/-- The load whose page the thread may still read. -/
def Pc.unread : Pc N V → Option LoadId
  | .finishLoad _ _ _ _ _ _ => none
  | pc => pc.loader.map fun claim => claim.2.2

section Resources

variable {page : PageId} {mode : LatchMode} {load : LoadId} {loads : LoadId → LoadOperation N}
  {pc : Pc N V}

lemma Requester.loader_mem {requester : Requester} (h : requester.loader = some (page, mode, load)) :
    (requester.resources : List (Resource N)) =
      [.entry page (.intent load), .load load .loader, .load load .claim] := by
  cases requester with
  | fetch =>
    simp only [Requester.loader, Option.some.injEq, Prod.mk.injEq] at h
    obtain ⟨rfl, rfl, rfl⟩ := h
    rfl
  | newPage => cases h

lemma Pc.loader_mem (h : pc.loader = some (page, mode, load)) :
    Resource.load load .loader ∈ pc.resources loads ∧
      Resource.load load .claim ∈ pc.resources loads ∧
      (Resource.entry page (.intent load) ∈ pc.resources loads ∨
        ∃ f, Resource.entry page (.loading f (some load)) ∈ pc.resources loads) := by
  have writer {writer : Writer N} (h : writer.loader = some (page, mode, load)) :
      Resource.load load .loader ∈ writer.resources ∧ Resource.load load .claim ∈ writer.resources ∧
        (Resource.entry page (.intent load) ∈ writer.resources ∨
          ∃ f, Resource.entry page (.loading f (some load)) ∈ writer.resources) := by
    cases writer with
    | evict requester f victim =>
      have hr : (requester.resources : List (Resource N)) = _ := Requester.loader_mem h
      simp [Writer.resources, hr]
    | flush => cases h
  cases pc
  case acquireFrame requester _ | candidateObserved requester _ _ | victimReserved requester _ _
      | frameAcquired requester _ | requestFailed requester _ =>
    have hr : (requester.resources : List (Resource N)) = _ := Requester.loader_mem h
    simp [Pc.resources, hr]
  case readPage | finishLoad =>
    simp only [Pc.loader, Option.some.injEq, Prod.mk.injEq] at h
    obtain ⟨rfl, rfl, rfl⟩ := h
    simp [Pc.resources]
  case writePage | syncFile | finishWrite => exact writer h
  all_goals cases h

lemma Requester.loader_of_mem {requester : Requester}
    (h : Resource.load load .loader ∈ (requester.resources : List (Resource N))) :
    ∃ page mode, requester.loader = some (page, mode, load) := by
  cases requester with
  | fetch page mode other =>
    obtain rfl : load = other := by simpa [Requester.resources] using h
    exact ⟨page, mode, rfl⟩
  | newPage => simp [Requester.resources] at h

lemma Pc.loader_of_mem (h : Resource.load load .loader ∈ pc.resources loads) :
    ∃ page mode, pc.loader = some (page, mode, load) := by
  have named {f : Fin N} {role : FrameRole} {requester : Requester}
      (h : Resource.load load .loader ∈ .frame f role :: requester.resources) :
      ∃ page mode, requester.loader = some (page, mode, load) := by
    simp only [List.mem_cons, reduceCtorEq, false_or] at h
    exact Requester.loader_of_mem h
  have writer {writer : Writer N} (h : Resource.load load .loader ∈ writer.resources) :
      ∃ page mode, writer.loader = some (page, mode, load) := by
    cases writer with
    | evict requester f victim => exact named h
    | flush => simp [Writer.resources] at h
  cases pc
  case acquireFrame | candidateObserved | requestFailed => exact Requester.loader_of_mem h
  case victimReserved | frameAcquired => exact named h
  case writePage | syncFile | finishWrite => exact writer h
  case readPage page mode other _ _ | finishLoad page mode other _ _ _ =>
    obtain rfl : load = other := by simpa [Pc.resources] using h
    exact ⟨page, mode, rfl⟩
  case joinLoad _ _ other =>
    simp only [Pc.resources, LoadOperation.joiner] at h
    split at h
    · split at h <;> simp at h
    · simp at h
  all_goals simp [Pc.resources] at h

lemma Requester.loader_of_entry {requester : Requester} {role : EntryRole N}
    (h : Resource.entry page role ∈ requester.resources)
    (hl : role.licence page = .load load .loader) :
    ∃ mode, requester.loader = some (page, mode, load) := by
  cases requester with
  | fetch other mode own =>
    simp only [Requester.resources, List.mem_cons, Resource.entry.injEq, reduceCtorEq,
      List.not_mem_nil, or_false] at h
    obtain ⟨rfl, rfl⟩ := h
    simp only [EntryRole.licence, Resource.load.injEq, and_true] at hl
    exact ⟨mode, hl ▸ rfl⟩
  | newPage => simp [Requester.resources] at h

lemma Pc.loader_of_entry {role : EntryRole N} (h : Resource.entry page role ∈ pc.resources loads)
    (hl : role.licence page = .load load .loader) :
    ∃ mode, pc.loader = some (page, mode, load) := by
  have named {f : Fin N} {own : FrameRole} {requester : Requester}
      (h : Resource.entry page role ∈ .frame f own :: requester.resources) :
      ∃ mode, requester.loader = some (page, mode, load) := by
    simp only [List.mem_cons, reduceCtorEq, false_or] at h
    exact Requester.loader_of_entry h hl
  have writer {writer : Writer N} (h : Resource.entry page role ∈ writer.resources) :
      ∃ mode, writer.loader = some (page, mode, load) := by
    cases writer with
    | evict requester f victim => exact named h
    | flush => simp [Writer.resources] at h
  cases pc
  case acquireFrame | candidateObserved | requestFailed => exact Requester.loader_of_entry h hl
  case victimReserved | frameAcquired => exact named h
  case writePage | syncFile | finishWrite => exact writer h
  case readPage page mode other _ _ | finishLoad page mode other _ _ _ =>
    simp only [Pc.resources, List.mem_cons, Resource.entry.injEq, reduceCtorEq, List.not_mem_nil,
      or_false] at h
    obtain ⟨rfl, rfl⟩ := h
    simp only [EntryRole.licence, Resource.load.injEq, and_true] at hl
    exact ⟨mode, hl ▸ rfl⟩
  case newPageBuild | newPageFinish =>
    simp only [Pc.resources, List.mem_cons, Resource.entry.injEq, reduceCtorEq, List.not_mem_nil,
      or_false] at h
    obtain ⟨rfl, rfl⟩ := h
    cases hl
  case joinLoad => exact absurd h (LoadOperation.entry_notMem_joiner _ _)
  all_goals simp [Pc.resources] at h

lemma Pc.claimed_cases (h : pc.claimed = some (page, mode, load)) :
    pc = .joinLoad page mode load ∨ pc.loader = some (page, mode, load) := by
  cases pc
  case joinLoad =>
    cases h
    exact .inl rfl
  all_goals exact .inr h

lemma Pc.claimed_of_loader (h : pc.loader = some (page, mode, load)) :
    pc.claimed = some (page, mode, load) := by
  cases pc
  case joinLoad => cases h
  all_goals exact h

lemma Pc.loader_of_unread (h : pc.unread = some load) :
    ∃ page mode, pc.loader = some (page, mode, load) := by
  have hm : pc.loader.map (fun claim => claim.2.2) = some load := by
    cases pc
    case finishLoad => cases h
    all_goals exact h
  obtain ⟨⟨page, mode, other⟩, hl, rfl⟩ := Option.map_eq_some_iff.mp hm
  exact ⟨page, mode, hl⟩

lemma Pc.claimed_mem (h : pc.claimed = some (page, mode, load)) (hd : (loads load).done = false) :
    Resource.load load .claim ∈ pc.resources loads := by
  rcases Pc.claimed_cases h with rfl | hl
  · simp [Pc.resources, LoadOperation.joiner, hd]
  · exact (Pc.loader_mem hl).2.1

lemma Requester.count_claim (requester : Requester) (load : LoadId) :
    (requester.resources : List (Resource N)).count (.load load .claim) =
      unit (requester.loader.map (fun claim => claim.2.2) = some load) := by
  cases requester <;> simp [Requester.resources, Requester.loader]

lemma Writer.count_claim (writer : Writer N) (load : LoadId) :
    writer.resources.count (.load load .claim) =
      unit (writer.loader.map (fun claim => claim.2.2) = some load) := by
  cases writer with
  | evict requester f victim =>
    exact (List.count_cons_of_ne (by simp)).trans (requester.count_claim load)
  | flush => simp [Writer.resources, Writer.loader]

lemma Pc.count_claim (pc : Pc N V) (hd : (loads load).done = false) :
    (pc.resources loads).count (.load load .claim) =
      unit (pc.claimed.map (fun claim => claim.2.2) = some load) := by
  cases pc
  case joinLoad page mode other =>
    by_cases ho : other = load
    · subst ho
      simp [Pc.resources, LoadOperation.joiner, Pc.claimed, hd]
    · simp only [Pc.resources, LoadOperation.joiner, Pc.claimed]
      split
      · split <;> simp [ho]
      · simp [ho]
  case acquireFrame requester _ | candidateObserved requester _ _ | requestFailed requester _ =>
    exact requester.count_claim load
  case victimReserved requester _ _ | frameAcquired requester _ =>
    exact (List.count_cons_of_ne (by simp)).trans (requester.count_claim load)
  case writePage writer _ | syncFile writer _ | finishWrite writer _ =>
    exact writer.count_claim load
  all_goals simp [Pc.resources, Pc.claimed, Pc.loader]

end Resources

section Moves

variable [NeZero N] {pool pool' : Pool N} {pc pc' : Pc N V} {limit : ℕ} {opts : BufferPoolOptions}
  {page : PageId} {mode : LatchMode} {load : LoadId}

lemma Move.finished (h : pool.WellFormed limit) (hr : Ready pool pc)
    (hm : Move opts pool pc pool' pc') (hd : (pool.loads load).done = true) :
    pool'.loads load = pool.loads load := by
  have unfinished {other : LoadId} (ho : (pool.loads other).done = false)
      (operation : LoadOperation N) :
      Function.update pool.loads other operation load = pool.loads load := by
    refine Function.update_of_ne ?_ ..
    rintro rfl
    simp [hd] at ho
  cases hm with
  | fault hm _ => exact absurd hm (hr.not_missing h)
  | installIntent => exact unfinished (by simp [h.fresh _ le_rfl, LoadOperation.initial]) _
  | @claimLoad page mode hitNotified entry other hf he hs hl =>
    exact unfinished (hr.pending page entry other he hl).1 _
  | @failIntent page mode other =>
    exact unfinished (demand_loader.mp (hr.due (.load other .loader)
      (by simp [Pc.resources, Requester.resources]))).2 _
  | @failLoad page mode other =>
    exact unfinished (demand_loader.mp (hr.due (.load other .loader) (by simp [Pc.resources]))).2 _
  | @publishLoad page mode other =>
    exact unfinished (demand_loader.mp (hr.due (.load other .loader) (by simp [Pc.resources]))).2 _
  | bindNew => split <;> rfl
  | _ => rfl

omit [NeZero N] in
lemma flushReturnPc_claimed (page : PageId) (status : BufferStatus) (caller : FlushCaller) :
    (flushReturnPc page status caller : Pc N V).claimed = none := by
  cases caller <;> rfl

/-- A fetch keeps its claim until it returns what the load came to. -/
lemma Move.claimed (h : pool.WellFormed limit) (hr : Ready pool pc)
    (hm : Move opts pool pc pool' pc') (hc : pc.claimed = some (page, mode, load)) :
    pc'.claimed = some (page, mode, load) ∨
      ∃ result, (pool'.loads load).result = some result ∧ pc' = returnPc page mode result := by
  cases hm with
  | fault hm _ => exact absurd hm (hr.not_missing h)
  | quiet replacer hq =>
    cases hq with
    | joinWait | noFrame | candidateFound | candidateLost => exact .inl hc
    | @joinPinned _ _ _ f hd hf =>
      cases hc
      exact .inr ⟨.ok f, by simp [LoadOperation.result, hd, hf], rfl⟩
    | @joinFailed _ _ _ hd hf =>
      cases hc
      exact .inr ⟨.error (pool.loads load).error, by simp [LoadOperation.result, hd, hf], rfl⟩
    | _ => cases hc
  | claimFrame | startEviction | dropClean | finishEviction | restoreVictim => exact .inl hc
  | reserveVictim _ hpc => rcases hpc with ⟨n, rfl⟩ | ⟨v, rfl⟩ <;> exact .inl hc
  | bindLoad => exact .inl hc
  | failIntent =>
    cases hc
    have hl := (demand_loader.mp (hr.due (.load load .loader)
      (by simp [Pc.resources, Requester.resources]))).2
    exact .inr ⟨_, by simp [LoadOperation.result, h.unfinished load hl]; rfl, rfl⟩
  | failLoad =>
    cases hc
    have hl := (demand_loader.mp (hr.due (.load load .loader) (by simp [Pc.resources]))).2
    exact .inr ⟨_, by simp [LoadOperation.result, h.unfinished load hl]; rfl, rfl⟩
  | @publishLoad _ _ _ f =>
    cases hc
    exact .inr ⟨.ok f, by simp [LoadOperation.result], rfl⟩
  | _ => cases hc

lemma Move.load_failed {error : BufferError}
    (hm : Move opts pool pc pool' (.idle (.fetch page mode (.error error))))
    (hl : pc.loader = some (page, mode, load)) : pool'.pageTable.lookup page = none ∧
      ∀ f, pc.builtFrame = some f → (pool'.frames f).state = .free ∧ f ∈ pool'.freeList := by
  generalize hpc : (.idle (.fetch page mode (.error error)) : Pc N V) = pc' at hm
  cases hm with
  | quiet replacer hq =>
    cases hq with
    | @matchingEnd status caller => cases caller <;> cases status <;> cases hpc
    | @flushSettled page caller => cases caller <;> cases hpc
    | @unpinNone f assignment => cases assignment <;> cases hpc
    | _ => first | cases hl | cases hpc
  | failIntent =>
    cases hl
    exact ⟨by simp, fun f hf => by cases hf⟩
  | failLoad =>
    cases hl
    refine ⟨by simp, fun f hf => ?_⟩
    cases hf
    simp
  | @failWriteback _ _ _ _ caller => cases caller <;> cases hpc
  | @unpin f assignment => cases assignment <;> cases hpc
  | _ => cases hpc

lemma Move.load_published {f : Fin N} (h : pool.WellFormed limit) (hr : Ready pool pc)
    (hm : Move opts pool pc pool' (.makeGuard (.fetch page mode (.ok ())) f mode))
    (hl : pc.loader = some (page, mode, load)) :
    pc = .finishLoad page mode load f (.ok ()) .valid ∧
      pool'.pageTable.lookup page = some ⟨.resident, f, none⟩ ∧
      (pool'.frames f).state = .resident ∧ (pool'.frames f).page = (pool.frames f).page ∧
      (pool'.frames f).page.id = page ∧ (pool'.frames f).pinCount = (pool.loads load).claims := by
  generalize hpc : (.makeGuard (.fetch page mode (.ok ())) f mode : Pc N V) = pc' at hm
  cases hm with
  | quiet replacer hq =>
    cases hq with
    | @matchingEnd status caller => cases caller <;> cases status <;> cases hpc
    | @flushSettled page caller => cases caller <;> cases hpc
    | @unpinNone f assignment => cases assignment <;> cases hpc
    | _ => first | cases hl | cases hpc
  | publishLoad hlf he =>
    cases hpc
    cases hl
    obtain ⟨rfl, rfl, -⟩ := loadFailure_none hlf
    have hi := demand_loading.mp (hr.due (.entry page (.loading f (some load)))
      (by simp [Pc.resources]))
    obtain rfl := Option.some.inj (he.symm.trans hi)
    have hid := (h.bound_loading hi).1
    exact ⟨rfl, by simp, by simp, by simp, by simpa using hid, by simp⟩
  | pinHit => cases hl
  | @failWriteback _ _ _ _ caller => cases caller <;> cases hpc
  | @unpin f assignment => cases assignment <;> cases hpc
  | _ => cases hpc

lemma Move.claimed_of (hm : Move opts pool pc pool' pc')
    (hc : pc'.claimed = some (page, mode, load)) :
    pc.claimed = some (page, mode, load) ∨ load = pool.nextLoad ∨
      ∃ entry, pool.pageTable.lookup page = some entry ∧ entry.load = some load := by
  cases hm with
  | quiet replacer hq =>
    cases hq with
    | @matchingEnd status caller => cases caller <;> cases status <;> cases hc
    | @flushSettled page caller => cases caller <;> cases hc
    | @unpinNone f assignment => cases assignment <;> cases hc
    | joinPinned | joinFailed => cases hc
    | _ => exact .inl hc
  | reserveVictim _ hpc => rcases hpc with ⟨n, rfl⟩ | ⟨v, rfl⟩ <;> exact .inl hc
  | installIntent =>
    cases hc
    exact .inr (.inl rfl)
  | claimLoad _ he _ hl =>
    cases hc
    exact .inr (.inr ⟨_, he, hl⟩)
  | @failWriteback _ _ _ _ caller => cases caller <;> cases hc
  | @unpin f assignment => cases assignment <;> cases hc
  | _ => first | exact .inl hc | cases hc

lemma Move.nextLoad (hm : Move opts pool pc pool' pc') (hn : ¬ Missing pool pc) :
    pool.nextLoad ≤ pool'.nextLoad := by
  cases hm with
  | fault hm _ => exact absurd hm hn
  | installIntent => exact Nat.le_succ _
  | bindNew => split <;> exact le_rfl
  | _ => exact le_rfl

lemma Move.unread (hm : Move opts pool pc pool' pc') (hu : pc'.unread = some load) :
    pc.unread = some load ∨ load = pool.nextLoad ∧ pool'.nextLoad = pool.nextLoad + 1 := by
  cases hm with
  | quiet replacer hq =>
    cases hq with
    | @matchingEnd status caller => cases caller <;> cases status <;> cases hu
    | @flushSettled page caller => cases caller <;> cases hu
    | @unpinNone f assignment => cases assignment <;> cases hu
    | _ => exact .inl hu
  | reserveVictim _ hpc => rcases hpc with ⟨n, rfl⟩ | ⟨v, rfl⟩ <;> exact .inl hu
  | installIntent =>
    cases hu
    exact .inr ⟨rfl, rfl⟩
  | @failWriteback _ _ _ _ caller => cases caller <;> cases hu
  | @unpin f assignment => cases assignment <;> cases hu
  | _ => first | exact .inl hu | cases hu

end Moves

end DBlusBlus.BufferPool
