import DBlusBlus.BufferPool.Invariant

/-! The validators and the initializers that the pool runs are those that its callers gave it. -/

namespace DBlusBlus.BufferPool

open Transition

variable {N : ℕ} {T V : Type} (P : FileId → PageValidator → Prop)
  (I : FileId → PageInitializer → Prop)

def Requester.Supplied : Requester → Prop
  | .fetch _ _ _ => True
  | .newPage file init => I file init

def Writer.Supplied : Writer N → Prop
  | .evict requester _ _ => requester.Supplied I
  | .flush _ _ _ _ _ => True

def Pc.Supplied : Pc N V → Prop
  | .registerPageCount file validator | .registerFile file validator _ => P file validator
  | .readPage page _ _ _ validator => P page.fileId validator
  | .newPageTurn file init | .newPageCount file init _ _ | .newPageExtend file init _
  | .newPageReserved file init _ _ => I file init
  | .newPageBuild page init _ _ => I page.fileId init
  | .acquireFrame requester _ | .candidateObserved requester _ _ | .victimReserved requester _ _
  | .frameAcquired requester _ | .requestFailed requester _ => requester.Supplied I
  | .writePage writer _ | .syncFile writer _ | .finishWrite writer _ => writer.Supplied I
  | _ => True

structure World.Supplied (w : World N T V) : Prop where
  registered : ∀ file entry, w.pool.files.lookup file = some entry → P file entry.validator
  thread : ∀ t, (w.pc t).Supplied P I

/-- What a call hands to the pool has the properties. -/
def Supplies (a : T × Choice T V) : Prop :=
  match a.2 with
  | .call (.registerFile file validator) => P file validator
  | .call (.newPage file init) => I file init
  | _ => True

variable {P I}

lemma Pc.supplied_of_idle {pc : Pc N V} (h : pc.isIdle = true) : pc.Supplied P I := by
  obtain ⟨last, rfl⟩ := Pc.exists_idle h
  trivial

variable [NeZero N] {opts : BufferPoolOptions}

section Moves

variable {pool pool' : Pool N} {pc pc' : Pc N V}

lemma Move.supplied (hm : Move opts pool pc pool' pc')
    (hf : ∀ file entry, pool.files.lookup file = some entry → P file entry.validator)
    (h : pc.Supplied P I) : pc'.Supplied P I := by
  cases hm with
  | quiet replacer hq =>
    cases hq with
    | @matchingEnd status caller => cases caller <;> cases status <;> trivial
    | @flushSettled page caller => cases caller <;> trivial
    | @unpinNone f assignment => cases assignment <;> trivial
    | noFrame | candidateFound | candidateLost | newPageCount | turnWait => exact h
    | _ => trivial
  | reserveVictim replacer hpc =>
    rcases hpc with ⟨n, rfl⟩ | ⟨v, rfl⟩
    · exact h
    · exact h
  | bindLoad _ he => exact hf _ _ he
  | claimFrame | startEviction | dropClean | finishEviction | restoreVictim | claimTurn
  | bindNew => exact h
  | @failWriteback _ _ _ _ caller => cases caller <;> trivial
  | @unpin f assignment => cases assignment <;> trivial
  | _ => trivial

lemma Move.registered (hm : Move opts pool pc pool' pc') (hn : ¬ Missing pool pc)
    (hf : ∀ file entry, pool.files.lookup file = some entry → P file entry.validator)
    (h : pc.Supplied P I) {file : FileId} {entry : FileEntry}
    (he : pool'.files.lookup file = some entry) : P file entry.validator := by
  rcases hm.file hn file with heq | ⟨validator, count, rfl, -, -, hnew⟩ | ⟨-, -, -, hnone⟩ |
    ⟨known, new, hk, hnew, hu⟩
  · exact hf file entry (heq ▸ he)
  · obtain rfl := Option.some.inj (hnew.symm.trans he)
    exact h
  · rw [hnone] at he
    cases he
  · obtain rfl := Option.some.inj (hnew.symm.trans he)
    rw [hu.validator]
    exact hf file known hk

end Moves

section Runs

variable [DecidableEq T] [DecidableEq V] {w w' : World N T V} {t : T} {choice : Choice T V}

omit [NeZero N] [DecidableEq T] [DecidableEq V] in
lemma startCall_supplied {call : Call} (h : Supplies P I (t, (.call call : Choice T V))) :
    (startCall call : Pc N V).Supplied P I := by
  cases call with
  | registerFile file validator =>
    rw [startCall]
    split
    · trivial
    · exact h
  | newPage file init => exact h
  | _ => trivial

lemma Act.supplied (ha : Act opts w t choice w') (h : w.Supplied P I)
    (ho : Supplies P I (t, choice)) : (w'.pc t).Supplied P I := by
  have hthread := h.thread t
  cases ha with
  | critical hlock hcs hm =>
    rw [World.finish_pc]
    exact hm.supplied h.registered hthread
  | call =>
    rw [World.setPc_pc]
    exact startCall_supplied ho
  | registerCount hpc | countFailed hpc | reusePage hpc | needExtension hpc | extendFailed hpc
  | extended hpc | written hpc | writeFailed hpc | synced hpc | syncFailed hpc =>
    rw [hpc] at hthread
    simpa [World.setPc, Pc.Supplied] using hthread
  | release | assign =>
    rw [releaseGuard_pc]
    trivial
  | mutate hidle | markDirty hidle | move hidle | noGuard hidle => exact Pc.supplied_of_idle hidle
  | wake => exact hthread
  | _ =>
    rw [World.setPc_pc]
    trivial

variable [Fintype T] [Fintype V]

theorem supplied_of_run
    (h : Run (poolSystem opts) (fun w a => ClosesAlone w a ∧ Supplies P I a) w) :
    w.Supplied P I := by
  refine h.invariant_of_run (I := fun w => w.Supplied P I) ?_ ?_
  · rintro w ⟨disk, rfl⟩
    exact ⟨fun file entry he => (by cases he), fun t => trivial⟩
  · rintro w ⟨t, choice⟩ w' hrun hw ⟨-, ho⟩ hs
    have hi : w.Inv opts := inv_of_run (hrun.mono fun _ _ h => h.1)
    have ha := step_act hs
    refine ⟨fun file entry he => ?_, fun u => ?_⟩
    · rcases ha.critical_or_light hi.accounted with ⟨turn, -, -, -, hm, rfl⟩ | hl
      · exact hm.registered ((hi.ready t).not_missing hi.wellFormed) hw.registered (hw.thread t) he
      · exact hw.registered file entry (hl.touch.files ▸ he)
    · by_cases hu : u = t
      · subst hu
        exact ha.supplied hw ho
      · rw [ha.others hu]
        exact hw.thread u

end Runs

end DBlusBlus.BufferPool
