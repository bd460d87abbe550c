import DBlusBlus.BufferPool.Ownership

/-! Several `RetireFile` calls on one file: how each of them ends. -/

namespace DBlusBlus.BufferPool

open Transition

variable {N : ℕ} {T V : Type}

/-- The file of the `RetireFile` call that a thread is in. -/
def Pc.retireCall : Pc N V → Option FileId
  | .retireFile file _ | .retireDrain file _ | .retireReset file => some file
  | pc => pc.loop.bind fun loop => loop.caller.lifecycle

def Pc.waitsFor : Pc N V → Option FileId
  | .retireDrain file _ => some file
  | _ => none

lemma Pc.waitsFor_iff {pc : Pc N V} {file : FileId} :
    pc.waitsFor = some file ↔ ∃ disposition, pc = .retireDrain file disposition := by
  cases pc <;> simp [Pc.waitsFor]

def Pc.outcome : Pc N V → Option Outcome
  | .idle outcome => some outcome
  | _ => none

def unknownFile (file : FileId) : BufferError :=
  makeError .fileOrPageNotFound .retireFile ⟨file, invalidPageNo⟩
    "FileId is not registered with this BufferPool"

def FlushError (operation : BufferOperation) (error : BufferError) : Prop :=
  error.code = .rawIoFailure ∧ error.operation = operation

inductive RetireStatus (pool pool' : Pool N) (file : FileId) : BufferStatus → Prop
  | closed : pool'.files.lookup file = none → RetireStatus pool pool' file (.ok ())
  | flushFailed {error} : FlushError .retireFile error → RetireStatus pool pool' file (.error error)
  | unknown : pool.files.lookup file = none →
    RetireStatus pool pool' file (.error (unknownFile file))

/-- A flush loop, or the writeback that it is in, reports only failed writes and syncs. -/
structure Pc.ReportsIo (pc : Pc N V) : Prop where
  loop : ∀ loop error, pc.loop = some loop → loop.firstFailure = .error error →
    FlushError loop.caller.operation error
  written : ∀ writer error, pc = .finishWrite writer (.error error) →
    FlushError writer.operation error

section Condition

variable [DecidableEq T]

/-- A `RetireFile` call removes a registration only when no other one waits for the drain. -/
def ClosesUndrained (w : World N T V) (a : T × Choice T V) : Prop :=
  match a.2, w.pc a.1 with
  | .run, .retireReset file => ∀ u, u ≠ a.1 → (w.pc u).waitsFor ≠ some file
  | _, _ => True

instance [Fintype T] (w : World N T V) (a : T × Choice T V) : Decidable (ClosesUndrained w a) :=
  decidable_of_bool
    (match a.2, w.pc a.1 with
    | .run, .retireReset file => decide (∀ u, u ≠ a.1 → (w.pc u).waitsFor ≠ some file)
    | _, _ => true)
    (by unfold ClosesUndrained; split <;> simp [*])

end Condition

variable [NeZero N] {opts : BufferPoolOptions} {pool pool' : Pool N} {pc pc' : Pc N V}
  {file : FileId}

omit [NeZero N] in
lemma lookup_setFile_none {other : FileId} {entry : FileEntry}
    (h : (pool.setFile other entry).files.lookup file = none) : pool.files.lookup file = none := by
  rw [Pool.setFile_files, Table.lookup_insert] at h
  split at h
  · cases h
  · exact h

lemma Move.unregister (hm : Move opts pool pc pool' pc') (hn : pool'.files.lookup file = none) :
    pool.files.lookup file = none ∨ pc = .retireReset file := by
  cases hm with
  | fault _ hf => exact .inl (hf file hn)
  | @closeFile other =>
    by_cases ho : file = other
    · exact .inr (by rw [ho])
    · exact .inl (by simpa [ho] using hn)
  | bindNew =>
    left
    split at hn <;> exact hn
  | registerFile | beginRetire | endTurn | claimTurn | returnFrame | failNew | publishNew =>
    exact .inl (lookup_setFile_none hn)
  | _ => exact .inl hn

omit [NeZero N] in
lemma Pc.ReportsIo.of_quiet {pc : Pc N V} (hl : pc.loop = none)
    (hw : ∀ writer status, pc ≠ .finishWrite writer status) : pc.ReportsIo := by
  refine ⟨fun loop error hs => ?_, fun writer error hs => absurd hs (hw _ _)⟩
  rw [hl] at hs
  cases hs

omit [NeZero N] in
lemma flushReturnPc_reportsIo {page : PageId} {status : BufferStatus} {caller : FlushCaller}
    (h : (Pc.flushPage page caller : Pc N V).ReportsIo)
    (hs : ∀ error, status = .error error → FlushError caller.operation error) :
    (flushReturnPc page status caller : Pc N V).ReportsIo := by
  refine ⟨fun loop error hl hf => ?_, fun writer error hw => ?_⟩
  · cases caller with
    | flushPage => cases hl
    | matching rest firstFailure caller =>
      obtain rfl := Option.some.inj hl
      cases firstFailure with
      | ok => exact hs error hf
      | error first => exact h.loop ⟨page :: rest, .error first, caller⟩ error rfl hf
  · cases caller <;> cases hw

lemma Move.reportsIo (hm : Move opts pool pc pool' pc') (h : pc.ReportsIo) : pc'.ReportsIo := by
  have started (caller : MatchingCaller) (rest : List PageId) :
      (Pc.flushMatching rest (.ok ()) caller : Pc N V).ReportsIo := by
    refine ⟨fun loop error hl hf => ?_, fun writer error hw => by cases hw⟩
    obtain rfl := Option.some.inj hl
    cases hf
  cases hm with
  | quiet replacer hq =>
    cases hq with
    | drainFlush | flushFile | flushAll | shutdownFlush => exact started _ _
    | matchingEnd =>
      refine .of_quiet (matchingEndPc_loop _ _) ?_
      rename_i status caller
      intro writer status'
      cases caller <;> cases status <;> simp [matchingEndPc]
    | matchingNext => exact ⟨h.loop, fun _ _ hw => by cases hw⟩
    | flushWait => exact h
    | flushSettled => exact flushReturnPc_reportsIo h (by simp)
    | @unpinNone f assignment =>
      cases assignment <;> exact .of_quiet rfl (by simp [unpinPc])
    | _ => exact .of_quiet rfl (by simp)
  | @startWriteback page caller =>
    refine ⟨fun loop error hl hf => ?_, fun _ _ hw => by cases hw⟩
    cases caller with
    | flushPage => cases hl
    | matching rest firstFailure caller =>
      obtain rfl := Option.some.inj hl
      exact h.loop ⟨page :: rest, firstFailure, caller⟩ error rfl hf
  | finishWriteback => exact ⟨h.loop, fun _ _ hw => by cases hw⟩
  | @failWriteback f page bindingEpoch copiedGeneration caller error =>
    refine flushReturnPc_reportsIo ⟨h.loop, fun _ _ hw => by cases hw⟩ fun error he => ?_
    exact h.written _ _ (by rw [Except.error.inj he])
  | @unpin f assignment =>
    cases assignment <;> exact .of_quiet rfl (by simp [unpinPc])
  | _ => exact .of_quiet rfl (by simp)

omit [NeZero N] in
lemma flushReturnPc_retireCall {page : PageId} {status : BufferStatus} {caller : FlushCaller} :
    (flushReturnPc page status caller : Pc N V).retireCall =
      (Pc.flushPage page caller : Pc N V).retireCall := by
  cases caller <;> rfl

lemma Move.retireCall (hm : Move opts pool pc pool' pc') (hr : pc.ReportsIo)
    (hd : ∀ disposition, pc = .retireDrain file disposition → pool.files.lookup file ≠ none)
    (hc : pc.retireCall = some file) : pc'.retireCall = some file ∨
      ∃ status, pc' = .idle (.retireFile file status) ∧ RetireStatus pool pool' file status := by
  cases hm with
  | @fault _ _ _ hmiss =>
    revert hmiss hc hd
    cases pc with
    | retireDrain other disposition =>
      intro hd hc hmiss
      obtain rfl := Option.some.inj hc
      exact absurd hmiss (hd disposition rfl)
    | finishWrite writer written =>
      intro hd hc hmiss
      cases writer <;> first | exact hmiss.elim | cases hc
    | _ =>
      intro hd hc hmiss
      first | exact hmiss.elim | cases hc
  | quiet replacer hq =>
    cases hq with
    | retireUnknown hn =>
      obtain rfl := Option.some.inj hc
      exact .inr ⟨_, rfl, .unknown hn⟩
    | @matchingEnd status caller =>
      cases caller with
      | retireFile other =>
        obtain rfl := Option.some.inj hc
        cases status with
        | ok => exact .inl rfl
        | error error =>
          exact .inr ⟨_, rfl, .flushFailed (hr.loop ⟨[], .error error, _⟩ error rfl rfl)⟩
      | _ => cases hc
    | flushSettled => exact .inl (flushReturnPc_retireCall.trans hc)
    | _ => first | exact .inl hc | cases hc
  | closeFile =>
    obtain rfl := Option.some.inj hc
    exact .inr ⟨_, rfl, .closed (by simp)⟩
  | @startWriteback page caller => cases caller <;> exact .inl hc
  | failWriteback => exact .inl (flushReturnPc_retireCall.trans hc)
  | reserveVictim _ hpc => rcases hpc with ⟨n, rfl⟩ | ⟨v, rfl⟩ <;> cases hc
  | _ => first | exact .inl hc | cases hc

lemma Move.leaves_drain {disposition : RetireDisposition} {entry : FileEntry} {turn : Turn N V}
    (hcs : criticalSection opts pool (.retireDrain file disposition) = some turn)
    (he : pool.files.lookup file = some entry) (hd : fileDrained pool file entry = true) :
    turn.pc ≠ .retireDrain file disposition := by
  simp only [criticalSection, BufferPool.retireDrain, he, hd, if_true, Option.some.injEq] at hcs
  subst hcs
  cases disposition <;> simp [startMatching]

variable [DecidableEq T] [DecidableEq V] {w w' : World N T V} {t : T} {choice : Choice T V}

structure World.RetireOk (w : World N T V) : Prop where
  registered : ∀ t file disposition, w.pc t = .retireDrain file disposition →
    w.pool.files.lookup file ≠ none
  reports : ∀ t, (w.pc t).ReportsIo

omit [NeZero N] [DecidableEq V] in
lemma startCall_reportsIo (call : Call) : (startCall call : Pc N V).ReportsIo := by
  refine .of_quiet (startCall_loop call) fun writer status hw => ?_
  cases call with
  | registerFile file validator =>
    rw [startCall] at hw
    split at hw <;> cases hw
  | _ => cases hw

lemma Act.reportsIo (ha : Act opts w t choice w') (h : (w.pc t).ReportsIo) :
    (w'.pc t).ReportsIo := by
  cases ha with
  | critical hlock hcs hm =>
    rw [World.finish_pc]
    exact hm.reportsIo h
  | call =>
    rw [World.setPc_pc]
    exact startCall_reportsIo _
  | latchForCopy hpc | copyImage hpc =>
    rw [World.setPc_pc]
    exact ⟨fun loop error hl => h.loop loop error (hpc ▸ hl), fun _ _ hw => by cases hw⟩
  | written hpc | synced hpc =>
    exact ⟨fun loop error hl => h.loop loop error (by simpa [hpc, Pc.loop] using hl),
      fun _ _ hw => by simp at hw⟩
  | writeFailed hpc | syncFailed hpc =>
    refine ⟨fun loop error hl => h.loop loop error (by simpa [hpc, Pc.loop] using hl),
      fun _ _ hw => ?_⟩
    simp only [World.setPc_pc, Pc.finishWrite.injEq, Except.error.injEq] at hw
    obtain ⟨rfl, rfl⟩ := hw
    exact ⟨rfl, rfl⟩
  | mutate | markDirty | move | noGuard | wake => exact h
  | _ => exact .of_quiet (by simp [Pc.loop]) (by simp)

omit [NeZero N] [DecidableEq T] [DecidableEq V] in
lemma startCall_retireDrain (call : Call) (disposition : RetireDisposition) :
    (startCall call : Pc N V) ≠ .retireDrain file disposition := by
  cases call with
  | registerFile other validator =>
    rw [startCall]
    split <;> simp
  | _ => simp [startCall]

lemma Act.registered (hok : ClosesUndrained w (t, choice)) (ha : Act opts w t choice w') {u : T}
    {disposition : RetireDisposition} (hu : w'.pc u = .retireDrain file disposition)
    (h : ∀ disposition, w.pc u = .retireDrain file disposition →
      w.pool.files.lookup file ≠ none) : w'.pool.files.lookup file ≠ none := by
  by_cases hut : u = t
  · subst hut
    cases ha with
    | critical hlock hcs hm =>
      rw [World.finish_pc] at hu
      rw [hu] at hm
      rcases hm.retireDrain with ⟨entry, he, -⟩ | ⟨hpc, hf⟩
      · simp [World.finish, he]
      · have := h disposition hpc
        simpa [World.finish, hf] using this
    | call => exact absurd (by simpa using hu) (startCall_retireDrain _ _)
    | mutate | markDirty | move | noGuard | wake => exact h disposition hu
    | _ => simp at hu
  · rw [ha.others hut] at hu
    cases ha with
    | critical hlock hcs hm =>
      intro hn
      rcases hm.unregister hn with hn | hpc
      · exact h disposition hu hn
      · simp only [ClosesUndrained, hpc] at hok
        exact hok u hut (Pc.waitsFor_iff.mpr ⟨disposition, hu⟩)
    | _ => exact h disposition hu

lemma World.RetireOk.step (h : w.RetireOk) (hok : ClosesUndrained w (t, choice))
    (hs : BufferPool.step opts w t choice = some w') : w'.RetireOk := by
  have ha := step_act hs
  refine ⟨fun u file disposition hu => ?_, fun u => ?_⟩
  · exact ha.registered hok hu fun disposition => h.registered u file disposition
  · by_cases hut : u = t
    · subst hut
      exact ha.reportsIo (h.reports u)
    · rw [ha.others hut]
      exact h.reports u

lemma retireOk_of_run (h : Run (poolSystem opts) ClosesUndrained w) : w.RetireOk := by
  refine h.invariant ?_ fun s a s' hi hok hs => hi.step hok hs
  rintro s ⟨disk, rfl⟩
  refine ⟨fun t file disposition hd => ?_, fun t => ⟨fun loop error hl => ?_, fun _ _ hw => ?_⟩⟩
  · cases hd
  · cases hl
  · cases hw

lemma Act.retireCall (ha : Act opts w t choice w') (h : w.RetireOk)
    (hc : (w.pc t).retireCall = some file) : (w'.pc t).retireCall = some file ∨
      ∃ status, w'.pc t = .idle (.retireFile file status) ∧
        RetireStatus w.pool w'.pool file status := by
  have idle (hi : (w.pc t).isIdle = true) : False := by
    obtain ⟨last, hpc⟩ := Pc.exists_idle hi
    rw [hpc] at hc
    cases hc
  cases ha with
  | critical hlock hcs hm =>
    rw [World.finish_pc]
    exact hm.retireCall (h.reports t) (fun disposition => h.registered t file disposition) hc
  | latchForCopy hpc | copyImage hpc | written hpc | synced hpc | writeFailed hpc
  | syncFailed hpc =>
    left
    simpa [hpc, Pc.retireCall, Pc.loop, Writer.loop] using hc
  | wake => exact .inl hc
  | call hi | mutate hi | markDirty hi | release hi | assign hi | move hi | noGuard hi =>
    exact (idle hi).elim
  | grant hpc | buildNone hpc | build hpc | takeFrom hpc | registerCount hpc
  | registerCountFailed hpc | countFailed hpc | reusePage hpc | needExtension hpc | extended hpc
  | extendFailed hpc | readPage hpc =>
    rw [hpc] at hc
    cases hc

/-- Every `RetireFile` call finds the registration it drains, leaves the drain once the file is
drained, and returns one of its statuses. -/
structure World.Retires (opts : BufferPoolOptions) (w : World N T V) : Prop where
  registered : ∀ t file disposition, w.pc t = .retireDrain file disposition →
    ∃ entry, w.pool.files.lookup file = some entry
  leaves : ∀ t file disposition entry w', w.pc t = .retireDrain file disposition →
    w.pool.files.lookup file = some entry → fileDrained w.pool file entry = true →
    step opts w t .run = some w' → w'.pc t ≠ .retireDrain file disposition
  ends : ∀ t choice w' file, step opts w t choice = some w' →
    (w.pc t).retireCall = some file → (w'.pc t).retireCall = some file ∨
      ∃ status, w'.pc t = .idle (.retireFile file status) ∧
        RetireStatus w.pool w'.pool file status

section Overlap

/-- Two calls that wait for a guard which one of them keeps. -/
def bothDrain : List (Bool × Choice Bool Unit) :=
  sampleRegister true 1 ++ sampleNewPage true 1 ++
    [(true, .guard (.moveConstruct (some ()) none)),
      (false, .call (.retireFile sampleFile .flushDirty)), (false, .run), (false, .run),
      (true, .call (.retireFile sampleFile .discardDirty)), (true, .run), (true, .run)]

lemma bothDrain_runs : (execute (poolSystem sampleOptions) ClosesUndrained
    (World.initial sampleDisk : World 1 Bool Unit) bothDrain).isSome := by decide +kernel

def bothDrainWorld : World 1 Bool Unit := Option.get _ bothDrain_runs

lemma bothDrainWorld_run : Run (poolSystem sampleOptions) ClosesUndrained bothDrainWorld :=
  (run_initial sampleDisk).of_execute bothDrain_runs

/-- `false` waits for a guard of `true`, which then retires the file itself. -/
def overlapRetire : List (Bool × Choice Bool Unit) :=
  sampleRegister true 1 ++ sampleNewPage true 1 ++
    [(false, .call (.retireFile sampleFile .flushDirty)), (false, .run), (false, .run)] ++
    sampleRelease true ++
    [(true, .call (.retireFile sampleFile .discardDirty)), (true, .run), (true, .run), (true, .run),
      (true, .run)]

lemma overlapRetire_runs : (execute (poolSystem sampleOptions) (fun _ _ => True)
    (World.initial sampleDisk : World 1 Bool Unit) overlapRetire).isSome := by decide +kernel

def overlapWorld : World 1 Bool Unit := Option.get _ overlapRetire_runs

lemma overlapWorld_run : Run (poolSystem sampleOptions) (fun _ _ => True) overlapWorld :=
  (run_initial sampleDisk).of_execute overlapRetire_runs

end Overlap

end DBlusBlus.BufferPool
