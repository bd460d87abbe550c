import DBlusBlus.BufferPool.AtRest

/-! A fetch or `NewPage` that fails leaves the pool as it was. -/

namespace DBlusBlus.BufferPool

open Accounting Transition

variable {N : ℕ} {T V : Type} {page : PageId} {file : FileId} {f g : Fin N}

def Call.requests : Call → Bool
  | .fetch _ _ | .newPage _ _ => true
  | _ => false

def Outcome.refused : Outcome → Bool
  | .fetch _ _ (.error _) | .newPage _ (.error _) => true
  | _ => false

/-- A fetch or `NewPage` that has no frame yet. -/
def Pc.claiming : Pc N V → Bool
  | .pinPage _ _ _ | .joinLoad _ _ _ | .newPageTurn _ _ | .acquireFrame _ _
  | .candidateObserved _ _ _ | .victimReserved _ _ _ | .requestFailed _ _
  | .writePage (.evict _ _ _) _ | .syncFile (.evict _ _ _) _ | .finishWrite (.evict _ _ _) _ => true
  | _ => false

/-- A fetch or `NewPage` that has no pinned frame yet. -/
def Pc.requesting : Pc N V → Bool
  | .frameAcquired _ _ | .readPage _ _ _ _ _ | .finishLoad _ _ _ _ _ _ | .newPageCount _ _ _ _
  | .newPageExtend _ _ _ | .newPageReserved _ _ _ _ | .newPageBuild _ _ _ _
  | .newPageFinish _ _ _ _ => true
  | pc => pc.claiming

def Pc.isMakeGuard : Pc N V → Bool
  | .makeGuard _ _ _ => true
  | _ => false

structure SameImage (frame frame' : BufferFrame) : Prop where
  page : frame'.page = frame.page
  dirty : frame'.dirty = frame.dirty
  modificationGeneration : frame'.modificationGeneration = frame.modificationGeneration
  bindingEpoch : frame'.bindingEpoch = frame.bindingEpoch
  latch : frame'.latch = frame.latch

lemma SameImage.refl (frame : BufferFrame) : SameImage frame frame := ⟨rfl, rfl, rfl, rfl, rfl⟩

lemma SameImage.trans {frame frame' frame'' : BufferFrame} (h : SameImage frame frame')
    (h' : SameImage frame' frame'') : SameImage frame frame'' :=
  ⟨h'.page.trans h.page, h'.dirty.trans h.dirty,
    h'.modificationGeneration.trans h.modificationGeneration,
    h'.bindingEpoch.trans h.bindingEpoch, h'.latch.trans h.latch⟩

structure FrameStays (frame frame' : BufferFrame) : Prop where
  inUse : frame'.InUse ↔ frame.InUse
  image : frame.InUse → SameImage frame frame'

lemma FrameStays.refl (frame : BufferFrame) : FrameStays frame frame :=
  ⟨Iff.rfl, fun _ => .refl _⟩

lemma FrameStays.kept {frame frame' : BufferFrame} (hu : frame.InUse) (hu' : frame'.InUse)
    (h : SameImage frame frame') : FrameStays frame frame' :=
  ⟨⟨fun _ => hu, fun _ => hu'⟩, fun _ => h⟩

lemma FrameStays.trans {frame frame' frame'' : BufferFrame} (h : FrameStays frame frame')
    (h' : FrameStays frame' frame'') : FrameStays frame frame'' :=
  ⟨h'.inUse.trans h.inUse, fun hu => (h.image hu).trans (h'.image (h.inUse.mpr hu))⟩

lemma FrameStays.unused {frame frame' : BufferFrame} (hu : ¬ frame.InUse) (hu' : ¬ frame'.InUse) :
    FrameStays frame frame' :=
  ⟨⟨fun h => absurd h hu', fun h => absurd h hu⟩, fun h => absurd h hu⟩

/-- The registration without the mark of a running `NewPage`. -/
def FileEntry.settled (entry : FileEntry) : FileEntry := { entry with newPageInProgress := false }

section Moves

variable {pool pool' : Pool N} {pc pc' : Pc N V} {limit : ℕ} {frame' : BufferFrame}

lemma startCall_claiming {call : Call} (h : call.requests = true) :
    (startCall call : Pc N V).claiming = true := by
  cases call <;> first | rfl | cases h

lemma Pc.requesting_of_claiming (h : pc.claiming = true) : pc.requesting = true := by
  cases pc <;> first | exact h | rfl

lemma FrameStep.requesting (h : FrameStep pool pc f frame' pc') (hr : pc.requesting = true) :
    FrameStays (pool.frames f) frame' ∨
      ((pool.frames f).InUse ∧ frame' = (pool.frames f).cleared ∧ pc.claiming = true ∧
        ∃ requester, pc' = .frameAcquired requester f) ∨ pc'.isMakeGuard = true := by
  have loading (hs : (pool.frames f).state = .loading) : ¬ (pool.frames f).InUse := by
    simp [BufferFrame.InUse, hs]
  cases h with
  | kept => exact .inl (.refl _)
  | pinned _ hs => exact .inl (.kept (.inl hs) (.inl hs) ⟨rfl, rfl, rfl, rfl, rfl⟩)
  | bound hs =>
    exact .inl (.unused (by simp [BufferFrame.InUse, hs]) (by simp [BufferFrame.InUse]))
  | discarded _ hs =>
    exact .inl (.unused (loading hs) (by simp [BufferFrame.InUse, BufferFrame.cleared]))
  | loaded | created => exact .inr (.inr rfl)
  | reserved _ he =>
    have hs := ((isVictimEligible_iff f).mp he).1
    exact .inl (.kept (.inl hs) (.inr rfl) ⟨rfl, rfl, rfl, rfl, rfl⟩)
  | evictionStarted _ hs => exact .inl (.kept (.inr hs) (.inr hs) ⟨rfl, rfl, rfl, rfl, rfl⟩)
  | restored _ hs => exact .inl (.kept (.inr hs) (.inl rfl) ⟨rfl, rfl, rfl, rfl, rfl⟩)
  | dropped hpc hs | evicted hpc hs =>
    subst hpc
    exact .inr (.inl ⟨.inr hs, rfl, rfl, _, rfl⟩)
  | unpinned hpc | retired hpc | writebackStarted hpc | writtenBack hpc | writebackFailed hpc =>
    subst hpc
    cases hr

lemma Pc.isMakeGuard_of_created (h : pc.created = some page) : pc.isMakeGuard = true := by
  cases pc
  case makeGuard => rfl
  all_goals cases h

lemma Pc.not_makeGuard_of_requesting (h : pc.requesting = true) : pc.isMakeGuard = false := by
  cases pc <;> first | rfl | cases h

variable [NeZero N] {opts : BufferPoolOptions}

lemma Move.claiming_from (hm : Move opts pool pc pool' pc') (hr : pc.requesting = true)
    (hc : pc'.claiming = true) : pc.claiming = true := by
  cases hm with
  | quiet replacer hq =>
    cases hq with
    | @matchingEnd status caller => cases hr
    | @flushSettled page caller => cases hr
    | @unpinNone f assignment => cases hr
    | _ => first | rfl | cases hc
  | reserveVictim _ hpc => rcases hpc with ⟨n, rfl⟩ | ⟨v, rfl⟩ <;> rfl
  | failWriteback | unpin => cases hr
  | _ => first | rfl | cases hc

lemma Move.requesting_files (h : pool.WellFormed limit) (hready : Ready pool pc)
    (hm : Move opts pool pc pool' pc') (hr : pc.requesting = true) :
    (pool'.files.lookup file).map FileEntry.settled =
      (pool.files.lookup file).map FileEntry.settled ∨ pc'.isMakeGuard = true := by
  have updated {other : FileId} {entry new : FileEntry}
      (he : pool.files.lookup other = some entry)
      (hp : pool'.files.lookup file = if file = other then some new else pool.files.lookup file)
      (hnew : new.settled = entry.settled) :
      (pool'.files.lookup file).map FileEntry.settled =
        (pool.files.lookup file).map FileEntry.settled := by
    rw [hp]
    split
    · rename_i ho
      rw [ho, he, Option.map_some, Option.map_some, hnew]
    · rfl
  cases hm with
  | fault hm _ => exact absurd hm (hready.not_missing h)
  | endTurn he | claimTurn _ he | returnFrame he | failNew he =>
    exact .inl (updated he (Table.lookup_insert ..) rfl)
  | bindNew => exact .inl (by split <;> rfl)
  | publishNew => exact .inr rfl
  | registerFile | beginRetire | closeFile => cases hr
  | _ => exact .inl rfl

end Moves

section Steps

variable [DecidableEq T] [DecidableEq V] [NeZero N] [Fintype T] [Fintype V]
  {opts : BufferPoolOptions} {w w' : World N T V} {t u : T} {choice : Choice T V}

lemma Act.requesting (ha : Act opts w t choice w') (hi : w.Inv opts)
    (hr : (w.pc t).requesting = true) :
    (∃ turn, choice = .run ∧ Move opts w.pool (w.pc t) turn.pool turn.pc ∧
      w' = w.finish opts t turn) ∨
      w'.guards = w.guards ∧ w'.pool.files = w.pool.files ∧
        (∀ f, FrameStays (w.pool.frames f) (w'.pool.frames f)) ∧
        ((w'.pc t).claiming = true → (w.pc t).claiming = true) := by
  have idle (hidle : (w.pc t).isIdle = true) : False := by
    obtain ⟨last, hpc⟩ := Pc.exists_idle hidle
    rw [hpc] at hr
    cases hr
  have filled {page : PageId} {g : Fin N} {frame : BufferFrame}
      (hfill : (w.pc t).filling = some (page, g)) (hs : frame.state = (w.pool.frames g).state)
      (f : Fin N) : FrameStays (w.pool.frames f) ((w.pool.setFrame g frame).frames f) := by
    have hl := (hi.filling_loading hfill).2
    by_cases hf : f = g
    · subst hf
      exact .unused (by simp [BufferFrame.InUse, hl]) (by simp [BufferFrame.InUse, hs, hl])
    · simpa [hf] using FrameStays.refl _
  cases ha with
  | critical hlock hcs hm => exact .inl ⟨_, rfl, hm, rfl⟩
  | grant hpc | latchForCopy hpc | copyImage hpc | takeFrom hpc | registerCount hpc
  | registerCountFailed hpc =>
    rw [hpc] at hr
    cases hr
  | call hi | mutate hi | markDirty hi | release hi | assign hi | move hi | noGuard hi =>
    exact (idle hi).elim
  | build hpc =>
    refine .inr ⟨rfl, rfl, filled (by rw [hpc]; rfl) rfl, fun hc => ?_⟩
    rw [World.setPc_pc] at hc
    cases hc
  | readPage hpc =>
    refine .inr ⟨rfl, rfl, filled (by rw [hpc]; rfl) rfl, fun hc => ?_⟩
    rw [World.setPc_pc] at hc
    cases hc
  | @written writer image torn hpc | @writeFailed writer image error torn hpc
  | @synced writer image hpc | @syncFailed writer image error hpc =>
    refine .inr ⟨rfl, rfl, fun _ => .refl _, fun _ => ?_⟩
    rw [hpc] at hr ⊢
    exact hr
  | wake => exact .inr ⟨rfl, rfl, fun _ => .refl _, id⟩
  | extended =>
    refine .inr ⟨rfl, rfl, fun _ => .refl _, fun hc => ?_⟩
    simp [World.setPc, Pc.claiming] at hc
  | _ =>
    refine .inr ⟨rfl, rfl, fun _ => .refl _, fun hc => ?_⟩
    rw [World.setPc_pc] at hc
    cases hc

namespace World.Inv

lemma requesting_frame (hi : w.Inv opts) (ha : Act opts w t choice w')
    (hr : (w.pc t).requesting = true) (hg : (w'.pc t).isMakeGuard = false) (f : Fin N) :
    FrameStays (w.pool.frames f) (w'.pool.frames f) ∨
      (w.pool.frames f).InUse ∧ w'.pool.frames f = (w.pool.frames f).cleared ∧
        (w.pc t).claiming = true ∧ ∃ requester, w'.pc t = .frameAcquired requester f := by
  rcases ha.requesting hi hr with ⟨turn, -, hm, rfl⟩ | ⟨-, -, hframes, -⟩
  · rw [World.finish_pc] at hg ⊢
    rcases (hm.frame hi.wellFormed (hi.ready t) f).requesting hr with hs | hs | hs
    · exact .inl hs
    · exact .inr hs
    · rw [hg] at hs
      cases hs
  · exact .inl (hframes f)

lemma requesting_files (hi : w.Inv opts) (ha : Act opts w t choice w')
    (hr : (w.pc t).requesting = true) (hg : (w'.pc t).isMakeGuard = false) (file : FileId) :
    (w'.pool.files.lookup file).map FileEntry.settled =
      (w.pool.files.lookup file).map FileEntry.settled := by
  rcases ha.requesting hi hr with ⟨turn, -, hm, rfl⟩ | ⟨-, hfiles, -⟩
  · rw [World.finish_pc] at hg
    rcases hm.requesting_files hi.wellFormed (hi.ready t) hr with hs | hs
    · exact hs
    · rw [hg] at hs
      cases hs
  · rw [hfiles]

lemma requesting_guards (hi : w.Inv opts) (ha : Act opts w t choice w')
    (hr : (w.pc t).requesting = true) : w'.guards = w.guards := by
  rcases ha.requesting hi hr with ⟨turn, -, -, rfl⟩ | ⟨hguards, -⟩
  · rfl
  · exact hguards

lemma requesting_claims (hi : w.Inv opts) (ha : Act opts w t choice w')
    (hr : (w.pc t).requesting = true) (hc : (w'.pc t).claiming = true) :
    (w.pc t).claiming = true := by
  rcases ha.requesting hi hr with ⟨turn, -, hm, rfl⟩ | ⟨-, -, -, hclaims⟩
  · rw [World.finish_pc] at hc
    exact hm.claiming_from hr hc
  · exact hclaims hc

end World.Inv

omit [DecidableEq T] [NeZero N] [Fintype T] [Fintype V] in
lemma requesting_left {left : PageId → PageBytes} (hg : (w'.pc t).isMakeGuard = false)
    (hc : ∀ op, choice ≠ .guard op) : History.recordLeft left w (t, choice) w' = left := by
  rcases record_left left w w' t choice with heq | ⟨op, -, -, -, hop, -⟩ |
    ⟨page, f, -, -, -, -, hcreated, -⟩
  · exact heq
  · exact absurd hop (hc op)
  · rw [Pc.isMakeGuard_of_created hcreated] at hg
    cases hg

/-- A request that has no pin yet, seen from the state before its call. -/
structure Requested (x₀ x : World N T V × History N) (t : T) (lost : Option (Fin N)) : Prop where
  others : ∀ u, u ≠ t → x.1.pc u = x₀.1.pc u
  guards : x.1.guards = x₀.1.guards
  files : ∀ file, (x.1.pool.files.lookup file).map FileEntry.settled =
    (x₀.1.pool.files.lookup file).map FileEntry.settled
  lossless : x.1.Lossless x₀.1.content
  synced : x.1.Synced x.2
  flushes : x.1.FlushRetirements
  claims : (x.1.pc t).claiming = true → lost = none
  image : ∀ f, FrameStays (x₀.1.pool.frames f) (x.1.pool.frames f) ∨
    lost = some f ∧ (x₀.1.pool.frames f).InUse ∧ ¬ (x.1.pool.frames f).InUse ∧
      ((x₀.1.pool.frames f).dirty = true → (x₀.1.pool.frames f).imageName f ∈ x.2.synced)

def Requesting (t : T) (x : World N T V × History N) (a : T × Choice T V) : Prop :=
  a.1 = t ∧ (x.1.pc t).requesting = true ∧ HonestRead x.1 a

instance (t : T) (x : World N T V × History N) (a : T × Choice T V) :
    Decidable (Requesting t x a) :=
  inferInstanceAs (Decidable (_ ∧ _))

omit [Fintype T] [Fintype V] in
lemma Act.requesting_choice (ha : Act opts w t choice w') (hr : (w.pc t).requesting = true) :
    (∀ op, choice ≠ .guard op) ∧ ∀ call, choice ≠ .call call := by
  have idle (hidle : (w.pc t).isIdle = true) : False := by
    obtain ⟨last, hpc⟩ := Pc.exists_idle hidle
    rw [hpc] at hr
    cases hr
  constructor
  · rintro op rfl
    cases ha <;> exact idle ‹_›
  · rintro call rfl
    cases ha
    exact idle ‹_›

/-- Runs in which no retirement closes a file under another one, writers mark their pages, and files
read back what was written. -/
def KeepsContent (x : World N T V × History N) (a : T × Choice T V) : Prop :=
  ClosesAlone x.1 a ∧ MarksDirty x a ∧ HonestRead x.1 a

instance (x : World N T V × History N) (a : T × Choice T V) : Decidable (KeepsContent x a) :=
  inferInstanceAs (Decidable (_ ∧ _))

variable {x₀ x x' : World N T V × History N} {lost : Option (Fin N)}

omit [DecidableEq T] [NeZero N] [Fintype T] [Fintype V] in
lemma keepsContent_of_choice {a : T × Choice T V} (hc : ∀ op, a.2 ≠ .guard op)
    (hpc : ∀ file, x.1.pc a.1 ≠ .retireReset file) (hh : HonestRead x.1 a) : KeepsContent x a := by
  refine ⟨?_, ?_, hh⟩
  · rw [ClosesAlone]
    split
    · exact absurd ‹_› (hpc _)
    · trivial
  · rw [MarksDirty]
    split
    · exact absurd ‹_› (hc _)
    · trivial

omit [Fintype T] [Fintype V] in
lemma Requesting.keepsContent {a : T × Choice T V} (h : Requesting t x a)
    (hs : (historySystem opts).step x a = some x') : KeepsContent x a := by
  obtain ⟨rfl, hr, hh⟩ := h
  have ha := step_act (track_step.mp hs).1
  refine keepsContent_of_choice (ha.requesting_choice hr).1 (fun file hpc => ?_) hh
  rw [hpc] at hr
  cases hr

lemma requested_start (h : Run (historySystem opts) KeepsContent x₀) (hq : x₀.1.AtRest)
    {call : Call} (hc : call.requests = true)
    (hs : (historySystem opts).step x₀ (t, .call call) = some x) :
    Run (historySystem opts) KeepsContent x ∧ Requested x₀ x t none := by
  have hi : x₀.1.Inv opts := inv_of_run (h.untrack fun _ _ h => h.1)
  have hkeeps : KeepsContent x₀ (t, (.call call : Choice T V)) := by
    refine keepsContent_of_choice (fun op h => by cases h) (fun file hpc => ?_) trivial
    obtain ⟨last, hidle⟩ := Pc.exists_idle (hq t)
    rw [hidle] at hpc
    cases hpc
  refine ⟨.next h hkeeps hs, ?_⟩
  obtain ⟨w₀, history₀⟩ := x₀
  obtain ⟨w, history⟩ := x
  obtain ⟨hstep, hrec⟩ := track_step.mp hs
  dsimp only at hi hq hstep hrec
  subst hrec
  have ha : Act opts w₀ t (.call call) w := step_act hstep
  have hflush : w₀.FlushRetirements := by
    refine ⟨fun u file hpc => ?_, fun u file hpc => ?_, fun u file hpc => ?_⟩ <;>
    · have hidle := hq u
      rw [hpc] at hidle
      cases hidle
  have hsynced : w₀.Synced history₀ := by
    intro u writer hpc
    have hidle := hq u
    rw [hpc] at hidle
    cases hidle
  have hdiscard : NoDiscard (t, (.call call : Choice T V)) := by
    cases call <;> trivial
  have hlossless : w₀.Lossless w₀.content := by
    refine ⟨fun f hu _ => ?_, fun page haway => ?_⟩
    · rw [hq.content_shown hi hu]
    · rw [hq.content_away hi haway]
  refine ⟨fun u hu => ha.others hu, ?_, ?_, ?_, hsynced.step hi ha, hflush.step hi hdiscard ha,
    fun _ => rfl, ?_⟩ <;> cases ha
  · rfl
  · exact fun _ => rfl
  · exact ⟨hlossless.shown, hlossless.away⟩
  · exact fun _ => .inl (.refl _)

namespace Requested

lemma image_step (h : Requested x₀ x t lost) (hi : x.1.Inv opts)
    (hst : x.1.Stable x.2) (ha : Act opts x.1 t choice w')
    (hr : (x.1.pc t).requesting = true) (hg : (w'.pc t).isMakeGuard = false) :
    ∃ lost' : Option (Fin N), ((w'.pc t).claiming = true → lost' = none) ∧
      ∀ f, FrameStays (x₀.1.pool.frames f) (w'.pool.frames f) ∨
        lost' = some f ∧ (x₀.1.pool.frames f).InUse ∧ ¬ (w'.pool.frames f).InUse ∧
          ((x₀.1.pool.frames f).dirty = true → (x₀.1.pool.frames f).imageName f ∈
            (x.2.record x.1 (t, choice) w').synced) := by
  have kept (hstays : ∀ f, FrameStays (x.1.pool.frames f) (w'.pool.frames f)) (f : Fin N) :
      FrameStays (x₀.1.pool.frames f) (w'.pool.frames f) ∨
        lost = some f ∧ (x₀.1.pool.frames f).InUse ∧ ¬ (w'.pool.frames f).InUse ∧
          ((x₀.1.pool.frames f).dirty = true → (x₀.1.pool.frames f).imageName f ∈
            (x.2.record x.1 (t, choice) w').synced) := by
    rcases h.image f with hold | ⟨hlost, hu, hn, hsynced⟩
    · exact .inl (hold.trans (hstays f))
    · exact .inr ⟨hlost, hu, fun hu' => hn ((hstays f).inUse.mp hu'),
        fun hd => synced_mono (hsynced hd)⟩
  by_cases hgives : ∃ f, ¬ FrameStays (x.1.pool.frames f) (w'.pool.frames f)
  · obtain ⟨f, hf⟩ := hgives
    obtain ⟨hu, hcleared, hclaims, requester, hpc⟩ :=
      (hi.requesting_frame ha hr hg f).resolve_left hf
    have hbusy : (w'.pc t).claiming = false := by rw [hpc]; rfl
    refine ⟨some f, fun hc => absurd (hbusy.symm.trans hc) (by simp), fun g => ?_⟩
    have hold : FrameStays (x₀.1.pool.frames g) (x.1.pool.frames g) := by
      refine (h.image g).resolve_right ?_
      rintro ⟨hlost, -⟩
      rw [h.claims hclaims] at hlost
      cases hlost
    rcases hi.requesting_frame ha hr hg g with hstays | ⟨-, -, -, requester', hpc'⟩
    · exact .inl (hold.trans hstays)
    · rw [hpc] at hpc'
      cases hpc'
      have himage := hold.image (hold.inUse.mp hu)
      refine .inr ⟨rfl, hold.inUse.mp hu, ?_, fun hd => ?_⟩
      · rw [hcleared]
        simp [BufferFrame.InUse, BufferFrame.cleared]
      · have hdirty : (x.1.pool.frames f).dirty = true := by rw [himage.dirty, hd]
        have hfree : (w'.pool.frames f).state = .free := by rw [hcleared]; rfl
        have hdurable := ha.cleaned hi hst h.synced h.flushes hdirty (.inr (.inl hfree))
        have hname : (x.1.pool.frames f).imageName f = (x₀.1.pool.frames f).imageName f := by
          rw [BufferFrame.imageName, himage.page, himage.bindingEpoch,
            himage.modificationGeneration, BufferFrame.imageName]
        exact synced_mono (hname ▸ hdurable.generation)
  · simp only [not_exists, not_not] at hgives
    exact ⟨lost, fun hc => h.claims (hi.requesting_claims ha hr hc), kept hgives⟩

lemma step (h : Requested x₀ x t lost) (hrun : Run (historySystem opts) KeepsContent x)
    (hs : BufferPool.step opts x.1 t choice = some w') (hr : (x.1.pc t).requesting = true)
    (hg : (w'.pc t).isMakeGuard = false) :
    ∃ lost', Requested x₀ (w', x.2.record x.1 (t, choice) w') t lost' := by
  have hi : x.1.Inv opts := inv_of_run (hrun.untrack fun _ _ h => h.1)
  have hst := stable_of_run (hrun.mono fun _ _ h => ⟨h.1, h.2.1⟩)
  have hd := onDisk_of_run (hrun.mono fun _ _ h => ⟨h.1, h.2.2⟩)
  have ha := step_act hs
  obtain ⟨hop, hcall⟩ := ha.requesting_choice hr
  obtain ⟨lost', hclaims, himage⟩ := h.image_step hi hst ha hr hg
  have hdiscard : NoDiscard (t, choice) := by
    rw [NoDiscard]
    split
    · exact absurd ‹_› (hcall _)
    · trivial
  have hlossless : w'.Lossless x₀.1.content := by
    have hkept := h.lossless.step hst hd h.flushes hi hs
    rwa [requesting_left hg hop] at hkept
  exact ⟨lost', {
    others u hu := (ha.others hu).trans (h.others u hu)
    guards := (hi.requesting_guards ha hr).trans h.guards
    files file := (hi.requesting_files ha hr hg file).trans (h.files file)
    lossless := hlossless
    synced := h.synced.step hi ha
    flushes := h.flushes.step hi hdiscard ha
    claims := hclaims
    image := himage }⟩

end Requested

variable {x₁ y : World N T V × History N}

lemma requested_of_path (h : Run (historySystem opts) KeepsContent x₁)
    (hx : Requested x₀ x₁ t lost) (hp : Path (historySystem opts) (Requesting t) x₁ x) :
    Run (historySystem opts) KeepsContent x ∧
      ((x.1.pc t).isMakeGuard = true ∨ ∃ lost, Requested x₀ x t lost) := by
  refine hp.invariant (I := fun x => Run (historySystem opts) KeepsContent x ∧
    ((x.1.pc t).isMakeGuard = true ∨ ∃ lost, Requested x₀ x t lost)) ⟨h, .inr ⟨_, hx⟩⟩ ?_
  rintro x ⟨u, choice⟩ ⟨w', history'⟩ ⟨hrun, hreq⟩ hok hs
  refine ⟨.next hrun (hok.keepsContent hs) hs, ?_⟩
  obtain ⟨rfl, hr, -⟩ := hok
  obtain ⟨lost, hreq⟩ := hreq.resolve_left (by simp [Pc.not_makeGuard_of_requesting hr])
  obtain ⟨hstep, hrec⟩ := track_step.mp hs
  dsimp only at hstep hrec
  subst hrec
  by_cases hg : (w'.pc u).isMakeGuard = true
  · exact .inl hg
  · exact .inr (hreq.step hrun hstep hr (by simpa using hg))

def Pc.givingUp : Pc N V → Bool
  | .finishWrite (.evict _ _ _) (.error _) | .requestFailed _ _ | .idle _ => true
  | _ => false

omit [DecidableEq T] [DecidableEq V] [Fintype T] [Fintype V] in
lemma Move.givingUp {pool pool' : Pool N} {pc pc' : Pc N V} (hm : Move opts pool pc pool' pc')
    (hg : pc.givingUp = true) : pc'.givingUp = true := by
  cases hm with
  | quiet replacer hq => cases hq <;> cases hg
  | reserveVictim _ hpc => rcases hpc with ⟨n, rfl⟩ | ⟨v, rfl⟩ <;> cases hg
  | _ => first | rfl | cases hg

lemma World.Inv.givingUp_step (hi : w.Inv opts) (ha : Act opts w t choice w')
    (hr : (w.pc t).requesting = true) (hg : (w.pc t).givingUp = true) :
    (w'.pc t).givingUp = true ∧ ∀ f, FrameStays (w.pool.frames f) (w'.pool.frames f) := by
  have hg' : (w'.pc t).givingUp = true := by
    cases ha with
    | critical hlock hcs hm =>
      rw [World.finish_pc]
      exact hm.givingUp hg
    | wake => exact hg
    | call hidle | mutate hidle | markDirty hidle | release hidle | assign hidle | move hidle
    | noGuard hidle =>
      obtain ⟨last, hpc⟩ := Pc.exists_idle hidle
      rw [hpc] at hr
      cases hr
    | grant hpc | latchForCopy hpc | copyImage hpc | buildNone hpc | build hpc | takeFrom hpc
    | registerCount hpc | registerCountFailed hpc | countFailed hpc | reusePage hpc
    | needExtension hpc | extended hpc | extendFailed hpc | readPage hpc | written hpc
    | writeFailed hpc | synced hpc | syncFailed hpc =>
      rw [hpc] at hg
      cases hg
  refine ⟨hg', fun f => ?_⟩
  have hguard : (w'.pc t).isMakeGuard = false := by
    cases hpc : w'.pc t <;> rw [hpc] at hg' <;> first | rfl | cases hg'
  refine (hi.requesting_frame ha hr hguard f).resolve_right ?_
  rintro ⟨-, -, -, requester, hpc⟩
  rw [hpc] at hg'
  cases hg'

lemma givingUp_kept (h : Run (historySystem opts) KeepsContent y) (hg : (y.1.pc t).givingUp = true)
    (hp : Path (historySystem opts) (Requesting t) y x) (f : Fin N) :
    FrameStays (y.1.pool.frames f) (x.1.pool.frames f) := by
  have hkept : Run (historySystem opts) KeepsContent x ∧ (x.1.pc t).givingUp = true ∧
      ∀ f, FrameStays (y.1.pool.frames f) (x.1.pool.frames f) := by
    refine hp.invariant (I := fun x => Run (historySystem opts) KeepsContent x ∧
      (x.1.pc t).givingUp = true ∧ ∀ f, FrameStays (y.1.pool.frames f) (x.1.pool.frames f))
      ⟨h, hg, fun _ => .refl _⟩ ?_
    rintro x ⟨u, choice⟩ x' ⟨hrun, hg, hframes⟩ hok hs
    refine ⟨.next hrun (hok.keepsContent hs) hs, ?_⟩
    obtain ⟨rfl, hr, -⟩ := hok
    have hi : x.1.Inv opts := inv_of_run (hrun.untrack fun _ _ h => h.1)
    obtain ⟨hg', hstays⟩ := hi.givingUp_step (step_act (track_step.mp hs).1) hr hg
    exact ⟨hg', fun f => (hframes f).trans (hstays f)⟩
  exact hkept.2.2 f

structure Undone (x₀ x : World N T V × History N) : Prop where
  content : ∀ page, SameContent (x.1.content page) (x₀.1.content page)
  pins : ∀ f, (x.1.pool.frames f).pinCount = (x₀.1.pool.frames f).pinCount
  files : ∀ file, x.1.pool.files.lookup file = x₀.1.pool.files.lookup file
  settled : ∀ file entry, x.1.pool.files.lookup file = some entry →
    entry.newPageInProgress = false
  mapped : ∀ page entry, x.1.pool.pageTable.lookup page = some entry →
    x₀.1.pool.pageTable.lookup page = some entry ∧
      x.1.pool.frames entry.frameId = x₀.1.pool.frames entry.frameId
  lost : ∀ page entry, x₀.1.pool.pageTable.lookup page = some entry →
    x.1.pool.pageTable.lookup page = none →
      (x₀.1.pool.frames entry.frameId).pinCount = 0 ∧
        ((x₀.1.pool.frames entry.frameId).dirty = true →
          (x₀.1.pool.frames entry.frameId).imageName entry.frameId ∈ x.2.synced)
  once : ∀ page page', page ∈ x₀.1.pool.pageTable → page ∉ x.1.pool.pageTable →
    page' ∈ x₀.1.pool.pageTable → page' ∉ x.1.pool.pageTable → page = page'
  listed : ∀ f, (x.1.pool.frames f).state = .free → f ∈ x.1.pool.freeList

lemma SameImage.eq {frame frame' : BufferFrame} (h : SameImage frame frame')
    (hs : frame'.state = frame.state) (hio : frame'.ioState = frame.ioState)
    (hp : frame'.pinCount = frame.pinCount) : frame' = frame := by
  obtain ⟨h₁, h₂, h₃, h₄, h₅⟩ := h
  cases frame
  cases frame'
  simp_all

namespace Requested

variable (h : Requested x₀ x t lost) (hi₀ : x₀.1.Inv opts) (hi : x.1.Inv opts)
  (hq₀ : x₀.1.AtRest) (hq : x.1.AtRest)

include h hi₀ hi hq₀ hq

lemma pinCount_eq (f : Fin N) :
    (x.1.pool.frames f).pinCount = (x₀.1.pool.frames f).pinCount := by
  rw [hq.pinCount hi, hq₀.pinCount hi₀, World.validGuards, World.validGuards, h.guards]

omit [DecidableEq T] [DecidableEq V] in
lemma file_eq (file : FileId) :
    x.1.pool.files.lookup file = x₀.1.pool.files.lookup file := by
  have hfiles := h.files file
  cases he : x.1.pool.files.lookup file with
  | none =>
    rw [he, Option.map_none] at hfiles
    exact (Option.map_eq_none_iff.mp hfiles.symm).symm
  | some entry =>
    rw [he, Option.map_some] at hfiles
    obtain ⟨entry₀, he₀, heq⟩ := Option.map_eq_some_iff.mp hfiles.symm
    have hn := hq.no_turn hi he
    have hn₀ := hq₀.no_turn hi₀ he₀
    rw [he₀]
    cases entry
    cases entry₀
    simp_all [FileEntry.settled]

lemma frame_eq (hu : (x₀.1.pool.frames f).InUse)
    (hs : FrameStays (x₀.1.pool.frames f) (x.1.pool.frames f)) :
    x.1.pool.frames f = x₀.1.pool.frames f := by
  have hr := hq.resident hi (hs.inUse.mpr hu)
  have hr₀ := hq₀.resident hi₀ hu
  exact (hs.image hu).eq (hr.trans hr₀.symm) ((hq.no_io hi hr).trans (hq₀.no_io hi₀ hr₀).symm)
    (h.pinCount_eq hi₀ hi hq₀ hq f)

lemma mapped {entry : PageTableEntry N} (he : x.1.pool.pageTable.lookup page = some entry) :
    x₀.1.pool.pageTable.lookup page = some entry ∧
      x.1.pool.frames entry.frameId = x₀.1.pool.frames entry.frameId := by
  obtain ⟨hentry, hid, hu⟩ := hq.mapped hi he
  have hstays := (h.image entry.frameId).resolve_right fun hlost => hlost.2.2.1 hu
  have heq := h.frame_eq hi₀ hi hq₀ hq (hstays.inUse.mp hu) hstays
  refine ⟨?_, heq⟩
  have hl := hq₀.lookup hi₀ (hstays.inUse.mp hu)
  rwa [← heq, hid, ← hentry] at hl

/-- A page that lost its mapping was in the frame that the request took. -/
lemma lost_frame {entry : PageTableEntry N}
    (he₀ : x₀.1.pool.pageTable.lookup page = some entry)
    (hn : x.1.pool.pageTable.lookup page = none) :
    lost = some entry.frameId ∧ (x₀.1.pool.frames entry.frameId).page.id = page ∧
      ¬ (x.1.pool.frames entry.frameId).InUse ∧
      ((x₀.1.pool.frames entry.frameId).dirty = true →
        (x₀.1.pool.frames entry.frameId).imageName entry.frameId ∈ x.2.synced) := by
  obtain ⟨-, hid, hu₀⟩ := hq₀.mapped hi₀ he₀
  rcases h.image entry.frameId with hstays | ⟨hlost, -, hu, hsynced⟩
  · have hl := hq.lookup hi (hstays.inUse.mpr hu₀)
    rw [h.frame_eq hi₀ hi hq₀ hq hu₀ hstays, hid, hn] at hl
    cases hl
  · exact ⟨hlost, hid, hu, hsynced⟩

lemma restored (hy : Run (historySystem opts) KeepsContent y) (hreq : Requested x₀ y t none)
    (hp : Path (historySystem opts) (Requesting t) y x) {requester : Requester}
    {victim : PageId} {error : BufferError}
    (hpc : y.1.pc t = .finishWrite (.evict requester f victim) (.error error)) :
    x.1.pool.pageTable.lookup victim = some ⟨.resident, f, none⟩ ∧
      x.1.pool.frames f = x₀.1.pool.frames f := by
  have hiy : y.1.Inv opts := inv_of_run (hy.untrack fun _ _ h => h.1)
  obtain ⟨hs, -, hid⟩ := demand_eviction.mp ((hiy.ready t).due (.frame f (.eviction victim))
    (by rw [hpc]; exact List.mem_cons_self ..))
  have hstays := givingUp_kept hy (by rw [hpc]; rfl) hp f
  have hold : FrameStays (x₀.1.pool.frames f) (y.1.pool.frames f) :=
    (hreq.image f).resolve_right fun hlost => by cases hlost.1
  have hu : (y.1.pool.frames f).InUse := .inr hs
  refine ⟨?_, h.frame_eq hi₀ hi hq₀ hq (hold.inUse.mp hu) (hold.trans hstays)⟩
  have hl := hq.lookup hi (hstays.inUse.mpr hu)
  rwa [(hstays.image hu).page, hid] at hl

lemma undone : Undone x₀ x where
  content page := by
    cases he : x.1.pool.pageTable.lookup page with
    | some entry =>
      obtain ⟨-, hid, hu⟩ := hq.mapped hi he
      obtain ⟨-, hframe⟩ := h.mapped hi₀ hi hq₀ hq he
      rw [← hid, hq.content_shown hi hu, hframe, hq₀.content_shown hi₀ (hframe ▸ hu)]
    | none =>
      have haway : x.1.pool.Away page := by
        rintro f hu rfl
        rw [hq.lookup hi hu] at he
        cases he
      rw [hq.content_away hi haway]
      exact h.lossless.away page haway
  pins := h.pinCount_eq hi₀ hi hq₀ hq
  files := h.file_eq hi₀ hi hq₀ hq
  settled file entry := hq.no_turn hi
  mapped page entry := h.mapped hi₀ hi hq₀ hq
  lost page entry he₀ hn := by
    obtain ⟨-, -, hu, hsynced⟩ := h.lost_frame hi₀ hi hq₀ hq he₀ hn
    refine ⟨?_, hsynced⟩
    rw [← h.pinCount_eq hi₀ hi hq₀ hq]
    by_contra hp
    exact hu (.inl (hi.wellFormed.resident_of_pinned (Nat.pos_of_ne_zero hp)))
  once page page' hm hn hm' hn' := by
    obtain ⟨entry, he⟩ := Table.mem_iff.mp hm
    obtain ⟨entry', he'⟩ := Table.mem_iff.mp hm'
    obtain ⟨hlost, hid, -⟩ := h.lost_frame hi₀ hi hq₀ hq he (AList.lookup_eq_none.mpr hn)
    obtain ⟨hlost', hid', -⟩ := h.lost_frame hi₀ hi hq₀ hq he' (AList.lookup_eq_none.mpr hn')
    rw [← hid, ← hid', Option.some.inj (hlost.symm.trans hlost')]
  listed f := hq.listed hi

end Requested

theorem failed_request_undone {call : Call} (h : Run (historySystem opts) KeepsContent x₀)
    (hq : x₀.1.AtRest) (hc : call.requests = true)
    (hs : (historySystem opts).step x₀ (t, .call call) = some x₁)
    (hp : Path (historySystem opts) (Requesting t) x₁ x)
    (hf : ∃ last, x.1.pc t = .idle last ∧ last.refused = true) :
    Undone x₀ x ∧ ∀ requester f victim error,
      Along (historySystem opts) (Requesting t) x₁ x (fun y =>
        y.1.pc t = .finishWrite (.evict requester f victim) (.error error)) →
      x.1.pool.pageTable.lookup victim = some ⟨.resident, f, none⟩ ∧
        x.1.pool.frames f = x₀.1.pool.frames f := by
  obtain ⟨last, hlast, -⟩ := hf
  obtain ⟨hrun₁, hstart⟩ := requested_start h hq hc hs
  obtain ⟨hrun, hreq⟩ := requested_of_path hrun₁ hstart hp
  obtain ⟨lost, hreq⟩ := hreq.resolve_left (by simp [hlast, Pc.isMakeGuard])
  have hi₀ : x₀.1.Inv opts := inv_of_run (h.untrack fun _ _ h => h.1)
  have hi : x.1.Inv opts := inv_of_run (hrun.untrack fun _ _ h => h.1)
  have hrest : x.1.AtRest := by
    intro u
    by_cases hu : u = t
    · rw [hu, hlast]
      rfl
    · rw [hreq.others u hu]
      exact hq u
  refine ⟨hreq.undone hi₀ hi hq hrest, ?_⟩
  rintro requester f victim error ⟨y, hpy, hpx, hpc⟩
  obtain ⟨hruny, hreqy⟩ := requested_of_path hrun₁ hstart hpy
  obtain ⟨losty, hreqy⟩ := hreqy.resolve_left (by simp [hpc, Pc.isMakeGuard])
  obtain rfl := hreqy.claims (by rw [hpc]; rfl)
  exact hreq.restored hi₀ hi hq hrest hruny hreqy hpx hpc

end Steps

section Sample

lemma sampleReleased_runs : (execute (historySystem sampleOptions) KeepsContent
    ((World.initial sampleDisk, .initial sampleDisk) : World 1 Bool Unit × History 1)
    (sampleRegister false 1 ++ sampleNewPage false 1 ++ sampleRelease false)).isSome := by
  decide +kernel

def sampleReleasedState : World 1 Bool Unit × History 1 := Option.get _ sampleReleased_runs

/-- A `NewPage` that cannot write its victim. -/
def sampleFailedEviction : List (Bool × Choice Bool Unit) :=
  [(false, .run), (false, .run), (false, .run),
    (false, .writePage (.error sampleReadError) PageBytes.zero), (false, .run), (false, .run)]

lemma sampleRequest_steps : ((historySystem sampleOptions).step sampleReleasedState
    (false, .call (.newPage sampleFile sampleInitializer))).isSome := by decide +kernel

def sampleRequestState : World 1 Bool Unit × History 1 := Option.get _ sampleRequest_steps

lemma sampleRefused_runs : (execute (historySystem sampleOptions) (Requesting false)
    sampleRequestState sampleFailedEviction).isSome := by decide +kernel

def sampleRefusedState : World 1 Bool Unit × History 1 := Option.get _ sampleRefused_runs

lemma sampleRefused_ends : ∃ last, sampleRefusedState.1.pc false = .idle last ∧
    last.refused = true := by
  have hf : (sampleRefusedState.1.pc false).outcome.map Outcome.refused = some true := by
    decide +kernel
  obtain ⟨last, hlast, hrefused⟩ := Option.map_eq_some_iff.mp hf
  exact ⟨last, Pc.outcome_some hlast, hrefused⟩

theorem failed_request_undone_eviction : Undone sampleReleasedState sampleRefusedState :=
  (failed_request_undone ((historyRun_initial sampleDisk).of_execute sampleReleased_runs)
    (fun t => by cases t <;> decide +kernel) rfl (Option.some_get sampleRequest_steps).symm
    (Path.of_execute sampleRefused_runs) sampleRefused_ends).1

/-- `true` retires the file under the call of `false` and registers it again. The call of `false`
then frees the frame that a fetch of `true` fills, and the failed fetch frees it once more. -/
def overlapFreed : List (Bool × Choice Bool Unit) :=
  sampleRegister true 1 ++ [(false, .call (.retireFile sampleFile .flushDirty)), (false, .run)] ++
    [(true, .call (.retireFile sampleFile .flushDirty)), (true, .run), (true, .run), (true, .run),
      (true, .run)] ++ sampleRegister true 2 ++ sampleNewPage true 2 ++ sampleRelease true ++
    [(false, .run), (false, .run), (false, .run), (true, .call (.fetch samplePage .shared)),
      (true, .run), (true, .run), (true, .run)] ++ sampleWriteback false ++
    [(false, .run), (false, .run), (false, .run), (false, .run),
      (true, .readPage (.error sampleReadError) PageBytes.zero), (true, .run)] ++
    sampleRegister true 2 ++ sampleNewPage true 2 ++ sampleRelease true ++
    sampleNewPage true 3 ++ sampleRelease true

lemma overlapFreed_runs : (execute (historySystem ⟨4, true⟩)
    (fun x a => MarksDirty x a ∧ HonestRead x.1 a)
    ((World.initial sampleDisk, .initial sampleDisk) : World 2 Bool Unit × History 2)
    overlapFreed).isSome := by decide +kernel

def overlapFreedState : World 2 Bool Unit × History 2 := Option.get _ overlapFreed_runs

lemma overlapRequest_steps : ((historySystem ⟨4, true⟩).step overlapFreedState
    (true, .call (.fetch samplePage .shared))).isSome := by decide +kernel

def overlapRequestState : World 2 Bool Unit × History 2 := Option.get _ overlapRequest_steps

lemma overlapRefused_runs : (execute (historySystem ⟨4, true⟩) (Requesting true)
    overlapRequestState [(true, .run), (true, .run), (true, .run),
      (true, .readPage (.error sampleReadError) PageBytes.zero), (true, .run)]).isSome := by
  decide +kernel

/-- The frame of the second page was on the free list, and has been filled and reset. -/
def overlapRefusedState : World 2 Bool Unit × History 2 := Option.get _ overlapRefused_runs

theorem failed_fetch_overwrites : ¬ ∀ (x₀ x₁ x : World 2 Bool Unit × History 2) (t : Bool)
    (call : Call), Run (historySystem ⟨4, true⟩) (fun x a => MarksDirty x a ∧ HonestRead x.1 a) x₀ →
      x₀.1.AtRest → call.requests = true →
      (historySystem ⟨4, true⟩).step x₀ (t, .call call) = some x₁ →
      Path (historySystem ⟨4, true⟩) (Requesting t) x₁ x →
      (∃ last, x.1.pc t = .idle last ∧ last.refused = true) → Undone x₀ x := by
  intro h
  have hf : (overlapRefusedState.1.pc true).outcome.map Outcome.refused = some true := by
    decide +kernel
  obtain ⟨last, hlast, hrefused⟩ := Option.map_eq_some_iff.mp hf
  have hundone := h overlapFreedState overlapRequestState overlapRefusedState true _
    ((historyRun_initial sampleDisk).of_execute overlapFreed_runs)
    (fun t => by cases t <;> decide +kernel) rfl (Option.some_get overlapRequest_steps).symm
    (Path.of_execute overlapRefused_runs) ⟨last, Pc.outcome_some hlast, hrefused⟩
  have hlost : overlapRefusedState.1.content ⟨sampleFile, 2⟩ ⟨24, by decide⟩ ≠
      overlapFreedState.1.content ⟨sampleFile, 2⟩ ⟨24, by decide⟩ := by decide +kernel
  exact hlost (hundone.content ⟨sampleFile, 2⟩ ⟨24, by decide⟩ (.inr (by decide)))

end Sample

end DBlusBlus.BufferPool
