import DBlusBlus.BufferPool.Lossless
import DBlusBlus.BufferPool.Supplied

/-! Pages of one kind, which are only changed by the operations of the kind, through the guards of
the pool. What the operations keep holds of every page that a guard shows, however often the page
was written, evicted and read again. -/

namespace DBlusBlus.BufferPool

open Accounting Transition

/-- The files that hold pages of a kind, the validator they are registered with, the initializers
and the operations of the pages. `Holds` relates the bytes of a page to a record of its past, which
the checksum field has no part in. -/
structure PageKind (Init Op Log : Type) where
  files : FileId → Bool
  validator : FileId → PageValidator
  build : Init → Page → Bool × PageBytes
  perform : PageId → Op → PageBytes → PageBytes
  note : PageId → Op → PageBytes → Log → Log
  start : Log
  Holds : PageId → PageBytes → Log → Prop
  holds_same : ∀ {page bytes bytes' log}, SameContent bytes' bytes → Holds page bytes log →
    Holds page bytes' log
  accepts_same : ∀ {page bytes bytes'}, SameContent bytes' bytes →
    validator page.fileId ⟨page, bytes⟩ = .valid → validator page.fileId ⟨page, bytes'⟩ = .valid
  built : ∀ {init} {page : Page}, files page.id.fileId = true → (build init page).1 = true →
    Holds page.id (build init page).2 start
  performed : ∀ {page op bytes log}, files page.fileId = true → Holds page bytes log →
    Holds page (perform page op bytes) (note page op bytes log)

inductive PageAction (T V Op : Type)
  | pool (t : T) (choice : Choice T V)
  -- One operation on the page behind a write guard.
  | perform (t : T) (v : GuardVar V) (op : Op)

variable {N : ℕ} {T V Init Op Log : Type} (kind : PageKind Init Op Log)

namespace PageKind

def performedBytes (w : World N T V) (t : T) (v : GuardVar V) (op : Op) : PageBytes :=
  match w.guards t v with
  | some g =>
    let page := (w.pool.frames g.frameId).page
    kind.perform page.id op page.bytes
  | none => PageBytes.zero

/-- What the pool sees of an action. -/
def lower (w : World N T V) : PageAction T V Op → T × Choice T V
  | .pool t choice => (t, choice)
  | .perform t v op => (t, .guard (.mutate v (kind.performedBytes w t v op)))

def record (log : PageId → Log) (w : World N T V) (a : PageAction T V Op) (w' : World N T V) :
    PageId → Log :=
  match a with
  | .perform t v op =>
    match w.guards t v with
    | some g =>
      let page := (w.pool.frames g.frameId).page
      Function.update log page.id (kind.note page.id op page.bytes (log page.id))
    | none => log
  | .pool t choice =>
    match choice, w.pc t with
    | .run, .newPageFinish page _ _ _ =>
      if (w'.pc t).created = some page then Function.update log page kind.start else log
    | _, _ => log

/-- The pages that the files hold at first, as far as the validator accepts them. -/
def Starts (disk : Disk) (log : PageId → Log) : Prop :=
  ∀ page, kind.files page.fileId = true →
    kind.validator page.fileId ⟨page, disk.bytes page⟩ = .valid →
    kind.Holds page (disk.bytes page) (log page)

def Registers (file : FileId) (validator : PageValidator) : Prop :=
  kind.files file = true → validator = kind.validator file

def Creates (file : FileId) (init : PageInitializer) : Prop :=
  kind.files file = true → ∃ i, init = some (kind.build i)

/-- Files of the kind are registered with its validator, and their pages built by its
initializers. -/
def Supplied : PageAction T V Op → Prop
  | .pool _ (.call (.registerFile file validator)) => kind.Registers file validator
  | .pool _ (.call (.newPage file init)) => kind.Creates file init
  | _ => True

/-- Pages of the kind are changed by its operations only. -/
def Through (w : World N T V) : PageAction T V Op → Prop
  | .pool t (.guard (.mutate v _)) =>
    ∀ g ∈ w.guards t v, kind.files (w.pool.frames g.frameId).page.id.fileId = false
  | _ => True

instance (w : World N T V) (a : PageAction T V Op) : Decidable (kind.Through w a) :=
  decidable_of_bool
    (match a with
    | .pool t (.guard (.mutate v _)) =>
      decide (∀ g ∈ w.guards t v, kind.files (w.pool.frames g.frameId).page.id.fileId = false)
    | _ => true)
    (by unfold Through; split <;> simp [*])

end PageKind

variable [DecidableEq T] [DecidableEq V] [NeZero N]

/-- The pool together with what was done to each page. -/
def pageSystem (opts : BufferPoolOptions) :
    System ((World N T V × History N) × (PageId → Log)) (PageAction T V Op) where
  initial x := (historySystem opts).initial x.1 ∧ kind.Starts x.1.1.disk x.2
  step x a := ((historySystem opts).step x.1 (kind.lower x.1.1 a)).map fun y =>
    (y, kind.record x.2 x.1.1 a y.1)

/-- The conditions that are read off a state. -/
def PageKind.Keeps (x : (World N T V × History N) × (PageId → Log)) (a : PageAction T V Op) :
    Prop :=
  KeepsUpdates x.1 (kind.lower x.1.1 a) ∧ kind.Through x.1.1 a

instance [Fintype T] (x : (World N T V × History N) × (PageId → Log)) (a : PageAction T V Op) :
    Decidable (kind.Keeps x a) :=
  inferInstanceAs (Decidable (_ ∧ _))

def PageKind.Respects (x : (World N T V × History N) × (PageId → Log)) (a : PageAction T V Op) :
    Prop :=
  kind.Keeps x a ∧ kind.Supplied a

section Projections

variable {kind} {opts : BufferPoolOptions} {x x' : (World N T V × History N) × (PageId → Log)}
  {a : PageAction T V Op}

omit [DecidableEq T] [DecidableEq V] [NeZero N] in
lemma PageKind.Supplied.supplies {w : World N T V} (h : kind.Supplied a) :
    Supplies kind.Registers kind.Creates (kind.lower w a) := by
  cases a with
  | perform => trivial
  | pool t choice =>
    cases choice with
    | call call =>
      cases call with
      | registerFile | newPage => exact h
      | _ => trivial
    | _ => trivial

lemma pageSystem_step : (pageSystem kind opts).step x a = some x' ↔
    (historySystem opts).step x.1 (kind.lower x.1.1 a) = some x'.1 ∧
      x'.2 = kind.record x.2 x.1.1 a x'.1.1 := by
  obtain ⟨y', log'⟩ := x'
  simp only [pageSystem, Option.map_eq_some_iff, Prod.mk.injEq]
  constructor
  · rintro ⟨y, hy, rfl, hx⟩
    exact ⟨hy, hx.symm⟩
  · rintro ⟨hy, hx⟩
    exact ⟨_, hy, rfl, hx.symm⟩

lemma lowered_of_run (h : Run (pageSystem kind opts) kind.Respects x) : Run (historySystem opts)
    (fun x a => KeepsUpdates x a ∧ Supplies kind.Registers kind.Creates a) x.1 := by
  refine Run.image Prod.fst (fun x a => kind.lower x.1.1 a) (fun x h => ?_) (fun x a x' h => ?_)
    (fun x a h => ?_) h
  · exact h.1
  · exact (pageSystem_step.mp h).1
  · exact ⟨h.1.1, h.2.supplies⟩

variable [Fintype T] [Fintype V]

lemma supplied_of_pageRun (h : Run (pageSystem kind opts) kind.Respects x) :
    x.1.1.Supplied kind.Registers kind.Creates := by
  have hrun : Run (historySystem opts) (fun x a => ClosesAlone x.1 a ∧
      Supplies kind.Registers kind.Creates a) x.1 := by
    refine (lowered_of_run h).mono_of_run fun y a hr hok => ⟨?_, hok.2⟩
    have hone : Run (poolSystem opts) OneLifecycle y.1 := hr.untrack fun _ _ h => h.1.1
    exact (closesAlone_of_oneLifecycle hone).2.closesAlone a
  exact supplied_of_run (hrun.untrack fun _ _ h => h)

end Projections

/-- The bytes in a frame that are checked and not yet shown. -/
def Pc.Prepared (pool : Pool N) (log : PageId → Log) : Pc N V → Prop
  | .finishLoad page _ _ f (.ok ()) outcome => outcome = .valid → kind.files page.fileId = true →
    kind.Holds page (pool.frames f).page.bytes (log page)
  | .newPageFinish page f built _ => built = true → kind.files page.fileId = true →
    kind.Holds page (pool.frames f).page.bytes kind.start
  | _ => True

/-- Every page has what its record says, in its frame or else in what its last writer left. -/
structure World.Modelled (w : World N T V) (left : PageId → PageBytes) (log : PageId → Log) :
    Prop where
  shown : ∀ f, (w.pool.frames f).InUse → kind.files (w.pool.frames f).page.id.fileId = true →
    kind.Holds (w.pool.frames f).page.id (w.pool.frames f).page.bytes
      (log (w.pool.frames f).page.id)
  away : ∀ page, w.pool.Away page → kind.files page.fileId = true →
    kind.validator page.fileId ⟨page, left page⟩ = .valid → kind.Holds page (left page) (log page)
  thread : ∀ t, (w.pc t).Prepared kind w.pool log

section Steps

variable {kind} {opts : BufferPoolOptions} {w w' : World N T V} {t u : T} {choice : Choice T V}
  {left : PageId → PageBytes} {log : PageId → Log} {page : PageId} {f : Fin N}

omit [DecidableEq T] [DecidableEq V] [NeZero N] in
lemma Pc.Prepared.congr {pool pool' : Pool N} {log' : PageId → Log} {pc : Pc N V}
    (h : pc.Prepared kind pool log)
    (hf : ∀ page f, pc.filling = some (page, f) → (pool'.frames f).page = (pool.frames f).page ∧
      log' page = log page) : pc.Prepared kind pool' log' := by
  cases pc
  case finishLoad page _ _ f read outcome =>
    cases read with
    | error => trivial
    | ok =>
      obtain ⟨hp, hl⟩ := hf page f rfl
      simpa only [Pc.Prepared, hp, hl] using h
  case newPageFinish page f built outcome =>
    obtain ⟨hp, -⟩ := hf page f rfl
    simpa only [Pc.Prepared, hp] using h
  all_goals trivial

omit [DecidableEq T] [DecidableEq V] [NeZero N] in
lemma Pc.prepared_of_none {pool : Pool N} {pc : Pc N V} (h : pc.filling = none) :
    pc.Prepared kind pool log := by
  cases pc
  case finishLoad | newPageFinish => cases h
  all_goals trivial

omit [DecidableEq V] in
lemma Move.prepared {pool pool' : Pool N} {pc pc' : Pc N V} (hm : Move opts pool pc pool' pc') :
    pc'.Prepared kind pool' log := by
  cases hm with
  | quiet replacer hq =>
    cases hq with
    | @matchingEnd status caller => cases caller <;> cases status <;> trivial
    | @flushSettled page caller => cases caller <;> trivial
    | @unpinNone f assignment => cases assignment <;> trivial
    | _ => trivial
  | @failWriteback _ _ _ _ caller => cases caller <;> trivial
  | @unpin f assignment => cases assignment <;> trivial
  | _ => trivial

omit [DecidableEq V] in
lemma Move.valid_of_inUse {pool pool' : Pool N} {pc' : Pc N V} {mode : LatchMode} {load : LoadId}
    {read : DiskStatus} {outcome : PageValidationOutcome} {limit : ℕ} (h : pool.WellFormed limit)
    (hr : Ready pool (.finishLoad page mode load f read outcome : Pc N V))
    (hm : Move opts pool (.finishLoad page mode load f read outcome) pool' pc')
    (hu : (pool'.frames f).InUse) : outcome = .valid := by
  cases hm with
  | fault hm _ => exact absurd hm (hr.not_missing h)
  | quiet _ hq => cases hq
  | reserveVictim _ hpc => rcases hpc with ⟨n, hpc⟩ | ⟨v, hpc⟩ <;> cases hpc
  | failLoad => simp [BufferFrame.InUse] at hu
  | publishLoad hl => exact (loadFailure_none hl).2.1

variable [Fintype T] [Fintype V]

omit [DecidableEq T] [DecidableEq V] [NeZero N] [Fintype T] [Fintype V] in
/-- The record of a page starts again when the page is created. -/
lemma record_pool (kind : PageKind Init Op Log) (log : PageId → Log) (w w' : World N T V) (t : T)
    (choice : Choice T V) :
    kind.record log w (.pool t choice) w' = log ∨ ∃ page f built outcome, choice = .run ∧
      w.pc t = .newPageFinish page f built outcome ∧ (w'.pc t).created = some page ∧
      kind.record log w (.pool t choice) w' = Function.update log page kind.start := by
  simp only [PageKind.record]
  split
  case h_1 page f built outcome hpc =>
    split
    · exact .inr ⟨page, f, built, outcome, rfl, hpc, ‹_›, rfl⟩
    · exact .inl rfl
  case h_2 => exact .inl rfl

lemma record_shown (hi : w.Inv opts) (hu : (w.pool.frames f).InUse) :
    kind.record log w (.pool t choice) w' (w.pool.frames f).page.id =
      log (w.pool.frames f).page.id := by
  rcases record_pool kind log w w' t choice with heq | ⟨page, g, built, outcome, -, hpc, -, heq⟩
  · exact congrFun heq _
  · have hne : (w.pool.frames f).page.id ≠ page :=
      hi.filling_away (t := t) (f := g) (by rw [hpc]; rfl) f hu
    rw [heq, Function.update_of_ne hne]

lemma record_filling (hi : w.Inv opts) (hu : u ≠ t) (hf : (w.pc u).filling = some (page, f)) :
    kind.record log w (.pool t choice) w' page = log page := by
  rcases record_pool kind log w w' t choice with heq | ⟨page', g, built, outcome, -, hpc, -, heq⟩
  · exact congrFun heq _
  · have hne : page ≠ page' := by
      rintro rfl
      exact hu (hi.transfer_unique (Pc.transfer_of_filling hf)
        (Pc.transfer_of_filling (f := g) (by rw [hpc]; rfl)))
    rw [heq, Function.update_of_ne hne]

lemma record_away (hi : w.Inv opts) (hs : step opts w t choice = some w')
    (haway : w'.pool.Away page) : kind.record log w (.pool t choice) w' page = log page := by
  rcases record_pool kind log w w' t choice with heq |
    ⟨created, g, built, outcome, rfl, hpc, hc, heq⟩
  · exact congrFun heq _
  · have hne : page ≠ created := by
      rintro rfl
      cases step_act hs with
      | critical hlock hcs hm =>
        rw [World.finish_pc] at hc
        obtain ⟨f, -, hf, hid⟩ := hm.creates hi.wellFormed (hi.ready t) hc
        exact haway f (.inl hf) hid
      | grant hold | latchForCopy hold | copyImage hold | buildNone hold | build hold
      | takeFrom hold =>
        rw [hpc] at hold
        cases hold
    rw [heq, Function.update_of_ne hne]

namespace World.Modelled

lemma pool_shown (h : w.Modelled kind left log) (hi : w.Inv opts)
    (hthrough : kind.Through w (.pool t choice : PageAction T V Op))
    (hs : BufferPool.step opts w t choice = some w') (hu : (w'.pool.frames f).InUse)
    (hk : kind.files (w'.pool.frames f).page.id.fileId = true) :
    kind.Holds (w'.pool.frames f).page.id (w'.pool.frames f).page.bytes
      (kind.record log w (.pool t choice) w' (w'.pool.frames f).page.id) := by
  have ha := step_act hs
  have hr := hi.ready t
  have hthread := h.thread t
  have kept (hu : (w.pool.frames f).InUse)
      (hpage : (w'.pool.frames f).page = (w.pool.frames f).page) :
      kind.Holds (w'.pool.frames f).page.id (w'.pool.frames f).page.bytes
        (kind.record log w (.pool t choice) w' (w'.pool.frames f).page.id) := by
    rw [hpage] at hk ⊢
    rw [record_shown hi hu]
    exact h.shown f hu hk
  cases ha.frameChange hi f with
  | critical hc hstep =>
    subst hc
    cases hstep with
    | kept hu _ hpage => exact kept hu hpage
    | cleaned _ hs _ _ _ hf => exact kept (.inl hs) (by rw [hf])
    | hidden hn => exact absurd hu hn
    | @loaded page mode load outcome hpc hs hid hf =>
      have hpage : (w'.pool.frames f).page = (w.pool.frames f).page := by rw [hf]
      have hrecord : kind.record log w (.pool t .run) w' = log := by simp [PageKind.record, hpc]
      rw [hpc] at hr hthread
      have hvalid : outcome = .valid := by
        cases ha with
        | critical hlock hcs hm =>
          rw [hpc] at hm
          exact hm.valid_of_inUse hi.wellFormed hr hu
        | grant hold | latchForCopy hold | copyImage hold | buildNone hold | build hold
        | takeFrom hold =>
          rw [hpc] at hold
          cases hold
      rw [hpage, hid] at hk ⊢
      rw [hrecord]
      exact hthread hvalid hk
    | @created page hpc hs hid hf =>
      have hpage : (w'.pool.frames f).page = (w.pool.frames f).page := by rw [hf]
      rw [hpc] at hr hthread
      have hcreated : (w'.pc t).created = some page := by
        cases ha with
        | critical hlock hcs hm =>
          rw [hpc] at hm
          rw [World.finish_pc]
          exact hm.created_of_inUse hi.wellFormed hr hu
        | grant hold | latchForCopy hold | copyImage hold | buildNone hold | build hold
        | takeFrom hold =>
          rw [hpc] at hold
          cases hold
      have hrecord : kind.record log w (.pool t .run) w' page = kind.start := by
        simp [PageKind.record, hpc, hcreated]
      rw [hpage, hid] at hk ⊢
      rw [hrecord]
      exact hthread rfl hk
  | touch ht =>
    obtain ⟨frame', hf⟩ : ∃ frame', w'.pool.frames f = frame' := ⟨_, rfl⟩
    have touched (hs : frame'.state = (w.pool.frames f).state) : (w.pool.frames f).InUse := by
      rw [hf] at hu
      simpa only [BufferFrame.InUse, hs] using hu
    rw [hf] at ht
    cases ht with
    | mutated hc hg =>
      subst hc
      have hnot := hthrough _ hg
      rw [hf] at hk
      rw [hnot] at hk
      cases hk
    | filled hfill =>
      have hs := (hi.filling_loading hfill).2
      rcases touched rfl with hu | hu <;> rw [hs] at hu <;> cases hu
    | _ => exact kept (touched rfl) (by rw [hf])

lemma pool_away (h : w.Modelled kind left log) (hl : w.Lossless left) (hi : w.Inv opts)
    (hs : BufferPool.step opts w t choice = some w') (haway : w'.pool.Away page)
    (hk : kind.files page.fileId = true)
    (hv : kind.validator page.fileId
      ⟨page, History.recordLeft left w (t, choice) w' page⟩ = .valid) :
    kind.Holds page (History.recordLeft left w (t, choice) w' page)
      (kind.record log w (.pool t choice) w' page) := by
  rw [left_away hi hs haway] at hv ⊢
  rw [record_away hi hs haway]
  by_cases hold : ∃ f, (w.pool.frames f).InUse ∧ (w.pool.frames f).page.id = page
  · obtain ⟨f, hu, rfl⟩ := hold
    have hpin : (w.pool.frames f).pinCount = 0 := by
      rw [← Nat.le_zero, ← Nat.not_lt]
      intro hp
      have hheld := (hi.pinStep hs).held f hp
      have hstate := hheld.state.trans (hi.wellFormed.resident_of_pinned hp)
      exact haway f (.inl hstate) hheld.id
    have hshown := hl.shown f hu (hi.not_exclusive_of_unpinned hpin)
    exact kind.holds_same hshown.symm (h.shown f hu hk)
  · simp only [not_exists, not_and] at hold
    exact h.away page hold hk hv

/-- What a load has read is what the last writer left, if the validator accepts it. -/
lemma read_prepared (h : w.Modelled kind left log) (hl : w.Lossless left) (hi : w.Inv opts)
    (hsupplied : w.Supplied kind.Registers kind.Creates) {mode : LatchMode} {load : LoadId}
    {validator : PageValidator} (hpc : w.pc t = .readPage page mode load f validator)
    (hv : validateLoadedPage ⟨(w.pool.frames f).page.id, w.disk.bytes page⟩ validator true = .valid)
    (hk : kind.files page.fileId = true) : kind.Holds page (w.disk.bytes page) (log page) := by
  have hfill : (w.pc t).filling = some (page, f) := by rw [hpc]; rfl
  have haway := hi.filling_away hfill
  have hsame := hl.away page haway
  have hthread := hsupplied.thread t
  rw [hpc] at hthread
  have haccepted := (validateLoadedPage_valid hv).accepted
  rw [(hi.filling_loading hfill).1, hthread hk] at haccepted
  exact kind.holds_same hsame (h.away page haway hk (kind.accepts_same hsame.symm haccepted))

lemma pool_self (h : w.Modelled kind left log) (hl : w.Lossless left) (hi : w.Inv opts)
    (hsupplied : w.Supplied kind.Registers kind.Creates) (hhonest : HonestRead w (t, choice))
    (ha : Act opts w t choice w') :
    (w'.pc t).Prepared kind w'.pool (kind.record log w (.pool t choice) w') := by
  cases ha with
  | @critical turn hlock hcs hm =>
    rw [World.finish_pc]
    exact hm.prepared
  | @build page init f validator hpc =>
    rw [World.setPc_pc]
    have hthread := hsupplied.thread t
    have hfill : (w.pc t).filling = some (page, f) := by rw [hpc]; rfl
    rw [hpc] at hthread
    intro hbuilt hk
    obtain ⟨i, hinit⟩ := hthread hk
    obtain rfl := Option.some.inj hinit
    have hid := (hi.filling_loading hfill).1
    have hholds : kind.Holds (w.pool.frames f).page.id (kind.build i (w.pool.frames f).page).2
        kind.start := kind.built (by rwa [hid]) hbuilt
    rw [hid] at hholds
    simpa [World.setPc, World.setFrame] using hholds
  | @buildNone page f validator hpc =>
    rw [World.setPc_pc]
    intro hbuilt
    cases hbuilt
  | @readPage page mode load f validator result output hpc =>
    rw [World.setPc_pc]
    cases result with
    | error => trivial
    | ok =>
      simp only [HonestRead, hpc] at hhonest
      subst hhonest
      intro hv hk
      have hrecord : kind.record log w
          (.pool t (.readPage (.ok ()) (w.disk.bytes page)) : PageAction T V Op) =
            fun _ => log := by
        funext w'
        simp [PageKind.record]
      rw [hrecord]
      simpa [World.setPc, World.setFrame] using h.read_prepared hl hi hsupplied hpc hv hk
  | @call call =>
    rw [World.setPc_pc]
    exact Pc.prepared_of_none (startCall_filling call)
  | release | assign =>
    rw [releaseGuard_pc]
    trivial
  | mutate hidle | markDirty hidle | move hidle | noGuard hidle =>
    exact Pc.prepared_of_none (Pc.filling_of_idle hidle)
  | wake => exact (h.thread t).congr fun _ _ _ => ⟨rfl, rfl⟩
  | written | writeFailed | synced | syncFailed | extended =>
    simp [World.setPc, Pc.Prepared]
  | _ =>
    rw [World.setPc_pc]
    trivial

theorem step_pool (h : w.Modelled kind left log) (hl : w.Lossless left) (hi : w.Inv opts)
    (hsupplied : w.Supplied kind.Registers kind.Creates) (hhonest : HonestRead w (t, choice))
    (hthrough : kind.Through w (.pool t choice : PageAction T V Op))
    (hs : BufferPool.step opts w t choice = some w') :
    w'.Modelled kind (History.recordLeft left w (t, choice) w')
      (kind.record log w (.pool t choice) w') where
  shown _ := h.pool_shown hi hthrough hs
  away _ := h.pool_away hl hi hs
  thread u := by
    have ha := step_act hs
    by_cases hu : u = t
    · subst hu
      exact h.pool_self hl hi hsupplied hhonest ha
    · rw [ha.others hu]
      refine (h.thread u).congr fun page f hf => ⟨hi.filling_kept ha hu hf, ?_⟩
      exact record_filling hi hu hf

omit [NeZero N] [Fintype T] [Fintype V] in
lemma mutate_step {v : GuardVar V} {bytes : PageBytes}
    (hs : guardStep w t (.mutate v bytes) = some w') :
    ∃ f epoch, w.guards t v = some ⟨f, epoch, .exclusive⟩ ∧ (w.pc t).isIdle = true ∧
      w' = w.setFrame f { w.pool.frames f with
        page := ⟨(w.pool.frames f).page.id, bytes⟩ } := by
  simp only [guardStep] at hs
  split at hs
  case isFalse => cases hs
  case isTrue hidle =>
    split at hs
    case h_2 => cases hs
    case h_1 f epoch hg =>
      obtain rfl := Option.some.inj hs
      exact ⟨f, epoch, hg, hidle, rfl⟩

theorem step_perform (h : w.Modelled kind left log) (hi : w.Inv opts) {v : GuardVar V} {op : Op}
    (hs : BufferPool.step opts w t (.guard (.mutate v (kind.performedBytes w t v op))) = some w') :
    w'.Modelled kind
      (History.recordLeft left w (t, .guard (.mutate v (kind.performedBytes w t v op))) w')
      (kind.record log w (.perform t v op) w') := by
  obtain ⟨f, epoch, hg, hidle, rfl⟩ := mutate_step hs
  obtain ⟨page, hpage⟩ : ∃ page, (w.pool.frames f).page = page := ⟨_, rfl⟩
  have hf : (w.pool.frames f).InUse := .inl (hi.guard_resident hg)
  have hbytes : kind.performedBytes w t v op = kind.perform page.id op page.bytes := by
    simp [PageKind.performedBytes, hg, hpage]
  have hrecord (w' : World N T V) : kind.record log w (.perform t v op) w' =
      Function.update log page.id (kind.note page.id op page.bytes (log page.id)) := by
    simp [PageKind.record, hg, hpage]
  rw [hrecord, hbytes, hpage]
  have hframe {g : Fin N} (hgf : g ≠ f) (page' : Page) : (w.setFrame f { w.pool.frames f with
      page := page' }).pool.frames g = w.pool.frames g := by
    simp [World.setFrame, hgf]
  refine ⟨fun g hu hk => ?_, fun page' haway hk hv => ?_, fun u => ?_⟩
  · by_cases hgf : g = f
    · subst hgf
      have hold := h.shown g hf
      simp only [World.setFrame, Pool.setFrame_frames, Function.update_self] at hk ⊢
      rw [hpage] at hold
      exact kind.performed hk (hold hk)
    · rw [hframe hgf] at hu hk ⊢
      have hne : (w.pool.frames g).page.id ≠ page.id := by
        rw [← hpage]
        exact fun hid => hgf (hi.inUse_unique hu hf hid)
      rw [Function.update_of_ne hne]
      exact h.shown g hu hk
  · have hold : w.pool.Away page' := by
      intro g hu
      by_cases hgf : g = f
      · subst hgf
        have := haway g (by simpa [World.setFrame, BufferFrame.InUse] using hu)
        simpa [World.setFrame, hpage] using this
      · have := haway g (by rwa [hframe hgf])
        rwa [hframe hgf] at this
    have hne : page' ≠ page.id := by
      rw [← hpage]
      exact (hold f hf).symm
    rw [Function.update_of_ne hne]
    exact h.away page' hold hk hv
  · refine (h.thread u).congr fun page' g hfill => ?_
    have hne : page' ≠ page.id := by
      rw [← hpage]
      exact (hi.filling_away hfill f hf).symm
    have hgf : g ≠ f := by
      rintro rfl
      exact hne ((hi.filling_loading hfill).1.symm.trans (by rw [hpage]))
    rw [hframe hgf, Function.update_of_ne hne]
    exact ⟨rfl, rfl⟩

omit [DecidableEq T] [DecidableEq V] [Fintype T] [Fintype V] in
theorem initial {disk : Disk} (h : kind.Starts disk log) :
    (World.initial disk : World N T V).Modelled kind disk.bytes log where
  shown _ hu := by rcases hu with hu | hu <;> cases hu
  away page _ hk hv := h page hk hv
  thread _ := trivial

end World.Modelled

variable {x : (World N T V × History N) × (PageId → Log)}

lemma modelled_of_run (h : Run (pageSystem kind opts) kind.Respects x) :
    x.1.1.Modelled kind x.1.2.left x.2 := by
  refine h.invariant_of_run (I := fun x => x.1.1.Modelled kind x.1.2.left x.2) ?_ ?_
  · rintro ⟨⟨w, history⟩, log⟩ ⟨⟨⟨disk, hw⟩, hx⟩, hstarts⟩
    dsimp only at hw hx hstarts ⊢
    subst hw hx
    exact World.Modelled.initial hstarts
  · rintro ⟨⟨w, history⟩, log⟩ a ⟨⟨w', history'⟩, log'⟩ hrun hx ⟨⟨hkeeps, hthrough⟩, -⟩ hs
    obtain ⟨hstep, hrec⟩ := pageSystem_step.mp hs
    obtain ⟨hmove, hhist⟩ := track_step.mp hstep
    dsimp only at hx hkeeps hthrough hmove hrec hhist ⊢
    subst hrec hhist
    have hrunh : Run (historySystem opts) KeepsUpdates (w, history) :=
      (lowered_of_run hrun).mono fun _ _ h => h.1
    have hi : w.Inv opts := inv_of_run ((keepsUpdates_alone hrunh).untrack fun _ _ h => h.1)
    cases a with
    | pool t choice =>
      exact hx.step_pool (lossless_of_run hrunh) hi (supplied_of_pageRun hrun) hkeeps.2.2.2
        hthrough hmove
    | perform t v op => exact hx.step_perform hi hmove

/-- What the operations of a kind keep holds of every page of the kind that a guard shows. -/
theorem guarded_page_holds (h : Run (pageSystem kind opts) kind.Respects x) {v : GuardVar V}
    {g : PageGuard N} (hg : x.1.1.guards t v = some g)
    (hk : kind.files (x.1.1.pool.frames g.frameId).page.id.fileId = true) :
    kind.Holds (x.1.1.pool.frames g.frameId).page.id (x.1.1.pool.frames g.frameId).page.bytes
      (x.2 (x.1.1.pool.frames g.frameId).page.id) := by
  have hrunh : Run (historySystem opts) KeepsUpdates x.1 :=
    (lowered_of_run h).mono fun _ _ h => h.1
  have hi : x.1.1.Inv opts := inv_of_run ((keepsUpdates_alone hrunh).untrack fun _ _ h => h.1)
  exact (modelled_of_run h).shown g.frameId (.inl (hi.guard_resident hg)) hk

end Steps

end DBlusBlus.BufferPool
