import DBlusBlus.BufferPool.Allocation
import DBlusBlus.BufferPool.OneLoad

/-! The page at the end of a file that a failed creation leaves behind. -/

namespace DBlusBlus.BufferPool

open Accounting Transition

variable {N : ℕ} {T V : Type} {file : FileId} {page : PageId}

structure PageHistory where
  initialCount : FileId → PageNo
  created : List PageId
  leftover : FileId → Option PageNo

namespace PageHistory

/-- A page of the initial file, or one that `NewPage` has returned. -/
def Known (history : PageHistory) (page : PageId) : Prop :=
  page.pageNo < history.initialCount page.fileId ∨ page ∈ history.created

def settleLeftover (leftover : FileId → Option PageNo) (w w' : World N T V) (t : T) :
    FileId → Option PageNo :=
  match (w.pc t).created, (w'.pc t).created with
  | none, some page =>
    if leftover page.fileId = some page.pageNo then Function.update leftover page.fileId none
    else leftover
  | _, _ => leftover

def recordLeftover (leftover : FileId → Option PageNo) (w : World N T V) (a : T × Choice T V)
    (w' : World N T V) : FileId → Option PageNo :=
  match a.2, w.pc a.1 with
  | .extendFile (.ok n), .newPageExtend file _ _ => Function.update leftover file (some n)
  | _, _ => settleLeftover leftover w w' a.1

def record (history : PageHistory) (w : World N T V) (a : T × Choice T V) (w' : World N T V) :
    PageHistory where
  initialCount := history.initialCount
  created := recordCreated history.created w w' a.1
  leftover := recordLeftover history.leftover w a w'

end PageHistory

def leftoverSystem [NeZero N] [DecidableEq T] [DecidableEq V] (opts : BufferPoolOptions) :
    System (World N T V × PageHistory) (T × Choice T V) :=
  (poolSystem opts).track (fun w => ⟨w.disk.pageCount, [], fun _ => none⟩) PageHistory.record

/-- A file is registered with a page count that does not reach over a page left behind. -/
def CleanRegistration (x : World N T V × PageHistory) (a : T × Choice T V) : Prop :=
  match a.2, x.1.pc a.1 with
  | .run, .registerFile file _ count =>
    match x.2.leftover file with
    | some n => ¬ n < count
    | none => True
  | _, _ => True

instance (x : World N T V × PageHistory) (a : T × Choice T V) :
    Decidable (CleanRegistration x a) :=
  decidable_of_bool
    (match a.2, x.1.pc a.1 with
    | .run, .registerFile file _ count =>
      match x.2.leftover file with
      | some n => decide (¬ n < count)
      | none => true
    | _, _ => true)
    (by
      unfold CleanRegistration
      split
      · split <;> simp [*]
      · simp [*])

def Requester.fetching : Requester → Option PageId
  | .fetch page _ _ => some page
  | .newPage _ _ => none

def Outcome.serves : Outcome → Option PageId
  | .fetch page _ (.ok ()) => some page
  | .fetch page _ (.error error) => if error.code = .corruptPage then some page else none
  | _ => none

/-- The page of a fetch that has passed the address check, until it has failed for another reason
than corruption. -/
def Pc.admitted : Pc N V → Option PageId
  | .joinLoad page _ _ | .readPage page _ _ _ _ | .finishLoad page _ _ _ _ _ => some page
  | .acquireFrame requester _ | .candidateObserved requester _ _ | .victimReserved requester _ _
  | .frameAcquired requester _ | .requestFailed requester _
  | .writePage (.evict requester _ _) _ | .syncFile (.evict requester _ _) _
  | .finishWrite (.evict requester _ _) _ => requester.fetching
  | .makeGuard outcome _ _ | .idle outcome => outcome.serves
  | _ => none

section Moves

variable [NeZero N] {pool pool' : Pool N} {pc pc' : Pc N V} {opts : BufferPoolOptions}

omit [NeZero N] in
lemma checkFetchable_code {error : BufferError} (h : checkFetchable pool page = .error error) :
    error.code ≠ .corruptPage := by
  simp only [checkFetchable] at h
  split at h
  · cases h
    simp [makeError]
  · split at h
    · cases h
      simp [makeError]
    · split at h
      · cases h
        simp [makeError]
      · split at h
        · cases h
          simp [makeError]
        · cases h

lemma pinPage_admitted {target : PageId} {mode : LatchMode} {hitNotified : Bool}
    (h : (pinPage opts pool target mode hitNotified : Turn N V).pc.admitted = some page) :
    page = target ∧ Fetchable pool page := by
  cases hf : checkFetchable pool target with
  | error error =>
    simp only [pinPage, hf, fetchFailed, Pc.admitted, Outcome.serves,
      if_neg (checkFetchable_code hf)] at h
    cases h
  | ok =>
    suffices ht : page = target from ⟨ht, by rw [ht]; exact hf⟩
    simp only [pinPage, hf] at h
    split at h
    · simpa [installIntent, Pc.admitted, Requester.fetching, eq_comm] using h
    · split at h
      · split at h
        · cases h
        · simp only [pinResident] at h
          split at h <;>
            simp_all [fetchFailed, Pc.admitted, Outcome.serves, makeError]
      · cases h
      all_goals
        simp only [claimLoad] at h
        split at h
        · simp [fetchFailed, Pc.admitted, Outcome.serves, makeError] at h
        · split at h <;>
            simp_all [fetchFailed, Pc.admitted, Outcome.serves, makeError]

lemma Move.admitted (hm : Move opts pool pc pool' pc')
    (hpin : ∀ page mode hitNotified, pc ≠ .pinPage page mode hitNotified)
    (hc : pc'.admitted = some page) : pc.admitted = some page := by
  have failed {target : PageId} {mode : LatchMode} {error : BufferError}
      (h : (Pc.idle (.fetch target mode (.error error)) : Pc N V).admitted = some page) :
      target = page := by
    simp only [Pc.admitted, Outcome.serves] at h
    split at h
    · exact Option.some.inj h
    · cases h
  cases hm with
  | quiet replacer hq =>
    cases hq with
    | pinFailed | hitNotified | pinWait => exact absurd rfl (hpin _ _ _)
    | @matchingEnd status caller => cases caller <;> cases status <;> cases hc
    | @flushSettled page caller => cases caller <;> cases hc
    | @unpinNone f assignment => cases assignment <;> cases hc
    | joinFailed => rw [← failed hc]; rfl
    | _ => exact hc
  | installIntent | pinHit | claimLoad => exact absurd rfl (hpin _ _ _)
  | reserveVictim _ hpc => rcases hpc with ⟨n, rfl⟩ | ⟨v, rfl⟩ <;> exact hc
  | failIntent | failLoad => rw [← failed hc]; rfl
  | @failWriteback _ _ _ _ caller => cases caller <;> cases hc
  | @unpin f assignment => cases assignment <;> cases hc
  | _ => first | exact hc | cases hc

end Moves

structure KnownPages (w : World N T V) (history : PageHistory) : Prop where
  size : ∀ file p, p ≠ 0 → p < w.disk.pageCount file →
    history.Known ⟨file, p⟩ ∨ history.leftover file = some p
  published : ∀ file entry, w.pool.files.lookup file = some entry → ∀ p, p ≠ 0 →
    p < entry.publishedPageCount → history.Known ⟨file, p⟩
  registering : ∀ t file validator count, w.pc t = .registerFile file validator count →
    count ≤ w.disk.pageCount file
  counting : ∀ t file init f published, w.pc t = .newPageCount file init f published →
    ∀ p, p ≠ 0 → p < published → history.Known ⟨file, p⟩
  extending : ∀ t file init f, w.pc t = .newPageExtend file init f →
    ∀ p, p ≠ 0 → p < w.disk.pageCount file → history.Known ⟨file, p⟩
  admitted : ∀ t page, (w.pc t).admitted = some page → history.Known page

section Steps

variable [DecidableEq T] [DecidableEq V] [NeZero N] [Fintype T] [Fintype V]
  {opts : BufferPoolOptions} {w w' : World N T V} {t u : T} {choice : Choice T V}
  {history : PageHistory}

omit [Fintype T] [Fintype V] in
lemma Act.admitted (ha : Act opts w t choice w') (hc : (w'.pc t).admitted = some page) :
    (w.pc t).admitted = some page ∨ Fetchable w.pool page := by
  cases ha with
  | @critical turn hlock hcs hm =>
    rw [World.finish_pc] at hc
    by_cases hpin : ∃ page mode hitNotified, w.pc t = .pinPage page mode hitNotified
    · obtain ⟨target, mode, hitNotified, hpc⟩ := hpin
      rw [hpc] at hcs
      obtain rfl := Option.some.inj hcs
      obtain ⟨rfl, hf⟩ := pinPage_admitted hc
      exact .inr hf
    · refine .inl (hm.admitted (fun page mode hitNotified hpc => hpin ⟨page, mode, hitNotified, hpc⟩) hc)
  | grant hpc | readPage hpc =>
    rw [World.setPc_pc] at hc
    rw [hpc]
    exact .inl hc
  | @synced writer _ hpc | @syncFailed writer _ _ hpc =>
    rw [World.setPc_pc] at hc
    rw [hpc]
    cases writer <;> exact .inl hc
  | @written writer _ _ hpc | @writeFailed writer _ _ _ hpc =>
    rw [hpc]
    cases writer with
    | evict => exact .inl (by simpa [Pc.admitted] using hc)
    | flush => simp [Pc.admitted] at hc
  | mutate | markDirty | move | noGuard | wake => exact .inl hc
  | @call call =>
    rw [World.setPc_pc] at hc
    cases call with
    | registerFile file validator =>
      rw [startCall] at hc
      split at hc <;> cases hc
    | _ => cases hc
  | release | assign =>
    rw [releaseGuard_pc] at hc
    cases hc
  | extended => simp [Pc.admitted] at hc
  | _ =>
    rw [World.setPc_pc] at hc
    cases hc

omit [NeZero N] [Fintype T] [Fintype V] [DecidableEq T] [DecidableEq V] in
lemma PageHistory.Known.record {a : T × Choice T V} (h : history.Known page) :
    (history.record w a w').Known page := by
  refine h.imp_right fun hm => ?_
  rcases recordCreated_cases history.created w w' a.1 with ⟨hr, -⟩ | ⟨new, -, hr⟩
  · simpa only [PageHistory.record, hr] using hm
  · simp only [PageHistory.record, hr]
    exact List.mem_cons_of_mem _ hm

omit [NeZero N] [Fintype T] [Fintype V] [DecidableEq T] [DecidableEq V] in
lemma Creates.known (hc : Creates w w' t page) :
    (history.record w (t, choice) w').Known page := by
  refine .inr ?_
  rcases recordCreated_cases history.created w w' t with ⟨-, hn⟩ | ⟨new, hnew, hr⟩
  · exact absurd hc (hn page)
  · obtain rfl := Option.some.inj (hc.2.symm.trans hnew.2)
    simp only [PageHistory.record, hr]
    exact List.mem_cons_self ..

/-- What a step does to the page left behind at the end of a file. -/
inductive LeftoverStep (w w' : World N T V) (t : T) (choice : Choice T V) (file : FileId)
    (before after : Option PageNo) : Prop
  | extended {init f n} : w.pc t = .newPageExtend file init f → choice = .extendFile (.ok n) →
    after = some n → LeftoverStep w w' t choice file before after
  | created {n} : Creates w w' t ⟨file, n⟩ → before = some n →
    LeftoverStep w w' t choice file before after
  | same : (∀ init f n, w.pc t = .newPageExtend file init f → choice ≠ .extendFile (.ok n)) →
    after = before → LeftoverStep w w' t choice file before after

omit [NeZero N] [Fintype T] [Fintype V] [DecidableEq T] [DecidableEq V] in
lemma leftoverStep (leftover : FileId → Option PageNo) (w w' : World N T V) (t : T)
    (choice : Choice T V) (file : FileId) : LeftoverStep w w' t choice file (leftover file)
      (PageHistory.recordLeftover leftover w (t, choice) w' file) := by
  generalize hl : PageHistory.recordLeftover leftover w (t, choice) w' = after
  simp only [PageHistory.recordLeftover] at hl
  split at hl
  case h_1 n other init f hpc =>
    subst hl
    by_cases ho : file = other
    · subst ho
      exact .extended hpc rfl (Function.update_self ..)
    · refine .same (fun _ _ _ hold => ?_) (Function.update_of_ne ho ..)
      rw [hpc] at hold
      cases hold
      exact absurd rfl ho
  case h_2 choice _ _ hne =>
    have hsame : ∀ init f n, w.pc t = .newPageExtend file init f → choice ≠ .extendFile (.ok n) :=
      fun init f n hpc hc => hne n file init f hc hpc
    simp only [PageHistory.settleLeftover] at hl
    split at hl
    case h_1 page hn hpage =>
      split at hl
      case isTrue hold =>
        subst hl
        by_cases ho : file = page.fileId
        · subst ho
          exact .created ⟨hn, hpage⟩ hold
        · exact .same hsame (Function.update_of_ne ho ..)
      case isFalse => exact .same hsame (congrFun hl.symm file)
    case h_2 => exact .same hsame (congrFun hl.symm file)

namespace KnownPages

omit [Fintype T] [Fintype V] in
lemma size_step (h : KnownPages w history) (hok : HonestSize w (t, choice))
    (ha : Act opts w t choice w') {p : PageNo} (h0 : p ≠ 0) (hp : p < w'.disk.pageCount file) :
    (history.record w (t, choice) w').Known ⟨file, p⟩ ∨
      (history.record w (t, choice) w').leftover file = some p := by
  cases leftoverStep history.leftover w w' t choice file with
  | @extended init f n hpc hc hl =>
    subst hc
    simp only [HonestSize, hpc] at hok
    have hcount : p < w.disk.pageCount file ∨ p = w.disk.pageCount file := by
      rcases ha.pageCount file with hs | ⟨-, -, -, -, -, -, hs⟩
      · exact .inl (hs ▸ hp)
      · rw [hs] at hp
        exact (pageNo_lt_succ (hok.1 ▸ hok.2)).mp hp
    rcases hcount with hlt | rfl
    · exact .inl (h.extending t file init f hpc p h0 hlt).record
    · exact .inr (hl.trans (by rw [hok.1]))
  | @created n hc hl =>
    obtain ⟨f, hpc⟩ := hc.finishing ha
    have hs : w'.disk.pageCount file = w.disk.pageCount file := by
      refine (ha.pageCount file).resolve_right ?_
      rintro ⟨init, f, n, hext, -⟩
      rw [hpc] at hext
      cases hext
    rw [hs] at hp
    rcases h.size file p h0 hp with hk | hold
    · exact .inl hk.record
    · obtain rfl := Option.some.inj (hold.symm.trans hl)
      exact .inl hc.known
  | same hn hl =>
    rcases ha.pageCount file with hs | ⟨init, f, n, hpc, hc, -⟩
    · rw [hs] at hp
      refine (h.size file p h0 hp).imp PageHistory.Known.record fun hold => ?_
      exact hl.trans hold
    · exact absurd hc (hn init f n hpc)

lemma published_step (h : KnownPages w history) (hi : w.Inv opts)
    (hclean : CleanRegistration (w, history) (t, choice))
    (ha : Act opts w t choice w') {entry' : FileEntry}
    (he' : w'.pool.files.lookup file = some entry') {p : PageNo} (h0 : p ≠ 0)
    (hp : p < entry'.publishedPageCount) : (history.record w (t, choice) w').Known ⟨file, p⟩ := by
  have moved {entry : FileEntry} (he : w.pool.files.lookup file = some entry) :
      (history.record w (t, choice) w').Known ⟨file, p⟩ := by
    rcases ha.published hi he he' with ⟨hpub, -⟩ | ⟨hpub, hc, -⟩
    · exact (h.published file entry he p h0 (hpub ▸ hp)).record
    · rw [hpub] at hp
      by_cases heq : p = entry.publishedPageCount
      · subst heq
        exact hc.known
      · refine (h.published file entry he p h0 ?_).record
        rcases pageNo_succ_cases entry.publishedPageCount with hz | hs
        · rw [hz] at hp
          exact absurd hp UInt64.not_lt_zero
        · have h1 : entry.publishedPageCount + 1 ≠ 0 := fun hz => by
            rw [hz] at hs
            exact UInt64.not_lt_zero hs
          exact ((pageNo_lt_succ h1).mp hp).resolve_right heq
  cases ha.registration hi file with
  | same hs => exact moved (hs.symm.trans he')
  | @opened validator count hc hpc hn hnew =>
    obtain rfl := Option.some.inj (hnew.symm.trans he')
    subst hc
    simp only [CleanRegistration, hpc] at hclean
    dsimp only at hp
    have hsize := h.registering t file validator count hpc
    rcases h.size file p h0 (UInt64.lt_of_lt_of_le hp hsize) with hk | hl
    · exact hk.record
    · rw [hl] at hclean
      exact absurd hp hclean
  | closed _ _ hn =>
    rw [hn] at he'
    cases he'
  | updated he _ => exact moved he

omit [Fintype T] [Fintype V] in
lemma pageCount_le (hok : HonestSize w (t, choice)) (ha : Act opts w t choice w')
    (file : FileId) : w.disk.pageCount file ≤ w'.disk.pageCount file := by
  rcases ha.pageCount file with hs | ⟨init, f, n, hpc, rfl, -, hs⟩
  · exact UInt64.le_of_eq hs.symm
  · simp only [HonestSize, hpc] at hok
    rw [hs]
    exact UInt64.le_of_lt ((pageNo_succ_cases _).resolve_left (hok.1 ▸ hok.2))

omit [Fintype T] [Fintype V] in
lemma registering_step (h : KnownPages w history) (hok : HonestSize w (t, choice))
    (ha : Act opts w t choice w') {validator : PageValidator} {count : PageNo}
    (hpc : w'.pc u = .registerFile file validator count) : count ≤ w'.disk.pageCount file := by
  have kept (hpc : w.pc u = .registerFile file validator count) :
      count ≤ w'.disk.pageCount file :=
    UInt64.le_trans (h.registering u file validator count hpc) (pageCount_le hok ha file)
  by_cases hu : u = t
  · subst hu
    cases ha with
    | critical hlock hcs hm =>
      rw [World.finish_pc] at hpc
      have := hm.not_fromOutside
      rw [hpc] at this
      cases this
    | registerCount hold =>
      rw [World.setPc_pc] at hpc
      cases hpc
      simp only [HonestSize, hold] at hok
      exact UInt64.le_of_eq hok
    | mutate | markDirty | move | noGuard | wake => exact kept hpc
    | @call call =>
      rw [World.setPc_pc] at hpc
      cases call with
      | registerFile file validator =>
        rw [startCall] at hpc
        split at hpc <;> cases hpc
      | _ => cases hpc
    | release | assign =>
      rw [releaseGuard_pc] at hpc
      cases hpc
    | written | writeFailed | extended => simp at hpc
    | _ =>
      rw [World.setPc_pc] at hpc
      cases hpc
  · rw [ha.others hu] at hpc
    exact kept hpc

omit [DecidableEq T] [DecidableEq V] [NeZero N] [Fintype T] [Fintype V] in
lemma fetchable (h : KnownPages w history) (hf : Fetchable w.pool page) : history.Known page := by
  obtain ⟨-, entry, he, -, h0, hlt⟩ := hf.file
  exact h.published page.fileId entry he page.pageNo h0 hlt

omit [Fintype T] [Fintype V] in
lemma counting_step (h : KnownPages w history) (ha : Act opts w t choice w')
    {init : PageInitializer} {f : Fin N} {published : PageNo}
    (hpc : w'.pc u = .newPageCount file init f published) {p : PageNo} (h0 : p ≠ 0)
    (hp : p < published) : history.Known ⟨file, p⟩ := by
  by_cases hu : u = t
  · subst hu
    have kept (hpc : w.pc u = .newPageCount file init f published) : history.Known ⟨file, p⟩ :=
      h.counting u file init f published hpc p h0 hp
    cases ha with
    | @critical turn hlock hcs hm =>
      rw [World.finish_pc] at hpc
      rw [hpc] at hm
      obtain ⟨-, entry, he, rfl⟩ := hm.newPageCount
      exact h.published file entry he p h0 hp
    | mutate | markDirty | move | noGuard | wake => exact kept hpc
    | @call call =>
      rw [World.setPc_pc] at hpc
      cases call with
      | registerFile file validator =>
        rw [startCall] at hpc
        split at hpc <;> cases hpc
      | _ => cases hpc
    | release | assign =>
      rw [releaseGuard_pc] at hpc
      cases hpc
    | written | writeFailed | extended => simp at hpc
    | _ =>
      rw [World.setPc_pc] at hpc
      cases hpc
  · rw [ha.others hu] at hpc
    exact h.counting u file init f published hpc p h0 hp

lemma extending_step (h : KnownPages w history) (hi : w.Inv opts) (hok : HonestSize w (t, choice))
    (ha : Act opts w t choice w') {init : PageInitializer} {f : Fin N}
    (hpc : w'.pc u = .newPageExtend file init f) {p : PageNo} (h0 : p ≠ 0)
    (hp : p < w'.disk.pageCount file) : history.Known ⟨file, p⟩ := by
  by_cases hu : u = t
  · subst hu
    have kept (hpc : w.pc u = .newPageExtend file init f)
        (hp : p < w.disk.pageCount file) : history.Known ⟨file, p⟩ :=
      h.extending u file init f hpc p h0 hp
    cases ha with
    | critical hlock hcs hm =>
      rw [World.finish_pc] at hpc
      have := hm.not_fromOutside
      rw [hpc] at this
      cases this
    | @needExtension _ _ _ published physical hold hlt =>
      rw [World.setPc_pc] at hpc
      cases hpc
      simp only [HonestSize, hold] at hok
      refine h.counting u file init f published hold p h0 (UInt64.lt_of_lt_of_le hp ?_)
      rw [hok] at hlt
      exact UInt64.not_lt.mp hlt
    | mutate | markDirty | move | noGuard | wake => exact kept hpc hp
    | @call call =>
      rw [World.setPc_pc] at hpc
      cases call with
      | registerFile file validator =>
        rw [startCall] at hpc
        split at hpc <;> cases hpc
      | _ => cases hpc
    | release | assign =>
      rw [releaseGuard_pc] at hpc
      cases hpc
    | written | writeFailed | extended => simp at hpc
    | _ =>
      rw [World.setPc_pc] at hpc
      cases hpc
  · rw [ha.others hu] at hpc
    refine h.extending u file init f hpc p h0 ?_
    rcases ha.pageCount file with hs | ⟨_, _, _, hext, -⟩
    · exact hs ▸ hp
    · exact absurd (hi.turn_unique (t := u) (u := t) (by rw [hpc]; rfl) (by rw [hext]; rfl)) hu

theorem step (h : KnownPages w history) (hi : w.Inv opts) (hok : HonestSize w (t, choice))
    (hclean : CleanRegistration (w, history) (t, choice)) (ha : Act opts w t choice w') :
    KnownPages w' (history.record w (t, choice) w') where
  size _ _ h0 hp := h.size_step hok ha h0 hp
  published _ _ he _ h0 hp := h.published_step hi hclean ha he h0 hp
  registering _ _ _ _ hpc := h.registering_step hok ha hpc
  counting _ _ _ _ _ hpc _ h0 hp := (h.counting_step ha hpc h0 hp).record
  extending _ _ _ _ hpc _ h0 hp := (h.extending_step hi hok ha hpc h0 hp).record
  admitted u page hc := by
    refine PageHistory.Known.record ?_
    by_cases hu : u = t
    · subst hu
      exact (ha.admitted hc).elim (h.admitted u page) h.fetchable
    · rw [ha.others hu] at hc
      exact h.admitted u page hc

end KnownPages

/-- No registration reaches over a page left behind, and no file is closed under another retirement. -/
def NoLeftoverRegistered (x : World N T V × PageHistory) (a : T × Choice T V) : Prop :=
  ClosesAlone x.1 a ∧ HonestSize x.1 a ∧ CleanRegistration x a

instance (x : World N T V × PageHistory) (a : T × Choice T V) :
    Decidable (NoLeftoverRegistered x a) :=
  inferInstanceAs (Decidable (_ ∧ _ ∧ _))

lemma known_of_run {x : World N T V × PageHistory}
    (h : Run (leftoverSystem opts) NoLeftoverRegistered x) :
    x.1.Inv opts ∧ KnownPages x.1 x.2 := by
  refine h.invariant (I := fun y => y.1.Inv opts ∧ KnownPages y.1 y.2) ?_ ?_
  · rintro ⟨w, history⟩ ⟨⟨disk, hw⟩, hx⟩
    dsimp only at hw hx ⊢
    subst hw hx
    refine ⟨World.Inv.initial disk, fun file p _ hp => .inl (.inl hp), ?_, ?_, ?_, ?_, ?_⟩
    · rintro file entry he
      cases he
    · rintro t file validator count hpc
      cases hpc
    · rintro t file init f published hpc
      cases hpc
    · rintro t file init f hpc
      cases hpc
    · rintro t page hc
      cases hc
  · rintro ⟨w, history⟩ ⟨t, choice⟩ ⟨w', history'⟩ ⟨hi, hk⟩ ⟨hcl, hok, hclean⟩ hs
    obtain ⟨hstep, hrec⟩ := track_step.mp hs
    dsimp only at hstep hrec
    subst hrec
    exact ⟨hi.step hcl hstep, hk.step hi hok hclean (step_act hstep)⟩

/-- A file shows the pages it started with and those that `NewPage` returned, and no fetch is
admitted for another page. -/
structure LeftoverHidden (w : World N T V) (history : PageHistory) : Prop where
  published : ∀ file entry, w.pool.files.lookup file = some entry → ∀ p, p ≠ 0 →
    p < entry.publishedPageCount → history.Known ⟨file, p⟩
  fetchable : ∀ page, Fetchable w.pool page → history.Known page
  served : ∀ t outcome page, w.pc t = .idle outcome → outcome.serves = some page →
    history.Known page

end Steps

section Sample

def rejectingInitializer : PageInitializer := some fun page => (false, page.bytes)

def sampleRejectedPage (t : T) (pageNo : PageNo) : List (T × Choice T V) :=
  sampleNewPageStart t rejectingInitializer ++
    [(t, .pageCount (.ok pageNo)), (t, .extendFile (.ok pageNo)), (t, .run), (t, .run), (t, .run)]

def sampleRetire (t : T) : List (T × Choice T V) :=
  [(t, .call (.retireFile sampleFile .discardDirty)), (t, .run), (t, .run), (t, .run)]

lemma sampleLeftover_runs : (execute (leftoverSystem sampleOptions) (fun x a => Orderly x.1 a)
    ((World.initial sampleDisk : World 1 Bool Unit), ⟨fun _ => 1, [], fun _ => none⟩)
    (sampleRegister false 1 ++ sampleRejectedPage false 1 ++ sampleRetire false ++
      sampleRegister false 2 ++ [(false, .call (.fetch samplePage .shared)), (false, .run),
        (false, .run), (false, .run)])).isSome := by decide +kernel

/-- The page that a rejected creation left behind is being read after a new registration. -/
def sampleLeftover : World 1 Bool Unit × PageHistory := Option.get _ sampleLeftover_runs

lemma validateLoadedPage_zero {id : PageId} (h : id.pageNo ≠ 0) (validator : PageValidator)
    (verifyChecksum : Bool) :
    validateLoadedPage ⟨id, PageBytes.zero⟩ validator verifyChecksum = .corrupt := by
  have hz : (PageBytes.header PageBytes.zero).map CommonPageHeader.pageNo = some 0 := by
    decide +kernel
  obtain ⟨header, hd, hp⟩ := Option.map_eq_some_iff.mp hz
  simp only [validateLoadedPage, hd, hp]
  split
  · rfl
  · exact if_pos h.symm

def Pc.reading : Pc N V → Option (PageId × LatchMode × Fin N)
  | .readPage page mode _ f _ => some (page, mode, f)
  | _ => none

lemma Pc.reading_eq_some {pc : Pc N V} {mode : LatchMode} {f : Fin N}
    (h : pc.reading = some (page, mode, f)) :
    ∃ load validator, pc = .readPage page mode load f validator := by
  cases pc with
  | readPage =>
    cases h
    exact ⟨_, _, rfl⟩
  | _ => cases h

lemma sampleClean_runs : (execute (leftoverSystem sampleOptions) NoLeftoverRegistered
    ((World.initial sampleDisk : World 1 Bool Unit), ⟨fun _ => 1, [], fun _ => none⟩)
    (sampleRegister false 1 ++ sampleRejectedPage false 1 ++ sampleReuse false 2 ++
      sampleRelease false ++ sampleRetire false ++ [(false, .run)] ++
      sampleRegister false 2)).isSome := by decide +kernel

/-- The next creation took the page left behind before the file was closed. -/
def sampleClean : World 1 Bool Unit × PageHistory := Option.get _ sampleClean_runs

end Sample

end DBlusBlus.BufferPool
