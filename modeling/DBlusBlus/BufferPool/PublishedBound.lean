import DBlusBlus.BufferPool.Creation

/-! The published bound of a file that only the pool extends, and its size. -/

namespace DBlusBlus.BufferPool

open Accounting Transition

variable {N : ℕ} {T V : Type} {file : FileId} {page : PageId}

/-- `PageIo` reports the size of the file, and `ExtendFile` adds one page within the range of
offsets. -/
def HonestSize (w : World N T V) (a : T × Choice T V) : Prop :=
  match a.2, w.pc a.1 with
  | .pageCount (.ok count), .registerPageCount file _
  | .pageCount (.ok count), .newPageCount file _ _ _ => count = w.disk.pageCount file
  | .extendFile (.ok pageNo), .newPageExtend file _ _ =>
    pageNo = w.disk.pageCount file ∧ pageNo + 1 ≠ 0
  | _, _ => True

instance (w : World N T V) (a : T × Choice T V) : Decidable (HonestSize w a) :=
  decidable_of_bool
    (match a.2, w.pc a.1 with
    | .pageCount (.ok count), .registerPageCount file _
    | .pageCount (.ok count), .newPageCount file _ _ _ => count = w.disk.pageCount file
    | .extendFile (.ok pageNo), .newPageExtend file _ _ =>
      pageNo = w.disk.pageCount file ∧ pageNo + 1 ≠ 0
    | _, _ => true)
    (by unfold HonestSize; split <;> simp [*])

/-- What a thread on its way to a new page knows about the size of the file. -/
def Pc.Sized (files : FileId → Option FileEntry) (size : FileId → PageNo) : Pc N V → Prop
  | .registerFile file _ count => files file = none → count = size file
  | .newPageCount file _ _ published => ∀ entry, files file = some entry →
    published = entry.publishedPageCount
  | .newPageExtend file _ _ => ∀ entry, files file = some entry →
    entry.publishedPageCount ≠ 0 → size file = entry.publishedPageCount
  | .newPageReserved file _ _ (.ok n) => ∀ entry, files file = some entry →
    entry.publishedPageCount ≠ 0 → n = entry.publishedPageCount ∧ size file = n + 1 ∧ n + 1 ≠ 0
  | .newPageBuild page _ _ _ | .newPageFinish page _ _ _ =>
    size page.fileId = page.pageNo + 1 ∧ page.pageNo + 1 ≠ 0
  | _ => True

def FileEntry.Sized (entry : FileEntry) (size : PageNo) : Prop :=
  entry.publishedPageCount ≠ 0 → size = entry.publishedPageCount ∨
    (size = entry.publishedPageCount + 1 ∧ entry.publishedPageCount + 1 ≠ 0)

structure World.Sized (w : World N T V) : Prop where
  thread : ∀ t, (w.pc t).Sized w.pool.files.lookup w.disk.pageCount
  size : ∀ file entry, w.pool.files.lookup file = some entry → entry.Sized (w.disk.pageCount file)

lemma Pc.Sized.congr {files files' : FileId → Option FileEntry} {size size' : FileId → PageNo}
    {pc : Pc N V} (h : pc.Sized files size)
    (hf : ∀ file, pc.turn = some file → size' file = size file ∧
      ∀ entry', files' file = some entry' → ∃ entry, files file = some entry ∧
        entry'.publishedPageCount = entry.publishedPageCount)
    (hn : ∀ file validator count, pc = .registerFile file validator count →
      files' file = none → files file = none ∧ size' file = size file) : pc.Sized files' size' := by
  cases pc
  case registerFile file validator count =>
    intro hnone
    obtain ⟨hnone, hs⟩ := hn file validator count rfl hnone
    rw [hs]
    exact h hnone
  case newPageCount file init f published =>
    intro entry' he'
    obtain ⟨entry, he, hp⟩ := (hf file rfl).2 entry' he'
    rw [hp]
    exact h entry he
  case newPageExtend file init f =>
    intro entry' he' h0
    obtain ⟨hs, he⟩ := hf file rfl
    obtain ⟨entry, he, hp⟩ := he entry' he'
    rw [hs, hp]
    exact h entry he (hp ▸ h0)
  case newPageReserved file init f n =>
    cases n with
    | error => trivial
    | ok n =>
      intro entry' he' h0
      obtain ⟨hs, he⟩ := hf file rfl
      obtain ⟨entry, he, hp⟩ := he entry' he'
      rw [hs, hp]
      exact h entry he (hp ▸ h0)
  case newPageBuild page init f validator | newPageFinish page f built outcome =>
    obtain ⟨hs, -⟩ := hf page.fileId rfl
    simp only [Pc.Sized, hs]
    exact h
  all_goals trivial

section Steps

variable [DecidableEq T] [DecidableEq V] [NeZero N] [Fintype T] [Fintype V]
  {opts : BufferPoolOptions} {w w' : World N T V} {t u : T} {choice : Choice T V}

lemma World.Sized.others (h : w.Sized) (hi : w.Inv opts) (hx : w.Exclusive)
    (ha : Act opts w t choice w') (hu : u ≠ t) :
    (w'.pc u).Sized w'.pool.files.lookup w'.disk.pageCount := by
  rw [ha.others hu]
  refine (h.thread u).congr (fun file hf => ⟨?_, fun entry' he' => ?_⟩)
    fun file validator count hpc hn => ?_
  · rcases ha.pageCount file with hs | ⟨init, f, n, hpc, -⟩
    · exact hs
    · exact absurd (hi.turn_unique hf (by rw [hpc]; rfl)) hu
  · obtain ⟨entry, he, -⟩ := hi.turn_entry hf
    obtain ⟨known, hk, hp⟩ := ha.turn_kept hi hf he
    obtain rfl := Option.some.inj (hk.symm.trans he')
    exact ⟨entry, he, hp hu⟩
  · have hnone : w.pool.files.lookup file = none := by
      cases ha.registration hi file with
      | same hs => rwa [← hs]
      | opened _ _ h => exact h
      | closed _ hclose => exact absurd (hx u t file (by rw [hpc]; rfl) (by rw [hclose]; rfl)) hu
      | updated _ he' =>
        rw [hn] at he'
        cases he'
    refine ⟨hnone, ?_⟩
    rcases ha.pageCount file with hs | ⟨init, f, n, hext, -⟩
    · exact hs
    · have hturn : (w.pc t).turn = some file := by rw [hext]; rfl
      obtain ⟨entry, he, -⟩ := hi.turn_entry hturn
      rw [hnone] at he
      cases he

omit [Fintype T] [Fintype V] in
lemma World.Sized.self (h : w.Sized) (hok : HonestSize w (t, choice)) (ha : Act opts w t choice w') :
    (w'.pc t).Sized w'.pool.files.lookup w'.disk.pageCount := by
  have ht := h.thread t
  cases ha with
  | @critical turn hlock hcs hm =>
    rw [World.finish_pc]
    have hout := hm.not_fromOutside
    cases hpc : turn.pc
    case registerFile | newPageExtend | newPageReserved | newPageFinish =>
      rw [hpc] at hout
      cases hout
    case newPageCount file init f published =>
      rw [hpc] at hm
      obtain ⟨hfiles, entry, he, rfl⟩ := hm.newPageCount
      intro entry' he'
      obtain rfl : entry = entry' := Option.some.inj (he.symm.trans ((congrArg _ hfiles).symm.trans he'))
      rfl
    case newPageBuild page init f validator =>
      rw [hpc] at hm
      obtain ⟨hold, h0, entry, he, hp⟩ := hm.newPageBuild
      rw [hold] at ht
      exact (ht entry he (hp ▸ h0)).2
    all_goals trivial
  | registerCount hpc =>
    simp only [HonestSize, hpc] at hok
    rw [World.setPc_pc]
    exact fun _ => hok
  | @reusePage file init f published physical hpc hlt =>
    simp only [HonestSize, hpc] at hok
    rw [World.setPc_pc]
    rw [hpc] at ht
    intro entry he h0
    obtain rfl := ht entry he
    rcases h.size file entry he h0 with hs | ⟨hs, h1⟩
    · rw [hok, hs] at hlt
      exact absurd hlt (UInt64.lt_irrefl _)
    · exact ⟨rfl, hs, h1⟩
  | @needExtension file init f published physical hpc hlt =>
    simp only [HonestSize, hpc] at hok
    rw [World.setPc_pc]
    rw [hpc] at ht
    intro entry he h0
    obtain rfl := ht entry he
    rcases h.size file entry he h0 with hs | ⟨hs, h1⟩
    · exact hs
    · rw [hok, hs] at hlt
      exact absurd ((pageNo_succ_cases _).resolve_left h1) hlt
  | @extended file init f n hpc =>
    simp only [HonestSize, hpc] at hok
    obtain ⟨rfl, h1⟩ := hok
    rw [hpc] at ht
    simp only [World.setPc_pc]
    intro entry he h0
    have hs := ht entry he h0
    exact ⟨hs, by simp, h1⟩
  | buildNone hpc | build hpc =>
    rw [World.setPc_pc]
    rw [hpc] at ht
    exact ht
  | mutate | markDirty | move | noGuard | wake => exact ht
  | @call call =>
    rw [World.setPc_pc]
    cases call with
    | registerFile file validator =>
      rw [startCall]
      split <;> trivial
    | _ => trivial
  | written | writeFailed => simp [Pc.Sized]
  | release | assign =>
    rw [releaseGuard_pc]
    trivial
  | _ =>
    rw [World.setPc_pc]
    trivial

lemma World.Sized.step (h : w.Sized) (hi : w.Inv opts) (hx : w.Exclusive)
    (hok : HonestSize w (t, choice)) (ha : Act opts w t choice w') : w'.Sized where
  thread u := by
    by_cases hu : u = t
    · subst hu
      exact h.self hok ha
    · exact h.others hi hx ha hu
  size file entry' he' := by
    intro h0
    have extended {init : PageInitializer} {f : Fin N} {n : PageNo}
        (hpc : w.pc t = .newPageExtend file init f) (hc : choice = .extendFile (.ok n))
        {entry : FileEntry} (he : w.pool.files.lookup file = some entry)
        (he0 : entry.publishedPageCount ≠ 0) :
        w.disk.pageCount file = entry.publishedPageCount ∧ entry.publishedPageCount + 1 ≠ 0 := by
      have ht := h.thread t
      rw [hpc] at ht
      subst hc
      simp only [HonestSize, hpc] at hok
      have hs := ht entry he he0
      exact ⟨hs, by rw [← hs, ← hok.1]; exact hok.2⟩
    have kept {entry : FileEntry} (he : w.pool.files.lookup file = some entry)
        (hp : entry'.publishedPageCount = entry.publishedPageCount) :
        w'.disk.pageCount file = entry'.publishedPageCount ∨
          (w'.disk.pageCount file = entry'.publishedPageCount + 1 ∧
            entry'.publishedPageCount + 1 ≠ 0) := by
      rw [hp] at h0 ⊢
      rcases ha.pageCount file with hs | ⟨init, f, n, hpc, hc, -, hs⟩
      · rw [hs]
        exact h.size file entry he h0
      · obtain ⟨hold, h1⟩ := extended hpc hc he h0
        exact .inr ⟨hs.trans (by rw [hold]), h1⟩
    have moved {entry : FileEntry} (he : w.pool.files.lookup file = some entry) :
        w'.disk.pageCount file = entry'.publishedPageCount ∨
          (w'.disk.pageCount file = entry'.publishedPageCount + 1 ∧
            entry'.publishedPageCount + 1 ≠ 0) := by
      rcases ha.published hi he he' with ⟨hp, -⟩ | ⟨hp, -, f, hpc⟩
      · exact kept he hp
      · have ht := h.thread t
        rw [hpc] at ht
        rcases ha.pageCount file with hs | ⟨init, f, n, hext, -⟩
        · exact .inl (by rw [hs, hp, ht.1])
        · rw [hpc] at hext
          cases hext
    cases ha.registration hi file with
    | same hs => exact moved (hs.symm.trans he')
    | @opened validator count hc hpc hn hnew =>
      obtain rfl := Option.some.inj (hnew.symm.trans he')
      have ht := h.thread t
      rw [hpc] at ht
      rcases ha.pageCount file with hs | ⟨init, f, n, hext, -⟩
      · exact .inl (hs.trans (ht hn).symm)
      · rw [hpc] at hext
        cases hext
    | closed _ _ hn =>
      rw [hn] at he'
      cases he'
    | updated he _ => exact moved he

/-- Which `NewPage` calls have extended their file, among those that threads are in. -/
def recordExtension (extended : T → Bool) (_ : World N T V) (a : T × Choice T V)
    (_ : World N T V) : T → Bool :=
  match a.2 with
  | .call _ => Function.update extended a.1 false
  | .extendFile (.ok _) => Function.update extended a.1 true
  | _ => extended

def extensionSystem (opts : BufferPoolOptions) :
    System (World N T V × (T → Bool)) (T × Choice T V) :=
  (poolSystem opts).track (fun _ _ => false) recordExtension

/-- One lifecycle call per file at a time, over files that only the pool extends. -/
def Orderly (w : World N T V) (a : T × Choice T V) : Prop := OneLifecycle w a ∧ HonestSize w a

instance (w : World N T V) (a : T × Choice T V) : Decidable (Orderly w a) :=
  inferInstanceAs (Decidable (_ ∧ _))

/-- The size of a file is its published bound, or one page more. -/
structure World.BoundDiscipline (w : World N T V) (extended : T → Bool) : Prop where
  single : ∀ t u file, (w.pc t).turn = some file → (w.pc u).turn = some file → t = u
  size : ∀ file entry, w.pool.files.lookup file = some entry → entry.publishedPageCount ≠ 0 →
    w.disk.pageCount file = entry.publishedPageCount ∨
      w.disk.pageCount file = entry.publishedPageCount + 1
  reserved : ∀ t file init f n, w.pc t = .newPageReserved file init f (.ok n) →
    ∃ entry, w.pool.files.lookup file = some entry ∧
      (entry.publishedPageCount ≠ 0 → ¬ (n = 0 ∨ n ≠ entry.publishedPageCount))
  unextended : ∀ t file init error, w.pc t = .requestFailed (.newPage file init) error →
    extended t = false
  fetchable : ∀ page, Fetchable w.pool page → ∃ entry,
    w.pool.files.lookup page.fileId = some entry ∧ page.pageNo ≠ 0 ∧
      page.pageNo < entry.publishedPageCount

/-- The bound moves by one page for each successful `NewPage`, which returns that page. -/
structure BoundStep (w w' : World N T V) (t : T) (choice : Choice T V) : Prop where
  bound : ∀ file entry entry', w.pool.files.lookup file = some entry →
    w'.pool.files.lookup file = some entry' →
    (entry'.publishedPageCount = entry.publishedPageCount ∧ ∀ n, ¬ Creates w w' t ⟨file, n⟩) ∨
      (entry'.publishedPageCount = entry.publishedPageCount + 1 ∧
        entry.publishedPageCount < entry'.publishedPageCount ∧
        Creates w w' t ⟨file, entry.publishedPageCount⟩)
  creates : ∀ page, Creates w w' t page → ∃ entry entry',
    w.pool.files.lookup page.fileId = some entry ∧
    w'.pool.files.lookup page.fileId = some entry' ∧ page.pageNo = entry.publishedPageCount ∧
    entry'.publishedPageCount = page.pageNo + 1
  failed : ∀ file init error, choice = .run → w.pc t = .requestFailed (.newPage file init) error →
    w'.pc t = .idle (.newPage file (.error { error with operation := .newPage })) ∧
      w'.disk = w.disk

variable {x x' : World N T V × (T → Bool)}

omit [Fintype T] [Fintype V] in
lemma Act.unextended (ha : Act opts w t choice w') (h : (w'.pc t).unextended = true)
    {extended : T → Bool} (hw : (w.pc t).unextended = true → extended t = false) :
    recordExtension extended w (t, choice) w' t = false := by
  cases ha with
  | critical hlock hcs hm =>
    rw [World.finish_pc] at h
    exact hw (hm.unextended h)
  | call => exact Function.update_self ..
  | extended | extendFailed => simp [Pc.unextended, Pc.asking] at h
  | mutate | markDirty | move | noGuard | wake => exact hw h
  | synced hpc | syncFailed hpc =>
    rw [World.setPc_pc] at h
    rw [hpc] at hw
    exact hw h
  | written hpc | writeFailed hpc =>
    rw [hpc] at hw
    exact hw (by simpa [Pc.unextended, Pc.asking] using h)
  | release | assign =>
    rw [releaseGuard_pc] at h
    cases h
  | _ =>
    rw [World.setPc_pc] at h
    cases h

structure World.Bounded (w : World N T V) (opts : BufferPoolOptions) (extended : T → Bool) :
    Prop where
  inv : w.Inv opts
  exclusive : w.Exclusive
  sized : w.Sized
  unextended : ∀ t, (w.pc t).unextended = true → extended t = false

omit [DecidableEq V] [NeZero N] [Fintype T] [Fintype V] in
lemma recordExtension_others (extended : T → Bool) (hu : u ≠ t) :
    recordExtension extended w (t, choice) w' u = extended u := by
  simp only [recordExtension]
  split <;> simp [hu]

lemma World.Bounded.step {extended : T → Bool} (h : w.Bounded opts extended)
    (hok : Orderly w (t, choice)) (ha : Act opts w t choice w')
    (hs : (poolSystem opts).step w (t, choice) = some w') :
    w'.Bounded opts (recordExtension extended w (t, choice) w') where
  inv := h.inv.step (h.exclusive.closesAlone _) hs
  exclusive := h.exclusive.step h.inv.accounted hok.1 ha
  sized := h.sized.step h.inv h.exclusive hok.2 ha
  unextended u hu := by
    by_cases hut : u = t
    · subst hut
      exact ha.unextended hu (h.unextended u)
    · rw [recordExtension_others extended hut]
      rw [ha.others hut] at hu
      exact h.unextended u hu

lemma bounded_of_run (h : Run (extensionSystem opts) (fun x a => Orderly x.1 a) x) :
    x.1.Bounded opts x.2 := by
  refine h.invariant (I := fun y => y.1.Bounded opts y.2) ?_ ?_
  · rintro ⟨w, extended⟩ ⟨⟨disk, hw⟩, hx⟩
    dsimp only at hw hx ⊢
    subst hw hx
    refine ⟨World.Inv.initial disk, ?_, ⟨fun t => trivial, ?_⟩, fun t _ => rfl⟩
    · rintro t u file ht -
      cases ht
    · rintro file entry he
      cases he
  · rintro y ⟨t, choice⟩ y' hy hok hs
    obtain ⟨hs, hrec⟩ := track_step.mp hs
    rw [hrec]
    exact hy.step hok (step_act hs) hs

lemma World.Bounded.discipline (h : x.1.Bounded opts x.2) : x.1.BoundDiscipline x.2 where
  single t u file := h.inv.turn_unique
  size file entry he h0 := (h.sized.size file entry he h0).imp_right And.left
  reserved t file init f n hpc := by
    have hturn : (x.1.pc t).turn = some file := by rw [hpc]; rfl
    obtain ⟨entry, he, -⟩ := h.inv.turn_entry hturn
    have ht := h.sized.thread t
    rw [hpc] at ht
    refine ⟨entry, he, fun h0 => ?_⟩
    obtain ⟨rfl, -⟩ := ht entry he h0
    rintro (hz | hne)
    · exact h0 hz
    · exact hne rfl
  unextended t file init error hpc := h.unextended t (by rw [hpc]; rfl)
  fetchable page hf := by
    obtain ⟨-, entry, he, -, h0, hlt⟩ := hf.file
    exact ⟨entry, he, h0, hlt⟩

lemma World.Bounded.boundStep {extended : T → Bool} (h : w.Bounded opts extended)
    (ha : Act opts w t choice w') : BoundStep w w' t choice where
  bound file entry entry' he he' := by
    rcases ha.published h.inv he he' with hp | ⟨hp, hc, f, hpc⟩
    · exact .inl hp
    · have ht := h.sized.thread t
      rw [hpc] at ht
      refine .inr ⟨hp, ?_, hc⟩
      rw [hp]
      exact (pageNo_succ_cases _).resolve_left ht.2
  creates page hc := by
    obtain ⟨f, hpc⟩ := hc.finishing ha
    have hturn : (w.pc t).turn = some page.fileId := by rw [hpc]; rfl
    obtain ⟨entry, he, -⟩ := h.inv.turn_entry hturn
    obtain ⟨entry', he', -⟩ := ha.turn_kept h.inv hturn he
    have hn := (h.inv.building_published hpc he).1
    refine ⟨entry, entry', he, he', hn, ?_⟩
    rcases ha.published h.inv he he' with ⟨-, hnc⟩ | ⟨hp, -⟩
    · exact absurd hc (hnc page.pageNo)
    · rw [hp, hn]
  failed file init error hc hpc := by
    subst hc
    have hturn : (w.pc t).turn = some file := by rw [hpc]; rfl
    obtain ⟨entry, he, -⟩ := h.inv.turn_entry hturn
    cases ha with
    | critical hlock hcs hm =>
      rw [World.finish_pc]
      rw [hpc] at hcs
      obtain rfl := Option.some.inj hcs
      simp only [requestFailed, finishFailed, he]
      exact ⟨trivial, rfl⟩
    | _ => simp_all

theorem published_bound_discipline
    (h : Run (extensionSystem opts) (fun x a => Orderly x.1 a) x) :
    x.1.BoundDiscipline x.2 ∧
      ∀ t choice x', (extensionSystem opts).step x (t, choice) = some x' →
        BoundStep x.1 x'.1 t choice :=
  ⟨(bounded_of_run h).discipline, fun _ _ _ hs =>
    (bounded_of_run h).boundStep (step_act (track_step.mp hs).1)⟩

end Steps

section Sample

lemma sampleExtension_runs : (execute (extensionSystem sampleOptions)
    (fun x a => Orderly x.1 a)
    ((World.initial sampleDisk : World 1 Bool Unit), fun _ => false)
    (sampleRegister false 1 ++ sampleNewPage false 1)).isSome := by decide +kernel

def sampleExtension : World 1 Bool Unit × (Bool → Bool) := Option.get _ sampleExtension_runs

lemma sampleExtension_run :
    Run (extensionSystem sampleOptions) (fun x a => Orderly x.1 a) sampleExtension :=
  Run.of_execute (S := extensionSystem sampleOptions) (.start ⟨⟨sampleDisk, rfl⟩, rfl⟩)
    sampleExtension_runs

theorem published_bound_discipline_new_page :
    (sampleExtension.1.pool.files.lookup sampleFile).map FileEntry.publishedPageCount = some 2 ∧
      sampleExtension.1.disk.pageCount sampleFile = 2 ∧
      sampleExtension.1.BoundDiscipline sampleExtension.2 :=
  ⟨by decide +kernel, by decide +kernel, (published_bound_discipline sampleExtension_run).1⟩

end Sample

end DBlusBlus.BufferPool
