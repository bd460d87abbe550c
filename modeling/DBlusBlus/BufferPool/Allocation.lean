import DBlusBlus.BufferPool.PublishedBound
import DBlusBlus.Disk.Extend
import DBlusBlus.File.PageFile

/-! Raw allocation of pages beside the pages that the pool creates in the same files. -/

namespace DBlusBlus.BufferPool

open Accounting Transition

variable {N : ℕ} {T V : Type} {file : FileId} {page : PageId}

inductive AllocationStep (T V : Type)
  | pool (t : T) (choice : Choice T V)
  | allocate (file : PageFile) (extended : DiskResult PageNo)

/-- The pool together with the pages that each of the two allocators has returned. -/
structure Allocation (N : ℕ) (T V : Type) where
  world : World N T V
  created : List PageId
  allocated : List PageId

namespace Allocation

/-- `ExtendFile` holds the extension mutex of the disk manager from the size to the truncation. -/
def extend (w : World N T V) (file : FileId) : World N T V :=
  { w with disk := { w.disk with
    pageCount := Function.update w.disk.pageCount file (w.disk.pageCount file + 1) } }

def allocate (a : Allocation N T V) (file : PageFile) (extended : DiskResult PageNo) :
    Allocation N T V where
  world := match file.isOpen, extended with
    | true, .ok _ => extend a.world file.superblock.fileId
    | _, _ => a.world
  created := a.created
  allocated := match file.allocatePage extended with
    | .ok page => page :: a.allocated
    | .error _ => a.allocated

lemma allocate_cases (a : Allocation N T V) (pageFile : PageFile)
    (extended : DiskResult PageNo) :
    (∃ n, extended = .ok n ∧ (a.allocate pageFile extended).world =
        extend a.world pageFile.superblock.fileId ∧
      ((a.allocate pageFile extended).allocated = ⟨pageFile.superblock.fileId, n⟩ :: a.allocated ∨
        (a.allocate pageFile extended).allocated = a.allocated)) ∨
    a.allocate pageFile extended = a := by
  cases hopen : pageFile.isOpen with
  | false => exact .inr (by simp [allocate, PageFile.allocatePage, hopen])
  | true =>
    cases extended with
    | error error => exact .inr (by simp [allocate, PageFile.allocatePage, hopen])
    | ok n =>
      refine .inl ⟨n, rfl, by simp [allocate, hopen], ?_⟩
      by_cases hn : n = 0
      · exact .inr (by simp [allocate, PageFile.allocatePage, hopen, hn])
      · exact .inl (by simp [allocate, PageFile.allocatePage, hopen, hn])

lemma extend_within (w : World N T V) {file other : FileId} {n : PageNo}
    (h1 : w.disk.pageCount file + 1 ≠ 0) (h : n < w.disk.pageCount other) :
    n < (extend w file).disk.pageCount other := by
  by_cases ho : other = file
  · subst ho
    rw [extend]
    simp only [Function.update_self]
    exact UInt64.lt_trans h ((pageNo_succ_cases _).resolve_left h1)
  · simpa [extend, ho] using h

def step [DecidableEq T] [DecidableEq V] [NeZero N] (opts : BufferPoolOptions) (a : Allocation N T V) :
    AllocationStep T V → Option (Allocation N T V)
  | .pool t choice => (BufferPool.step opts a.world t choice).map fun w' =>
    ⟨w', recordCreated a.created a.world w' t, a.allocated⟩
  | .allocate file extended => some (a.allocate file extended)

end Allocation

def allocationSystem [NeZero N] [DecidableEq T] [DecidableEq V] (opts : BufferPoolOptions) :
    System (Allocation N T V) (AllocationStep T V) where
  initial a := ∃ disk, a = ⟨World.initial disk, [], []⟩
  step := Allocation.step opts

/-- Lifecycle calls on a file come one at a time, and the disk manager reports the size of a file
and extends it by its next page. -/
def HonestAllocation (a : Allocation N T V) : AllocationStep T V → Prop
  | .pool t choice => Orderly a.world (t, choice)
  | .allocate file (.ok n) =>
    n = a.world.disk.pageCount file.superblock.fileId ∧ n + 1 ≠ 0
  | .allocate _ (.error _) => True

/-- `NewPage` takes over the page past its bound only if that page is a leftover of its own. -/
def OwnLeftover (a : Allocation N T V) : AllocationStep T V → Prop
  | .pool t (.pageCount (.ok physical)) =>
    match a.world.pc t with
    | .newPageCount file _ _ published =>
      published < physical → ⟨file, published⟩ ∉ a.allocated
    | _ => True
  | _ => True

def OwnExtension (a : Allocation N T V) (label : AllocationStep T V) : Prop :=
  HonestAllocation a label ∧ OwnLeftover a label

section Decidable

variable (a : Allocation N T V) (label : AllocationStep T V)

instance : Decidable (OwnLeftover a label) :=
  decidable_of_bool
    (match label with
    | .pool t (.pageCount (.ok physical)) =>
      match a.world.pc t with
      | .newPageCount file _ _ published =>
        decide (published < physical → ⟨file, published⟩ ∉ a.allocated)
      | _ => true
    | _ => true)
    (by
      unfold OwnLeftover
      split
      · split <;> simp only [*, decide_eq_true_eq]
      · simp [*])

variable [DecidableEq T] [Fintype T]

instance : Decidable (HonestAllocation a label) :=
  decidable_of_bool
    (match label with
    | .pool t choice => decide (Orderly a.world (t, choice))
    | .allocate file (.ok n) =>
      decide (n = a.world.disk.pageCount file.superblock.fileId ∧ n + 1 ≠ 0)
    | .allocate _ (.error _) => true)
    (by unfold HonestAllocation; split <;> simp [*])

instance : Decidable (OwnExtension a label) := inferInstanceAs (Decidable (_ ∧ _))

end Decidable

lemma honest_of_extendFile (a : Allocation N T V) (pageFile : PageFile) {path : Option String}
    {fstat : Except ℤ ℤ} (ftruncate : ℕ → Option ℤ)
    (h : pageCount pageFile.superblock.fileId path fstat =
      .ok (a.world.disk.pageCount pageFile.superblock.fileId)) :
    HonestAllocation a
      (.allocate pageFile (extendFile pageFile.superblock.fileId path fstat ftruncate)) := by
  cases he : extendFile pageFile.superblock.fileId path fstat ftruncate with
  | error error => trivial
  | ok n =>
    obtain ⟨hn, h1⟩ := extendFile_eq_ok he
    rw [h] at hn
    obtain rfl := Except.ok.inj hn
    exact ⟨rfl, h1⟩

/-- The page that a `NewPage` call has reserved. -/
def Pc.constructing : Pc N V → Option PageId
  | .newPageReserved file _ _ (.ok n) => some ⟨file, n⟩
  | .newPageBuild page _ _ _ | .newPageFinish page _ _ _ => some page
  | _ => none

structure Allocation.Fresh (a : Allocation N T V) : Prop where
  allocated : ∀ page ∈ a.allocated, page.pageNo < a.world.disk.pageCount page.fileId
  created : ∀ page ∈ a.created, page.pageNo < a.world.disk.pageCount page.fileId
  published : ∀ page ∈ a.created, ∀ entry, a.world.pool.files.lookup page.fileId = some entry →
    page.pageNo < entry.publishedPageCount
  registering : ∀ t file validator count, a.world.pc t = .registerFile file validator count →
    a.world.pool.files.lookup file = none → ∀ page ∈ a.created, page.fileId = file →
      page.pageNo < count
  constructing : ∀ t page, (a.world.pc t).constructing = some page →
    page.pageNo < a.world.disk.pageCount page.fileId ∧ page ∉ a.allocated
  nodup : (a.created ++ a.allocated).Nodup

section Moves

variable [NeZero N] {pool pool' : Pool N} {pc pc' : Pc N V} {opts : BufferPoolOptions}

lemma Move.constructing (hm : Move opts pool pc pool' pc') (hc : pc'.constructing = some page) :
    pc.constructing = some page := by
  have hout := hm.not_fromOutside
  cases pc' with
  | newPageReserved | newPageFinish => cases hout
  | newPageBuild =>
    obtain rfl := Option.some.inj hc
    rw [hm.newPageBuild.1]
    rfl
  | _ => cases hc

end Moves

section Steps

variable [DecidableEq T] [DecidableEq V] [NeZero N] [Fintype T] [Fintype V]
  {opts : BufferPoolOptions} {w w' : World N T V} {t u : T} {choice : Choice T V}
  {a a' : Allocation N T V}

/-- A page is reserved by reuse, by extension, or it was reserved before the step. -/
inductive Reservation (w : World N T V) (t : T) (choice : Choice T V) (page : PageId) : Prop
  | kept : (w.pc t).constructing = some page → Reservation w t choice page
  | reused {init f physical} : w.pc t = .newPageCount page.fileId init f page.pageNo →
    choice = .pageCount (.ok physical) → page.pageNo < physical → Reservation w t choice page
  | extended {init f} : w.pc t = .newPageExtend page.fileId init f →
    choice = .extendFile (.ok page.pageNo) → Reservation w t choice page

omit [Fintype T] [Fintype V] in
lemma Act.constructing (ha : Act opts w t choice w') (hc : (w'.pc t).constructing = some page) :
    Reservation w t choice page := by
  cases ha with
  | critical hlock hcs hm =>
    rw [World.finish_pc] at hc
    exact .kept (hm.constructing hc)
  | reusePage hpc hlt =>
    rw [World.setPc_pc] at hc
    obtain rfl := Option.some.inj hc
    exact .reused hpc rfl hlt
  | extended hpc =>
    simp only [World.setPc_pc] at hc
    obtain rfl := Option.some.inj hc
    exact .extended hpc rfl
  | buildNone hpc | build hpc =>
    rw [World.setPc_pc] at hc
    exact .kept (by rw [hpc]; exact hc)
  | mutate | markDirty | move | noGuard | wake => exact .kept hc
  | @call call =>
    rw [World.setPc_pc] at hc
    cases call with
    | registerFile file validator =>
      rw [startCall] at hc
      split at hc <;> cases hc
    | _ => cases hc
  | written | writeFailed => simp [Pc.constructing] at hc
  | release | assign =>
    rw [releaseGuard_pc] at hc
    cases hc
  | _ =>
    rw [World.setPc_pc] at hc
    cases hc

omit [Fintype T] [Fintype V] in
lemma Act.within (ha : Act opts w t choice w') (hok : HonestSize w (t, choice)) {n : PageNo}
    (h : n < w.disk.pageCount file) : n < w'.disk.pageCount file := by
  rcases ha.pageCount file with hs | ⟨init, f, m, hpc, rfl, -, hs⟩
  · rwa [hs]
  · simp only [HonestSize, hpc] at hok
    rw [hs]
    refine UInt64.lt_trans h ((pageNo_succ_cases _).resolve_left ?_)
    rw [← hok.1]
    exact hok.2

namespace Allocation.Fresh

lemma creates (h : a.Fresh) (hi : a.world.Inv opts) (ha : Act opts a.world t choice w')
    (hc : Creates a.world w' t page) : page.pageNo < a.world.disk.pageCount page.fileId ∧
      page ∉ a.created ∧ page ∉ a.allocated ∧ ∃ entry entry',
        a.world.pool.files.lookup page.fileId = some entry ∧
        w'.pool.files.lookup page.fileId = some entry' ∧ page.pageNo = entry.publishedPageCount ∧
        entry'.publishedPageCount = page.pageNo + 1 := by
  obtain ⟨f, hpc⟩ := hc.finishing ha
  obtain ⟨hlt, hna⟩ := h.constructing t page (by rw [hpc]; rfl)
  have hturn : (a.world.pc t).turn = some page.fileId := by rw [hpc]; rfl
  obtain ⟨entry, he, -⟩ := hi.turn_entry hturn
  obtain ⟨entry', he', -⟩ := ha.turn_kept hi hturn he
  have hn := (hi.building_published hpc he).1
  refine ⟨hlt, fun hcr => ?_, hna, entry, entry', he, he', hn, ?_⟩
  · have := h.published page hcr entry he
    rw [hn] at this
    exact UInt64.lt_irrefl _ this
  · rcases ha.published hi he he' with ⟨-, hnc⟩ | ⟨hp, -⟩
    · exact absurd hc (hnc page.pageNo)
    · rw [hp, hn]

lemma published_step (h : a.Fresh) (hi : a.world.Inv opts) (ha : Act opts a.world t choice w')
    {page : PageId} (hp : page ∈ a.created) {entry' : FileEntry}
    (he' : w'.pool.files.lookup page.fileId = some entry') :
    page.pageNo < entry'.publishedPageCount := by
  have moved {entry : FileEntry} (he : a.world.pool.files.lookup page.fileId = some entry) :
      page.pageNo < entry'.publishedPageCount := by
    have hlt := h.published page hp entry he
    rcases ha.published hi he he' with ⟨hp, -⟩ | ⟨hp, -, f, hpc⟩
    · rwa [hp]
    · obtain ⟨hsize, -⟩ := h.constructing t _ (by rw [hpc]; rfl)
      rw [hp]
      exact UInt64.lt_trans hlt (pageNo_lt_succ_of_lt hsize)
  cases ha.registration hi page.fileId with
  | same hs => exact moved (hs.symm.trans he')
  | @opened validator count hc hpc hn hnew =>
    obtain rfl := Option.some.inj (hnew.symm.trans he')
    exact h.registering t _ _ _ hpc hn page hp rfl
  | closed _ _ hn =>
    rw [hn] at he'
    cases he'
  | updated he _ => exact moved he

lemma registering_step (h : a.Fresh) (hi : a.world.Inv opts) (hx : a.world.Exclusive)
    (hok : HonestSize a.world (t, choice)) (ha : Act opts a.world t choice w')
    {validator : PageValidator} {count : PageNo} (hpc : w'.pc u = .registerFile file validator count)
    (hn : w'.pool.files.lookup file = none) {page : PageId} (hp : page ∈ a.created)
    (hf : page.fileId = file) : page.pageNo < count := by
  by_cases hu : u = t
  · subst hu
    have hsize := h.created page hp
    rw [hf] at hsize
    cases ha with
    | critical hlock hcs hm =>
      rw [World.finish_pc] at hpc
      rw [hpc] at hm
      cases hm.not_fromOutside
    | registerCount hold =>
      rw [World.setPc_pc] at hpc
      cases hpc
      simp only [HonestSize, hold] at hok
      rwa [hok]
    | mutate | markDirty | move | noGuard | wake =>
      exact h.registering _ _ _ _ hpc hn page hp hf
    | @call call =>
      rw [World.setPc_pc] at hpc
      cases call with
      | registerFile file validator =>
        rw [startCall] at hpc
        split at hpc <;> cases hpc
      | _ => cases hpc
    | _ => simp_all
  · rw [ha.others hu] at hpc
    have hnone : a.world.pool.files.lookup file = none := by
      cases ha.registration hi file with
      | same hs => rwa [← hs]
      | opened _ _ hnone => exact hnone
      | closed _ hclose =>
        exact absurd (hx u t file (by rw [hpc]; rfl) (by rw [hclose]; rfl)) hu
      | updated _ he' =>
        rw [hn] at he'
        cases he'
    exact h.registering u file validator count hpc hnone page hp hf

theorem pool_step (h : a.Fresh) (hi : a.world.Inv opts) (hx : a.world.Exclusive)
    (hok : HonestSize a.world (t, choice)) (hown : OwnLeftover a (.pool t choice))
    (ha : Act opts a.world t choice w') :
    Allocation.Fresh ⟨w', recordCreated a.created a.world w' t, a.allocated⟩ where
  allocated page hp := ha.within hok (h.allocated page hp)
  created page hp := by
    rcases recordCreated_cases a.created a.world w' t with ⟨hr, -⟩ | ⟨new, hc, hr⟩
    · rw [hr] at hp
      exact ha.within hok (h.created page hp)
    · rw [hr] at hp
      rcases List.mem_cons.mp hp with rfl | hp
      · exact ha.within hok (h.creates hi ha hc).1
      · exact ha.within hok (h.created page hp)
  published page hp entry' he' := by
    rcases recordCreated_cases a.created a.world w' t with ⟨hr, -⟩ | ⟨new, hc, hr⟩
    · rw [hr] at hp
      exact h.published_step hi ha hp he'
    · rw [hr] at hp
      rcases List.mem_cons.mp hp with rfl | hp
      · obtain ⟨hsize, -, -, -, known, -, hk, -, hpub⟩ := h.creates hi ha hc
        obtain rfl := Option.some.inj (hk.symm.trans he')
        rw [hpub]
        exact pageNo_lt_succ_of_lt hsize
      · exact h.published_step hi ha hp he'
  registering u file validator count hpc hn page hp hf := by
    rcases recordCreated_cases a.created a.world w' t with ⟨hr, -⟩ | ⟨new, hc, hr⟩
    · rw [hr] at hp
      exact h.registering_step hi hx hok ha hpc hn hp hf
    · rw [hr] at hp
      rcases List.mem_cons.mp hp with rfl | hp
      · obtain ⟨-, -, -, -, known, -, hk, -⟩ := h.creates hi ha hc
        rw [hf, hn] at hk
        cases hk
      · exact h.registering_step hi hx hok ha hpc hn hp hf
  constructing u page hpc := by
    have kept (hpc : (a.world.pc u).constructing = some page) :
        page.pageNo < w'.disk.pageCount page.fileId ∧ page ∉ a.allocated := by
      obtain ⟨hlt, hna⟩ := h.constructing u page hpc
      exact ⟨ha.within hok hlt, hna⟩
    by_cases hu : u = t
    · subst hu
      cases ha.constructing hpc with
      | kept hpc => exact kept hpc
      | reused hold hc hlt =>
        subst hc
        simp only [HonestSize, hold] at hok
        simp only [OwnLeftover, hold] at hown
        rw [hok] at hlt
        refine ⟨ha.within (by simpa only [HonestSize, hold] using hok) hlt, ?_⟩
        exact hown (hok ▸ hlt)
      | extended hold hc =>
        subst hc
        simp only [HonestSize, hold] at hok
        refine ⟨?_, fun hm => ?_⟩
        · cases ha with
          | extended hpc' =>
            rw [hold] at hpc'
            cases hpc'
            simp only [Function.update_self]
            rw [← hok.1]
            exact (pageNo_succ_cases _).resolve_left hok.2
        · have := h.allocated page hm
          rw [hok.1] at this
          exact UInt64.lt_irrefl _ this
    · rw [ha.others hu] at hpc
      exact kept hpc
  nodup := by
    rcases recordCreated_cases a.created a.world w' t with ⟨hr, -⟩ | ⟨new, hc, hr⟩
    · rw [hr]
      exact h.nodup
    · rw [hr]
      obtain ⟨-, hcr, hal, -⟩ := h.creates hi ha hc
      refine List.nodup_cons.mpr ⟨?_, h.nodup⟩
      simp [hcr, hal]

omit [NeZero N] [Fintype T] [Fintype V] [DecidableEq T] [DecidableEq V] in
theorem allocate_step (h : a.Fresh) {pageFile : PageFile} {extended : DiskResult PageNo}
    (hok : HonestAllocation a (.allocate pageFile extended)) :
    (a.allocate pageFile extended).Fresh := by
  rcases a.allocate_cases pageFile extended with ⟨n, rfl, hw, hal⟩ | heq
  · obtain ⟨hn, h1⟩ := hok
    rw [hn] at h1
    have new {page : PageId} (hlt : page.pageNo < a.world.disk.pageCount page.fileId) :
        page ≠ ⟨pageFile.superblock.fileId, n⟩ := by
      rintro rfl
      rw [hn] at hlt
      exact UInt64.lt_irrefl _ hlt
    have old {page : PageId} (hp : page ∈ (a.allocate pageFile (.ok n)).allocated) :
        page = ⟨pageFile.superblock.fileId, n⟩ ∨ page ∈ a.allocated := by
      rcases hal with hal | hal
      · exact List.mem_cons.mp (hal ▸ hp)
      · exact .inr (hal ▸ hp)
    refine ⟨fun page hp => ?_, fun page hp => ?_, fun page hp entry he => ?_,
      fun t file validator count hpc hnone page hp hf => ?_, fun t page hpc => ?_, ?_⟩
    · rw [hw]
      rcases old hp with rfl | hp
      · simp only [extend, Function.update_self]
        rw [hn]
        exact (pageNo_succ_cases _).resolve_left h1
      · exact extend_within _ h1 (h.allocated page hp)
    · rw [hw]
      exact extend_within _ h1 (h.created page hp)
    · rw [hw] at he
      exact h.published page hp entry he
    · rw [hw] at hpc hnone
      exact h.registering t file validator count hpc hnone page hp hf
    · rw [hw] at hpc ⊢
      obtain ⟨hlt, hna⟩ := h.constructing t page hpc
      refine ⟨extend_within _ h1 hlt, fun hp => ?_⟩
      rcases old hp with heq | hp
      · exact new hlt heq
      · exact hna hp
    · rcases hal with hal | hal
      · rw [hal]
        refine List.nodup_middle.mpr (List.nodup_cons.mpr ⟨fun hm => ?_, h.nodup⟩)
        rcases List.mem_append.mp hm with hm | hm
        · exact new (h.created _ hm) rfl
        · exact new (h.allocated _ hm) rfl
      · rw [hal]
        exact h.nodup
  · rw [heq]
    exact h

end Allocation.Fresh

lemma fresh_of_run (h : Run (allocationSystem opts) OwnExtension a) :
    (a.world.Inv opts ∧ a.world.Exclusive) ∧ a.Fresh := by
  refine h.invariant (I := fun b => (b.world.Inv opts ∧ b.world.Exclusive) ∧ b.Fresh) ?_ ?_
  · rintro b ⟨disk, rfl⟩
    refine ⟨⟨World.Inv.initial disk, ?_⟩, by simp, by simp, by simp, ?_, ?_, by simp⟩
    · rintro t u file ht -
      cases ht
    · rintro t file validator count hpc
      cases hpc
    · rintro t page hpc
      cases hpc
  · rintro b label b' ⟨⟨hi, hx⟩, hf⟩ ⟨hok, hown⟩ hs
    cases label with
    | pool t choice =>
      obtain ⟨w', hw, rfl⟩ := Option.map_eq_some_iff.mp hs
      have ha := step_act hw
      exact ⟨⟨hi.step (hx.closesAlone (t, choice)) hw, hx.step hi.accounted hok.1 ha⟩,
        hf.pool_step hi hx hok.2 hown ha⟩
    | allocate pageFile extended =>
      obtain rfl := Option.some.inj hs
      refine ⟨?_, hf.allocate_step hok⟩
      rcases b.allocate_cases pageFile extended with ⟨n, -, hw, -⟩ | heq
      · rw [hw]
        exact ⟨⟨hi.wellFormed, hi.accounted, fun t => ⟨(hi.vacant t).1, (hi.vacant t).2⟩, hi.draining,
          hi.quiescing, hi.closed, hi.resetting⟩, hx⟩
      · rw [heq]
        exact ⟨hi, hx⟩

end Steps

section Sample

def samplePageFile : PageFile := ⟨true, ⟨.heap, sampleFile, 0, 0, 0⟩⟩

def inPool (script : List (Bool × Choice Bool Unit)) : List (AllocationStep Bool Unit) :=
  script.map fun a => .pool a.1 a.2

def sampleReuse (t : T) (count : PageNo) : List (T × Choice T V) :=
  sampleNewPageStart t sampleInitializer ++
    [(t, .pageCount (.ok count)), (t, .run), (t, .run), (t, .run), (t, .run)]

lemma sampleTwice_runs : (execute (allocationSystem sampleOptions) HonestAllocation
    (⟨World.initial sampleDisk, [], []⟩ : Allocation 1 Bool Unit)
    (inPool (sampleRegister false 1) ++ .allocate samplePageFile (.ok 1) ::
      inPool (sampleReuse false 2))).isSome := by decide +kernel

def sampleTwice : Allocation 1 Bool Unit := Option.get _ sampleTwice_runs

lemma sampleOnce_runs : (execute (allocationSystem sampleOptions) OwnExtension
    (⟨World.initial sampleDisk, [], []⟩ : Allocation 1 Bool Unit)
    (inPool (sampleRegister false 1 ++ sampleNewPage false 1) ++
      [.allocate samplePageFile (.ok 2)])).isSome := by decide +kernel

def sampleOnce : Allocation 1 Bool Unit := Option.get _ sampleOnce_runs

end Sample

end DBlusBlus.BufferPool
