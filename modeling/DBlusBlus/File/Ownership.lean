import DBlusBlus.File.Registration

/-! Page files own their registrations, each exactly one. -/

namespace DBlusBlus

namespace PageFile

variable {m : DiskManager} {path : String} {superblock : FileSuperblock} {fileId : FileId}
  {kind : FileKind} {objectId : Option UInt64} {answers : CreateAnswers} {openAnswers : OpenAnswers}

/-- What `Create` and `Open` may do for the registration of a file. -/
inductive Registers (m : DiskManager) (path : String) (fileId : FileId) :
    Except PageFileError PageFile × DiskManager → Prop
  | untouched (e) : Registers m path fileId (.error e, m)
  | rejected (e) : m.files fileId = none → Registers m path fileId (.error e, m.reject)
  | owned {file : PageFile} : m.files fileId = none → file.isOpen = true →
      file.superblock.fileId = fileId → Registers m path fileId (.ok file, m.emplace fileId path)

lemma cleanupRegistration_emplace {closeError : ℤ} (h : m.files fileId = none) :
    cleanupRegistration (m.emplace fileId path) fileId closeError = m.reject :=
  DiskManager.closeFile_emplace h

lemma create_registers (m : DiskManager) (path : String) (superblock : FileSuperblock)
    (answers : CreateAnswers) :
    Registers m path superblock.fileId (create m path superblock answers) := by
  unfold create
  obtain ⟨e, he⟩ | ⟨hfree, hc⟩ :=
    DiskManager.createFile_cases m superblock.fileId path answers.opened
  · rw [he]
    exact .untouched _
  · rw [hc]
    simp only [cleanupRegistration_emplace hfree]
    cases answers.pageCount with
    | error e => exact .rejected _ hfree
    | ok pageCount =>
      dsimp only
      split
      · exact .rejected _ hfree
      · cases answers.extended with
        | error e => exact .rejected _ hfree
        | ok extended =>
          dsimp only
          split
          · exact .rejected _ hfree
          · split
            · exact .rejected _ hfree
            · cases answers.write _ with
              | error e => exact .rejected _ hfree
              | ok u =>
                cases answers.sync with
                | error e => exact .rejected _ hfree
                | ok u => exact .owned hfree rfl rfl

lemma open_registers (m : DiskManager) (path : String) (fileId : FileId) (kind : FileKind)
    (objectId : Option UInt64) (answers : OpenAnswers) :
    Registers m path fileId (PageFile.open m path fileId kind objectId answers) := by
  unfold PageFile.open
  obtain ⟨e, he⟩ | ⟨hfree, ⟨e, he⟩ | hc⟩ :=
    DiskManager.openFile_cases m fileId path answers.opened answers.fstat
  · rw [he]
    exact .untouched _
  · rw [he]
    exact .rejected _ hfree
  · rw [hc]
    simp only [cleanupRegistration_emplace hfree]
    cases answers.pageCount with
    | error e => exact .rejected _ hfree
    | ok pageCount =>
      dsimp only
      split
      · exact .rejected _ hfree
      · cases answers.read with
        | error e => exact .rejected _ hfree
        | ok bytes =>
          dsimp only
          cases decodeFileSuperblock bytes with
          | error e => exact .rejected _ hfree
          | ok superblock =>
            dsimp only
            split
            · exact .rejected _ hfree
            · rename_i hid
              split
              · exact .rejected _ hfree
              · split
                · exact .rejected _ hfree
                · exact .owned hfree rfl (not_ne_iff.mp hid)

/-- What a superblock must agree with for `Open` to accept it. -/
structure Matches (superblock : FileSuperblock) (fileId : FileId) (kind : FileKind)
    (objectId : Option UInt64) : Prop where
  fileId : superblock.fileId = fileId
  kind : superblock.fileKind = kind
  objectId : ∀ id ∈ objectId, superblock.objectId = id

lemma open_eq_ok {file : PageFile}
    (h : (PageFile.open m path fileId kind objectId openAnswers).1 = .ok file) :
    ∃ bytes, openAnswers.read = .ok bytes ∧ decodeFileSuperblock bytes = .ok file.superblock ∧
      Matches file.superblock fileId kind objectId := by
  unfold PageFile.open at h
  split at h
  · cases h
  · simp only at h
    split at h
    · cases h
    · split at h
      · cases h
      · split at h
        · cases h
        · rename_i bytes hread
          split at h
          · cases h
          · rename_i superblock hdecode
            split at h
            · cases h
            · rename_i hid
              split at h
              · cases h
              · rename_i hkind
                split at h
                · cases h
                · rename_i hobject
                  obtain rfl := Except.ok.inj h
                  refine ⟨bytes, hread, hdecode, not_ne_iff.mp hid, not_ne_iff.mp hkind, ?_⟩
                  intro id hmem
                  rw [Option.filter_eq_none_iff] at hobject
                  have := hobject id hmem
                  simpa using this

/-- A failing `Create` or `Open` leaves the registrations as they were, and if the file is
registered it leaves everything as it was. -/
lemma Registers.failed {x : Except PageFileError PageFile × DiskManager} {e : PageFileError}
    (h : Registers m path fileId x) (he : x.1 = .error e) :
    x.2.files = m.files ∧ ((m.files fileId).isSome → x.2 = m) := by
  cases h with
  | untouched e => exact ⟨rfl, fun _ => rfl⟩
  | rejected e hfree =>
    refine ⟨rfl, fun h => ?_⟩
    rw [hfree] at h
    cases h
  | owned hfree hopen hid => cases he

lemma Registers.registered {x : Except PageFileError PageFile × DiskManager}
    (h : Registers m path fileId x) (hm : (m.files fileId).isSome) : ∃ e, x = (.error e, m) := by
  cases h with
  | untouched e => exact ⟨e, rfl⟩
  | rejected e hfree =>
    rw [hfree] at hm
    cases hm
  | owned hfree hopen hid =>
    rw [hfree] at hm
    cases hm

def owned (file : PageFile) : Option FileId :=
  if file.isOpen then some file.superblock.fileId else none

lemma owned_released (file : PageFile) : file.released.owned = none := rfl

end PageFile

namespace FileWorld

open Custody

variable {V : Type} [DecidableEq V] {w w' : FileWorld V} {v other : V} {file : PageFile}
  {fileId : FileId} {path : String} {closeError : ℤ}

def owners (var : V → Option PageFile) (v : V) : Option FileId := (var v).bind PageFile.owned

/-- The registered files are those that page files own, and each has one owner. -/
structure Owned (w : FileWorld V) : Prop where
  sound : w.disk.Sound
  exclusive : Exclusive (owners w.var)
  registered : ∀ id, (w.disk.files id).isSome ↔ Held (owners w.var) id

lemma owners_update (var : V → Option PageFile) (x : Option PageFile) :
    owners (Function.update var v x) = Function.update (owners var) v (x.bind PageFile.owned) :=
  Function.comp_update (fun x : Option PageFile => x.bind PageFile.owned) var v x

omit [DecidableEq V] in
lemma owners_eq {x : Option PageFile} (h : w.var v = x) : owners w.var v = x.bind PageFile.owned := by
  rw [owners, h]

lemma Owned.construct (h : Owned w) (hv : w.var v = none)
    {x : Except PageFileError PageFile × DiskManager} (hx : PageFile.Registers w.disk path fileId x) :
    Owned (w.construct v x) := by
  cases hx with
  | untouched e => exact h
  | rejected e hfree => exact ⟨h.sound.reject, h.exclusive, h.registered⟩
  | @owned file hfree hopen hid =>
    have hnot : ¬ Held (owners w.var) fileId := by
      rw [← h.registered, hfree]
      exact Bool.false_ne_true
    have howner : owners (w.construct v (.ok file, w.disk.emplace fileId path)).var =
        Function.update (owners w.var) v (some fileId) := by
      have hfile : file.owned = some fileId := by rw [PageFile.owned, if_pos hopen, hid]
      rw [FileWorld.construct, owners_update, Option.bind_some, hfile]
    refine ⟨h.sound.emplace hfree, ?_, fun id => ?_⟩
    · rw [howner]
      exact h.exclusive.acquire hnot
    · rw [howner, held_acquire (owners_eq hv), ← h.registered]
      simp only [FileWorld.construct, DiskManager.emplace_files]
      by_cases hid' : id = fileId
      · subst hid'
        rw [Function.update_self]
        exact ⟨fun _ => .inl rfl, fun _ => rfl⟩
      · rw [Function.update_of_ne hid']
        exact ⟨.inr, fun hh => hh.resolve_left hid'⟩

lemma Owned.take (h : Owned w) (hv : owners w.var v = none) (hother : w.var other = some file) :
    Owned (w.take v other file) := by
  have howner : owners (w.take v other file).var =
      Function.update (Function.update (owners w.var) other none) v (owners w.var other) := by
    rw [FileWorld.take, owners_update, owners_update, owners_eq hother]
    rfl
  obtain ⟨hex, hheld⟩ := h.exclusive.transfer (u := other) hv
  refine ⟨h.sound, ?_, fun id => ?_⟩
  · rw [howner]
    exact hex
  · rw [howner, hheld]
    exact h.registered id

lemma Owned.release (h : Owned w) (hv : w.var v = some file) {x : Option PageFile}
    (hx : x.bind PageFile.owned = none) (closeError : ℤ) :
    Owned ⟨file.release w.disk closeError, Function.update w.var v x⟩ := by
  have howner : owners (Function.update w.var v x) = Function.update (owners w.var) v none := by
    rw [owners_update, hx]
  have hown := owners_eq hv
  rw [Option.bind_some, PageFile.owned] at hown
  rw [PageFile.release]
  split
  · rename_i hopen
    rw [if_pos hopen] at hown
    obtain ⟨entry, hentry⟩ := Option.isSome_iff_exists.mp ((h.registered _).mpr ⟨v, hown⟩)
    obtain ⟨hfiles, hsound⟩ := h.sound.closeFile closeError hentry
    refine ⟨hsound, ?_, fun id => ?_⟩
    · rw [howner]
      exact h.exclusive.release
    · rw [howner, h.exclusive.held_release hown, ← h.registered, hfiles]
      by_cases hid : id = file.superblock.fileId
      · subst hid
        rw [Function.update_self]
        exact ⟨fun hh => absurd hh Bool.false_ne_true, fun hh => absurd rfl hh.1⟩
      · rw [Function.update_of_ne hid]
        exact ⟨fun hh => ⟨hid, hh⟩, fun hh => hh.2⟩
  · rename_i hopen
    rw [if_neg hopen] at hown
    rw [held_release_none hown] at howner
    refine ⟨h.sound, ?_, fun id => ?_⟩
    · rw [howner]
      exact h.exclusive
    · rw [howner]
      exact h.registered id

lemma Owned.step (h : Owned w) {a : FileAct V} (hs : w.step a = some w') : Owned w' := by
  cases a with
  | create v path superblock answers =>
    rw [FileWorld.step] at hs
    split at hs
    · cases hs
    · rename_i hv
      obtain rfl := Option.some.inj hs
      exact h.construct hv (PageFile.create_registers ..)
  | «open» v path file fileId kind objectId answers =>
    rw [FileWorld.step] at hs
    split at hs
    · cases hs
    · rename_i hv
      obtain rfl := Option.some.inj hs
      exact h.construct hv (PageFile.open_registers ..)
  | moveConstruct v other =>
    rw [FileWorld.step] at hs
    split at hs
    · rename_i file hv hother
      obtain rfl := Option.some.inj hs
      exact h.take (owners_eq hv) hother
    · cases hs
  | moveAssign v other closeError =>
    rw [FileWorld.step] at hs
    split at hs
    · rename_i old file hv hother
      split at hs
      · obtain rfl := Option.some.inj hs
        exact h
      · rename_i hne
        obtain rfl := Option.some.inj hs
        have hgiven : Owned (w.give v old closeError) := h.release hv rfl closeError
        refine hgiven.take ?_ ?_
        · rw [give, owners_update, Function.update_self]
          rfl
        · rw [give]
          dsimp only
          rw [Function.update_of_ne (Ne.symm hne), hother]
    · cases hs
  | destroy v closeError =>
    rw [FileWorld.step] at hs
    split at hs
    · rename_i file hv
      obtain rfl := Option.some.inj hs
      exact h.release hv rfl closeError
    · cases hs

theorem run_owned (h : Transition.Run (system V) Reads w) : Owned w := by
  refine h.invariant (fun w hw => ?_) fun w a w' h _ hs => h.step hs
  obtain rfl := hw
  refine ⟨⟨nofun, nofun, List.nodup_nil, nofun, nofun⟩, nofun, fun id => ?_⟩
  exact ⟨fun hh => absurd hh Bool.false_ne_true, fun ⟨v, hv⟩ => nomatch hv⟩

def Registered (m : DiskManager) (descriptor : ℕ) : Prop :=
  ∃ id entry, m.files id = some entry ∧ entry.descriptor = some descriptor

lemma closed_once {m : DiskManager} (hm : m.Sound) {d : ℕ} (hd : d < m.opened) :
    Registered m d ∧ m.closed.count d = 0 ∨ ¬ Registered m d ∧ m.closed.count d = 1 := by
  by_cases hr : Registered m d
  · obtain ⟨id, entry, he, hdesc⟩ := hr
    obtain ⟨d', hd', -, hnot⟩ := hm.live id entry he
    rw [hdesc] at hd'
    obtain rfl := Option.some.inj hd'
    exact .inl ⟨⟨id, entry, he, hdesc⟩, List.count_eq_zero_of_not_mem hnot⟩
  · have hmem := (hm.accounted d hd).resolve_right hr
    exact .inr ⟨hr, List.count_eq_one_of_mem hm.once hmem⟩

omit [DecidableEq V] in
lemma owners_eq_some {id : FileId} : owners w.var v = some id ↔
    ∃ file, w.var v = some file ∧ file.isOpen = true ∧ file.superblock.fileId = id := by
  rw [owners, Option.bind_eq_some_iff]
  refine exists_congr fun file => and_congr_right fun _ => ?_
  rw [PageFile.owned, Option.ite_none_right_eq_some, Option.some_inj]

lemma open_page {m : DiskManager} {bytes : List UInt8} {kind : FileKind} {objectId : Option UInt64}
    {answers : OpenAnswers} (hr : ReadAnswer ⟨fileId, 0⟩ path bytes answers.read)
    (h : (PageFile.open m path fileId kind objectId answers).1 = .ok file) :
    pageSize ≤ bytes.length ∧ decodeFileSuperblock (bytes.take pageSize) = .ok file.superblock ∧
      PageFile.Matches file.superblock fileId kind objectId := by
  obtain ⟨page, hread, hdecode, hmatches⟩ := PageFile.open_eq_ok h
  obtain ⟨outcomes, page', ⟨u, hok, hpage⟩ | ⟨e, he, -⟩⟩ := hr
  · rw [hread] at hok
    obtain rfl := Except.ok.inj hok
    obtain ⟨hlen, hbytes⟩ := Posix.readPage_ok hpage
    have hstart : Posix.pageStart 0 = 0 := by rw [Posix.pageStart, UInt64.toNat_zero, Nat.mul_zero]
    rw [hstart, Nat.zero_add] at hlen
    rw [hbytes, hstart, List.drop_zero] at hdecode
    exact ⟨hlen, hdecode, hmatches⟩
  · rw [hread] at he
    cases he

/-- In every state each registration has one owner and is closed once, when its owner gives it up;
failing calls change no registration; an opened file holds the superblock that was asked for. -/
theorem pageFile_ownership (hw : Transition.Run (system V) Reads w) :
    (∀ id, (w.disk.files id).isSome ↔ ∃ v file, w.var v = some file ∧ file.isOpen = true ∧
      file.superblock.fileId = id) ∧
    (∀ v u file file', w.var v = some file → w.var u = some file' → file.isOpen = true →
      file'.isOpen = true → file.superblock.fileId = file'.superblock.fileId → v = u) ∧
    (∀ d < w.disk.opened, Registered w.disk d ∧ w.disk.closed.count d = 0 ∨
      ¬ Registered w.disk d ∧ w.disk.closed.count d = 1) ∧
    (∀ path superblock answers e, (PageFile.create w.disk path superblock answers).1 = .error e →
      (PageFile.create w.disk path superblock answers).2.files = w.disk.files ∧
      ((w.disk.files superblock.fileId).isSome →
        (PageFile.create w.disk path superblock answers).2 = w.disk)) ∧
    (∀ path fileId kind objectId answers e,
      (PageFile.open w.disk path fileId kind objectId answers).1 = .error e →
      (PageFile.open w.disk path fileId kind objectId answers).2.files = w.disk.files ∧
      ((w.disk.files fileId).isSome →
        (PageFile.open w.disk path fileId kind objectId answers).2 = w.disk)) ∧
    ∀ path bytes fileId kind objectId answers file, ReadAnswer ⟨fileId, 0⟩ path bytes answers.read →
      (PageFile.open w.disk path fileId kind objectId answers).1 = .ok file →
      pageSize ≤ bytes.length ∧ decodeFileSuperblock (bytes.take pageSize) = .ok file.superblock ∧
        PageFile.Matches file.superblock fileId kind objectId := by
  have h := run_owned hw
  refine ⟨fun id => ?_, fun v u file file' hv hu ho ho' hid => ?_, fun d hd => closed_once h.sound hd,
    fun path superblock answers e he => ?_, fun path fileId kind objectId answers e he => ?_,
    fun path bytes fileId kind objectId answers file hr ho => open_page hr ho⟩
  · rw [h.registered]
    exact exists_congr fun v => owners_eq_some
  · exact h.exclusive v u _ (owners_eq_some.mpr ⟨file, hv, ho, hid⟩)
      (owners_eq_some.mpr ⟨file', hu, ho', rfl⟩)
  · exact (PageFile.create_registers ..).failed he
  · exact (PageFile.open_registers ..).failed he

def sampleSuperblock : FileSuperblock := ⟨.heap, ⟨7⟩, 0, 11, 0⟩

def sampleAnswers : CreateAnswers := ⟨none, .ok 0, .ok 0, fun _ => .ok (), .ok (), 0⟩

lemma create_sample (m : DiskManager) (h : m.files ⟨7⟩ = none) :
    PageFile.create m "heap" sampleSuperblock sampleAnswers =
      (.ok ⟨true, sampleSuperblock⟩, m.emplace ⟨7⟩ "heap") := by
  have hcreate : m.createFile ⟨7⟩ "heap" none = (.ok (), m.emplace ⟨7⟩ "heap") := by
    unfold DiskManager.createFile
    rw [if_neg (by decide), if_neg (by rw [h]; exact Bool.false_ne_true)]
  have hencode : (encodeFileSuperblock (List.replicate pageSize 0) sampleSuperblock).1 = true := by
    rw [encodeFileSuperblock_eq, if_pos ⟨List.length_replicate.ge, rfl⟩]
  unfold PageFile.create
  rw [show sampleSuperblock.fileId = ⟨7⟩ from rfl, show sampleAnswers.opened = none from rfl, hcreate]
  dsimp only [sampleAnswers]
  rw [if_neg (not_not.mpr rfl), if_neg (not_not.mpr rfl), if_neg (not_not.mpr hencode)]

def createdWorld : FileWorld Bool :=
  ⟨⟨Function.update (fun _ => none) ⟨7⟩ (some ⟨some 0, "heap"⟩), 1, []⟩,
    Function.update (fun _ => none) true (some ⟨true, sampleSuperblock⟩)⟩

/-- A file is created, moved to another variable, and the moved-from variable destroyed. -/
def sampleWorld : FileWorld Bool :=
  ⟨createdWorld.disk, Function.update
    (createdWorld.take false true ⟨true, sampleSuperblock⟩).var true none⟩

lemma sampleWorld_run : Transition.Run (system Bool) Reads sampleWorld := by
  have hcreate : Transition.Run (system Bool) Reads createdWorld := by
    refine .next (a := FileAct.create true "heap" sampleSuperblock sampleAnswers) (.start rfl)
      (by exact trivial) ?_
    unfold system FileWorld.step
    dsimp only
    rw [create_sample _ rfl]
    rfl
  have hmove : Transition.Run (system Bool) Reads
      (createdWorld.take false true ⟨true, sampleSuperblock⟩) :=
    .next (a := FileAct.moveConstruct false true) hcreate (by exact trivial) rfl
  exact .next (a := FileAct.destroy true 0) hmove (by exact trivial) rfl

theorem pageFile_ownership_sample :
    (sampleWorld.disk.files ⟨7⟩).isSome ∧ ¬ (sampleWorld.disk.files ⟨8⟩).isSome ∧
    (Registered sampleWorld.disk 0 ∧ sampleWorld.disk.closed.count 0 = 0 ∨
      ¬ Registered sampleWorld.disk 0 ∧ sampleWorld.disk.closed.count 0 = 1) := by
  obtain ⟨hiff, -, honce, -⟩ := pageFile_ownership sampleWorld_run
  refine ⟨(hiff _).mpr ⟨false, ⟨true, sampleSuperblock⟩, rfl, rfl, rfl⟩, by decide,
    honce 0 (by decide)⟩

end FileWorld

end DBlusBlus
