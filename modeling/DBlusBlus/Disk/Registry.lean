import DBlusBlus.Disk.Extend
import Mathlib.Logic.Function.Basic

/-! Registrations of files. A descriptor is named by how many were opened before it, and closing it
once more would show in the list of the closed ones. -/

namespace DBlusBlus

structure FileEntry where
  descriptor : Option ℕ
  path : String

structure DiskManager where
  files : FileId → Option FileEntry
  opened : ℕ
  closed : List ℕ

namespace DiskManager

variable (m : DiskManager) (fileId : FileId) (path : String)

def closeDescriptor (descriptor : Option ℕ) : DiskManager :=
  match descriptor with
  | some d => { m with closed := m.closed ++ [d] }
  | none => m

/-- The entry whose descriptor is the one opened last. -/
def emplace : DiskManager :=
  { m with
    files := Function.update m.files fileId (some ⟨some m.opened, path⟩), opened := m.opened + 1 }

def reject : DiskManager := { m with opened := m.opened + 1, closed := m.closed ++ [m.opened] }

/-- `opened` is the error number of `open`, if it fails. -/
def createFile (opened : Option ℤ) : DiskStatus × DiskManager :=
  if fileId = invalidFileId then
    (.error (makeDiskError .invalidFileIdentifier .createFile fileId path
      "cannot register INVALID_FILE_ID" 0), m)
  else if (m.files fileId).isSome then
    (.error (makeDiskError .duplicateFileId .createFile fileId path
      "FileId is already registered" 0), m)
  else
    match opened with
    | some errno =>
      (.error (makeDiskError .systemError .createFile fileId path "open(O_CREAT|O_EXCL) failed"
        errno), m)
    | none => (.ok (), m.emplace fileId path)

def openFile (opened : Option ℤ) (fstat : Except ℤ ℤ) : DiskStatus × DiskManager :=
  if fileId = invalidFileId then
    (.error (makeDiskError .invalidFileIdentifier .openFile fileId path
      "cannot register INVALID_FILE_ID" 0), m)
  else if (m.files fileId).isSome then
    (.error (makeDiskError .duplicateFileId .openFile fileId path
      "FileId is already registered" 0), m)
  else
    match opened with
    | some errno =>
      (.error (makeDiskError .systemError .openFile fileId path "open existing file failed" errno),
        m)
    | none =>
      match fstat with
      | .error errno =>
        (.error (makeDiskError .systemError .openFile fileId path "fstat failed while opening file"
          errno), m.reject)
      | .ok size =>
        if size < 0 ∨ size % pageSize ≠ 0 then
          (.error (makeDiskError .fileSizeNotPageAligned .openFile fileId path
            "page file size is not a multiple of PAGE_SIZE" 0), m.reject)
        else (.ok (), m.emplace fileId path)

def destroyEntry (entry : FileEntry) : DiskManager := m.closeDescriptor entry.descriptor

/-- `closeError` is the error number of `close`, or zero. -/
def closeFile (closeError : ℤ) : DiskStatus × DiskManager :=
  match m.files fileId with
  | none =>
    (.error (makeDiskError .fileNotRegistered .closeFile fileId "" "FileId is not registered" 0), m)
  | some entry =>
    let closed := (m.closeDescriptor entry.descriptor).destroyEntry { entry with descriptor := none }
    let erased := { closed with files := Function.update m.files fileId none }
    if closeError ≠ 0 then
      (.error (makeDiskError .systemError .closeFile fileId entry.path "close failed" closeError),
        erased)
    else (.ok (), erased)

/-- Registered descriptors are open and apart, and every other one was closed once. -/
structure Sound : Prop where
  live : ∀ id entry, m.files id = some entry →
    ∃ d, entry.descriptor = some d ∧ d < m.opened ∧ d ∉ m.closed
  apart : ∀ id id' entry entry', m.files id = some entry → m.files id' = some entry' →
    entry.descriptor = entry'.descriptor → id = id'
  once : m.closed.Nodup
  old : ∀ d ∈ m.closed, d < m.opened
  accounted : ∀ d < m.opened, d ∈ m.closed ∨
    ∃ id entry, m.files id = some entry ∧ entry.descriptor = some d

variable {m fileId path} {opened : Option ℤ} {fstat : Except ℤ ℤ} {closeError : ℤ}

lemma emplace_files : (m.emplace fileId path).files =
    Function.update m.files fileId (some ⟨some m.opened, path⟩) := rfl

lemma createFile_cases (m : DiskManager) (fileId : FileId) (path : String) (opened : Option ℤ) :
    (∃ e, m.createFile fileId path opened = (.error e, m)) ∨
      m.files fileId = none ∧ m.createFile fileId path opened = (.ok (), m.emplace fileId path) := by
  unfold createFile
  split
  · exact .inl ⟨_, rfl⟩
  · split
    · exact .inl ⟨_, rfl⟩
    · rename_i hfree
      rw [Option.not_isSome_iff_eq_none] at hfree
      cases opened with
      | some errno => exact .inl ⟨_, rfl⟩
      | none => exact .inr ⟨hfree, rfl⟩

lemma openFile_cases (m : DiskManager) (fileId : FileId) (path : String) (opened : Option ℤ)
    (fstat : Except ℤ ℤ) :
    (∃ e, m.openFile fileId path opened fstat = (.error e, m)) ∨
      m.files fileId = none ∧ ((∃ e, m.openFile fileId path opened fstat = (.error e, m.reject)) ∨
        m.openFile fileId path opened fstat = (.ok (), m.emplace fileId path)) := by
  unfold openFile
  split
  · exact .inl ⟨_, rfl⟩
  · split
    · exact .inl ⟨_, rfl⟩
    · rename_i hfree
      rw [Option.not_isSome_iff_eq_none] at hfree
      cases opened with
      | some errno => exact .inl ⟨_, rfl⟩
      | none =>
        refine .inr ⟨hfree, ?_⟩
        cases fstat with
        | error errno => exact .inl ⟨_, rfl⟩
        | ok size =>
          dsimp only
          split
          · exact .inl ⟨_, rfl⟩
          · exact .inr rfl

lemma closeFile_snd {entry : FileEntry} {d : ℕ} (h : m.files fileId = some entry)
    (hd : entry.descriptor = some d) : (m.closeFile fileId closeError).2 =
      { m with files := Function.update m.files fileId none, closed := m.closed ++ [d] } := by
  rw [closeFile, h]
  simp only [closeDescriptor, destroyEntry, hd]
  split
  · rfl
  · rfl

lemma closeFile_emplace (h : m.files fileId = none) :
    ((m.emplace fileId path).closeFile fileId closeError).2 = m.reject := by
  have hself : (m.emplace fileId path).files fileId = some ⟨some m.opened, path⟩ :=
    Function.update_self ..
  rw [closeFile_snd hself rfl, emplace, reject]
  dsimp only
  rw [Function.update_idem, ← h, Function.update_eq_self]

namespace Sound

lemma reject (hm : m.Sound) : m.reject.Sound := by
  refine ⟨fun id entry h => ?_, hm.apart, ?_, fun d hd => ?_, fun d hd => ?_⟩
  · obtain ⟨d, hd, hlt, hnot⟩ := hm.live id entry h
    refine ⟨d, hd, Nat.lt_succ_of_lt hlt, fun hmem => ?_⟩
    rcases List.mem_append.mp hmem with hmem | hmem
    · exact hnot hmem
    · exact absurd (List.mem_singleton.mp hmem) hlt.ne
  · refine hm.once.append (List.nodup_singleton _) ?_
    rw [List.disjoint_singleton]
    exact fun h => (hm.old _ h).ne rfl
  · rcases List.mem_append.mp hd with hd | hd
    · exact Nat.lt_succ_of_lt (hm.old d hd)
    · exact (List.mem_singleton.mp hd).le.trans_lt (Nat.lt_succ_self _)
  · rcases Nat.lt_succ_iff_lt_or_eq.mp hd with hd | rfl
    · exact (hm.accounted d hd).imp_left fun h => List.mem_append_left _ h
    · exact .inl (List.mem_append_right _ (List.mem_singleton_self _))

lemma emplace (hm : m.Sound) (h : m.files fileId = none) : (m.emplace fileId path).Sound := by
  have hfiles : ∀ id entry, (m.emplace fileId path).files id = some entry →
      (id = fileId ∧ entry = ⟨some m.opened, path⟩) ∨ m.files id = some entry := by
    intro id entry he
    rw [emplace_files, Function.update_apply] at he
    split at he
    · rename_i hid
      exact .inl ⟨hid, (Option.some.inj he).symm⟩
    · exact .inr he
  refine ⟨fun id entry he => ?_, fun id id' entry entry' he he' heq => ?_, hm.once,
    fun d hd => Nat.lt_succ_of_lt (hm.old d hd), fun d hd => ?_⟩
  · rcases hfiles id entry he with ⟨-, rfl⟩ | he
    · exact ⟨m.opened, rfl, Nat.lt_succ_self _, fun hmem => (hm.old _ hmem).ne rfl⟩
    · obtain ⟨d, hd, hlt, hnot⟩ := hm.live id entry he
      exact ⟨d, hd, Nat.lt_succ_of_lt hlt, hnot⟩
  · rcases hfiles id entry he with ⟨hid, hentry⟩ | hold
    · rcases hfiles id' entry' he' with ⟨hid', -⟩ | hold'
      · exact hid.trans hid'.symm
      · obtain ⟨d, hd, hlt, -⟩ := hm.live id' entry' hold'
        rw [hentry, hd] at heq
        exact absurd (Option.some.inj heq) hlt.ne'
    · obtain ⟨d, hd, hlt, -⟩ := hm.live id entry hold
      rcases hfiles id' entry' he' with ⟨-, hentry'⟩ | hold'
      · rw [hentry', hd] at heq
        exact absurd (Option.some.inj heq) hlt.ne
      · exact hm.apart id id' entry entry' hold hold' heq
  · rcases Nat.lt_succ_iff_lt_or_eq.mp hd with hd | rfl
    · refine (hm.accounted d hd).imp_right ?_
      rintro ⟨id, entry, he, hdesc⟩
      refine ⟨id, entry, ?_, hdesc⟩
      rw [emplace_files, Function.update_of_ne, he]
      rintro rfl
      rw [h] at he
      cases he
    · exact .inr ⟨fileId, _, Function.update_self .., rfl⟩

lemma closeFile (hm : m.Sound) {entry : FileEntry} (closeError : ℤ)
    (h : m.files fileId = some entry) :
    (m.closeFile fileId closeError).2.files = Function.update m.files fileId none ∧
      (m.closeFile fileId closeError).2.Sound := by
  obtain ⟨d, hd, hlt, hnot⟩ := hm.live fileId entry h
  rw [closeFile_snd h hd]
  refine ⟨rfl, ?_⟩
  have hfiles : ∀ id entry', Function.update m.files fileId none id = some entry' →
      id ≠ fileId ∧ m.files id = some entry' := by
    intro id entry' he
    rw [Function.update_apply] at he
    split at he
    · cases he
    · rename_i hid
      exact ⟨hid, he⟩
  refine ⟨fun id entry' he => ?_, fun id id' e e' he he' heq => ?_, ?_, fun d' hd' => ?_,
    fun d' hd' => ?_⟩
  · obtain ⟨hid, hold⟩ := hfiles id entry' he
    obtain ⟨d', hd', hlt', hnot'⟩ := hm.live id entry' hold
    refine ⟨d', hd', hlt', fun hmem => ?_⟩
    rcases List.mem_append.mp hmem with hmem | hmem
    · exact hnot' hmem
    · obtain rfl := List.mem_singleton.mp hmem
      exact hid (hm.apart id fileId entry' entry hold h (hd'.trans hd.symm))
  · exact hm.apart id id' e e' (hfiles id e he).2 (hfiles id' e' he').2 heq
  · refine hm.once.append (List.nodup_singleton _) ?_
    rw [List.disjoint_singleton]
    exact hnot
  · rcases List.mem_append.mp hd' with hd' | hd'
    · exact hm.old d' hd'
    · rw [List.mem_singleton.mp hd']
      exact hlt
  · rcases hm.accounted d' hd' with hmem | ⟨id, entry', he, hdesc⟩
    · exact .inl (List.mem_append_left _ hmem)
    · by_cases hid : id = fileId
      · subst hid
        rw [h] at he
        obtain rfl := Option.some.inj he
        rw [hd] at hdesc
        obtain rfl := Option.some.inj hdesc
        exact .inl (List.mem_append_right _ (List.mem_singleton_self _))
      · refine .inr ⟨id, entry', ?_, hdesc⟩
        dsimp only
        rw [Function.update_of_ne hid, he]

end Sound

end DiskManager

end DBlusBlus
