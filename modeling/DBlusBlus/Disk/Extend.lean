import DBlusBlus.BufferPool.Error
import DBlusBlus.Library.Check
import DBlusBlus.Page.Header

/-! Extending a page file by one page. -/

namespace DBlusBlus

/-- The largest `off_t`. -/
def maxOffset : ℕ := 2 ^ 63 - 1

def makeDiskError (code : DiskErrorCode) (operation : DiskOperation) (fileId : FileId)
    (path message : String) (systemError : ℤ) : DiskError :=
  ⟨code, operation, fileId, invalidPageNo, path, systemError, message⟩

section

variable (fileId : FileId) (path : Option String) (fstat : Except ℤ ℤ)

/-- `path` is that of the registration, if the file has one, and `fstat` answers with a size or an
error number. -/
def fileSize : DiskResult ℕ :=
  match path with
  | none => .error
      (makeDiskError .fileNotRegistered .fileSize fileId "" "FileId is not registered" 0)
  | some path =>
    match fstat with
    | .error errno =>
      .error (makeDiskError .systemError .fileSize fileId path "fstat failed" errno)
    | .ok size =>
      if size < 0 ∨ size % pageSize ≠ 0 then
        .error (makeDiskError .fileSizeNotPageAligned .fileSize fileId path
          "page file size is not a multiple of PAGE_SIZE" 0)
      else .ok size.toNat

def pageCount : DiskResult PageNo :=
  (fileSize fileId path fstat).map fun size => UInt64.ofNat (size / pageSize)

/-- `ftruncate` answers with an error number, or with none. -/
def extendFile (ftruncate : ℕ → Option ℤ) : DiskResult PageNo :=
  match path with
  | none => .error
      (makeDiskError .fileNotRegistered .extendFile fileId "" "FileId is not registered" 0)
  | some path =>
    match pageCount fileId (some path) fstat with
    | .error error => .error { error with operation := .extendFile }
    | .ok count =>
      if maxOffset / pageSize - 1 < count.toNat then
        .error (makeDiskError .offsetOverflow .extendFile fileId path
          "extended file size exceeds POSIX off_t range" 0)
      else
        match ftruncate ((count.toNat + 1) * pageSize) with
        | some errno =>
          .error (makeDiskError .systemError .extendFile fileId path "ftruncate failed" errno)
        | none => .ok count

end

variable {fileId : FileId} {path : Option String} {fstat : Except ℤ ℤ} {ftruncate : ℕ → Option ℤ}
  {n : PageNo}

lemma extendFile_eq_ok (h : extendFile fileId path fstat ftruncate = .ok n) :
    pageCount fileId path fstat = .ok n ∧ n + 1 ≠ 0 := by
  simp only [extendFile] at h
  split at h
  · cases h
  · split at h
    · cases h
    · rename_i count hcount
      split at h
      · cases h
      · rename_i hlt
        split at h
        · cases h
        · obtain rfl := Except.ok.inj h
          refine ⟨hcount, fun hz => hlt ?_⟩
          rw [← UInt64.toNat_inj, UInt64.toNat_add, UInt64.toNat_one, UInt64.toNat_zero] at hz
          have := count.toNat_lt
          rw [maxOffset, pageSize]
          omega

end DBlusBlus
