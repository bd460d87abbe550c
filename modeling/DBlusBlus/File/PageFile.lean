import DBlusBlus.File.Superblock
import DBlusBlus.BufferPool.Error

/-! Raw page allocation through an open page file. -/

namespace DBlusBlus

inductive PageFileOperation
  | create | open | allocatePage
deriving DecidableEq

inductive PageFileErrorCode
  | diskError | superblockEncodingFailed | superblockInvalid | fileIdMismatch | fileKindMismatch
  | objectIdMismatch | unexpectedInitialPageCount | missingSuperblock
  | unexpectedSuperblockPageNumber | dataPageZeroAllocated | notOpen
deriving DecidableEq

structure PageFileError where
  code : PageFileErrorCode := .diskError
  operation : PageFileOperation := .open
  diskError : DiskError := .default
  superblockError : FileSuperblockDecodeError := .none
  expectedFileId : FileId := invalidFileId
  actualFileId : FileId := invalidFileId
  expectedFileKind : FileKind := .heap
  actualFileKind : FileKind := .heap
  expectedObjectId : UInt64 := 0
  actualObjectId : UInt64 := 0
  actualPageCount : PageNo := 0
  actualPageNo : PageNo := invalidPageNo
deriving DecidableEq

/-- `isOpen` stands for a disk manager pointer that is not null. -/
structure PageFile where
  isOpen : Bool
  superblock : FileSuperblock

/-- `extended` is what `ExtendFile` answers, if it is asked. -/
def PageFile.allocatePage (file : PageFile) (extended : DiskResult PageNo) :
    Except PageFileError PageId :=
  if file.isOpen = false then .error { code := .notOpen, operation := .allocatePage }
  else
    match extended with
    | .error error =>
      .error { code := .diskError, operation := .allocatePage, diskError := error }
    | .ok pageNo =>
      if pageNo = 0 then
        .error { code := .dataPageZeroAllocated, operation := .allocatePage, actualPageNo := pageNo }
      else .ok ⟨file.superblock.fileId, pageNo⟩

end DBlusBlus
