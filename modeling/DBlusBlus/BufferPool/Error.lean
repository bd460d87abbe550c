import DBlusBlus.Common.Types

/-! Error values of the raw I/O layer and of the buffer pool. -/

namespace DBlusBlus

inductive DiskOperation
  | createFile | openFile | closeFile | lookupFile | fileSize | readPage | writePage | extendFile
  | syncFile
deriving DecidableEq

inductive DiskErrorCode
  | none | invalidFileIdentifier | duplicateFileId | fileNotRegistered | fileSizeNotPageAligned
  | offsetOverflow | pageNotFound | shortRead | systemError
deriving DecidableEq

structure DiskError where
  code : DiskErrorCode
  operation : DiskOperation
  fileId : FileId
  pageNo : PageNo
  path : String
  systemError : ℤ
  message : String
deriving DecidableEq

/-- The value of a default-constructed `DiskError`. -/
def DiskError.default : DiskError := ⟨.none, .lookupFile, invalidFileId, invalidPageNo, "", 0, ""⟩

abbrev DiskResult (α : Type) := Except DiskError α
abbrev DiskStatus := DiskResult Unit

namespace BufferPool

inductive BufferErrorCode
  | fileOrPageNotFound | rawIoFailure | corruptPage | unsupportedPageFormat | noReplaceableFrame
  | fileRetiredOrClosing | pinCountOverflow | bufferPoolQuiescing | internalInvariantFailure
deriving DecidableEq

inductive BufferOperation
  | registerFile | retireFile | fetchPage | newPage | flushPage | shutdown
deriving DecidableEq

structure BufferError where
  code : BufferErrorCode
  operation : BufferOperation
  pageId : PageId
  diskError : Option DiskError
  message : String
deriving DecidableEq

abbrev BufferResult (α : Type) := Except BufferError α
abbrev BufferStatus := BufferResult Unit

def makeError (code : BufferErrorCode) (operation : BufferOperation) (pageId : PageId)
    (message : String) (diskError : Option DiskError := none) : BufferError :=
  ⟨code, operation, pageId, diskError, message⟩

/-- The value of a default-constructed `BufferError`. -/
def BufferError.default : BufferError :=
  makeError .internalInvariantFailure .fetchPage PageId.invalid ""

def readErrorCode (error : DiskError) : BufferErrorCode :=
  if error.code = .pageNotFound then .fileOrPageNotFound else .rawIoFailure

end BufferPool

end DBlusBlus
