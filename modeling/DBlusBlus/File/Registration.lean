import DBlusBlus.Disk.Contract
import DBlusBlus.Disk.Registry
import DBlusBlus.File.PageFile
import DBlusBlus.Library.Custody
import DBlusBlus.Library.Transition

/-! Creating, opening, moving and destroying page files, each with the registration that it owns. -/

namespace DBlusBlus

def diskFailure (operation : PageFileOperation) (error : DiskError) : PageFileError :=
  { code := .diskError, operation := operation, diskError := error }

def cleanupRegistration (m : DiskManager) (fileId : FileId) (closeError : ℤ) : DiskManager :=
  (m.closeFile fileId closeError).2

/-- What the disk manager answers to a `Create`, at each step that is reached. -/
structure CreateAnswers where
  opened : Option ℤ
  pageCount : DiskResult PageNo
  extended : DiskResult PageNo
  write : List UInt8 → DiskStatus
  sync : DiskStatus
  closeError : ℤ

/-- What the disk manager answers to an `Open`; `read` is the page that `ReadPage` fills. -/
structure OpenAnswers where
  opened : Option ℤ
  fstat : Except ℤ ℤ
  pageCount : DiskResult PageNo
  read : DiskResult (List UInt8)
  closeError : ℤ

namespace PageFile

def create (m : DiskManager) (path : String) (superblock : FileSuperblock)
    (answers : CreateAnswers) : Except PageFileError PageFile × DiskManager :=
  match m.createFile superblock.fileId path answers.opened with
  | (.error error, m) => (.error (diskFailure .create error), m)
  | (.ok (), m) =>
    let failure (error : PageFileError) : Except PageFileError PageFile × DiskManager :=
      (.error error, cleanupRegistration m superblock.fileId answers.closeError)
    match answers.pageCount with
    | .error error => failure (diskFailure .create error)
    | .ok pageCount =>
      if pageCount ≠ 0 then
        failure { code := .unexpectedInitialPageCount, operation := .create,
                  actualPageCount := pageCount }
      else
        match answers.extended with
        | .error error => failure (diskFailure .create error)
        | .ok extended =>
          if extended ≠ 0 then
            failure { code := .unexpectedSuperblockPageNumber, operation := .create,
                      actualPageNo := extended }
          else
            let (encoded, bytes) := encodeFileSuperblock (List.replicate pageSize 0) superblock
            if ¬ encoded then
              failure { code := .superblockEncodingFailed, operation := .create }
            else
              match answers.write bytes with
              | .error error => failure (diskFailure .create error)
              | .ok () =>
                match answers.sync with
                | .error error => failure (diskFailure .create error)
                | .ok () => (.ok ⟨true, superblock⟩, m)

def «open» (m : DiskManager) (path : String) (expectedFileId : FileId)
    (expectedFileKind : FileKind) (expectedObjectId : Option UInt64) (answers : OpenAnswers) :
    Except PageFileError PageFile × DiskManager :=
  match m.openFile expectedFileId path answers.opened answers.fstat with
  | (.error error, m) => (.error (diskFailure .open error), m)
  | (.ok (), m) =>
    let failure (error : PageFileError) : Except PageFileError PageFile × DiskManager :=
      (.error error, cleanupRegistration m expectedFileId answers.closeError)
    match answers.pageCount with
    | .error error => failure (diskFailure .open error)
    | .ok pageCount =>
      if pageCount = 0 then
        failure { code := .missingSuperblock, operation := .open, actualPageCount := 0 }
      else
        match answers.read with
        | .error error => failure (diskFailure .open error)
        | .ok bytes =>
          match decodeFileSuperblock bytes with
          | .error error =>
            failure { code := .superblockInvalid, operation := .open, superblockError := error }
          | .ok superblock =>
            if superblock.fileId ≠ expectedFileId then
              failure { code := .fileIdMismatch, operation := .open,
                        expectedFileId := expectedFileId, actualFileId := superblock.fileId }
            else if superblock.fileKind ≠ expectedFileKind then
              failure { code := .fileKindMismatch, operation := .open,
                        expectedFileKind := expectedFileKind,
                        actualFileKind := superblock.fileKind }
            else
              match expectedObjectId.filter (superblock.objectId ≠ ·) with
              | some objectId =>
                failure { code := .objectIdMismatch, operation := .open,
                          expectedObjectId := objectId, actualObjectId := superblock.objectId }
              | none => (.ok ⟨true, superblock⟩, m)

/-- A page file whose registration was moved away or released. -/
def released (file : PageFile) : PageFile := { file with isOpen := false }

def release (file : PageFile) (m : DiskManager) (closeError : ℤ) : DiskManager :=
  if file.isOpen then (m.closeFile file.superblock.fileId closeError).2 else m

end PageFile

/-- The answers of a `ReadPage` that reaches its end on a file with these bytes. -/
def ReadAnswer (pageId : PageId) (path : String) (file : List UInt8)
    (read : DiskResult (List UInt8)) : Prop :=
  ∃ outcomes page, (∃ u, read = .ok page ∧ Posix.readPage pageId (some path) file
      (List.replicate pageSize 0) outcomes = (.returned (.ok u), page)) ∨
    ∃ e, read = .error e ∧ Posix.readPage pageId (some path) file
      (List.replicate pageSize 0) outcomes = (.returned (.error (.error e)), page)

/-- A disk manager and variables of page files; one that holds none was not constructed yet, or it
was destroyed. -/
structure FileWorld (V : Type) where
  disk : DiskManager
  var : V → Option PageFile

inductive FileAct (V : Type)
  | create (v : V) (path : String) (superblock : FileSuperblock) (answers : CreateAnswers)
  | open (v : V) (path : String) (file : List UInt8) (expectedFileId : FileId)
      (expectedFileKind : FileKind) (expectedObjectId : Option UInt64) (answers : OpenAnswers)
  | moveConstruct (v other : V)
  | moveAssign (v other : V) (closeError : ℤ)
  | destroy (v : V) (closeError : ℤ)

namespace FileWorld

variable {V : Type} [DecidableEq V]

/-- A failed call constructs nothing. -/
def construct (w : FileWorld V) (v : V) : Except PageFileError PageFile × DiskManager → FileWorld V
  | (.ok file, disk) => ⟨disk, Function.update w.var v (some file)⟩
  | (.error _, disk) => ⟨disk, w.var⟩

/-- `v` takes the registration of `other`, if it has one. -/
def take (w : FileWorld V) (v other : V) (file : PageFile) : FileWorld V :=
  { w with var := Function.update (Function.update w.var other (some file.released)) v (some file) }

/-- The page file of `v` gives up its registration, if it has one. -/
def give (w : FileWorld V) (v : V) (file : PageFile) (closeError : ℤ) : FileWorld V :=
  ⟨file.release w.disk closeError, Function.update w.var v (some file.released)⟩

def step (w : FileWorld V) : FileAct V → Option (FileWorld V)
  | .create v path superblock answers =>
    match w.var v with
    | some _ => none
    | none => some (w.construct v (PageFile.create w.disk path superblock answers))
  | .open v path _ fileId kind objectId answers =>
    match w.var v with
    | some _ => none
    | none => some (w.construct v (PageFile.open w.disk path fileId kind objectId answers))
  | .moveConstruct v other =>
    match w.var v, w.var other with
    | none, some file => some (w.take v other file)
    | _, _ => none
  | .moveAssign v other closeError =>
    match w.var v, w.var other with
    | some old, some file =>
      if v = other then some w
      else some ((w.give v old closeError).take v other file)
    | _, _ => none
  | .destroy v closeError =>
    match w.var v with
    | some file => some ⟨file.release w.disk closeError, Function.update w.var v none⟩
    | none => none

def system (V : Type) [DecidableEq V] : Transition.System (FileWorld V) (FileAct V) where
  initial w := w = ⟨⟨fun _ => none, 0, []⟩, fun _ => none⟩
  step := step

/-- The page that an `Open` reads is a page of the file. -/
def Reads (_ : FileWorld V) : FileAct V → Prop
  | .open _ path file fileId _ _ answers => ReadAnswer ⟨fileId, 0⟩ path file answers.read
  | _ => True

end FileWorld

end DBlusBlus
