import DBlusBlus.Disk.Extend
import DBlusBlus.Library.Span
import DBlusBlus.Library.Transfer

/-! Page transfers and extensions of a file whose system calls may fall short, be interrupted or
fail. Arithmetic that leaves the range of `off_t` is a fault. -/

namespace DBlusBlus.Posix

open Transfer (Outcome Progress Mover)

def eintr : ℤ := 4
def eio : ℤ := 5

def fstat (file : List UInt8) : Outcome → Except ℤ ℤ
  | .done _ => .ok file.length
  | .failed errno => .error errno

/-- Writing past the end fills the gap with zeros. -/
def pwrite (file : List UInt8) (position : ℕ) (ys : List UInt8) : List UInt8 :=
  Codec.splice (file ++ List.replicate (position - file.length) 0) position ys

def ftruncate (file : List UInt8) (size : ℕ) : List UInt8 :=
  (file ++ List.replicate (size - file.length) 0).take size

def toOffset (n : UInt64) : Except (Span.Exit DiskError) ℕ :=
  if n.toNat ≤ maxOffset then .ok n.toNat else .error .fault

def addOffset (offset n : ℕ) : Except (Span.Exit DiskError) ℕ :=
  if offset + n ≤ maxOffset then .ok (offset + n) else .error .fault

section Pages

variable (pageId : PageId) (path : String)

def pageError (code : DiskErrorCode) (operation : DiskOperation) (path message : String)
    (systemError : ℤ) : DiskError :=
  { makeDiskError code operation pageId.fileId path message systemError with
    pageNo := pageId.pageNo }

def pageOffset (operation : DiskOperation) : Except (Span.Exit DiskError) ℕ :=
  if maxOffset / pageSize - 1 < pageId.pageNo.toNat then
    .error (.error (pageError pageId .offsetOverflow operation path
      "page offset exceeds POSIX off_t range" 0))
  else toOffset (pageId.pageNo * UInt64.ofNat pageSize)

/-- The loop of `ReadPage`, over its local page. -/
def readMover (file : List UInt8) (offset : ℕ) : Mover (List UInt8) (Span.Exit DiskError) where
  total := pageSize
  interrupted := eintr
  position := addOffset offset
  accepted _ position count := min count (file.length - position)
  accepted_le _ _ _ := Nat.min_le_left ..
  move page transferred position count :=
    Codec.splice page transferred ((file.drop position).take count)
  stalled transferred :=
    .error (pageError pageId (if transferred = 0 then .pageNotFound else .shortRead) .readPage path
      (if transferred = 0 then "page does not exist" else "pread reached EOF mid-page") 0)
  failed errno := .error (pageError pageId .systemError .readPage path "pread failed" errno)

/-- The loop of `WritePage`, over the file. -/
def writeMover (data : List UInt8) (offset : ℕ) : Mover (List UInt8) (Span.Exit DiskError) where
  total := pageSize
  interrupted := eintr
  position := addOffset offset
  accepted _ _ count := count
  accepted_le _ _ _ := le_rfl
  move file transferred position count := pwrite file position ((data.drop transferred).take count)
  stalled _ := .error (pageError pageId .systemError .writePage path "pwrite made no progress" eio)
  failed errno := .error (pageError pageId .systemError .writePage path "pwrite failed" errno)

end Pages

/-- The state of a `ReadPage` after these outcomes, with its output. -/
def readPage (pageId : PageId) (path : Option String) (file output : List UInt8)
    (outcomes : List Outcome) : Progress (Span.Exit DiskError) × List UInt8 :=
  match path with
  | none => (.returned (.error (.error
      (pageError pageId .fileNotRegistered .readPage "" "FileId is not registered" 0))), output)
  | some path =>
    match pageOffset pageId path .readPage with
    | .error e => (.returned (.error e), output)
    | .ok offset =>
      match (readMover pageId path file offset).run (List.replicate pageSize 0) outcomes with
      | (.returned (.ok ()), page) => (.returned (.ok ()), page)
      | (progress, _) => (progress, output)

inductive WritePc
  | counting
  | writing (progress : Progress (Span.Exit DiskError))

def writeStep (pageId : PageId) (path : String) (data : List UInt8) (offset : ℕ) :
    WritePc × List UInt8 → Outcome → WritePc × List UInt8
  | (.counting, file), outcome =>
    if outcome = .failed eintr then (.counting, file)
    else
      match pageCount pageId.fileId (some path) (fstat file outcome) with
      | .error error => (.writing (.returned (.error (.error
          { error with operation := .writePage, pageNo := pageId.pageNo }))), file)
      | .ok count =>
        if count ≤ pageId.pageNo then
          (.writing (.returned (.error (.error (pageError pageId .pageNotFound .writePage path
            "page does not exist; extend the file first" 0)))), file)
        else (.writing ((writeMover pageId path data offset).enter 0), file)
  | (.writing progress, file), outcome =>
    let x := (writeMover pageId path data offset).step (progress, file) outcome
    (.writing x.1, x.2)

/-- The state of a `WritePage` after these outcomes, with the file. -/
def writePage (pageId : PageId) (path : Option String) (data file : List UInt8)
    (outcomes : List Outcome) : WritePc × List UInt8 :=
  match path with
  | none => (.writing (.returned (.error (.error
      (pageError pageId .fileNotRegistered .writePage "" "FileId is not registered" 0)))), file)
  | some path =>
    match pageOffset pageId path .writePage with
    | .error e => (.writing (.returned (.error e)), file)
    | .ok offset => outcomes.foldl (writeStep pageId path data offset) (.counting, file)

inductive ExtendPc
  | counting
  | truncating (count : PageNo) (newSize : ℕ)
  | returned (result : Except (Span.Exit DiskError) PageNo)

def extendStep (fileId : FileId) (path : String) :
    ExtendPc × List UInt8 → Outcome → ExtendPc × List UInt8
  | (.counting, file), outcome =>
    if outcome = .failed eintr then (.counting, file)
    else
      match pageCount fileId (some path) (fstat file outcome) with
      | .error error => (.returned (.error (.error { error with operation := .extendFile })), file)
      | .ok count =>
        if maxOffset / pageSize - 1 < count.toNat then
          (.returned (.error (.error (makeDiskError .offsetOverflow .extendFile fileId path
            "extended file size exceeds POSIX off_t range" 0))), file)
        else
          match toOffset ((count + 1) * UInt64.ofNat pageSize) with
          | .error e => (.returned (.error e), file)
          | .ok newSize => (.truncating count newSize, file)
  | (.truncating count newSize, file), .done _ =>
    (.returned (.ok count), ftruncate file newSize)
  | (.truncating count newSize, file), .failed errno =>
    if errno = eintr then (.truncating count newSize, file)
    else (.returned (.error (.error
      (makeDiskError .systemError .extendFile fileId path "ftruncate failed" errno))), file)
  | (.returned result, file), _ => (.returned result, file)

/-- The state of an `ExtendFile` after these outcomes, with the file. -/
def extendFile (fileId : FileId) (path : Option String) (file : List UInt8)
    (outcomes : List Outcome) : ExtendPc × List UInt8 :=
  match path with
  | none => (.returned (.error (.error
      (makeDiskError .fileNotRegistered .extendFile fileId "" "FileId is not registered" 0))), file)
  | some path => outcomes.foldl (extendStep fileId path) (.counting, file)

end DBlusBlus.Posix
