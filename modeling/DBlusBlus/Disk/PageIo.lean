import DBlusBlus.Disk.Concurrent

/-! The calls of `PageIo` on the disk manager, one system call at a time, by threads that never
transfer one page at once: each of them takes effect as a whole. -/

namespace DBlusBlus.DiskPageIo

open Posix
open Transfer (Outcome Progress Mover)

def toPage (bytes : List UInt8) : PageBytes := fun i => (bytes[i.val]?).getD 0

/-- A page of a file, which has zeros after its end. -/
def pageAt (file : List UInt8) (pageNo : PageNo) : PageBytes :=
  toPage (file.drop (pageStart pageNo))

lemma toPage_ofFn (bytes : PageBytes) : toPage (List.ofFn bytes) = bytes := by
  funext i
  rw [toPage, List.getElem?_ofFn, dif_pos i.isLt, Option.getD_some]

lemma toPage_take (bytes : List UInt8) : toPage (bytes.take pageSize) = toPage bytes := by
  funext i
  rw [toPage, List.getElem?_take, if_pos i.isLt, toPage]

lemma pageAt_apply (file : List UInt8) (pageNo : PageNo) (i : Fin pageSize) :
    pageAt file pageNo i = (file[pageStart pageNo + i.val]?).getD 0 := by
  rw [pageAt, toPage, List.getElem?_drop]

lemma pageAt_zeros (n : ℕ) (pageNo : PageNo) :
    pageAt (List.replicate n 0) pageNo = PageBytes.zero := by
  funext i
  rw [pageAt_apply, List.getElem?_replicate, PageBytes.zero]
  split <;> rfl

section Effects

variable {pageNo other : PageNo} {file file' file'' : List UInt8}

/-- What is in the file of a page stays there, and so does the page. -/
structure KeepsPage (pageNo : PageNo) (file file' : List UInt8) : Prop where
  inside : ∀ i, i < pageSize → pageStart pageNo + i < file.length →
    file'[pageStart pageNo + i]? = file[pageStart pageNo + i]?
  page : pageAt file' pageNo = pageAt file pageNo

lemma KeepsPage.refl (pageNo : PageNo) (file : List UInt8) : KeepsPage pageNo file file :=
  ⟨fun _ _ _ => rfl, rfl⟩

lemma pageStart_apart (h : pageNo ≠ other) {i : ℕ} (hi : i < pageSize) :
    pageStart pageNo + i < pageStart other ∨ pageStart other + pageSize ≤ pageStart pageNo + i := by
  have hne : pageNo.toNat ≠ other.toNat := fun he => h (UInt64.toNat_inj.mp he)
  rw [pageStart, pageStart]
  rw [pageSize] at *
  omega

lemma KeepsPage.take (h : KeepsPage pageNo file file') {n : ℕ} (hn : n ≤ pageSize)
    (hle : n ≤ file.length - pageStart pageNo) :
    (file'.drop (pageStart pageNo)).take n = (file.drop (pageStart pageNo)).take n := by
  apply List.ext_getElem?
  intro i
  rw [List.getElem?_take, List.getElem?_take]
  split
  · rw [List.getElem?_drop, List.getElem?_drop]
    exact h.inside i (by omega) (by omega)
  · rfl

lemma KeepsPage.of_sameOutside (h : SameOutside other file file') (hne : pageNo ≠ other) :
    KeepsPage pageNo file file' where
  inside i hi _ := h.2 _ (pageStart_apart hne hi)
  page := by
    funext i
    rw [pageAt_apply, pageAt_apply, h.2 _ (pageStart_apart hne i.isLt)]

lemma KeepsPage.of_zeros (pageNo : PageNo) (file : List UInt8) (n : ℕ) :
    KeepsPage pageNo file (file ++ List.replicate n 0) where
  inside i _ hi := List.getElem?_append_left hi
  page := by
    funext i
    rw [pageAt_apply, pageAt_apply]
    by_cases hi : pageStart pageNo + i.val < file.length
    · rw [List.getElem?_append_left hi]
    · rw [List.getElem?_append_right (by omega), List.getElem?_eq_none (by omega : file.length ≤ _),
        List.getElem?_replicate]
      split <;> rfl

lemma SameOutside.trans (h : SameOutside pageNo file file') (h' : SameOutside pageNo file' file'') :
    SameOutside pageNo file file'' :=
  ⟨h'.1.trans h.1, fun i hi => (h'.2 i hi).trans (h.2 i hi)⟩

end Effects

section Writes

variable {pageId : PageId} {path : String} {data : Posix.PageBytes} {offset : ℕ}
  {file : List UInt8} {outcome : Outcome}

/-- The part of the page that a write has moved is in the file. -/
def Copied (data : List UInt8) (offset : ℕ) (file : List UInt8) : WritePc → Prop
  | .writing (.moving transferred _) => (file.drop offset).take transferred = data.take transferred
  | .writing (.returned (.ok ())) => (file.drop offset).take pageSize = data
  | _ => True

/-- What the write has made of the file that `base` was. -/
structure Moved (data : List UInt8) (offset : ℕ) (base : List UInt8) (transferred : ℕ)
    (file : List UInt8) : Prop where
  length : file.length = base.length
  outside : ∀ i, i < offset ∨ offset + pageSize ≤ i → file[i]? = base[i]?
  copied : (file.drop offset).take transferred = data.take transferred

lemma writeMover_moves (base : List UInt8) (hr : offset + pageSize ≤ maxOffset)
    (hle : offset + pageSize ≤ base.length) :
    (writeMover pageId path data.1 offset).Keeps (Moved data.1 offset base) := by
  rintro transferred position count file ⟨hlen, hout, hcopied⟩ hlt hp hc h₀
  simp only [writeMover] at hlt hp hc ⊢
  rw [addOffset_eq (by omega)] at hp
  obtain rfl := Except.ok.inj hp
  have hdata := data.2
  have hchunk : ((data.1.drop transferred).take count).length = count := by
    rw [List.length_take, List.length_drop]
    omega
  rw [pwrite, Nat.sub_eq_zero_of_le (by omega), List.replicate_zero, List.append_nil]
  refine ⟨by rw [Codec.length_splice (by omega), hlen], fun i hi => ?_, ?_⟩
  · rw [Codec.getElem?_splice_outside (by omega) (by omega), hout i hi]
  · generalize hchunk' : (data.1.drop transferred).take count = chunk at hchunk
    have hfront : ((Codec.splice file (offset + transferred) chunk).drop offset).take transferred =
        (file.drop offset).take transferred := by
      have htake : (Codec.splice file (offset + transferred) chunk).take (offset + transferred) =
          file.take (offset + transferred) := by
        rw [Codec.splice, List.append_assoc]
        apply List.take_left'
        rw [List.length_take]
        omega
      have h := congrArg (List.drop offset) htake
      rwa [List.drop_take, List.drop_take, Nat.add_sub_cancel_left] at h
    have hback : ((Codec.splice file (offset + transferred) chunk).drop
        (offset + transferred)).take count = chunk := by
      rw [← hchunk]
      apply Codec.drop_take_splice
      omega
    rw [List.take_add, List.take_add, hfront, hcopied, List.drop_drop, hback, hchunk']

lemma moved_of_holds {base : List UInt8} {progress : Progress (Span.Exit DiskError)}
    (h : (writeMover pageId path data.1 offset).Holds (Moved data.1 offset base) (progress, file)) :
    file.length = base.length ∧
      (∀ i, i < offset ∨ offset + pageSize ≤ i → file[i]? = base[i]?) ∧
      Copied data.1 offset file (.writing progress) := by
  cases progress with
  | moving transferred position =>
    obtain ⟨-, -, hm⟩ := h
    exact ⟨hm.length, hm.outside, hm.copied⟩
  | returned result =>
    cases result with
    | ok =>
      refine ⟨h.length, h.outside, ?_⟩
      have hcopied : (file.drop offset).take pageSize = data.1.take pageSize := h.copied
      rwa [List.take_of_length_le data.2.le] at hcopied
    | error e =>
      obtain ⟨transferred, -, hm, -⟩ := h
      exact ⟨hm.length, hm.outside, trivial⟩

variable (path outcome) in
lemma writeStep_copied {pc : WritePc} (hr : offset + pageSize ≤ maxOffset)
    (ho : offset = pageStart pageId.pageNo) (hsafe : WriteSafe offset file.length pc)
    (h : Copied data.1 offset file pc) :
    SameOutside pageId.pageNo file (writeStep pageId path data.1 offset (pc, file) outcome).2 ∧
      Copied data.1 offset (writeStep pageId path data.1 offset (pc, file) outcome).2
        (writeStep pageId path data.1 offset (pc, file) outcome).1 := by
  have hsame : SameOutside pageId.pageNo file file := ⟨rfl, fun _ _ => rfl⟩
  cases pc with
  | counting =>
    rw [writeStep]
    split
    · exact ⟨hsame, trivial⟩
    · split
      · exact ⟨hsame, trivial⟩
      · split
        · exact ⟨hsame, trivial⟩
        · have hholds : (writeMover pageId path data.1 offset).Holds (Moved data.1 offset file)
              ((writeMover pageId path data.1 offset).enter 0, file) :=
            Mover.holds_enter ⟨rfl, fun _ _ => rfl, by rw [List.take_zero, List.take_zero]⟩
              (Nat.zero_le _)
          exact ⟨hsame, (moved_of_holds hholds).2.2⟩
  | writing progress =>
    cases progress with
    | returned result => exact ⟨hsame, h⟩
    | moving transferred position =>
      obtain ⟨rfl, ht, hle⟩ := hsafe
      have hholds : (writeMover pageId path data.1 offset).Holds (Moved data.1 offset file)
          (.moving transferred (offset + transferred), file) :=
        ⟨ht, addOffset_eq (by omega), ⟨rfl, fun _ _ => rfl, h⟩⟩
      have hnext := moved_of_holds (hholds.step (o := outcome) (writeMover_moves file hr hle))
      subst ho
      exact ⟨⟨hnext.1, hnext.2.1⟩, hnext.2.2⟩

lemma Copied.keeps {file' : List UInt8} {pc : WritePc}
    (h : Copied data.1 (pageStart pageId.pageNo) file pc)
    (hsafe : WriteSafe (pageStart pageId.pageNo) file.length pc)
    (hk : KeepsPage pageId.pageNo file file') :
    Copied data.1 (pageStart pageId.pageNo) file' pc := by
  cases pc with
  | counting => trivial
  | writing progress =>
    cases progress with
    | moving transferred position =>
      obtain ⟨-, ht, hle⟩ := hsafe
      exact (hk.take ht.le (by omega)).trans h
    | returned result =>
      cases result with
      | error => trivial
      | ok =>
        refine (hk.take le_rfl ?_).trans h
        have hlen := congrArg List.length (show (file.drop _).take pageSize = data.1 from h)
        rw [List.length_take, List.length_drop, data.2] at hlen
        have : 0 < pageSize := by decide
        omega

variable (path outcome) in
/-- An extension only adds zeros. -/
lemma extendStep_grows {fileId : FileId} {extended : List PageId} {pc : ExtendPc}
    (hf : PageFileBytes file) (h : ExtendSafe fileId file.length extended pc) :
    ∃ n, (extendStep fileId path (pc, file) outcome).2 = file ++ List.replicate n 0 := by
  have hnil : file = file ++ List.replicate 0 0 := (List.append_nil file).symm
  have hstart : (∃ result, pc = .returned result) ∨ ExtendOutcome fileId path file (pc, file) := by
    cases pc with
    | counting => exact .inr rfl
    | truncating count newSize => exact .inr ⟨rfl, h⟩
    | returned result => exact .inl ⟨result, rfl⟩
  rcases hstart with ⟨result, rfl⟩ | hstart
  · exact ⟨0, hnil⟩
  · have hnext := extendOutcome_step hf outcome hstart
    generalize extendStep fileId path (pc, file) outcome = x at hnext
    obtain ⟨pc', file'⟩ := x
    cases pc' with
    | counting => exact ⟨0, hnext.trans hnil⟩
    | truncating count newSize => exact ⟨0, hnext.1.trans hnil⟩
    | returned result =>
      rcases result with (_ | e) | count
      · exact hnext.elim
      · exact ⟨0, Eq.trans hnext hnil⟩
      · exact ⟨pageSize, hnext.2.1⟩

end Writes

section Reads

variable {pageId : PageId} {path : String} {offset transferred : ℕ} {file file' page : List UInt8}
  {progress : Progress (Span.Exit DiskError)}

lemma Filled.keeps (h : Filled file (pageStart pageId.pageNo) transferred page)
    (ht : transferred ≤ pageSize) (hk : KeepsPage pageId.pageNo file file') :
    Filled file' (pageStart pageId.pageNo) transferred page := by
  refine ⟨h.1, h.2.trans (hk.take ht ?_).symm⟩
  have hlen := congrArg List.length h.2
  rw [List.length_take, List.length_take, List.length_drop, h.1] at hlen
  omega

/-- What a read keeps, whatever the other threads do to the other pages of its file. -/
def Reading (pageId : PageId) (path : String) (file : List UInt8)
    (x : Progress (Span.Exit DiskError) × List UInt8) : Prop :=
  pageStart pageId.pageNo + pageSize ≤ maxOffset ∧
    (readMover pageId path file (pageStart pageId.pageNo)).Holds
      (Filled file (pageStart pageId.pageNo)) x

lemma Reading.keeps (h : Reading pageId path file (progress, page))
    (hk : KeepsPage pageId.pageNo file file') : Reading pageId path file' (progress, page) := by
  obtain ⟨hr, h⟩ := h
  refine ⟨hr, ?_⟩
  cases progress with
  | moving transferred position =>
    obtain ⟨ht, hp, hf⟩ := h
    exact ⟨ht, hp, Filled.keeps hf (Nat.le_of_lt ht) hk⟩
  | returned result =>
    cases result with
    | ok => exact Filled.keeps h le_rfl hk
    | error e =>
      obtain ⟨transferred, ht, hf, hend⟩ := h
      exact ⟨transferred, ht, Filled.keeps hf (Nat.le_of_lt ht) hk, hend⟩

lemma Reading.returned (h : Reading pageId path file (.returned (.ok ()), page)) :
    toPage page = pageAt file pageId.pageNo := by
  obtain ⟨hlen, htake⟩ : Filled file (pageStart pageId.pageNo) pageSize page := h.2
  rw [List.take_of_length_le hlen.le] at htake
  rw [htake, toPage_take, pageAt]

lemma Copied.returned {data : Posix.PageBytes}
    (h : Copied data.1 (pageStart pageId.pageNo) file (.writing (.returned (.ok ())))) :
    pageAt file pageId.pageNo = toPage data.1 := by
  have htake : (file.drop (pageStart pageId.pageNo)).take pageSize = data.1 := h
  rw [pageAt, ← toPage_take, htake]

end Reads

inductive Request
  | pageCount (fileId : FileId)
  | extendFile (fileId : FileId)
  | readPage (pageId : PageId)
  | writePage (pageId : PageId) (data : PageBytes)
  | syncFile (fileId : FileId)

inductive Response
  | counted (count : PageNo)
  | extended (pageNo : PageNo)
  | read (bytes : PageBytes)
  | written
  | synced
  | failed (error : DiskError)

/-- A call that changes no file, or that fails before its first system call. -/
inductive Query
  | count (fileId : FileId) (path : String) (result : Option (DiskResult PageNo))
  | read (pageId : PageId) (path : String) (offset : ℕ) (progress : Progress (Span.Exit DiskError))
    (page : List UInt8)
  | sync (fileId : FileId) (path : String) (result : Option DiskStatus)
  | refused (error : DiskError)

def notRegistered (operation : DiskOperation) (fileId : FileId) : DiskError :=
  makeDiskError .fileNotRegistered operation fileId "" "FileId is not registered" 0

def pageNotRegistered (operation : DiskOperation) (pageId : PageId) : DiskError :=
  pageError pageId .fileNotRegistered operation "" "FileId is not registered" 0

def syncFile (fileId : FileId) (path : String) : Outcome → DiskStatus
  | .done _ => .ok ()
  | .failed errno =>
    .error (makeDiskError .systemError .syncFile fileId path "fdatasync failed" errno)

namespace Query

def request : Query → Option Request
  | .count fileId _ _ => some (.pageCount fileId)
  | .read pageId _ _ _ _ => some (.readPage pageId)
  | .sync fileId _ _ => some (.syncFile fileId)
  | .refused _ => none

/-- `pread`, `fstat` and `fdatasync` are made again when they are interrupted. -/
def answer (file : FileId → List UInt8) (outcome : Outcome) : Query → Query
  | .count fileId path none =>
    if outcome = .failed eintr then .count fileId path none
    else .count fileId path (some (pageCount fileId (some path) (fstat (file fileId) outcome)))
  | .read pageId path offset progress page =>
    let x := (readMover pageId path (file pageId.fileId) offset).step (progress, page) outcome
    .read pageId path offset x.1 x.2
  | .sync fileId path none =>
    if outcome = .failed eintr then .sync fileId path none
    else .sync fileId path (some (syncFile fileId path outcome))
  | query => query

def response : Query → Option Response
  | .count _ _ (some (.ok n)) => some (.counted n)
  | .count _ _ (some (.error e)) => some (.failed e)
  | .read _ _ _ (.returned (.ok ())) page => some (.read (toPage page))
  | .read _ _ _ (.returned (.error (.error e))) _ => some (.failed e)
  | .sync _ _ (some (.ok ())) => some .synced
  | .sync _ _ (some (.error e)) => some (.failed e)
  | .refused e => some (.failed e)
  | _ => none

end Query

def callRequest : Call → Request
  | .write pageId _ data _ _ => .writePage pageId (toPage data.1)
  | .extend fileId _ _ => .extendFile fileId

def callResponse : Call → Option Response
  | .write _ _ _ _ (.writing (.returned (.ok ()))) => some .written
  | .write _ _ _ _ (.writing (.returned (.error (.error e)))) => some (.failed e)
  | .extend _ _ (.returned (.ok count)) => some (.extended count)
  | .extend _ _ (.returned (.error (.error e))) => some (.failed e)
  | _ => none

/-- The calls in flight: those that write or extend a file, and the others. -/
structure Calls (T : Type) where
  disk : Posix.World T
  query : T → Option Query

namespace Calls

variable {T : Type}

/-- The calls that need no more than a look at the registration before they are under way. -/
def startQuery (w : Posix.World T) : Request → Option Query
  | .pageCount fileId =>
    match w.path fileId with
    | none => some (.refused (notRegistered .fileSize fileId))
    | some path => some (.count fileId path none)
  | .readPage pageId =>
    match w.path pageId.fileId with
    | none => some (.refused (pageNotRegistered .readPage pageId))
    | some path =>
      match pageOffset pageId path .readPage with
      | .error (.error e) => some (.refused e)
      | .error .fault => none
      | .ok offset => some (.read pageId path offset
          ((readMover pageId path (w.file pageId.fileId) offset).enter 0)
          (List.replicate pageSize 0))
  | .syncFile fileId =>
    match w.path fileId with
    | none => some (.refused (notRegistered .syncFile fileId))
    | some path => some (.sync fileId path none)
  | .writePage pageId _ =>
    match w.path pageId.fileId with
    | none => some (.refused (pageNotRegistered .writePage pageId))
    | some path =>
      match pageOffset pageId path .writePage with
      | .error (.error e) => some (.refused e)
      | _ => none
  | .extendFile fileId =>
    if w.path fileId = none ∧ w.extensionMutex = none then
      some (.refused (notRegistered .extendFile fileId))
    else none

variable [DecidableEq T] (s : Calls T) (t : T)

def setQuery (query : Option Query) : Calls T :=
  { s with query := Function.update s.query t query }

lemma setQuery_self (query : Option Query) : (s.setQuery t query).query t = query :=
  Function.update_self ..

variable {s t} in
lemma setQuery_of_ne {u : T} (query : Option Query) (hu : u ≠ t) :
    (s.setQuery t query).query u = s.query u :=
  Function.update_of_ne hu ..

def startCall (request : Request) : Option (Posix.World T) :=
  match request with
  | .writePage pageId data => s.disk.beginWrite t pageId ⟨List.ofFn data, List.length_ofFn⟩
  | .extendFile fileId => s.disk.beginExtend t fileId
  | _ => none

def start (request : Request) : Option (Calls T) :=
  if s.disk.call t = none ∧ s.query t = none then
    match startQuery s.disk request with
    | some query => some (s.setQuery t (some query))
    | none => (s.startCall t request).map fun disk => { s with disk := disk }
  else none

def answer (outcome : Outcome) : Option (Calls T) :=
  match s.query t with
  | some query => some (s.setQuery t (some (query.answer s.disk.file outcome)))
  | none => (s.disk.answer t outcome).map fun disk => { s with disk := disk }

def finish : Option (Response × Calls T) :=
  match s.query t with
  | some query => query.response.map fun response => (response, s.setQuery t none)
  | none => (s.disk.call t).bind fun call => (callResponse call).bind fun response =>
      (s.disk.leave t).map fun disk => (response, { s with disk := disk })

omit [DecidableEq T] in
def writes : Option PageId :=
  match s.disk.call t with
  | some (.write pageId _ _ _ _) => some pageId
  | _ => none

omit [DecidableEq T] in
def reads : Option PageId :=
  match s.query t with
  | some (.read pageId _ _ _ _) => some pageId
  | _ => none

/-- No page that one thread writes is transferred by another one. -/
def Apart : Prop :=
  ∀ t u page, s.writes t = some page → s.writes u = some page ∨ s.reads u = some page → u = t

/-- Pages that are not being written are those that `bytes` tells, and what the transfers have done
so far agrees with the files. -/
structure Sound (bytes : PageId → PageBytes) : Prop where
  serialized : Serialized s.disk
  bytes : ∀ page, (∀ t, s.writes t ≠ some page) →
    bytes page = pageAt (s.disk.file page.fileId) page.pageNo
  write : ∀ t pageId path data offset pc, s.disk.call t = some (.write pageId path data offset pc) →
    Copied data.1 (pageStart pageId.pageNo) (s.disk.file pageId.fileId) pc
  read : ∀ t pageId path offset progress page,
    s.query t = some (.read pageId path offset progress page) → offset = pageStart pageId.pageNo ∧
      Reading pageId path (s.disk.file pageId.fileId) (progress, page)

/-- What the pages hold for other calls, once this one is over. -/
def settled (bytes : PageId → PageBytes) : Call → PageId → PageBytes
  | .write pageId _ _ _ _ =>
    Function.update bytes pageId (pageAt (s.disk.file pageId.fileId) pageId.pageNo)
  | .extend _ _ _ => bytes

end Calls

section Steps

variable {T : Type} [DecidableEq T] {s s' : Calls T} {t u : T} {bytes : PageId → PageBytes}
  {request : Request} {response : Response} {outcome : Outcome} {page : PageId}

open Calls

lemma start_cases (hs : s.start t request = some s') : s.disk.call t = none ∧ s.query t = none ∧
    ((∃ query, startQuery s.disk request = some query ∧ s' = s.setQuery t (some query)) ∨
      ∃ disk, s.startCall t request = some disk ∧ s' = { s with disk := disk }) := by
  rw [Calls.start] at hs
  split at hs
  · rename_i hfree
    split at hs
    · rename_i query hquery
      exact ⟨hfree.1, hfree.2, .inl ⟨query, hquery, (Option.some.inj hs).symm⟩⟩
    · obtain ⟨disk, hdisk, rfl⟩ := Option.map_eq_some_iff.mp hs
      exact ⟨hfree.1, hfree.2, .inr ⟨disk, hdisk, rfl⟩⟩
  · cases hs

lemma answer_cases (hs : s.answer t outcome = some s') :
    (∃ query, s.query t = some query ∧
      s' = s.setQuery t (some (query.answer s.disk.file outcome))) ∨
    s.query t = none ∧ ∃ disk, s.disk.answer t outcome = some disk ∧
      s' = { s with disk := disk } := by
  rw [Calls.answer] at hs
  split at hs
  · rename_i query hquery
    exact .inl ⟨query, hquery, (Option.some.inj hs).symm⟩
  · rename_i hquery
    obtain ⟨disk, hdisk, rfl⟩ := Option.map_eq_some_iff.mp hs
    exact .inr ⟨hquery, disk, hdisk, rfl⟩

lemma finish_cases (hs : s.finish t = some (response, s')) :
    (∃ query, s.query t = some query ∧ query.response = some response ∧
      s' = s.setQuery t none) ∨
    s.query t = none ∧ ∃ call disk, s.disk.call t = some call ∧
      callResponse call = some response ∧ s.disk.leave t = some disk ∧
      s' = { s with disk := disk } := by
  rw [Calls.finish] at hs
  split at hs
  · rename_i query hquery
    obtain ⟨r, hr, he⟩ := Option.map_eq_some_iff.mp hs
    obtain ⟨rfl, rfl⟩ := Prod.mk.inj he
    exact .inl ⟨query, hquery, hr, rfl⟩
  · rename_i hquery
    obtain ⟨call, hcall, hs⟩ := Option.bind_eq_some_iff.mp hs
    obtain ⟨r, hr, hs⟩ := Option.bind_eq_some_iff.mp hs
    obtain ⟨disk, hdisk, he⟩ := Option.map_eq_some_iff.mp hs
    obtain ⟨rfl, rfl⟩ := Prod.mk.inj he
    exact .inr ⟨hquery, call, disk, hcall, hr, hdisk, rfl⟩

lemma Query.of_response_read {query : Query} {bytes : PageBytes}
    (h : query.response = some (.read bytes)) : ∃ pageId path offset page,
      query = .read pageId path offset (.returned (.ok ())) page ∧ bytes = toPage page := by
  rw [response.eq_def] at h
  split at h <;> cases h
  exact ⟨_, _, _, _, rfl, rfl⟩

lemma Query.response_ne_written {query : Query} : query.response ≠ some .written := by
  rw [response.eq_def]
  split <;> rintro ⟨⟩

lemma callResponse_ne_read {call : Call} {bytes : PageBytes} :
    callResponse call ≠ some (.read bytes) := by
  rw [callResponse.eq_def]
  split <;> rintro ⟨⟩

lemma of_response_written {call : Call} (h : callResponse call = some .written) :
    ∃ pageId path data offset,
      call = .write pageId path data offset (.writing (.returned (.ok ()))) := by
  rw [callResponse.eq_def] at h
  split at h <;> cases h
  exact ⟨_, _, _, _, rfl⟩

lemma Query.answer_request (file : FileId → List UInt8) (query : Query) :
    (query.answer file outcome).request = query.request := by
  cases query with
  | count fileId path result =>
    cases result with
    | none =>
      rw [answer]
      split <;> rfl
    | some => rfl
  | sync fileId path result =>
    cases result with
    | none =>
      rw [answer]
      split <;> rfl
    | some => rfl
  | read | refused => rfl

lemma answer_call {w w' : Posix.World T} (hs : w.answer t outcome = some w') :
    ∃ call call', w.call t = some call ∧ w'.call = Function.update w.call t (some call') ∧
      callRequest call' = callRequest call := by
  rw [World.answer] at hs
  split at hs
  · rename_i hcall
    obtain rfl := Option.some.inj hs
    exact ⟨_, _, hcall, rfl, rfl⟩
  · rename_i hcall
    obtain rfl := Option.some.inj hs
    exact ⟨_, _, hcall, rfl, rfl⟩
  · cases hs

omit [DecidableEq T] in
lemma startQuery_request {w : Posix.World T} {query : Query} {r : Request}
    (h : startQuery w request = some query) (hr : query.request = some r) : r = request := by
  cases request with
  | pageCount | syncFile =>
    simp only [startQuery] at h
    split at h <;> obtain rfl := Option.some.inj h <;> cases hr
    rfl
  | readPage =>
    simp only [startQuery] at h
    split at h
    · obtain rfl := Option.some.inj h
      cases hr
    · split at h
      · obtain rfl := Option.some.inj h
        cases hr
      · cases h
      · obtain rfl := Option.some.inj h
        cases hr
        rfl
  | writePage =>
    simp only [startQuery] at h
    split at h
    · obtain rfl := Option.some.inj h
      cases hr
    · split at h
      · obtain rfl := Option.some.inj h
        cases hr
      · cases h
  | extendFile =>
    simp only [startQuery] at h
    split at h
    · obtain rfl := Option.some.inj h
      cases hr
    · cases h

omit [DecidableEq T] in
/-- A read starts with none of its page. -/
lemma startQuery_reading {w : Posix.World T} {pageId : PageId} {path : String} {offset : ℕ}
    {progress : Progress (Span.Exit DiskError)} {buffer : List UInt8}
    (h : startQuery w request = some (.read pageId path offset progress buffer)) :
    offset = pageStart pageId.pageNo ∧
      Reading pageId path (w.file pageId.fileId) (progress, buffer) := by
  have hreq := startQuery_request h rfl
  subst hreq
  simp only [startQuery] at h
  split at h
  · cases h
  · rename_i path' _
    obtain ⟨e, he⟩ | ⟨ho, hr⟩ := pageOffset_cases pageId path' .readPage
    · rw [he] at h
      cases h
    · rw [ho] at h
      cases h
      refine ⟨rfl, hr, Mover.holds_enter ⟨List.length_replicate, ?_⟩ (Nat.zero_le _)⟩
      rw [List.take_zero, List.take_zero]

lemma pageId_eq {pageId pageId' : PageId} (hf : pageId.fileId = pageId'.fileId)
    (hn : pageId.pageNo = pageId'.pageNo) : pageId = pageId' := by
  cases pageId
  cases pageId'
  rw [PageId.mk.injEq]
  exact ⟨hf, hn⟩

omit [DecidableEq T] in
lemma writes_of_call {pageId : PageId} {path : String} {data : Posix.PageBytes} {offset : ℕ}
    {pc : WritePc} (h : s.disk.call t = some (.write pageId path data offset pc)) :
    s.writes t = some pageId := by
  rw [writes, h]

omit [DecidableEq T] in
lemma reads_of_query {pageId : PageId} {path : String} {offset : ℕ}
    {progress : Progress (Span.Exit DiskError)} {buffer : List UInt8}
    (h : s.query t = some (.read pageId path offset progress buffer)) :
    s.reads t = some pageId := by
  rw [reads, h]

omit [DecidableEq T] in
lemma exists_call (h : s.writes t = some page) :
    ∃ path data offset pc, s.disk.call t = some (.write page path data offset pc) := by
  rw [writes] at h
  split at h
  · rename_i pageId path data offset pc hcall
    obtain rfl := Option.some.inj h
    exact ⟨path, data, offset, pc, hcall⟩
  · cases h

omit [DecidableEq T] in
lemma exists_query (h : s.reads t = some page) : ∃ path offset progress buffer,
    s.query t = some (.read page path offset progress buffer) := by
  rw [reads] at h
  split at h
  · rename_i pageId path offset progress buffer hquery
    obtain rfl := Option.some.inj h
    exact ⟨path, offset, progress, buffer, hquery⟩
  · cases h

omit [DecidableEq T] in
lemma keepsPage_setFile {w : Posix.World T} {fileId : FileId} {file : List UInt8}
    (h : page.fileId = fileId → KeepsPage page.pageNo (w.file fileId) file) :
    KeepsPage page.pageNo (w.file page.fileId) ((w.setFile fileId file).file page.fileId) := by
  by_cases hf : page.fileId = fileId
  · rw [hf, World.setFile_self]
    exact h hf
  · rw [World.setFile_of_ne _ _ hf]
    exact .refl ..

/-- Whatever happens to the pages that nobody writes, no transfer of another page notices. -/
lemma Calls.Sound.ofDisk {disk : Posix.World T} (h : s.Sound bytes) (hser : Serialized disk)
    (hcall : ∀ u, u ≠ t → disk.call u = s.disk.call u)
    (hkeep : ∀ page, s.writes t ≠ some page →
      KeepsPage page.pageNo (s.disk.file page.fileId) (disk.file page.fileId))
    (hap : s.Apart) (hq : s.query t = none)
    (hself : ∀ page, s.writes t = some page → ∃ path data offset pc,
      disk.call t = some (.write page path data offset pc) ∧
        Copied data.1 (pageStart page.pageNo) (disk.file page.fileId) pc)
    (hnone : s.writes t = none → ∀ pageId path data offset pc,
      disk.call t ≠ some (.write pageId path data offset pc)) :
    Sound { s with disk := disk } bytes where
  serialized := hser
  bytes page hp := by
    have hold : ∀ u, s.writes u ≠ some page := by
      intro u hu
      by_cases hut : u = t
      · subst hut
        obtain ⟨path, data, offset, pc, hc, -⟩ := hself page hu
        exact hp u (writes_of_call (s := { s with disk := disk }) hc)
      · obtain ⟨path, data, offset, pc, hc⟩ := exists_call hu
        rw [← hcall u hut] at hc
        exact hp u (writes_of_call (s := { s with disk := disk }) hc)
    rw [h.bytes page hold, (hkeep page (hold t)).page]
  write u pageId path data offset pc hc := by
    by_cases hu : u = t
    · subst hu
      cases hw : s.writes u with
      | none => exact absurd hc (hnone hw pageId path data offset pc)
      | some page =>
        obtain ⟨path', data', offset', pc', hc', hcopied⟩ := hself page hw
        cases hc'.symm.trans hc
        exact hcopied
    · have hold := (hcall u hu).symm.trans hc
      have hne : s.writes t ≠ some pageId := fun ht =>
        hu (hap t u pageId ht (.inl (writes_of_call hold)))
      obtain ⟨-, -, ho, hsafe⟩ := h.serialized.calls u _ hold
      subst ho
      exact (h.write u _ _ _ _ _ hold).keeps hsafe (hkeep pageId hne)
  read u pageId path offset progress page hr := by
    obtain ⟨ho, hreading⟩ := h.read u _ _ _ _ _ hr
    refine ⟨ho, hreading.keeps (hkeep pageId fun ht => ?_)⟩
    have hu : u = t := hap t u pageId ht (.inr (reads_of_query hr))
    subst hu
    rw [hq] at hr
    cases hr

lemma Calls.Sound.answerCall {disk : Posix.World T} (h : s.Sound bytes) (hap : s.Apart)
    (hq : s.query t = none) (hs : s.disk.answer t outcome = some disk) :
    Sound { s with disk := disk } bytes := by
  have hser := h.serialized.answer hs
  rw [World.answer] at hs
  split at hs
  · rename_i pageId path data offset pc hcall
    obtain rfl := Option.some.inj hs
    obtain ⟨-, hr, rfl, hsafe⟩ := h.serialized.calls t _ hcall
    obtain ⟨hout, hnext⟩ := writeStep_copied path outcome hr rfl hsafe
      (h.write t _ _ _ _ _ hcall)
    have hw := writes_of_call hcall
    generalize writeStep pageId path data.1 (pageStart pageId.pageNo)
      (pc, s.disk.file pageId.fileId) outcome = x at *
    refine h.ofDisk hser (fun u hu => Function.update_of_ne hu ..) (fun page hne => ?_) hap hq
      (fun page hpage => ?_) fun hnone => ?_
    · refine keepsPage_setFile fun hf => ?_
      refine .of_sameOutside hout fun hn => hne ?_
      rw [hw]
      exact congrArg some (pageId_eq hf hn).symm
    · rw [hw] at hpage
      obtain rfl := Option.some.inj hpage
      refine ⟨path, data, _, x.1, Function.update_self .., ?_⟩
      rw [World.setCall_file, World.setFile_self]
      exact hnext
    · rw [hw] at hnone
      cases hnone
  · rename_i fileId path pc hcall
    obtain rfl := Option.some.inj hs
    obtain ⟨hpath, -, hsafe⟩ := h.serialized.calls t _ hcall
    obtain ⟨n, hgrown⟩ := extendStep_grows path outcome
      (h.serialized.files _ _ hpath) hsafe
    have hw : s.writes t = none := by rw [writes, hcall]
    generalize extendStep fileId path (pc, s.disk.file fileId) outcome = x at *
    refine h.ofDisk hser (fun u hu => Function.update_of_ne hu ..) (fun page _ => ?_) hap hq
      (fun page hpage => ?_) fun _ pageId path' data offset pc' hc => ?_
    · refine keepsPage_setFile fun _ => ?_
      rw [hgrown]
      exact .of_zeros ..
    · rw [hw] at hpage
      cases hpage
    · have hself : ((s.disk.setFile fileId x.2).setCall t (some (.extend fileId path x.1))).call t =
          some (.extend fileId path x.1) := Function.update_self ..
      cases hself.symm.trans hc
  · cases hs

lemma Calls.Sound.setQuery {query : Option Query} (h : s.Sound bytes)
    (hr : ∀ pageId path offset progress page,
      query = some (.read pageId path offset progress page) → offset = pageStart pageId.pageNo ∧
        Reading pageId path (s.disk.file pageId.fileId) (progress, page)) :
    (s.setQuery t query).Sound bytes where
  serialized := h.serialized
  bytes := h.bytes
  write := h.write
  read u pageId path offset progress page hu := by
    by_cases hut : u = t
    · subst hut
      rw [setQuery_self] at hu
      exact hr _ _ _ _ _ hu
    · rw [setQuery_of_ne query hut] at hu
      exact h.read u _ _ _ _ _ hu

lemma Calls.Sound.answer (h : s.Sound bytes) (hap : s.Apart) (hs : s.answer t outcome = some s') :
    s'.Sound bytes := by
  rcases answer_cases hs with ⟨query, hquery, rfl⟩ | ⟨hquery, disk, hdisk, rfl⟩
  · refine h.setQuery fun pageId path offset progress page hq => ?_
    cases query with
    | count fileId path result =>
      cases result with
      | none =>
        simp only [Query.answer] at hq
        split at hq <;> cases hq
      | some => cases hq
    | sync fileId path result =>
      cases result with
      | none =>
        simp only [Query.answer] at hq
        split at hq <;> cases hq
      | some => cases hq
    | refused => cases hq
    | read pageId path offset progress page =>
      cases hq
      obtain ⟨rfl, hr, hreading⟩ := h.read t _ _ _ _ _ hquery
      exact ⟨rfl, hr, hreading.step (readMover_keeps _ _ hr)⟩
  · exact h.answerCall hap hquery hdisk

/-- A call that starts or ends leaves the files alone. -/
lemma Calls.Sound.ofFiles {disk : Posix.World T} {bytes' : PageId → PageBytes} (h : s.Sound bytes)
    (hser : Serialized disk) (hfile : disk.file = s.disk.file)
    (hcall : ∀ u, u ≠ t → disk.call u = s.disk.call u)
    (hself : ∀ pageId path data offset pc, disk.call t = some (.write pageId path data offset pc) →
      pc = .counting)
    (hbytes : ∀ page, (∀ u, Calls.writes { s with disk := disk } u ≠ some page) →
      bytes' page = pageAt (s.disk.file page.fileId) page.pageNo) :
    Sound { s with disk := disk } bytes' where
  serialized := hser
  bytes page hp := by
    rw [hfile]
    exact hbytes page hp
  write u pageId path data offset pc hc := by
    rw [hfile]
    by_cases hu : u = t
    · subst hu
      rw [hself _ _ _ _ _ hc]
      trivial
    · exact h.write u _ _ _ _ _ ((hcall u hu).symm.trans hc)
  read u pageId path offset progress page hr := by
    rw [hfile]
    exact h.read u _ _ _ _ _ hr

omit [DecidableEq T] in
lemma writes_congr {disk : Posix.World T} (h : disk.call u = s.disk.call u) :
    Calls.writes { s with disk := disk } u = s.writes u := by
  rw [writes, writes, h]

lemma Calls.Sound.begun {disk : Posix.World T} {call : Call} (h : s.Sound bytes)
    (hser : Serialized disk) (hnone : s.disk.call t = none) (hfile : disk.file = s.disk.file)
    (hcall : disk.call = Function.update s.disk.call t (some call))
    (hself : ∀ pageId path data offset pc, call = .write pageId path data offset pc →
      pc = .counting) : Sound { s with disk := disk } bytes := by
  refine h.ofFiles (t := t) hser hfile (fun u hu => ?_) (fun pageId path data offset pc hc => ?_)
    fun page hp => h.bytes page fun u hu => ?_
  · rw [hcall, Function.update_of_ne hu]
  · rw [hcall, Function.update_self] at hc
    exact hself _ _ _ _ _ (Option.some.inj hc)
  · by_cases hut : u = t
    · subst hut
      rw [writes, hnone] at hu
      cases hu
    · refine hp u ((writes_congr ?_).trans hu)
      rw [hcall, Function.update_of_ne hut]

lemma startCall_begun {disk : Posix.World T} (hs : s.startCall t request = some disk) :
    ∃ call, disk.file = s.disk.file ∧ disk.call = Function.update s.disk.call t (some call) ∧
      callRequest call = request ∧ (∀ pageId path data offset pc,
        call = .write pageId path data offset pc → pc = .counting) ∧
      (Serialized s.disk → Serialized disk) := by
  cases request with
  | writePage pageId data =>
    have hs' : s.disk.beginWrite t pageId ⟨List.ofFn data, List.length_ofFn⟩ = some disk := hs
    rw [World.beginWrite] at hs'
    split at hs'
    · split at hs'
      · rename_i offset _
        obtain rfl := Option.some.inj hs'
        refine ⟨_, rfl, rfl, ?_, ?_, fun h => h.beginWrite hs⟩
        · rw [callRequest, toPage_ofFn]
        · rintro _ _ _ _ _ ⟨⟩
          rfl
      · cases hs'
    · cases hs'
  | extendFile fileId =>
    have hs' : s.disk.beginExtend t fileId = some disk := hs
    rw [World.beginExtend] at hs'
    split at hs'
    · obtain rfl := Option.some.inj hs'
      refine ⟨_, rfl, rfl, rfl, ?_, fun h => h.beginExtend hs⟩
      rintro _ _ _ _ _ ⟨⟩
    · cases hs'
  | pageCount | readPage | syncFile => cases hs

lemma Calls.Sound.start (h : s.Sound bytes) (hs : s.start t request = some s') :
    s'.Sound bytes := by
  obtain ⟨hfree, -, ⟨query, hquery, rfl⟩ | ⟨disk, hdisk, rfl⟩⟩ := start_cases hs
  · refine h.setQuery fun pageId path offset progress page hq => ?_
    rw [Option.some.inj hq] at hquery
    exact startQuery_reading hquery
  · obtain ⟨call, hfile, hcall, -, hself, hser⟩ := startCall_begun hdisk
    exact h.begun (hser h.serialized) hfree hfile hcall hself

lemma leave_eq {w w' : Posix.World T} (hs : w.leave t = some w') :
    w'.file = w.file ∧ w'.call = Function.update w.call t none := by
  rw [World.leave] at hs
  split at hs
  · obtain rfl := Option.some.inj hs
    exact ⟨rfl, rfl⟩
  · obtain rfl := Option.some.inj hs
    exact ⟨rfl, rfl⟩
  · obtain rfl := Option.some.inj hs
    exact ⟨rfl, rfl⟩
  · cases hs

/-- When a write is over, its page holds what the file holds. -/
lemma Calls.Sound.finishCall {disk : Posix.World T} {call : Call} (h : s.Sound bytes)
    (hc : s.disk.call t = some call) (hs : s.disk.leave t = some disk) :
    Sound { s with disk := disk } (s.settled bytes call) := by
  obtain ⟨hfile, hcall⟩ := leave_eq hs
  have hkept : ∀ u, u ≠ t → disk.call u = s.disk.call u := by
    intro u hu
    rw [hcall, Function.update_of_ne hu]
  refine h.ofFiles (t := t) (h.serialized.leave hs) hfile hkept ?_ fun page hp => ?_
  · intro pageId path data offset pc hc'
    rw [hcall, Function.update_self] at hc'
    cases hc'
  · have hold : s.writes t ≠ some page → bytes page =
        pageAt (s.disk.file page.fileId) page.pageNo := by
      intro hne
      refine h.bytes page fun u hu => ?_
      by_cases hut : u = t
      · subst hut
        exact hne hu
      · exact hp u ((writes_congr (hkept u hut)).trans hu)
    cases call with
    | extend =>
      apply hold
      rw [writes, hc]
      exact Option.some_ne_none _ |>.symm
    | write pageId path data offset pc =>
      rw [settled]
      by_cases hpage : page = pageId
      · subst hpage
        rw [Function.update_self]
      · rw [Function.update_of_ne hpage]
        apply hold
        rw [writes_of_call hc]
        exact fun he => hpage (Option.some.inj he).symm

end Steps

end DBlusBlus.DiskPageIo
