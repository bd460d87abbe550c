import DBlusBlus.Disk.Transfer

/-! What a page transfer or an extension leaves behind, whatever its system calls answer. -/

namespace DBlusBlus.Posix

open Transfer (Outcome Progress Mover)

def pageStart (pageNo : PageNo) : ℕ := pageSize * pageNo.toNat

/-- A file whose size is a page count and an `off_t`. -/
structure PageFileBytes (file : List UInt8) : Prop where
  aligned : file.length % pageSize = 0
  offset : file.length ≤ maxOffset

def SameOutside (pageNo : PageNo) (file file' : List UInt8) : Prop :=
  file'.length = file.length ∧
    ∀ i, i < pageStart pageNo ∨ pageStart pageNo + pageSize ≤ i → file'[i]? = file[i]?

def ReadOutcome (pageNo : PageNo) (file output : List UInt8) :
    Progress (Span.Exit DiskError) × List UInt8 → Prop
  | (.moving transferred position, output') => output' = output ∧
      position = pageStart pageNo + transferred ∧ transferred < pageSize ∧
      pageStart pageNo + pageSize ≤ maxOffset
  | (.returned (.ok ()), output') => pageStart pageNo + pageSize ≤ file.length ∧
      output' = (file.drop (pageStart pageNo)).take pageSize
  | (.returned (.error (.error _)), output') => output' = output
  | (.returned (.error .fault), _) => False

def WriteOutcome (pageNo : PageNo) (data file : List UInt8) : WritePc × List UInt8 → Prop
  | (.counting, file') => file' = file
  | (.writing (.moving transferred position), file') => SameOutside pageNo file file' ∧
      pageNo.toNat < file.length / pageSize ∧ position = pageStart pageNo + transferred ∧
      transferred < pageSize ∧ pageStart pageNo + pageSize ≤ maxOffset
  | (.writing (.returned (.ok ())), file') => SameOutside pageNo file file' ∧
      pageNo.toNat < file.length / pageSize ∧
      (file'.drop (pageStart pageNo)).take pageSize = data
  | (.writing (.returned (.error (.error _))), file') => SameOutside pageNo file file' ∧
      (file.length / pageSize ≤ pageNo.toNat → file' = file)
  | (.writing (.returned (.error .fault)), _) => False

def ExtendOutcome (fileId : FileId) (path : String) (file : List UInt8) :
    ExtendPc × List UInt8 → Prop
  | (.counting, file') => file' = file
  | (.truncating count newSize, file') => file' = file ∧
      count.toNat = file.length / pageSize ∧ newSize = file.length + pageSize ∧
      newSize ≤ maxOffset
  | (.returned (.ok count), file') => count.toNat = file.length / pageSize ∧
      file' = file ++ List.replicate pageSize 0 ∧ file'.length ≤ maxOffset ∧
      ∀ operation, pageOffset ⟨fileId, count⟩ path operation = .ok (pageStart count)
  | (.returned (.error (.error _)), file') => file' = file
  | (.returned (.error .fault), _) => False

variable {pageId : PageId} {fileId : FileId} {path : String} {operation : DiskOperation}
  {file file' data output : List UInt8} {offset : ℕ}

lemma pageOffset_of_le (h : pageId.pageNo.toNat ≤ maxOffset / pageSize - 1) :
    pageOffset pageId path operation = .ok (pageStart pageId.pageNo) ∧
      pageStart pageId.pageNo + pageSize ≤ maxOffset := by
  have hn : (pageId.pageNo * UInt64.ofNat pageSize).toNat = pageStart pageId.pageNo := by
    rw [UInt64.toNat_mul, UInt64.toNat_ofNat', pageStart]
    rw [maxOffset, pageSize] at h
    rw [pageSize]
    omega
  have hle : pageStart pageId.pageNo + pageSize ≤ maxOffset := by
    rw [pageStart]
    rw [maxOffset, pageSize] at *
    omega
  refine ⟨?_, hle⟩
  rw [pageOffset, if_neg (by omega), toOffset, hn, if_pos (by omega)]

lemma pageOffset_cases (pageId : PageId) (path : String) (operation : DiskOperation) :
    (∃ e, pageOffset pageId path operation = .error (.error e)) ∨
      pageOffset pageId path operation = .ok (pageStart pageId.pageNo) ∧
        pageStart pageId.pageNo + pageSize ≤ maxOffset := by
  by_cases h : maxOffset / pageSize - 1 < pageId.pageNo.toNat
  · exact .inl ⟨_, if_pos h⟩
  · exact .inr (pageOffset_of_le (by omega))

lemma addOffset_eq {n : ℕ} (h : offset + n ≤ maxOffset) : addOffset offset n = .ok (offset + n) :=
  if_pos h

section Read

def Filled (file : List UInt8) (offset transferred : ℕ) (page : List UInt8) : Prop :=
  page.length = pageSize ∧ page.take transferred = (file.drop offset).take transferred

lemma readMover_keeps (pageId : PageId) (path : String) (hr : offset + pageSize ≤ maxOffset) :
    (readMover pageId path file offset).Keeps (Filled file offset) := by
  intro transferred position count page hf hlt hp hc h₀
  obtain ⟨hlen, htake⟩ := hf
  simp only [readMover] at hlt hp hc h₀ ⊢
  rw [addOffset_eq (by omega)] at hp
  obtain rfl := Except.ok.inj hp
  generalize hn : min count (file.length - (offset + transferred)) = n at h₀ ⊢
  have hchunk : ((file.drop (offset + transferred)).take n).length = n := by
    rw [List.length_take, List.length_drop]
    omega
  refine ⟨?_, ?_⟩
  · rw [Codec.length_splice (by omega), hlen]
  · have hfront : (page.take transferred ++ (file.drop (offset + transferred)).take n).length =
        transferred + n := by
      rw [List.length_append, List.length_take, hchunk]
      omega
    rw [Codec.splice, List.take_left' hfront, htake, ← List.drop_drop, ← List.take_add]

theorem readPage_outcome (pageId : PageId) (path : String) (file output : List UInt8)
    (outcomes : List Outcome) :
    ReadOutcome pageId.pageNo file output (readPage pageId (some path) file output outcomes) := by
  rw [readPage]
  obtain ⟨e, he⟩ | ⟨ho, hr⟩ := pageOffset_cases pageId path .readPage
  · rw [he]
    exact rfl
  · rw [ho]
    have h₀ : Filled file (pageStart pageId.pageNo) 0 (List.replicate pageSize 0) :=
      ⟨List.length_replicate, by rw [List.take_zero, List.take_zero]⟩
    have h := Mover.holds_run (readMover_keeps pageId path hr) h₀ outcomes
    dsimp only
    generalize (readMover pageId path file (pageStart pageId.pageNo)).run
      (List.replicate pageSize 0) outcomes = x at h ⊢
    obtain ⟨progress, page⟩ := x
    cases progress with
    | moving transferred position =>
      obtain ⟨hlt, hp, -⟩ := h
      simp only [readMover] at hlt hp
      rw [addOffset_eq (by omega)] at hp
      exact ⟨rfl, (Except.ok.inj hp).symm, hlt, hr⟩
    | returned result =>
      cases result with
      | ok u =>
        obtain ⟨hlen, htake⟩ := h
        simp only [readMover] at htake
        rw [List.take_of_length_le hlen.le] at htake
        refine ⟨?_, htake⟩
        have := congrArg List.length htake
        rw [hlen, List.length_take, List.length_drop] at this
        have : 0 < pageSize := by decide
        omega
      | error e =>
        obtain ⟨transferred, hlt, -, hend⟩ := h
        simp only [readMover] at hlt
        rcases hend with hend | hend | ⟨errno, -, hend⟩
        · simp only [readMover] at hend
          rw [addOffset_eq (by omega)] at hend
          cases hend
        · subst hend
          exact rfl
        · subst hend
          exact rfl

lemma readPage_ok {outcomes : List Outcome} {u : Unit} {page : List UInt8}
    (h : readPage pageId (some path) file output outcomes = (.returned (.ok u), page)) :
    pageStart pageId.pageNo + pageSize ≤ file.length ∧
      page = (file.drop (pageStart pageId.pageNo)).take pageSize := by
  have hout := readPage_outcome pageId path file output outcomes
  rw [h] at hout
  exact hout

end Read

section Count

variable (hf : PageFileBytes file)

include hf

lemma pageCount_fstat : pageCount fileId (some path) (.ok (file.length : ℤ)) =
    .ok (UInt64.ofNat (file.length / pageSize)) := by
  have hne : ¬ ((file.length : ℤ) < 0 ∨ (file.length : ℤ) % (pageSize : ℕ) ≠ 0) := by
    have := hf.aligned
    rw [pageSize] at *
    omega
  rw [pageCount, fileSize]
  rw [if_neg hne, Int.toNat_natCast]
  rfl

lemma toNat_pageCount :
    (UInt64.ofNat (file.length / pageSize)).toNat = file.length / pageSize := by
  have := hf.offset
  rw [maxOffset] at this
  rw [UInt64.toNat_ofNat', pageSize]
  omega

end Count

lemma pageStart_le {pageNo : PageNo} (h : pageNo.toNat < file.length / pageSize) :
    pageStart pageNo + pageSize ≤ file.length := by
  rw [pageStart]
  rw [pageSize] at *
  omega

section Write

def Written (data file : List UInt8) (offset transferred : ℕ) (file' : List UInt8) : Prop :=
  file' = Codec.splice file offset (data.take transferred)

lemma writeMover_keeps (hd : data.length = pageSize) (hle : offset + pageSize ≤ file.length)
    (hr : offset + pageSize ≤ maxOffset) :
    (writeMover pageId path data offset).Keeps (Written data file offset) := by
  intro transferred position count file' hw hlt hp hc h₀
  simp only [writeMover] at hlt hp hc ⊢
  rw [addOffset_eq (by omega)] at hp
  obtain rfl := Except.ok.inj hp
  have htake : (data.take transferred).length = transferred := by
    rw [List.length_take]
    omega
  have hlen : file'.length = file.length := by
    rw [hw, Codec.length_splice (by omega)]
  have hnext : (data.take transferred ++ (data.drop transferred).take count).length ≤ pageSize := by
    rw [List.length_append, htake, List.length_take, List.length_drop]
    omega
  have hsplice : Codec.splice (Codec.splice file offset (data.take transferred))
      (offset + (data.take transferred).length) ((data.drop transferred).take count) =
      Codec.splice file offset (data.take transferred ++ (data.drop transferred).take count) :=
    Codec.splice_next (by omega)
  rw [htake, ← hw] at hsplice
  rw [pwrite, hlen, Nat.sub_eq_zero_of_le (by omega), List.replicate_zero, List.append_nil, hsplice,
    ← List.take_add, Written]

lemma Written.sameOutside {transferred : ℕ} {pageNo : PageNo}
    (h : Written data file (pageStart pageNo) transferred file') (hd : data.length = pageSize)
    (hle : pageStart pageNo + pageSize ≤ file.length) : SameOutside pageNo file file' := by
  have htake : (data.take transferred).length ≤ pageSize := by
    rw [List.length_take]
    omega
  rw [Written] at h
  subst h
  refine ⟨Codec.length_splice (by omega), fun i hi => ?_⟩
  exact Codec.getElem?_splice_outside (by omega) (by omega)

/-- Before the first `pwrite` the file is as it was; from then on the loop's invariant holds. -/
def WriteHolds (pageId : PageId) (path : String) (data file : List UInt8) :
    WritePc × List UInt8 → Prop
  | (.counting, file') => file' = file
  | (.writing progress, file') =>
      (file' = file ∧ ∃ e, progress = .returned (.error (.error e))) ∨
      pageId.pageNo.toNat < file.length / pageSize ∧
        (writeMover pageId path data (pageStart pageId.pageNo)).Holds
          (Written data file (pageStart pageId.pageNo)) (progress, file')

variable (hf : PageFileBytes file) (hd : data.length = pageSize)
  (hr : pageStart pageId.pageNo + pageSize ≤ maxOffset)

include hf hd hr

lemma writeHolds_step {x : WritePc × List UInt8} {outcome : Outcome}
    (h : WriteHolds pageId path data file x) : WriteHolds pageId path data file
      (writeStep pageId path data (pageStart pageId.pageNo) x outcome) := by
  obtain ⟨pc, file'⟩ := x
  cases pc with
  | counting =>
    obtain rfl : file' = file := h
    rw [writeStep]
    split
    · exact rfl
    · cases outcome with
      | failed errno =>
        exact .inl ⟨rfl, _, rfl⟩
      | done count =>
        rw [fstat, pageCount_fstat hf]
        dsimp only
        split
        · exact .inl ⟨rfl, _, rfl⟩
        · rename_i hlt
          rw [UInt64.not_le, UInt64.lt_iff_toNat_lt, toNat_pageCount hf] at hlt
          refine .inr ⟨hlt, Mover.holds_enter ?_ (Nat.zero_le _)⟩
          rw [Written, List.take_zero, Codec.splice, List.append_nil, List.length_nil, Nat.add_zero,
            List.take_append_drop]
  | writing progress =>
    rw [writeStep]
    rcases h with ⟨rfl, e, rfl⟩ | ⟨hlt, h⟩
    · exact .inl ⟨rfl, e, rfl⟩
    · exact .inr ⟨hlt, h.step (writeMover_keeps hd (pageStart_le hlt) hr)⟩

lemma writeHolds_outcome {x : WritePc × List UInt8} (h : WriteHolds pageId path data file x) :
    WriteOutcome pageId.pageNo data file x := by
  obtain ⟨pc, file'⟩ := x
  cases pc with
  | counting => exact h
  | writing progress =>
    rcases h with ⟨rfl, e, rfl⟩ | ⟨hlt, h⟩
    · exact ⟨⟨rfl, fun _ _ => rfl⟩, fun _ => rfl⟩
    · have hle := pageStart_le hlt
      cases progress with
      | moving transferred position =>
        obtain ⟨ht, hp, hw⟩ := h
        simp only [writeMover] at ht hp
        rw [addOffset_eq (by omega)] at hp
        exact ⟨hw.sameOutside hd hle, hlt, (Except.ok.inj hp).symm, ht, hr⟩
      | returned result =>
        cases result with
        | ok u =>
          refine ⟨Written.sameOutside h hd hle, hlt, ?_⟩
          obtain h : file' = Codec.splice file (pageStart pageId.pageNo) (data.take pageSize) := h
          rw [List.take_of_length_le hd.le] at h
          rw [h, ← hd, Codec.drop_take_splice (by omega)]
        | error e =>
          obtain ⟨transferred, ht, hw, hend⟩ := h
          simp only [writeMover] at ht
          have hout : ∀ e : DiskError, WriteOutcome pageId.pageNo data file
              (.writing (.returned (.error (.error e))), file') :=
            fun _ => ⟨hw.sameOutside hd hle, fun h => absurd hlt (by omega)⟩
          rcases hend with hend | hend | ⟨errno, -, hend⟩
          · simp only [writeMover] at hend
            rw [addOffset_eq (by omega)] at hend
            cases hend
          · subst hend
            exact hout _
          · subst hend
            exact hout _

end Write

theorem writePage_outcome (hf : PageFileBytes file) (hd : data.length = pageSize)
    (outcomes : List Outcome) : WriteOutcome pageId.pageNo data file
      (writePage pageId (some path) data file outcomes) := by
  rw [writePage]
  obtain ⟨e, he⟩ | ⟨ho, hr⟩ := pageOffset_cases pageId path .writePage
  · rw [he]
    exact ⟨⟨rfl, fun _ _ => rfl⟩, fun _ => rfl⟩
  · rw [ho]
    dsimp only
    have h : WriteHolds pageId path data file
        (outcomes.foldl (writeStep pageId path data (pageStart pageId.pageNo)) (.counting, file)) :=
      List.foldlRecOn outcomes _ rfl fun _ h _ _ => writeHolds_step hf hd hr h
    exact writeHolds_outcome hf hd hr h

section Extend

variable (hf : PageFileBytes file)

include hf

lemma newSize_eq (h : ¬ maxOffset / pageSize - 1 < file.length / pageSize) :
    toOffset ((UInt64.ofNat (file.length / pageSize) + 1) * UInt64.ofNat pageSize) =
      .ok (file.length + pageSize) ∧ file.length + pageSize ≤ maxOffset := by
  have halign := hf.aligned
  have hcount := toNat_pageCount hf
  rw [maxOffset, pageSize] at h
  have hle : file.length + pageSize ≤ maxOffset := by
    rw [maxOffset, pageSize] at *
    omega
  have hn : ((UInt64.ofNat (file.length / pageSize) + 1) * UInt64.ofNat pageSize).toNat =
      file.length + pageSize := by
    rw [UInt64.toNat_mul, UInt64.toNat_add, hcount, UInt64.toNat_ofNat', UInt64.toNat_one]
    rw [maxOffset] at hle
    rw [pageSize] at *
    omega
  exact ⟨by rw [toOffset, hn, if_pos hle], hle⟩

lemma extendOutcome_step {x : ExtendPc × List UInt8} (outcome : Outcome)
    (h : ExtendOutcome fileId path file x) :
    ExtendOutcome fileId path file (extendStep fileId path x outcome) := by
  obtain ⟨pc, file'⟩ := x
  cases pc with
  | counting =>
    obtain rfl : file' = file := h
    rw [extendStep]
    split
    · exact rfl
    · cases outcome with
      | failed errno => exact rfl
      | done count =>
        rw [fstat, pageCount_fstat hf]
        dsimp only
        rw [toNat_pageCount hf]
        split
        · exact rfl
        · rename_i hlt
          obtain ⟨hn, hle⟩ := newSize_eq hf hlt
          rw [hn]
          exact ⟨rfl, toNat_pageCount hf, rfl, hle⟩
  | truncating count newSize =>
    obtain ⟨rfl, hcount, rfl, hle⟩ := h
    cases outcome with
    | failed errno =>
      rw [extendStep]
      split
      · exact ⟨rfl, hcount, rfl, hle⟩
      · exact rfl
    | done n =>
      have hgrown : ftruncate file' (file'.length + pageSize) =
          file' ++ List.replicate pageSize 0 := by
        rw [ftruncate, Nat.add_sub_cancel_left]
        apply List.take_of_length_le
        rw [List.length_append, List.length_replicate]
      refine ⟨hcount, hgrown, ?_, fun operation => (pageOffset_of_le ?_).1⟩
      · rw [hgrown, List.length_append, List.length_replicate]
        exact hle
      · rw [hcount]
        have := hf.aligned
        rw [maxOffset, pageSize] at *
        omega
  | returned result => exact h

end Extend

theorem extendFile_outcome (hf : PageFileBytes file) (outcomes : List Outcome) :
    ExtendOutcome fileId path file (extendFile fileId (some path) file outcomes) := by
  rw [extendFile]
  exact List.foldlRecOn outcomes _ rfl fun _ h _ _ => extendOutcome_step hf _ h

section Oracle

/-- An extension answers what the count and the truncation that it saw make of it. -/
def ExtendAnswers (fileId : FileId) (path : String) : ExtendPc → Prop
  | .counting => True
  | .truncating count _ => ∃ stat, pageCount fileId (some path) stat = .ok count ∧
      ¬ maxOffset / pageSize - 1 < count.toNat
  | .returned result => result ≠ .error .fault → ∃ stat truncated,
      (DBlusBlus.extendFile fileId (some path) stat truncated).mapError .error = result

lemma extendAnswers_step {x : ExtendPc × List UInt8} {outcome : Outcome}
    (h : ExtendAnswers fileId path x.1) :
    ExtendAnswers fileId path (extendStep fileId path x outcome).1 := by
  obtain ⟨pc, file'⟩ := x
  cases pc with
  | counting =>
    rw [extendStep]
    split
    · trivial
    · cases hcount : pageCount fileId (some path) (fstat file' outcome) with
      | error e =>
        refine fun _ => ⟨fstat file' outcome, fun _ => none, ?_⟩
        rw [DBlusBlus.extendFile]
        dsimp only
        rw [hcount]
        rfl
      | ok count =>
        dsimp only
        split
        · rename_i hguard
          refine fun _ => ⟨fstat file' outcome, fun _ => none, ?_⟩
          rw [DBlusBlus.extendFile]
          dsimp only
          rw [hcount]
          dsimp only
          rw [if_pos hguard]
          rfl
        · rename_i hguard
          cases hsize : toOffset ((count + 1) * UInt64.ofNat pageSize) with
          | error e =>
            rw [toOffset] at hsize
            split at hsize
            · cases hsize
            · obtain rfl := Except.error.inj hsize
              exact fun h => absurd rfl h
          | ok newSize => exact ⟨_, hcount, hguard⟩
  | truncating count newSize =>
    obtain ⟨stat, hcount, hguard⟩ := h
    cases outcome with
    | done n =>
      have hgrown : DBlusBlus.extendFile fileId (some path) stat (fun _ => none) = .ok count := by
        rw [DBlusBlus.extendFile, hcount]
        exact if_neg hguard
      refine fun _ => ⟨stat, fun _ => none, ?_⟩
      rw [hgrown]
      rfl
    | failed errno =>
      have hrefused : DBlusBlus.extendFile fileId (some path) stat (fun _ => some errno) =
          .error (makeDiskError .systemError .extendFile fileId path "ftruncate failed" errno) := by
        rw [DBlusBlus.extendFile, hcount]
        exact if_neg hguard
      rw [extendStep]
      split
      · exact ⟨stat, hcount, hguard⟩
      · refine fun _ => ⟨stat, fun _ => some errno, ?_⟩
        rw [hrefused]
        rfl
  | returned result => exact h

theorem extendFile_answers (outcomes : List Outcome) :
    ExtendAnswers fileId path (extendFile fileId (some path) file outcomes).1 := by
  rw [extendFile]
  have h : ExtendAnswers fileId path (ExtendPc.counting, file).1 := trivial
  exact List.foldlRecOn (motive := fun x : ExtendPc × List UInt8 => ExtendAnswers fileId path x.1)
    outcomes _ h fun _ h _ _ => extendAnswers_step h

end Oracle

section Returns

variable {outcomes : List Outcome}

/-- A `ReadPage` is over when as many calls as its page has bytes were not interrupted. -/
theorem readPage_returned (h : pageSize ≤ (Transfer.effective eintr outcomes).length) :
    ∃ result, (readPage pageId (some path) file output outcomes).1 = .returned result := by
  rw [readPage]
  obtain ⟨e, he⟩ | ⟨ho, -⟩ := pageOffset_cases pageId path .readPage
  · rw [he]
    exact ⟨_, rfl⟩
  · rw [ho]
    dsimp only
    obtain ⟨result, hr⟩ := Mover.run_returned (List.replicate pageSize 0)
      (m := readMover pageId path file (pageStart pageId.pageNo)) h
    generalize (readMover pageId path file (pageStart pageId.pageNo)).run
      (List.replicate pageSize 0) outcomes = x at hr ⊢
    obtain ⟨progress, page⟩ := x
    obtain rfl : progress = .returned result := hr
    rcases result with e | u
    · exact ⟨_, rfl⟩
    · exact ⟨_, rfl⟩

def writeRank (m : Mover (List UInt8) (Span.Exit DiskError)) : WritePc → ℕ
  | .counting => pageSize + 1
  | .writing progress => m.rank progress

theorem writePage_returned (h : pageSize + 1 ≤ (Transfer.effective eintr outcomes).length) :
    ∃ result, (writePage pageId (some path) data file outcomes).1 =
      .writing (.returned result) := by
  rw [writePage]
  obtain ⟨e, he⟩ | ⟨ho, -⟩ := pageOffset_cases pageId path .writePage
  · rw [he]
    exact ⟨_, rfl⟩
  · rw [ho]
    dsimp only
    have hstay : ∀ x, writeStep pageId path data (pageStart pageId.pageNo) x (.failed eintr) = x := by
      rintro ⟨pc, file'⟩
      cases pc with
      | counting => rfl
      | writing progress =>
        have := Mover.step_interrupted (m := writeMover pageId path data (pageStart pageId.pageNo))
          (progress, file')
        simp only [writeMover] at this
        rw [writeStep, writeMover, this]
    have hlose : ∀ x o, o ≠ .failed eintr →
        writeRank (writeMover pageId path data (pageStart pageId.pageNo))
          (writeStep pageId path data (pageStart pageId.pageNo) x o).1 ≤
        writeRank (writeMover pageId path data (pageStart pageId.pageNo)) x.1 - 1 := by
      rintro ⟨pc, file'⟩ o hne
      cases pc with
      | counting =>
        rw [writeStep, if_neg hne]
        split
        · exact Nat.zero_le _
        · split
          · exact Nat.zero_le _
          · exact Mover.rank_enter _
      | writing progress => exact Mover.rank_step _ _ hne
    have hrank := Transfer.foldl_rank (fun x => writeRank _ x.1) hstay hlose
      (.counting, file) outcomes
    generalize outcomes.foldl _ _ = x at hrank ⊢
    obtain ⟨pc, file'⟩ := x
    cases pc with
    | counting =>
      dsimp only [writeRank] at hrank
      omega
    | writing progress =>
      obtain ⟨result, rfl⟩ := Mover.returned_of_rank
        (Nat.le_zero.mp (hrank.trans (Nat.sub_eq_zero_of_le h).le))
      exact ⟨result, rfl⟩

def extendRank : ExtendPc → ℕ
  | .counting => 2
  | .truncating .. => 1
  | .returned _ => 0

theorem extendFile_returned (h : 2 ≤ (Transfer.effective eintr outcomes).length) :
    ∃ result, (extendFile fileId (some path) file outcomes).1 = .returned result := by
  have hstay : ∀ x, extendStep fileId path x (.failed eintr) = x := by
    rintro ⟨pc, file'⟩
    cases pc <;> rfl
  have hlose : ∀ x o, o ≠ .failed eintr →
      extendRank (extendStep fileId path x o).1 ≤ extendRank x.1 - 1 := by
    rintro ⟨pc, file'⟩ o hne
    cases pc with
    | counting =>
      rw [extendStep, if_neg hne]
      split
      · exact Nat.zero_le _
      · split
        · exact Nat.zero_le _
        · split
          · exact Nat.zero_le _
          · exact Nat.le_refl _
    | truncating count newSize =>
      cases o with
      | done n => exact Nat.zero_le _
      | failed errno =>
        rw [extendStep, if_neg fun h => hne (congrArg _ h)]
        exact Nat.zero_le _
    | returned result => exact Nat.zero_le _
  rw [extendFile]
  have hrank := Transfer.foldl_rank (fun x => extendRank x.1) hstay hlose (.counting, file) outcomes
  generalize outcomes.foldl _ _ = x at hrank ⊢
  obtain ⟨pc, file'⟩ := x
  cases pc with
  | counting =>
    dsimp only [extendRank] at hrank
    omega
  | truncating count newSize =>
    dsimp only [extendRank] at hrank
    omega
  | returned result => exact ⟨result, rfl⟩

end Returns

end DBlusBlus.Posix
