import DBlusBlus.Disk.Contract
import DBlusBlus.Library.Transition
import Mathlib.Data.Fintype.Basic

/-! Threads that write and extend the registered files, one system call at a time. Extensions hold
the extension mutex from before the count to the return. -/

namespace DBlusBlus.Posix

open Transfer (Outcome Progress Mover)

abbrev PageBytes := {data : List UInt8 // data.length = pageSize}

inductive Call
  | write (pageId : PageId) (path : String) (data : PageBytes) (offset : ℕ) (pc : WritePc)
  | extend (fileId : FileId) (path : String) (pc : ExtendPc)

structure World (T : Type) where
  path : FileId → Option String
  file : FileId → List UInt8
  extensionMutex : Option T
  call : T → Option Call
  /-- The pages that `ExtendFile` calls returned, in their order. -/
  extended : List PageId

inductive Act (T : Type)
  | write (t : T) (pageId : PageId) (data : PageBytes)
  | extend (t : T) (fileId : FileId)
  | answer (t : T) (outcome : Outcome)
  | leave (t : T)

namespace World

variable {T : Type} [DecidableEq T]

def setCall (w : World T) (t : T) (call : Option Call) : World T :=
  { w with call := Function.update w.call t call }

def setFile (w : World T) (fileId : FileId) (file : List UInt8) : World T :=
  { w with file := Function.update w.file fileId file }

@[simp] lemma setCall_file (w : World T) (t : T) (call : Option Call) :
    (w.setCall t call).file = w.file := rfl

@[simp] lemma setCall_extended (w : World T) (t : T) (call : Option Call) :
    (w.setCall t call).extended = w.extended := rfl

omit [DecidableEq T] in
lemma setFile_self (w : World T) (fileId : FileId) (file : List UInt8) :
    (w.setFile fileId file).file fileId = file :=
  Function.update_self ..

omit [DecidableEq T] in
lemma setFile_of_ne (w : World T) {fileId f : FileId} (file : List UInt8) (h : f ≠ fileId) :
    (w.setFile fileId file).file f = w.file f :=
  Function.update_of_ne h ..

/-- A `WritePage` that finds its file and its offset. -/
def beginWrite (w : World T) (t : T) (pageId : PageId) (data : PageBytes) : Option (World T) :=
  match w.call t, w.path pageId.fileId with
  | none, some path =>
    match pageOffset pageId path .writePage with
    | .ok offset => some (w.setCall t (some (.write pageId path data offset .counting)))
    | .error _ => none
  | _, _ => none

/-- An `ExtendFile` that takes the mutex and finds its file. -/
def beginExtend (w : World T) (t : T) (fileId : FileId) : Option (World T) :=
  match w.call t, w.path fileId, w.extensionMutex with
  | none, some path, none =>
    some { w.setCall t (some (.extend fileId path .counting)) with extensionMutex := some t }
  | _, _, _ => none

def answer (w : World T) (t : T) (outcome : Outcome) : Option (World T) :=
  match w.call t with
  | some (.write pageId path data offset pc) =>
    let x := writeStep pageId path data.1 offset (pc, w.file pageId.fileId) outcome
    some ((w.setFile pageId.fileId x.2).setCall t (some (.write pageId path data offset x.1)))
  | some (.extend fileId path pc) =>
    let x := extendStep fileId path (pc, w.file fileId) outcome
    some ((w.setFile fileId x.2).setCall t (some (.extend fileId path x.1)))
  | none => none

def leave (w : World T) (t : T) : Option (World T) :=
  match w.call t with
  | some (.write _ _ _ _ (.writing (.returned _))) => some (w.setCall t none)
  | some (.extend _ _ (.returned (.error _))) =>
    some { w.setCall t none with extensionMutex := none }
  | some (.extend fileId _ (.returned (.ok count))) =>
    some { w.setCall t none with
      extensionMutex := none, extended := w.extended ++ [⟨fileId, count⟩] }
  | _ => none

def step (w : World T) : Act T → Option (World T)
  | .write t pageId data => w.beginWrite t pageId data
  | .extend t fileId => w.beginExtend t fileId
  | .answer t outcome => w.answer t outcome
  | .leave t => w.leave t

structure Initial (w : World T) : Prop where
  files : ∀ f path, w.path f = some path → PageFileBytes (w.file f)
  call : ∀ t, w.call t = none
  mutex : w.extensionMutex = none
  extended : w.extended = []

def system (T : Type) [DecidableEq T] : Transition.System (World T) (Act T) where
  initial := Initial
  step := step

end World

def WriteSafe (offset length : ℕ) : WritePc → Prop
  | .counting => True
  | .writing (.moving transferred position) =>
    position = offset + transferred ∧ transferred < pageSize ∧ offset + pageSize ≤ length
  | .writing (.returned result) => result ≠ .error .fault

/-- What an extension knows of its file, and that its number is not yet taken. -/
def ExtendSafe (fileId : FileId) (length : ℕ) (extended : List PageId) : ExtendPc → Prop
  | .counting => True
  | .truncating count newSize => count.toNat = length / pageSize ∧
      newSize = length + pageSize ∧ newSize ≤ maxOffset
  | .returned (.ok count) => pageStart count + pageSize ≤ length ∧ ⟨fileId, count⟩ ∉ extended
  | .returned (.error e) => e ≠ .fault

def CallSafe {T : Type} (w : World T) (t : T) : Call → Prop
  | .write pageId path _ offset pc => w.path pageId.fileId = some path ∧
      offset + pageSize ≤ maxOffset ∧ offset = pageStart pageId.pageNo ∧
      WriteSafe offset (w.file pageId.fileId).length pc
  | .extend fileId path pc => w.path fileId = some path ∧ w.extensionMutex = some t ∧
      ExtendSafe fileId (w.file fileId).length w.extended pc

structure Serialized {T : Type} (w : World T) : Prop where
  files : ∀ f path, w.path f = some path → PageFileBytes (w.file f)
  calls : ∀ t call, w.call t = some call → CallSafe w t call
  inside : ∀ id ∈ w.extended, pageStart id.pageNo + pageSize ≤ (w.file id.fileId).length ∧
    ∃ path, w.path id.fileId = some path
  distinct : w.extended.Nodup

variable {pageId : PageId} {fileId : FileId} {path : String} {file : List UInt8} {data : PageBytes}
  {offset length length' : ℕ} {outcome : Outcome} {extended : List PageId}

section Steps

lemma WriteSafe.mono {pc : WritePc} (h : WriteSafe offset length pc) (hle : length ≤ length') :
    WriteSafe offset length' pc := by
  cases pc with
  | counting => trivial
  | writing progress =>
    cases progress with
    | moving transferred position =>
      obtain ⟨hp, ht, hl⟩ := h
      exact ⟨hp, ht, hl.trans hle⟩
    | returned result => exact h

lemma writeMover_keepsLength (hr : offset + pageSize ≤ maxOffset) (hle : offset + pageSize ≤ length) :
    (writeMover pageId path data.1 offset).Keeps fun _ file => file.length = length := by
  intro transferred position count file hlen hlt hp hc h₀
  simp only [writeMover] at hlt hp hc ⊢
  rw [addOffset_eq (by omega)] at hp
  obtain rfl := Except.ok.inj hp
  have hchunk : ((data.1.drop transferred).take count).length ≤ count := List.length_take_le ..
  rw [pwrite, Nat.sub_eq_zero_of_le (by omega), List.replicate_zero, List.append_nil,
    Codec.length_splice (by omega), hlen]

lemma writeSafe_of_holds {progress : Progress (Span.Exit DiskError)} {I : ℕ → List UInt8 → Prop}
    (hr : offset + pageSize ≤ maxOffset) (hle : offset + pageSize ≤ length)
    (h : (writeMover pageId path data.1 offset).Holds I (progress, file)) :
    WriteSafe offset length (.writing progress) := by
  cases progress with
  | moving transferred position =>
    obtain ⟨ht, hp, -⟩ := h
    simp only [writeMover] at ht hp
    rw [addOffset_eq (by omega)] at hp
    exact ⟨(Except.ok.inj hp).symm, ht, hle⟩
  | returned result =>
    rintro rfl
    obtain ⟨transferred, ht, -, hend⟩ := h
    simp only [writeMover] at ht
    rcases hend with hend | hend | ⟨errno, -, hend⟩
    · simp only [writeMover] at hend
      rw [addOffset_eq (by omega)] at hend
      cases hend
    · cases hend
    · cases hend

lemma writeSafe_step (path : String) (data : PageBytes) (outcome : Outcome) {pc : WritePc}
    (hf : PageFileBytes file) (hr : offset + pageSize ≤ maxOffset)
    (ho : offset = pageStart pageId.pageNo) (h : WriteSafe offset file.length pc) :
    (writeStep pageId path data.1 offset (pc, file) outcome).2.length = file.length ∧
      WriteSafe offset file.length (writeStep pageId path data.1 offset (pc, file) outcome).1 := by
  cases pc with
  | counting =>
    rw [writeStep]
    split
    · exact ⟨rfl, trivial⟩
    · cases outcome with
      | failed errno =>
        refine ⟨rfl, ?_⟩
        rintro ⟨⟩
      | done count =>
        rw [fstat, pageCount_fstat hf]
        dsimp only
        split
        · refine ⟨rfl, ?_⟩
          rintro ⟨⟩
        · rename_i hlt
          rw [UInt64.not_le, UInt64.lt_iff_toNat_lt, toNat_pageCount hf] at hlt
          have hle := pageStart_le hlt
          rw [← ho] at hle
          have hholds : (writeMover pageId path data.1 offset).Holds (fun _ _ => True)
              ((writeMover pageId path data.1 offset).enter 0, file) :=
            Mover.holds_enter trivial (Nat.zero_le _)
          exact ⟨rfl, writeSafe_of_holds hr hle hholds⟩
  | writing progress =>
    rw [writeStep]
    cases progress with
    | returned result => exact ⟨rfl, h⟩
    | moving transferred position =>
      obtain ⟨rfl, ht, hle⟩ := h
      have hholds : (writeMover pageId path data.1 offset).Holds
          (fun _ file' => file'.length = file.length)
          (.moving transferred (offset + transferred), file) :=
        ⟨ht, addOffset_eq (by omega), rfl⟩
      have hnext := hholds.step (o := outcome) (writeMover_keepsLength hr hle)
      refine ⟨?_, writeSafe_of_holds hr hle hnext⟩
      dsimp only
      generalize (writeMover pageId path data.1 offset).step _ outcome = x at hnext
      obtain ⟨progress, file'⟩ := x
      cases progress with
      | moving => exact hnext.2.2
      | returned result =>
        cases result with
        | ok u => exact hnext
        | error e =>
          obtain ⟨-, -, hlen, -⟩ := hnext
          exact hlen

lemma extendSafe_step (path : String) (outcome : Outcome) {pc : ExtendPc} (hf : PageFileBytes file)
    (hin : ∀ n, ⟨fileId, n⟩ ∈ extended → pageStart n + pageSize ≤ file.length)
    (h : ExtendSafe fileId file.length extended pc) :
    file.length ≤ (extendStep fileId path (pc, file) outcome).2.length ∧
      PageFileBytes (extendStep fileId path (pc, file) outcome).2 ∧
      ExtendSafe fileId (extendStep fileId path (pc, file) outcome).2.length extended
        (extendStep fileId path (pc, file) outcome).1 := by
  have hstart : (∃ result, pc = .returned result) ∨ ExtendOutcome fileId path file (pc, file) := by
    cases pc with
    | counting => exact .inr rfl
    | truncating count newSize => exact .inr ⟨rfl, h⟩
    | returned result => exact .inl ⟨result, rfl⟩
  rcases hstart with ⟨result, rfl⟩ | hstart
  · exact ⟨Nat.le_refl _, hf, h⟩
  · have hnext := extendOutcome_step hf outcome hstart
    generalize extendStep fileId path (pc, file) outcome = x at hnext
    obtain ⟨pc', file'⟩ := x
    cases pc' with
    | counting =>
      obtain rfl : file' = file := hnext
      exact ⟨Nat.le_refl _, hf, trivial⟩
    | truncating count newSize =>
      obtain ⟨rfl, hcount⟩ := hnext
      exact ⟨Nat.le_refl _, hf, hcount⟩
    | returned result =>
      rcases result with (_ | e) | count
      · exact hnext.elim
      · obtain rfl : file' = file := hnext
        refine ⟨Nat.le_refl _, hf, ?_⟩
        rintro ⟨⟩
      · obtain ⟨hcount, rfl, hmax, -⟩ := hnext
        have halign := hf.aligned
        have hstart : pageStart count = file.length := by
          rw [pageStart, hcount]
          rw [pageSize] at *
          omega
        have hlen : (file ++ List.replicate pageSize (0 : UInt8)).length = file.length + pageSize := by
          rw [List.length_append, List.length_replicate]
        refine ⟨by rw [hlen]; exact Nat.le_add_right .., ⟨?_, hmax⟩, ?_, fun hmem => ?_⟩
        · rw [hlen, Nat.add_mod_right, halign]
        · rw [hlen, hstart]
        · have := hin count hmem
          have : 0 < pageSize := by decide
          omega

end Steps

section Run

variable {T : Type} {w w' : World T} {t u : T} {call : Call}

/-- A call of another thread is safe still, if files only grew, and nothing else that an extension
relies on changed while that call holds the mutex. -/
lemma CallSafe.mono (h : CallSafe w t call) (hpath : w'.path = w.path)
    (hle : ∀ f, (w.file f).length ≤ (w'.file f).length)
    (hext : w.extensionMutex = some t → w'.extensionMutex = w.extensionMutex ∧
      (∀ f, (w'.file f).length = (w.file f).length) ∧ w'.extended = w.extended) :
    CallSafe w' t call := by
  cases call with
  | write pageId path data offset pc =>
    obtain ⟨hp, hr, ho, hs⟩ := h
    refine ⟨?_, hr, ho, hs.mono (hle _)⟩
    rw [hpath]
    exact hp
  | extend fileId path pc =>
    obtain ⟨hp, hm, hs⟩ := h
    obtain ⟨hmutex, hlen, hextended⟩ := hext hm
    refine ⟨?_, hmutex.trans hm, ?_⟩
    · rw [hpath]
      exact hp
    · rw [hlen, hextended]
      exact hs

variable [DecidableEq T]

omit [DecidableEq T] in
lemma length_setFile {f : FileId} (h : file.length = (w.file fileId).length) :
    ((w.setFile fileId file).file f).length = (w.file f).length := by
  by_cases hf : f = fileId
  · subst hf
    rw [World.setFile_self, h]
  · rw [World.setFile_of_ne _ _ hf]

lemma calls_of_update (h : Serialized w) {new : Option Call}
    (hcall : w'.call = Function.update w.call t new) (hnew : ∀ c, new = some c → CallSafe w' t c)
    (hpath : w'.path = w.path) (hle : ∀ f, (w.file f).length ≤ (w'.file f).length)
    (hext : ∀ u, u ≠ t → w.extensionMutex = some u → w'.extensionMutex = w.extensionMutex ∧
      (∀ f, (w'.file f).length = (w.file f).length) ∧ w'.extended = w.extended) :
    ∀ u c, w'.call u = some c → CallSafe w' u c := by
  intro u c hc
  rw [hcall] at hc
  by_cases hu : u = t
  · subst hu
    rw [Function.update_self] at hc
    exact hnew c hc
  · rw [Function.update_of_ne hu] at hc
    exact (h.calls u c hc).mono hpath hle (hext u hu)

lemma Serialized.beginWrite (h : Serialized w) (hs : w.beginWrite t pageId data = some w') :
    Serialized w' := by
  rw [World.beginWrite] at hs
  split at hs
  · rename_i path _ hpath
    obtain ⟨e, he⟩ | ⟨ho, hr⟩ := pageOffset_cases pageId path .writePage
    · rw [he] at hs
      cases hs
    · rw [ho] at hs
      obtain rfl := Option.some.inj hs
      refine ⟨h.files, ?_, h.inside, h.distinct⟩
      refine calls_of_update h rfl ?_ rfl (fun _ => Nat.le_refl _) fun _ _ _ => ⟨rfl, fun _ => rfl, rfl⟩
      rintro c ⟨⟩
      exact ⟨hpath, hr, rfl, trivial⟩
  · cases hs

lemma Serialized.beginExtend (h : Serialized w) (hs : w.beginExtend t fileId = some w') :
    Serialized w' := by
  rw [World.beginExtend] at hs
  split at hs
  · rename_i path _ hpath hmutex
    obtain rfl := Option.some.inj hs
    refine ⟨h.files, ?_, h.inside, h.distinct⟩
    refine calls_of_update h rfl ?_ rfl (fun _ => Nat.le_refl _) fun u _ hu => ?_
    · rintro c ⟨⟩
      exact ⟨hpath, rfl, trivial⟩
    · rw [hmutex] at hu
      cases hu
  · cases hs

lemma Serialized.answer (h : Serialized w) (hs : w.answer t outcome = some w') :
    Serialized w' := by
  rw [World.answer] at hs
  split at hs
  · rename_i pageId path data offset pc hcall
    obtain rfl := Option.some.inj hs
    obtain ⟨hpath, hr, ho, hsafe⟩ := h.calls t _ hcall
    obtain ⟨hlen, hnext⟩ := writeSafe_step path data outcome
      (h.files _ _ hpath) hr ho hsafe
    generalize writeStep pageId path data.1 offset (pc, w.file pageId.fileId) outcome = x at *
    have hlens : ∀ f, ((w.setFile pageId.fileId x.2).file f).length = (w.file f).length :=
      fun f => length_setFile hlen
    refine ⟨fun f path hf => ?_, ?_, fun id hid => ?_, h.distinct⟩
    · have := h.files f path hf
      refine ⟨?_, ?_⟩
      · rw [World.setCall_file, hlens]
        exact this.aligned
      · rw [World.setCall_file, hlens]
        exact this.offset
    · refine calls_of_update h rfl ?_ rfl (fun f => (hlens f).ge) fun _ _ _ => ⟨rfl, hlens, rfl⟩
      rintro c ⟨⟩
      refine ⟨hpath, hr, ho, ?_⟩
      rw [World.setCall_file, hlens]
      exact hnext
    · rw [World.setCall_file, hlens]
      exact h.inside id hid
  · rename_i fileId path pc hcall
    obtain rfl := Option.some.inj hs
    obtain ⟨hpath, hmutex, hsafe⟩ := h.calls t _ hcall
    obtain ⟨hle, hfile, hnext⟩ := extendSafe_step path outcome
      (h.files _ _ hpath) (fun n hn => (h.inside ⟨fileId, n⟩ hn).1) hsafe
    generalize extendStep fileId path (pc, w.file fileId) outcome = x at *
    have hles : ∀ f, (w.file f).length ≤ ((w.setFile fileId x.2).file f).length := by
      intro f
      by_cases hf : f = fileId
      · subst hf
        rw [World.setFile_self]
        exact hle
      · rw [World.setFile_of_ne _ _ hf]
    refine ⟨fun f path hf => ?_, ?_, fun id hid => ?_, h.distinct⟩
    · by_cases hid : f = fileId
      · subst hid
        rw [World.setCall_file, World.setFile_self]
        exact hfile
      · rw [World.setCall_file, World.setFile_of_ne _ _ hid]
        exact h.files f path hf
    · refine calls_of_update h rfl ?_ rfl hles fun u hu hm => ?_
      · rintro c ⟨⟩
        refine ⟨hpath, hmutex, ?_⟩
        rw [World.setCall_file, World.setFile_self]
        exact hnext
      · rw [hmutex] at hm
        exact absurd (Option.some.inj hm).symm hu
    · obtain ⟨hin, hreg⟩ := h.inside id hid
      exact ⟨hin.trans (hles _), hreg⟩
  · cases hs

lemma Serialized.leave (h : Serialized w) (hs : w.leave t = some w') : Serialized w' := by
  rw [World.leave] at hs
  split at hs
  · obtain rfl := Option.some.inj hs
    refine ⟨h.files, ?_, h.inside, h.distinct⟩
    exact calls_of_update h rfl (by rintro _ ⟨⟩) rfl (fun _ => Nat.le_refl _) fun _ _ _ =>
      ⟨rfl, fun _ => rfl, rfl⟩
  · rename_i hcall
    obtain ⟨-, hmutex, -⟩ := h.calls t _ hcall
    obtain rfl := Option.some.inj hs
    refine ⟨h.files, ?_, h.inside, h.distinct⟩
    refine calls_of_update h rfl (by rintro _ ⟨⟩) rfl (fun _ => Nat.le_refl _) fun u hu hm => ?_
    rw [hmutex] at hm
    exact absurd (Option.some.inj hm).symm hu
  · rename_i fileId path count hcall
    obtain ⟨hpath, hmutex, hin, hnew⟩ := h.calls t _ hcall
    obtain rfl := Option.some.inj hs
    refine ⟨h.files, ?_, fun id hid => ?_, ?_⟩
    · refine calls_of_update h rfl (by rintro _ ⟨⟩) rfl (fun _ => Nat.le_refl _) fun u hu hm => ?_
      rw [hmutex] at hm
      exact absurd (Option.some.inj hm).symm hu
    · rcases List.mem_append.mp hid with hid | hid
      · exact h.inside id hid
      · obtain rfl := List.mem_singleton.mp hid
        exact ⟨hin, path, hpath⟩
    · refine h.distinct.append (List.nodup_singleton _) ?_
      rw [List.disjoint_singleton]
      exact hnew
  · cases hs

theorem run_serialized {ok : World T → Act T → Prop}
    (h : Transition.Run (World.system T) ok w) : Serialized w := by
  refine h.invariant (fun w h => ?_) fun w a w' h _ hs => ?_
  · refine ⟨h.files, fun t c hc => ?_, ?_, ?_⟩
    · rw [h.call] at hc
      cases hc
    · rw [h.extended]
      exact fun _ hid => absurd hid List.not_mem_nil
    · rw [h.extended]
      exact List.nodup_nil
  · cases a with
    | write t pageId data => exact h.beginWrite hs
    | extend t fileId => exact h.beginExtend hs
    | answer t outcome => exact h.answer hs
    | leave t => exact h.leave hs

end Run

/-- Empty files, the first of which is extended before the second. -/
def sampleWorld : World Bool where
  path _ := some "pages"
  file _ := []
  extensionMutex := none
  call _ := none
  extended := []

lemma sampleWorld_run : Transition.Run (World.system Bool) (fun _ _ => True) sampleWorld :=
  .start ⟨fun _ _ _ => ⟨rfl, Nat.zero_le _⟩, fun _ => rfl, rfl, rfl⟩

def sampleWorldActs : List (Act Bool) :=
  [.extend true ⟨1⟩, .answer true (.done 0), .answer true (.done 0), .leave true, .extend false ⟨2⟩]

lemma sampleWorld_execute : (Transition.execute (World.system Bool) (fun _ _ => True)
    sampleWorld sampleWorldActs).isSome := by
  decide +kernel

end DBlusBlus.Posix
