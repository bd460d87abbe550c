import DBlusBlus.BufferPool.Ownership
import DBlusBlus.BufferPool.PageKind
import DBlusBlus.Disk.PageIo

/-! The pool over the disk manager, one system call at a time. The pool sees the transfers as if
each of them took place at its end. -/

namespace DBlusBlus.BufferPool

open DiskPageIo DiskPageIo.Calls Transition

variable {N : ℕ} {T V : Type}

/-- The `PageIo` call that a thread is in. -/
def Pc.request : Pc N V → Option Request
  | .registerPageCount file _ | .newPageCount file _ _ _ => some (.pageCount file)
  | .newPageExtend file _ _ => some (.extendFile file)
  | .readPage page _ _ _ _ => some (.readPage page)
  | .writePage writer image => some (.writePage writer.pageId image)
  | .syncFile writer _ => some (.syncFile writer.pageId.fileId)
  | _ => none

def Choice.returns : Choice T V → Bool
  | .pageCount _ | .extendFile _ | .readPage _ _ | .writePage _ _ | .syncFile _ => true
  | _ => false

/-- A failed read leaves its buffer alone, and a failed write what it has made of the file. -/
def returnChoice (buffer : PageBytes) (file : FileId → List UInt8) :
    Request → Response → Option (Choice T V)
  | .pageCount _, .counted count => some (.pageCount (.ok count))
  | .pageCount _, .failed e => some (.pageCount (.error e))
  | .extendFile _, .extended pageNo => some (.extendFile (.ok pageNo))
  | .extendFile _, .failed e => some (.extendFile (.error e))
  | .readPage _, .read bytes => some (.readPage (.ok ()) bytes)
  | .readPage _, .failed e => some (.readPage (.error e) buffer)
  | .writePage page _, .written =>
    some (.writePage (.ok ()) (pageAt (file page.fileId) page.pageNo))
  | .writePage page _, .failed e =>
    some (.writePage (.error e) (pageAt (file page.fileId) page.pageNo))
  | .syncFile _, .synced => some (.syncFile (.ok ()))
  | .syncFile _, .failed e => some (.syncFile (.error e))
  | _, _ => none

/-- The bytes of the frame that a call fills. -/
def World.buffer (w : World N T V) (t : T) : PageBytes :=
  match (w.pc t).filling with
  | some (_, f) => (w.pool.frames f).page.bytes
  | none => PageBytes.zero

inductive StackAct (T α : Type)
  | upper (a : α)
  | start (t : T)
  | answer (t : T) (outcome : Transfer.Outcome)
  | finish (t : T)

/-- A system whose steps are those of a pool. -/
structure PoolUser (N : ℕ) (T V : Type) [DecidableEq T] [DecidableEq V] [NeZero N]
    (opts : BufferPoolOptions) (σ α : Type) where
  system : System σ α
  world : σ → World N T V
  lower : σ → α → T × Choice T V
  returned : T → Choice T V → α
  lower_returned : ∀ x t choice, lower x (returned t choice) = (t, choice)
  initial : ∀ x, system.initial x → (poolSystem opts).initial (world x)
  step : ∀ x a x', system.step x a = some x' →
    (poolSystem opts).step (world x) (lower x a) = some (world x')

variable [DecidableEq T] [DecidableEq V] [NeZero N] {opts : BufferPoolOptions} {σ α : Type}

namespace PoolUser

variable (U : PoolUser N T V opts σ α)

/-- What a thread that ends its call does to the pool. -/
def resume (x : σ × Calls T) (t : T) (request : Request) : Option (σ × Calls T) :=
  (x.2.finish t).bind fun y =>
    (returnChoice ((U.world x.1).buffer t) x.2.disk.file request y.1).bind fun choice =>
      (U.system.step x.1 (U.returned t choice)).map (·, y.2)

def stack : System (σ × Calls T) (StackAct T α) where
  initial x := U.system.initial x.1 ∧ x.2.disk.Initial ∧ (∀ t, x.2.query t = none) ∧
    ∀ page, (U.world x.1).disk.bytes page = pageAt (x.2.disk.file page.fileId) page.pageNo
  step x a := match a with
    | .upper a =>
      if (U.lower x.1 a).2.returns then none else (U.system.step x.1 a).map (·, x.2)
    | .start t =>
      ((U.world x.1).pc t).request.bind fun request => (x.2.start t request).map (x.1, ·)
    | .answer t outcome => (x.2.answer t outcome).map (x.1, ·)
    | .finish t => ((U.world x.1).pc t).request.bind (U.resume x t)

/-- A condition on the steps of the pool that are not the end of a `PageIo` call. -/
def OnUpper (ok : σ → α → Prop) (x : σ × Calls T) : StackAct T α → Prop
  | .upper a => ok x.1 a
  | _ => True

instance (ok : σ → α → Prop) [∀ x a, Decidable (ok x a)] (x : σ × Calls T) (a : StackAct T α) :
    Decidable (OnUpper ok x a) :=
  match a with
  | .upper a => inferInstanceAs (Decidable (ok x.1 a))
  | .start _ | .answer _ _ | .finish _ => isTrue trivial

end PoolUser

/-- The calls in flight are those that the threads of the pool are in. -/
structure World.Serves (w : World N T V) (s : Calls T) : Prop where
  sound : s.Sound w.disk.bytes
  single : ∀ t, s.query t = none ∨ s.disk.call t = none
  call : ∀ t call, s.disk.call t = some call → (w.pc t).request = some (callRequest call)
  query : ∀ t query r, s.query t = some query → query.request = some r →
    (w.pc t).request = some r

section Requests

omit [DecidableEq T] [DecidableEq V] [NeZero N]

variable {pc : Pc N V} {page : PageId} {data : PageBytes}

lemma Pc.of_request_write (h : pc.request = some (.writePage page data)) :
    ∃ writer, pc = .writePage writer data ∧ writer.pageId = page := by
  cases pc <;> cases h
  case writePage writer => exact ⟨writer, rfl, rfl⟩

lemma Pc.of_request_read (h : pc.request = some (.readPage page)) :
    ∃ mode load f validator, pc = .readPage page mode load f validator := by
  cases pc <;> cases h
  case readPage mode load f validator => exact ⟨mode, load, f, validator, rfl⟩

lemma Pc.transfer_of_write (h : pc.request = some (.writePage page data)) :
    ∃ f, pc.transfer = some (page, f) := by
  obtain ⟨writer, rfl, rfl⟩ := Pc.of_request_write h
  exact ⟨writer.transfer.2, by rw [transfer, ← writer.transfer_fst]⟩

lemma Pc.transfer_of_read (h : pc.request = some (.readPage page)) :
    ∃ f, pc.transfer = some (page, f) := by
  obtain ⟨mode, load, f, validator, rfl⟩ := Pc.of_request_read h
  exact ⟨f, rfl⟩

variable {buffer : PageBytes} {file : FileId → List UInt8} {r : Request} {response : Response}

lemma returnChoice_read {output : PageBytes}
    (h : returnChoice buffer file r response = some (.readPage (.ok ()) output : Choice T V)) :
    (∃ page, r = .readPage page) ∧ response = .read output := by
  rw [returnChoice.eq_def] at h
  split at h <;> cases h
  exact ⟨⟨_, rfl⟩, rfl⟩

lemma returnChoice_write {result : DiskStatus} {torn : PageBytes}
    (h : returnChoice buffer file r response = some (.writePage result torn : Choice T V)) :
    ∃ page data, r = .writePage page data ∧ torn = pageAt (file page.fileId) page.pageNo ∧
      (result = .ok () → response = .written) := by
  rw [returnChoice.eq_def] at h
  split at h <;> cases h
  · exact ⟨_, _, rfl, rfl, fun _ => rfl⟩
  · exact ⟨_, _, rfl, rfl, fun h => by cases h⟩

lemma returnChoice_of_write {choice : Choice T V}
    (h : returnChoice buffer file (.writePage page data) response = some choice) :
    ∃ result, choice = .writePage result (pageAt (file page.fileId) page.pageNo) := by
  cases response with
  | written | failed => exact ⟨_, (Option.some.inj h).symm⟩
  | counted | extended | read | synced => cases h

lemma returnChoice_returns {choice : Choice T V}
    (h : returnChoice buffer file r response = some choice) : choice.returns = true := by
  rw [returnChoice.eq_def] at h
  split at h <;> cases h <;> rfl

end Requests

section Steps

variable {w w' : World N T V} {s s' : Calls T} {t u : T} {choice : Choice T V} {r : Request}
  {response : Response} {page : PageId}

/-- A thread leaves its `PageIo` call at the end of the call only. -/
lemma request_kept (hs : step opts w t choice = some w') (hr : choice.returns = false)
    (hreq : (w.pc t).request = some r) : w'.pc t = w.pc t := by
  cases choice with
  | run =>
    cases hpc : w.pc t <;> rw [hpc] at hreq <;> cases hreq <;>
      simp [step, runStep, hpc, criticalSection] at hs
  | call =>
    cases hpc : w.pc t <;> rw [hpc] at hreq <;> cases hreq <;>
      simp [step, callStep, hpc, Pc.isIdle] at hs
  | guard =>
    cases hpc : w.pc t <;> rw [hpc] at hreq <;> cases hreq <;>
      simp [step, guardStep, hpc, Pc.isIdle] at hs
  | wake =>
    obtain rfl := Option.some.inj hs
    rfl
  | pageCount | extendFile | readPage | writePage | syncFile => cases hr

lemma bytes_kept (hs : step opts w t choice = some w')
    (hne : ∀ result torn, choice ≠ .writePage result torn) : w'.disk.bytes = w.disk.bytes := by
  rcases (step_act hs).diskBytes with heq | ⟨-, -, -, result, torn, -, hc, -⟩
  · exact heq
  · exact absurd hc (hne result torn)

lemma writePage_bytes {writer : Writer N} {image torn : PageBytes} {result : DiskStatus}
    (hpc : w.pc t = .writePage writer image) (htorn : result = .ok () → torn = image)
    (hs : step opts w t (.writePage result torn) = some w') :
    w'.disk.bytes = Function.update w.disk.bytes writer.pageId torn := by
  simp only [step, writePageStep, hpc] at hs
  cases result with
  | ok =>
    obtain rfl := Option.some.inj hs
    rw [htorn rfl]
  | error e =>
    obtain rfl := Option.some.inj hs
    rfl

namespace World.Serves

lemma step_upper (h : w.Serves s) (hs : step opts w t choice = some w')
    (hr : choice.returns = false) : w'.Serves s := by
  have hpc : ∀ u r, (w.pc u).request = some r → (w'.pc u).request = some r := by
    intro u r hreq
    by_cases hu : u = t
    · subst hu
      rwa [request_kept hs hr hreq]
    · rwa [(step_act hs).others hu]
  refine ⟨?_, h.single, fun u call hc => hpc u _ (h.call u call hc),
    fun u query r hq hreq => hpc u _ (h.query u query r hq hreq)⟩
  rw [bytes_kept hs]
  · exact h.sound
  · rintro result torn rfl
    cases hr

omit [DecidableEq T] [DecidableEq V] [NeZero N] in
/-- What the other threads are in does not change. -/
lemma of_self (h : w.Serves s) (hsound : s'.Sound w'.disk.bytes)
    (hpc : ∀ u, u ≠ t → w'.pc u = w.pc u) (hother : ∀ u, u ≠ t → s'.query u = s.query u)
    (hcalls : ∀ u, u ≠ t → s'.disk.call u = s.disk.call u)
    (hsingle : s'.query t = none ∨ s'.disk.call t = none)
    (hcall : ∀ call, s'.disk.call t = some call → (w'.pc t).request = some (callRequest call))
    (hquery : ∀ query r, s'.query t = some query → query.request = some r →
      (w'.pc t).request = some r) : w'.Serves s' where
  sound := hsound
  single u := by
    by_cases hu : u = t
    · subst hu
      exact hsingle
    · rw [hother u hu, hcalls u hu]
      exact h.single u
  call u call hc := by
    by_cases hu : u = t
    · subst hu
      exact hcall call hc
    · rw [hcalls u hu] at hc
      rw [hpc u hu]
      exact h.call u call hc
  query u query r hq hr := by
    by_cases hu : u = t
    · subst hu
      exact hquery query r hq hr
    · rw [hother u hu] at hq
      rw [hpc u hu]
      exact h.query u query r hq hr

omit [DecidableEq V] [NeZero N] in
lemma step_start (h : w.Serves s) (hreq : (w.pc t).request = some r)
    (hs : s.start t r = some s') : w.Serves s' := by
  have hsound := h.sound.start hs
  obtain ⟨hcall, hquery, ⟨query, hstart, rfl⟩ | ⟨disk, hstart, rfl⟩⟩ := start_cases hs
  · refine h.of_self (t := t) hsound (fun _ _ => rfl) (fun u hu => setQuery_of_ne _ hu)
      (fun _ _ => rfl) (.inr hcall) (h.call t) fun query' r' hq hr => ?_
    rw [setQuery_self] at hq
    rw [Option.some.inj hq] at hstart
    rw [startQuery_request hstart hr]
    exact hreq
  · obtain ⟨call, -, hupdate, hrequest, -, -⟩ := startCall_begun hstart
    refine h.of_self (t := t) hsound (fun _ _ => rfl) (fun _ _ => rfl) (fun u hu => ?_)
      (.inl hquery) (fun c hc => ?_) (h.query t)
    · rw [hupdate, Function.update_of_ne hu]
    · rw [hupdate, Function.update_self] at hc
      rw [← Option.some.inj hc, hrequest]
      exact hreq

variable [Fintype T] [Fintype V]

lemma apart (h : w.Serves s) (hi : w.Inv opts) : s.Apart := by
  intro t u page ht hu
  obtain ⟨_, _, _, _, hc⟩ := exists_call ht
  obtain ⟨f, hf⟩ := Pc.transfer_of_write (h.call t _ hc)
  rcases hu with hu | hu
  · obtain ⟨_, _, _, _, hc'⟩ := exists_call hu
    obtain ⟨f', hf'⟩ := Pc.transfer_of_write (h.call u _ hc')
    exact hi.transfer_unique hf' hf
  · obtain ⟨_, _, _, _, hq⟩ := exists_query hu
    obtain ⟨f', hf'⟩ := Pc.transfer_of_read (h.query u _ _ hq rfl)
    exact hi.transfer_unique hf' hf

lemma step_answer {outcome : Transfer.Outcome} (h : w.Serves s) (hi : w.Inv opts)
    (hs : s.answer t outcome = some s') : w.Serves s' := by
  have hsound := h.sound.answer (h.apart hi) hs
  rcases answer_cases hs with ⟨query, hquery, rfl⟩ | ⟨hquery, disk, hdisk, rfl⟩
  · refine h.of_self (t := t) hsound (fun _ _ => rfl) (fun u hu => setQuery_of_ne _ hu)
      (fun _ _ => rfl) ?_ (h.call t) fun query' r hq hr => ?_
    · refine .inr ((h.single t).resolve_left ?_)
      rw [hquery]
      exact Option.some_ne_none _
    · rw [setQuery_self] at hq
      obtain rfl := Option.some.inj hq
      rw [Query.answer_request] at hr
      exact h.query t query r hquery hr
  · obtain ⟨call, call', hcall, hupdate, hrequest⟩ := answer_call hdisk
    refine h.of_self (t := t) hsound (fun _ _ => rfl) (fun _ _ => rfl) (fun u hu => ?_)
      (.inl hquery) (fun c hc => ?_) (h.query t)
    · rw [hupdate, Function.update_of_ne hu]
    · rw [hupdate, Function.update_self] at hc
      rw [← Option.some.inj hc, hrequest]
      exact h.call t call hcall

lemma bytes_of_read (h : w.Serves s) (hi : w.Inv opts)
    (hreq : (w.pc t).request = some (.readPage page)) :
    w.disk.bytes page = pageAt (s.disk.file page.fileId) page.pageNo := by
  refine h.sound.bytes page fun u hu => ?_
  obtain ⟨_, _, _, _, hc⟩ := exists_call hu
  have hwrite := h.call u _ hc
  obtain ⟨f, hf⟩ := Pc.transfer_of_read hreq
  obtain ⟨f', hf'⟩ := Pc.transfer_of_write hwrite
  obtain rfl := hi.transfer_unique hf hf'
  cases hreq.symm.trans hwrite

lemma bytes_of_query {data : PageBytes} {query : Query} (h : w.Serves s) (hi : w.Inv opts)
    (hreq : (w.pc t).request = some (.writePage page data)) (hq : s.query t = some query) :
    w.disk.bytes page = pageAt (s.disk.file page.fileId) page.pageNo := by
  refine h.sound.bytes page fun u hu => ?_
  obtain ⟨_, _, _, _, hc⟩ := exists_call hu
  obtain ⟨f, hf⟩ := Pc.transfer_of_write hreq
  obtain ⟨f', hf'⟩ := Pc.transfer_of_write (h.call u _ hc)
  obtain rfl := hi.transfer_unique hf hf'
  rcases h.single t with hnone | hnone
  · rw [hq] at hnone
    cases hnone
  · rw [hc] at hnone
    cases hnone

/-- A read that ends well has the bytes that the last write of its page left. -/
lemma honest (h : w.Serves s) (hi : w.Inv opts) (hreq : (w.pc t).request = some r)
    (hfin : s.finish t = some (response, s'))
    (hchoice : returnChoice (w.buffer t) s.disk.file r response = some choice) :
    HonestRead w (t, choice) := by
  rw [HonestRead]
  split
  · rename_i output page mode load f validator hc hpc
    obtain rfl : choice = _ := hc
    obtain ⟨⟨page', rfl⟩, rfl⟩ := returnChoice_read hchoice
    obtain rfl : page = page' := by
      rw [hpc] at hreq
      cases hreq
      rfl
    rcases finish_cases hfin with ⟨query, hquery, hresponse, -⟩ | ⟨-, call, -, -, hresponse, -⟩
    · obtain ⟨pageId, path, offset, buffer, rfl, rfl⟩ := Query.of_response_read hresponse
      have hsame := (h.query t _ _ hquery rfl).symm.trans hreq
      cases hsame
      rw [(h.sound.read t _ _ _ _ _ hquery).2.returned, h.bytes_of_read hi hreq]
    · exact absurd hresponse callResponse_ne_read
  · trivial

lemma step_finish (h : w.Serves s) (hi : w.Inv opts) (hreq : (w.pc t).request = some r)
    (hfin : s.finish t = some (response, s'))
    (hchoice : returnChoice (w.buffer t) s.disk.file r response = some choice)
    (hs : step opts w t choice = some w') : w'.Serves s' := by
  have hothers : ∀ u, u ≠ t → w'.pc u = w.pc u := fun u hu => (step_act hs).others hu
  rcases finish_cases hfin with ⟨query, hquery, hresponse, rfl⟩ |
    ⟨hquery, call, disk, hcall, hresponse, hleave, rfl⟩
  · have hnone : s.disk.call t = none := by
      refine (h.single t).resolve_left ?_
      rw [hquery]
      exact Option.some_ne_none _
    have hbytes : w'.disk.bytes = w.disk.bytes := by
      by_cases hw : ∃ result torn, choice = .writePage result torn
      · obtain ⟨result, torn, rfl⟩ := hw
        obtain ⟨page, data, rfl, rfl, hok⟩ := returnChoice_write hchoice
        obtain ⟨writer, hpc, rfl⟩ := Pc.of_request_write hreq
        rw [writePage_bytes hpc (fun hr => ?_) hs, ← h.bytes_of_query hi hreq hquery,
          Function.update_eq_self]
        rw [hok hr] at hresponse
        exact absurd hresponse Query.response_ne_written
      · exact bytes_kept hs fun result torn hc => hw ⟨result, torn, hc⟩
    refine h.of_self (t := t) ?_ hothers (fun u hu => setQuery_of_ne _ hu) (fun _ _ => rfl)
      (.inr hnone) (fun c hc => ?_) fun query' r' hq _ => ?_
    · rw [hbytes]
      exact h.sound.setQuery fun _ _ _ _ _ hq => by cases hq
    · rw [show (s.setQuery t none).disk.call t = none from hnone] at hc
      cases hc
    · rw [setQuery_self] at hq
      cases hq
  · obtain ⟨-, hupdate⟩ := leave_eq hleave
    have hbytes : w'.disk.bytes = s.settled w.disk.bytes call := by
      obtain rfl := Option.some.inj (hreq.symm.trans (h.call t call hcall))
      cases call with
      | write pageId path data offset pc =>
        obtain ⟨result, rfl⟩ := returnChoice_of_write hchoice
        obtain ⟨writer, hpc, rfl⟩ := Pc.of_request_write hreq
        refine writePage_bytes hpc (fun hr => ?_) hs
        obtain ⟨-, -, -, -, hok⟩ := returnChoice_write hchoice
        rw [hok hr] at hresponse
        obtain ⟨_, _, _, _, he⟩ := of_response_written hresponse
        cases he
        exact (h.sound.write t _ _ _ _ _ hcall).returned
      | extend fileId path pc =>
        refine bytes_kept hs fun result torn hc => ?_
        subst hc
        obtain ⟨_, _, he, -⟩ := returnChoice_write hchoice
        cases he
    refine h.of_self (t := t) ?_ hothers (fun _ _ => rfl) (fun u hu => ?_) (.inl hquery)
      (fun c hc => ?_) fun query' r' hq _ => ?_
    · rw [hbytes]
      exact h.sound.finishCall hcall hleave
    · rw [hupdate, Function.update_of_ne hu]
    · rw [hupdate, Function.update_self] at hc
      cases hc
    · rw [hquery] at hq
      cases hq

end World.Serves

end Steps

section Runs

variable [Fintype T] [Fintype V] (U : PoolUser N T V opts σ α) {ok : σ → α → Prop}
  {x : σ × Calls T}

lemma PoolUser.inv_of_run {y : σ} (h : Run U.system ok y)
    (hone : ∀ y a, ok y a → OneLifecycle (U.world y) (U.lower y a)) : (U.world y).Inv opts := by
  have hrun : Run (poolSystem opts) OneLifecycle (U.world y) :=
    h.image U.world U.lower U.initial U.step hone
  exact BufferPool.inv_of_run (closesAlone_of_oneLifecycle hrun).1

omit [Fintype T] [Fintype V] [DecidableEq T] [DecidableEq V] [NeZero N] in
lemma honestRead_of_not_returns {w : World N T V} {a : T × Choice T V}
    (h : a.2.returns = false) : HonestRead w a := by
  rw [HonestRead]
  split
  · rename_i hc _
    rw [hc] at h
    cases h
  · trivial

/-- The steps of the pool in a run over the disk manager make a run of the pool by itself, whose
reads are honest. -/
lemma PoolUser.lowered_of_run (hone : ∀ y a, ok y a → OneLifecycle (U.world y) (U.lower y a))
    (hret : ∀ y t choice, choice.returns = true → ok y (U.returned t choice))
    (h : Run U.stack (OnUpper ok) x) :
    Run U.system (fun y a => ok y a ∧ HonestRead (U.world y) (U.lower y a)) x.1 ∧
      (U.world x.1).Serves x.2 := by
  induction h with
  | @start x hi =>
    obtain ⟨hsystem, hdisk, hquery, hbytes⟩ := hi
    refine ⟨.start hsystem, ⟨?_, fun page _ => hbytes page, fun t _ _ _ _ _ hc => ?_,
      fun t _ _ _ _ _ hq => ?_⟩, fun t => .inl (hquery t), fun t call hc => ?_,
      fun t query r hq => ?_⟩
    · exact Posix.run_serialized (.start hdisk : Run _ (fun _ _ => True) _)
    · rw [hdisk.call t] at hc
      cases hc
    · rw [hquery t] at hq
      cases hq
    · rw [hdisk.call t] at hc
      cases hc
    · rw [hquery t] at hq
      cases hq
  | @next x a x' _ hok hs ih =>
    obtain ⟨hrun, hserves⟩ := ih
    have hi := U.inv_of_run hrun fun y a h => hone y a h.1
    cases a with
    | upper a =>
      simp only [stack] at hs
      split at hs
      · cases hs
      · rename_i hr
        have hr : (U.lower x.1 a).2.returns = false := Bool.not_eq_true _ ▸ hr
        obtain ⟨y, hy, rfl⟩ := Option.map_eq_some_iff.mp hs
        exact ⟨.next hrun ⟨hok, honestRead_of_not_returns hr⟩ hy,
          hserves.step_upper (U.step _ _ _ hy) hr⟩
    | start t =>
      obtain ⟨request, hreq, hs⟩ := Option.bind_eq_some_iff.mp hs
      obtain ⟨s', hstart, rfl⟩ := Option.map_eq_some_iff.mp hs
      exact ⟨hrun, hserves.step_start hreq hstart⟩
    | answer t outcome =>
      obtain ⟨s', hanswer, rfl⟩ := Option.map_eq_some_iff.mp hs
      exact ⟨hrun, hserves.step_answer hi hanswer⟩
    | finish t =>
      obtain ⟨request, hreq, hs⟩ := Option.bind_eq_some_iff.mp hs
      obtain ⟨z, hfin, hs⟩ := Option.bind_eq_some_iff.mp hs
      obtain ⟨choice, hchoice, hs⟩ := Option.bind_eq_some_iff.mp hs
      obtain ⟨y, hy, rfl⟩ := Option.map_eq_some_iff.mp hs
      have hstep := U.step _ _ _ hy
      rw [U.lower_returned] at hstep
      refine ⟨.next hrun ⟨hret _ _ _ (returnChoice_returns hchoice), ?_⟩ hy,
        hserves.step_finish hi hreq hfin hchoice hstep⟩
      rw [U.lower_returned]
      exact hserves.honest hi hreq hfin hchoice

def poolUser (N : ℕ) (T V : Type) [DecidableEq T] [DecidableEq V] [NeZero N]
    (opts : BufferPoolOptions) : PoolUser N T V opts (World N T V) (T × Choice T V) where
  system := poolSystem opts
  world w := w
  lower _ a := a
  returned t choice := (t, choice)
  lower_returned _ _ _ := rfl
  initial _ h := h
  step _ _ _ h := h

/-- In every run of the pool over the disk manager, whatever the system calls answer, the pool takes
the steps of a pool whose transfers are atomic, and every page that is not being written is in its
file as that pool knows it. -/
theorem pool_over_disk_manager {x : World N T V × Calls T}
    (h : Run (poolUser N T V opts).stack (PoolUser.OnUpper OneLifecycle) x) :
    Run (poolSystem opts) (fun w a => OneLifecycle w a ∧ HonestRead w a) x.1 ∧
      ∀ page, (∀ t, x.2.writes t ≠ some page) →
        x.1.disk.bytes page = pageAt (x.2.disk.file page.fileId) page.pageNo := by
  have hret : ∀ (w : World N T V) t (choice : Choice T V), choice.returns = true →
      OneLifecycle w (t, choice) := by
    intro w t choice hr
    cases choice with
    | call => cases hr
    | _ => trivial
  obtain ⟨hrun, hserves⟩ := (poolUser N T V opts).lowered_of_run (fun _ _ h => h) hret h
  exact ⟨hrun, hserves.sound.bytes⟩

end Runs

section Kinds

variable {Init Op Log : Type} (kind : PageKind Init Op Log)

/-- The conditions that are read off a state, whatever the disk answers. -/
def PageKind.Careful (x : (World N T V × History N) × (PageId → Log)) (a : PageAction T V Op) :
    Prop :=
  OneLifecycle x.1.1 (kind.lower x.1.1 a) ∧ MarksDirty x.1 (kind.lower x.1.1 a) ∧
    NoDiscard (kind.lower x.1.1 a) ∧ kind.Through x.1.1 a

instance [Fintype T] (x : (World N T V × History N) × (PageId → Log)) (a : PageAction T V Op) :
    Decidable (kind.Careful x a) :=
  inferInstanceAs (Decidable (_ ∧ _))

def PageKind.Follows (x : (World N T V × History N) × (PageId → Log)) (a : PageAction T V Op) :
    Prop :=
  kind.Careful x a ∧ kind.Supplied a

def pageUser (opts : BufferPoolOptions) :
    PoolUser N T V opts ((World N T V × History N) × (PageId → Log)) (PageAction T V Op) where
  system := pageSystem kind opts
  world x := x.1.1
  lower x a := kind.lower x.1.1 a
  returned t choice := .pool t choice
  lower_returned _ _ _ := rfl
  initial _ h := h.1.1
  step _ _ _ hs := (track_step.mp (pageSystem_step.mp hs).1).1

variable {kind} [Fintype T] [Fintype V]

lemma respects_of_run {x : ((World N T V × History N) × (PageId → Log)) × Calls T}
    (h : Run (pageUser kind opts).stack (PoolUser.OnUpper kind.Follows) x) :
    Run (pageSystem kind opts) kind.Respects x.1 := by
  have hret : ∀ (y : (World N T V × History N) × (PageId → Log)) t (choice : Choice T V),
      choice.returns = true → kind.Follows y (.pool t choice) := by
    intro y t choice hr
    cases choice with
    | call | guard | run | wake => cases hr
    | _ => exact ⟨⟨trivial, trivial, trivial, trivial⟩, trivial⟩
  have hrun := ((pageUser kind opts).lowered_of_run (fun _ _ h => h.1.1) hret h).1
  refine hrun.mono fun y a hok => ?_
  obtain ⟨⟨⟨hone, hmarks, hdiscard, hthrough⟩, hsupplied⟩, hhonest⟩ := hok
  exact ⟨⟨⟨hone, hmarks, hdiscard, hhonest⟩, hthrough⟩, hsupplied⟩

omit [DecidableEq T] [NeZero N] [Fintype T] [Fintype V] in
lemma onUpper_follows {x : ((World N T V × History N) × (PageId → Log)) × Calls T}
    {a : StackAct T (PageAction T V Op)}
    (h : PoolUser.OnUpper kind.Careful x a ∧ ∀ b, a = .upper b → kind.Supplied b) :
    PoolUser.OnUpper kind.Follows x a := by
  cases a with
  | upper a => exact ⟨h.1, h.2 a rfl⟩
  | start | answer | finish => trivial

end Kinds

section Sample

def sampleStackDisk : Posix.World Bool where
  path _ := some "pages"
  file _ := List.replicate 16384 0
  extensionMutex := none
  call _ := none
  extended := []

lemma sampleStackDisk_initial : sampleStackDisk.Initial := by
  refine ⟨fun _ _ _ => ⟨?_, ?_⟩, fun _ => rfl, rfl, rfl⟩
  · rw [sampleStackDisk, List.length_replicate]
    rfl
  · rw [sampleStackDisk, List.length_replicate, maxOffset]
    decide

def sampleStack : World 1 Bool Unit × Calls Bool :=
  (World.initial sampleDisk, ⟨sampleStackDisk, fun _ => none⟩)

/-- A page is read by two calls of `pread`, after one that was interrupted. -/
def sampleRead : List (StackAct Bool (Bool × Choice Bool Unit)) :=
  [.upper (false, .call (.registerFile sampleFile fun _ => .valid)), .start false,
    .answer false (.done 0), .finish false, .upper (false, .run),
    .upper (false, .call (.fetch ⟨sampleFile, 1⟩ .shared)), .upper (false, .run),
    .upper (false, .run), .upper (false, .run), .start false, .answer false (.failed 4),
    .answer false (.done 100), .answer false (.done 9000), .finish false]

def sampleReadState : World 1 Bool Unit × Calls Bool :=
  Option.get (execute (poolUser 1 Bool Unit sampleOptions).stack (PoolUser.OnUpper OneLifecycle)
    sampleStack sampleRead) (by decide +kernel)

theorem pool_over_disk_manager_read : Run (poolSystem sampleOptions)
    (fun w a => OneLifecycle w a ∧ HonestRead w a)
    sampleReadState.1 := by
  have hstart : Run (poolUser 1 Bool Unit sampleOptions).stack (PoolUser.OnUpper OneLifecycle)
      sampleStack := by
    refine .start ⟨⟨sampleDisk, rfl⟩, sampleStackDisk_initial, fun _ => rfl, fun page => ?_⟩
    exact (pageAt_zeros ..).symm
  have hrun : Run (poolUser 1 Bool Unit sampleOptions).stack (PoolUser.OnUpper OneLifecycle)
      sampleReadState := hstart.of_execute _
  exact (pool_over_disk_manager hrun).1

end Sample

end DBlusBlus.BufferPool
