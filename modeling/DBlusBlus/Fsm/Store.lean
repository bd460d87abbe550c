import DBlusBlus.Fsm.Mapping
import DBlusBlus.Heap.Store

/-! Free space map pages behind the buffer pool: the categories that were set are read back, with
any number of evictions and reloads in between. -/

namespace DBlusBlus

open Span BufferPool Transition

/-- One `SetCategory`. -/
structure FsmPageCall where
  entryIndex : ℕ
  category : UInt8

/-- What `SetCategory` does to the categories; an index beyond them is refused. -/
def assignCategory (categories : List UInt8) (call : FsmPageCall) : List UInt8 :=
  categories.set call.entryIndex call.category

/-- What `Category` reports of an entry. -/
def reportEntry : Option UInt8 → Except (Exit FsmPageEntryFailure) UInt8
  | some category => .ok category
  | none => .error (.error ⟨.entryOutOfRange, .none⟩)

/-- What was done to a page. `origin` holds the categories of a page that the files held when the
pool was set up; a page that was created started with zeros. -/
structure FsmPageLog where
  origin : Option (List UInt8)
  calls : List FsmPageCall

namespace FsmPageLog

def add (log : FsmPageLog) (call : FsmPageCall) : FsmPageLog :=
  { log with calls := log.calls ++ [call] }

/-- The categories that the page had at first. -/
def Starts (log : FsmPageLog) (categories : List UInt8) : Prop :=
  log.origin = some categories ∨ log.origin = none ∧ ∃ n, categories = List.replicate n 0

/-- The page has one entry for each category. -/
structure Stores (page : FsmPage) (bytes : PageBytes) (headers : FsmPageHeaders)
    (categories : List UInt8) : Prop where
  valid : FsmValid page.id.pageNo bytes headers
  length : categories.length = headers.fsm.entryCount.toNat
  entry : ∀ (k : ℕ) (category : UInt8), categories[k]? = some category →
    bytes.byteAt (fsmPageEntriesOffset + k) = category

def Explains (page : FsmPage) (bytes : PageBytes) (log : FsmPageLog) : Prop :=
  ∃ headers categories, log.Starts categories ∧
    Stores page bytes headers (log.calls.foldl assignCategory categories)

end FsmPageLog

section Pages

variable {page : FsmPage} {bytes bytes' : PageBytes} {headers : FsmPageHeaders} {pageNo : PageNo}
  {categories : List UInt8} {log : FsmPageLog} {initialization : FsmPageInitialization}

def FsmPageHeaders.withChecksum (headers : FsmPageHeaders) (checksum : UInt32) : FsmPageHeaders :=
  { headers with common := { headers.common with checksumCrc32c := checksum } }

lemma FsmValid.resealed {checksum : UInt32} (hv : FsmValid pageNo bytes headers)
    (h : Resealed bytes bytes' checksum) (hsame : SameContent bytes' bytes) :
    FsmValid pageNo bytes' (headers.withChecksum checksum) where
  commonStored := h.common hv.commonStored
  pageType := hv.pageType
  ownNumber := hv.ownNumber
  headerSize := hv.headerSize
  formatVersion := hv.formatVersion
  flags := hv.flags
  reserved16 := hv.reserved16
  fsmStored := (h.slice (.inr (by decide))).trans hv.fsmStored
  fsmReserved := hv.fsmReserved
  ordinary := hv.ordinary
  firstHeapPage := hv.firstHeapPage
  count := hv.count
  range := hv.range
  unused k hle hlt := by
    rw [byteAt_of_same hsame (.inr (show 20 ≤ 48 + k by omega))]
    exact hv.unused k hle hlt

/-- `Validate` as the validator of the file that owns the page. -/
def fsmPageValidator : PageValidator :=
  fun page => match FsmPage.validate ⟨page.id⟩ page.bytes with
    | .ok _ => .valid
    | .error _ => .corrupt

lemma fsmPageValidator_valid {id : PageId} : fsmPageValidator ⟨id, bytes⟩ = .valid ↔
    ∃ headers, FsmValid id.pageNo bytes headers := by
  simp only [← @fsmValidate_eq_ok ⟨id⟩]
  rw [fsmPageValidator]
  cases FsmPage.validate ⟨id⟩ bytes <;> simp

lemma fsmPageValidator_same {id : PageId} (h : SameContent bytes' bytes)
    (hv : fsmPageValidator ⟨id, bytes⟩ = .valid) : fsmPageValidator ⟨id, bytes'⟩ = .valid := by
  obtain ⟨headers, hvalid⟩ := fsmPageValidator_valid.mp hv
  obtain ⟨checksum, hr⟩ := resealed_of_same h
  exact fsmPageValidator_valid.mpr ⟨_, hvalid.resealed hr h⟩

namespace FsmPageLog

lemma Explains.same (h : SameContent bytes' bytes) (hx : log.Explains page bytes) :
    log.Explains page bytes' := by
  obtain ⟨headers, categories, hstarts, hstores⟩ := hx
  obtain ⟨checksum, hr⟩ := resealed_of_same h
  refine ⟨_, categories, hstarts, hstores.valid.resealed hr h, hstores.length,
    fun k category hk => ?_⟩
  rw [byteAt_of_same h (.inr (show 20 ≤ 48 + k by omega))]
  exact hstores.entry k category hk

lemma Stores.assign (h : Stores page bytes headers categories) (call : FsmPageCall) :
    Stores page (Edit.run (page.setCategory call.entryIndex call.category) bytes).2 headers
      (assignCategory categories call) := by
  have hcount : headers.fsm.entryCount.toNat ≤ 8144 := h.valid.count
  rcases Nat.lt_or_ge call.entryIndex headers.fsm.entryCount.toNat with hlt | hle
  · rw [setCategory_run h.valid hlt]
    refine ⟨h.valid.setCategory call.category hlt, ?_, fun k category hk => ?_⟩
    · rw [assignCategory, List.length_set, h.length]
    · rw [byteAt_setCategory (show call.entryIndex < 8144 by omega)]
      rw [assignCategory, List.getElem?_set] at hk
      by_cases he : k = call.entryIndex
      · subst he
        rw [if_pos rfl, if_pos (by rw [h.length]; exact hlt)] at hk
        rw [if_pos rfl]
        exact Option.some.inj hk
      · rw [if_neg fun hc => he hc.symm] at hk
        rw [if_neg (by omega)]
        exact h.entry k category hk
  · rw [setCategory_outOfRange h.valid hle, assignCategory,
      List.set_eq_of_length_le (by rw [h.length]; exact hle)]
    exact h

lemma Explains.assign (hx : log.Explains page bytes) (call : FsmPageCall) :
    (log.add call).Explains page
      (Edit.run (page.setCategory call.entryIndex call.category) bytes).2 := by
  obtain ⟨headers, categories, hstarts, hstores⟩ := hx
  refine ⟨headers, categories, hstarts, ?_⟩
  rw [add, List.foldl_append]
  exact hstores.assign call

lemma Stores.category (h : Stores page bytes headers categories) (k : ℕ) :
    page.category bytes k = reportEntry categories[k]? := by
  rcases Nat.lt_or_ge k headers.fsm.entryCount.toNat with hlt | hle
  · obtain ⟨category, hk⟩ : ∃ category, categories[k]? = some category :=
      ⟨_, List.getElem?_eq_getElem (by rw [h.length]; exact hlt)⟩
    rw [category_eq h.valid hlt, hk, h.entry k _ hk, reportEntry]
  · rw [category_outOfRange h.valid hle, List.getElem?_eq_none (by rw [h.length]; exact hle),
      reportEntry]

end FsmPageLog

lemma fsmInitialized_entry {first : PageNo} {k : ℕ} :
    (fsmInitialized pageNo first initialization).byteAt (fsmPageEntriesOffset + k) = 0 := by
  have hzero : PageBytes.zero.byteAt (48 + k) = 0 := by
    rw [PageBytes.byteAt]
    split <;> rfl
  change PageBytes.byteAt _ (48 + k) = 0
  rw [fsmInitialized, PageBytes.byteAt_overwrite, if_neg, PageBytes.byteAt_overwrite, if_neg, hzero]
  · rw [CommonPageHeader.length_image]
    change ¬ (0 ≤ 48 + k ∧ 48 + k < 0 + 32)
    omega
  · rw [CommonPageHeader.length_image]
    decide
  · rw [FsmPageHeader.length_image]
    change ¬ (32 ≤ 48 + k ∧ 48 + k < 32 + 16)
    omega
  · rw [FsmPageHeader.length_image]
    decide

/-- `Initialize` as the initializer of a new page. -/
def fsmPageInitializer (initialization : FsmPageInitialization) (page : Page) : Bool × PageBytes :=
  let done := Edit.run (FsmPage.initializePage ⟨page.id⟩ initialization) page.bytes
  match done.1 with
  | .ok () => (true, done.2)
  | .error _ => (false, done.2)

lemma fsmPageInitializer_built {page : Page}
    (h : (fsmPageInitializer initialization page).1 = true) :
    FsmPageLog.Explains ⟨page.id⟩ (fsmPageInitializer initialization page).2 ⟨none, []⟩ := by
  rw [fsmPageInitializer] at h
  by_cases ho : page.id.pageNo ≠ 0 ∧ page.id.pageNo ≠ invalidPageNo
  swap
  · rw [FsmPage.initializePage,
      Edit.run_of_bind_error (Check.require_neg fun hn => ho (not_or.mp hn))]
      at h
    cases h
  cases hf : firstHeapPageForFsmPage page.id.pageNo with
  | none =>
    rw [FsmPage.initializePage, Edit.run_of_bind_ok (Check.require_pos (not_or.mpr ho)), hf] at h
    cases h
  | some first =>
    by_cases hc : initialization.entryCount.toNat ≤ fsmPageEntryCapacity
    swap
    · rw [FsmPage.initializePage, Edit.run_of_bind_ok (Check.require_pos (not_or.mpr ho)),
        Edit.run_of_bind_ok (Check.present_eq_ok.mpr hf),
        Edit.run_of_bind_error (Check.require_neg hc)] at h
      cases h
    by_cases hr : InitializedRangeFits ⟨first, initialization.entryCount, 0, 0⟩
    swap
    · rw [FsmPage.initializePage, Edit.run_of_bind_ok (Check.require_pos (not_or.mpr ho)),
        Edit.run_of_bind_ok (Check.present_eq_ok.mpr hf),
        Edit.run_of_bind_ok (Check.require_pos hc)] at h
      dsimp only at h
      rw [Edit.run_of_bind_error (Check.require_neg hr)] at h
      cases h
    rw [fsmPageInitializer,
      @fsmInitializePage_run ⟨page.id⟩ page.bytes first initialization ho hf hc hr]
    refine ⟨fsmInitialHeaders page.id.pageNo first initialization,
      List.replicate initialization.entryCount.toNat 0, .inr ⟨rfl, _, rfl⟩,
      fsmInitialized_valid ho hf hc hr, List.length_replicate, fun k category hk => ?_⟩
    rw [fsmInitialized_entry]
    exact (List.eq_of_mem_replicate (List.mem_of_getElem? hk)).symm

end Pages

/-- The files in `files` hold free space map pages. -/
def fsmPageKind (files : FileId → Bool) :
    PageKind FsmPageInitialization FsmPageCall FsmPageLog where
  files := files
  validator _ := fsmPageValidator
  build := fsmPageInitializer
  perform id call bytes :=
    (Edit.run (FsmPage.setCategory ⟨id⟩ call.entryIndex call.category) bytes).2
  note _ call _ log := log.add call
  start := ⟨none, []⟩
  Holds id bytes log := log.Explains ⟨id⟩ bytes
  holds_same h hx := hx.same h
  accepts_same h hv := fsmPageValidator_same h hv
  built _ h := fsmPageInitializer_built h
  performed _ hx := hx.assign _

section Runs

variable {N : ℕ} {T V : Type} [NeZero N] [DecidableEq T] [DecidableEq V] [Fintype T] [Fintype V]
  {opts : BufferPoolOptions} {files : FileId → Bool}
  {x : (World N T V × History N) × (PageId → FsmPageLog)} {t : T} {v : GuardVar V}
  {g : PageGuard N} {page : Page}

end Runs

section Sample

lemma zero_not_fsmPage {id : PageId} : fsmPageValidator ⟨id, PageBytes.zero⟩ ≠ .valid := by
  intro hv
  obtain ⟨headers, hvalid⟩ := fsmPageValidator_valid.mp hv
  have hheader := header_eq_some.mpr hvalid.commonStored
  have htype : PageBytes.zero.header.map CommonPageHeader.pageType ≠ some PageType.fsmData := by
    decide
  rw [hheader, Option.map_some, hvalid.pageType] at htype
  exact htype rfl

def sampleFsmKind : PageKind FsmPageInitialization FsmPageCall FsmPageLog :=
  fsmPageKind fun file => file == sampleFile

def sampleFsmStart : (World 1 Bool Unit × History 1) × (PageId → FsmPageLog) :=
  ((World.initial sampleDisk, .initial sampleDisk), fun _ => ⟨none, []⟩)

lemma sampleFsmStart_initial : (pageSystem sampleFsmKind sampleOptions).initial sampleFsmStart :=
  ⟨⟨⟨sampleDisk, rfl⟩, rfl⟩, fun _ _ hv => absurd hv zero_not_fsmPage⟩

/-- Registers a file, creates a full page and sets one of its entries. -/
def sampleCategories : List (PageAction Bool Unit FsmPageCall) :=
  [.pool false (.call (.registerFile sampleFile fsmPageValidator)),
    .pool false (.pageCount (.ok 1)), .pool false .run,
    .pool false (.call (.newPage sampleFile (some (fsmPageInitializer ⟨8144, 0⟩)))),
    .pool false .run, .pool false .run, .pool false .run, .pool false (.pageCount (.ok 1)),
    .pool false (.extendFile (.ok 1)), .pool false .run, .pool false .run, .pool false .run,
    .pool false .run, .perform false none ⟨1, 200⟩]

def sampleFsmState : (World 1 Bool Unit × History 1) × (PageId → FsmPageLog) :=
  Option.get (execute (pageSystem sampleFsmKind sampleOptions) sampleFsmKind.Keeps
    sampleFsmStart sampleCategories) (by decide +kernel)

lemma sampleFsm_run :
    Run (pageSystem sampleFsmKind sampleOptions) sampleFsmKind.Respects sampleFsmState := by
  refine Run.of_execute_labels (.start sampleFsmStart_initial) ?_ (Option.some_get _).symm
  simp only [sampleCategories, List.forall_mem_cons, PageKind.Supplied, true_and, List.not_mem_nil,
    false_imp_iff, implies_true, and_true]
  exact ⟨fun _ => rfl, fun _ => ⟨⟨8144, 0⟩, rfl⟩⟩

def sampleFsmGuard : PageGuard 1 := ⟨0, 1, .exclusive⟩

def sampleFsmPage : Page := (sampleFsmState.1.1.pool.frames sampleFsmGuard.frameId).page

lemma sampleFsm_page :
    (sampleFsmState.1.1.pool.frames sampleFsmGuard.frameId).page = sampleFsmPage := by
  rw [sampleFsmPage]

lemma sampleFsm_ends : sampleFsmState.1.1.guards false none = some sampleFsmGuard ∧
    sampleFsmPage.id.fileId = sampleFile := by
  decide +kernel

end Sample

end DBlusBlus
