import DBlusBlus.BufferPool.PageKind
import DBlusBlus.Heap.Reload

/-! Heap pages behind the buffer pool. The rows that were inserted through write guards are read
through later guards, with any number of evictions and reloads in between. -/

namespace DBlusBlus

open Span BufferPool Transition

section Checksum

variable {page : HeapPage} {bytes bytes' : PageBytes} {headers : HeapPageHeaders}
  {slots : List HeapSlotEntry} {map : SlotMap} {checksum : UInt32}

lemma byteAt_of_same (h : SameContent bytes' bytes) {k : ℕ} (hk : k < 16 ∨ 20 ≤ k) :
    bytes'.byteAt k = bytes.byteAt k := by
  rw [PageBytes.byteAt, PageBytes.byteAt]
  split
  · exact h _ hk
  · rfl

lemma resealed_of_same (h : SameContent bytes' bytes) :
    ∃ checksum, Resealed bytes bytes' checksum := by
  refine ⟨.ofBitVec (assemble (8 * 4) (bytes'.slice 16 4)), fun hd => ?_, ?_⟩
  · refine PageBytes.slice_congr fun i hi => byteAt_of_same h ?_
    omega
  · exact (littleEndianBytes_assemble PageBytes.length_slice).symm

lemma Represents.resealed (h : Represents page bytes headers slots map)
    (hr : Resealed bytes bytes' checksum) :
    Represents page bytes' (headers.withChecksum checksum) slots map where
  valid := h.valid.resealed hr
  length := h.length
  stands k slot stored hs hm := by
    have hcanonical := h.valid.canonical slot (List.mem_of_getElem? hs)
    refine (h.stands k slot stored hs hm).congr (fun hret => hr.slice (.inr ?_)) hcanonical
    have hstart := (hcanonical.owns hret).2.1.2.1
    have ho := h.valid.order
    have hl : headers.heap.lower.toNat = 48 + 8 * slots.length := h.valid.lower
    omega
  packed := h.packed

end Checksum

section Validator

variable {schemaHistory : HeapTupleSchemaHistory} {id : PageId} {bytes bytes' : PageBytes}

lemma heapPageValidator_valid : heapPageValidator schemaHistory ⟨id, bytes⟩ = .valid ↔
    ∃ headers, HeapPage.validate ⟨id, schemaHistory⟩ bytes = .ok headers := by
  rw [heapPageValidator]
  cases HeapPage.validate ⟨id, schemaHistory⟩ bytes <;> simp

lemma heapPageValidator_same (h : SameContent bytes' bytes)
    (hv : heapPageValidator schemaHistory ⟨id, bytes⟩ = .valid) :
    heapPageValidator schemaHistory ⟨id, bytes'⟩ = .valid := by
  obtain ⟨headers, slots, hvalid, htuples⟩ :=
    validate_accepts.mp (heapPageValidator_valid.mp hv)
  obtain ⟨checksum, hr⟩ := resealed_of_same h
  have hvalid' := hvalid.resealed hr
  have htuples' := TuplesValid.resealed hr htuples hvalid
  exact heapPageValidator_valid.mpr (validate_accepts.mpr ⟨_, slots, hvalid', htuples'⟩)

end Validator

namespace SlotMap

abbrev Entry := HeapPageCall × HeapPageReply

/-- A run as the calls with their replies. -/
def RunOf (page : HeapPage) (map : SlotMap) (entries : List Entry) (map' : SlotMap) : Prop :=
  Run page map (entries.map Prod.fst) (entries.map Prod.snd) map'

variable {page : HeapPage} {map map' map'' : SlotMap} {entries before after : List Entry}
  {call : HeapPageCall} {reply : HeapPageReply} {tuple : List UInt8} {rid : Rid} {k : ℕ}

lemma RunOf.split (h : RunOf page map (before ++ after) map'') :
    ∃ map', RunOf page map before map' ∧ RunOf page map' after map'' := by
  induction before generalizing map with
  | nil => exact ⟨map, .nil, h⟩
  | cons entry before ih =>
    cases h with
    | cons hstep hrun =>
      obtain ⟨map', hb, ha⟩ := ih hrun
      exact ⟨map', .cons hstep hb, ha⟩

lemma RunOf.snoc (h : RunOf page map entries map') (hs : Step page map' call reply map'') :
    RunOf page map (entries ++ [(call, reply)]) map'' := by
  induction entries generalizing map with
  | nil =>
    cases h
    exact .cons hs .nil
  | cons entry entries ih =>
    cases h with
    | cons hstep hrun => exact .cons hstep (ih hrun)

/-- A live slot stays as it is until it is marked dead. -/
lemma Step.live_kept (h : Step page map call reply map') (hk : map[k]? = some ⟨tuple, .live⟩)
    (hd : ∀ slotId, call = .markDead slotId → reply = .marked (.ok ()) → slotId.toNat ≠ k) :
    map'[k]? = some ⟨tuple, .live⟩ := by
  cases h with
  | inserted =>
    rw [List.getElem?_append_left (List.getElem?_eq_some_iff.mp hk).1]
    exact hk
  | markedDead =>
    rw [List.getElem?_set_ne (hd _ rfl rfl)]
    exact hk
  | compacted =>
    rw [List.getElem?_map, hk]
    rfl
  | _ => exact hk

lemma RunOf.live_kept (h : RunOf page map entries map') (hk : map[k]? = some ⟨tuple, .live⟩)
    (hd : ∀ slotId, (.markDead slotId, .marked (.ok ())) ∈ entries → slotId.toNat ≠ k) :
    map'[k]? = some ⟨tuple, .live⟩ := by
  induction entries generalizing map with
  | nil =>
    cases h
    exact hk
  | cons entry entries ih =>
    obtain ⟨call, reply⟩ := entry
    cases h with
    | cons hstep hrun =>
      refine ih hrun (hstep.live_kept hk ?_) fun slotId hm => hd slotId (List.mem_cons_of_mem _ hm)
      rintro slotId rfl rfl
      exact hd slotId (List.mem_cons_self ..)

lemma Step.inserted_slot (h : Step page map (.insert tuple) (.inserted (.ok rid)) map') :
    map'[rid.slot.toNat]? = some ⟨tuple, .live⟩ := by
  generalize hr : HeapPageReply.inserted (.ok rid) = reply at h
  cases h with
  | inserted hn hc hs =>
    cases hr
    have hlen : (UInt16.ofNat map.length).toNat = map.length :=
      UInt16.toNat_ofNat_of_lt' (by rw [UInt16.size]; omega)
    dsimp only
    rw [hlen, List.getElem?_append_right (Nat.le_refl _), Nat.sub_self]
    rfl
  | _ => cases hr

/-- What was inserted is found under its slot until the slot is marked dead. -/
lemma RunOf.lookup (h : RunOf page map
      (before ++ (.insert tuple, .inserted (.ok rid)) :: after) map')
    (hd : ∀ slotId, (.markDead slotId, .marked (.ok ())) ∈ after → slotId ≠ rid.slot) :
    map'.lookup rid.slot = some tuple := by
  obtain ⟨_, -, hrest⟩ := h.split
  cases hrest with
  | cons hstep hrun =>
    have hlive := RunOf.live_kept hrun hstep.inserted_slot fun slotId hm heq =>
      hd slotId hm (UInt16.toNat_inj.mp heq)
    rw [SlotMap.lookup, hlive]
    rfl

end SlotMap

/-- What was done to a page since it was created, or since the pool was set up over files that held
the slots of `origin`. -/
structure HeapPageLog where
  origin : SlotMap
  entries : List SlotMap.Entry

namespace HeapPageLog

def empty : HeapPageLog := ⟨[], []⟩

def add (log : HeapPageLog) (call : HeapPageCall) (reply : HeapPageReply) : HeapPageLog :=
  { log with entries := log.entries ++ [(call, reply)] }

/-- The replies are those of a slot map, and the page stores it. -/
def Explains (page : HeapPage) (bytes : PageBytes) (log : HeapPageLog) : Prop :=
  ∃ headers slots map, SlotMap.RunOf page log.origin log.entries map ∧
    Represents page bytes headers slots map

variable {page : HeapPage} {bytes bytes' : PageBytes} {log : HeapPageLog}

lemma Explains.same (h : SameContent bytes' bytes) (hx : log.Explains page bytes) :
    log.Explains page bytes' := by
  obtain ⟨headers, slots, map, hrun, hrep⟩ := hx
  obtain ⟨checksum, hr⟩ := resealed_of_same h
  exact ⟨_, slots, map, hrun, hrep.resealed hr⟩

lemma Explains.perform (hx : log.Explains page bytes) (call : HeapPageCall) :
    (log.add call (page.perform call bytes).1).Explains page (page.perform call bytes).2 := by
  obtain ⟨headers, slots, map, hrun, hrep⟩ := hx
  obtain ⟨headers', slots', map', hstep, hrep'⟩ := perform_step call hrep
  exact ⟨headers', slots', map', hrun.snoc hstep, hrep'⟩

lemma explains_initialized (pageLsn : UInt64) (h : IsValidHeapPageNumber page.id.pageNo) :
    empty.Explains page (initialized page.id.pageNo pageLsn) :=
  ⟨_, _, [], .nil, represents_initialized pageLsn h⟩

/-- A row that was inserted and not marked dead since is read back, value by value. -/
lemma Explains.row (hx : log.Explains page bytes) {before after : List SlotMap.Entry}
    {tuple : List UInt8} {rid : Rid}
    (hlog : log.entries = before ++ (.insert tuple, .inserted (.ok rid)) :: after)
    (hd : ∀ slotId, (.markDead slotId, .marked (.ok ())) ∈ after → slotId ≠ rid.slot)
    {columns : List PhysicalColumnSpec} {version : SchemaVer} {layout : TuplePhysicalLayout}
    (hbuild : buildTuplePhysicalLayout columns version = .ok layout)
    {metadata : TupleVersionMetadata} {values : List TupleValue}
    (hencode : encodeTuple layout metadata values = .ok tuple) :
    ∃ stored, (HeapPage.tupleBytes page bytes rid.slot : Except (Exit Empty) _) =
        .ok (some stored) ∧
      ∀ (i : ℕ) (hi : i < values.length), decodeTupleValue layout stored i = .ok values[i] := by
  obtain ⟨headers, slots, map, hrun, hrep⟩ := hx
  rw [hlog] at hrun
  refine ⟨tuple, ?_, fun i hi => ?_⟩
  · rw [hrep.tupleBytes, hrun.lookup hd]
  · have hb := buildTuplePhysicalLayout_built hbuild
    obtain ⟨he, rfl⟩ := (encodeTuple_eq_ok hb).mp hencode
    exact decodeTupleValue_of_fits hb he Pattern.length_fill Pattern.fits_fill
      (List.getElem?_eq_getElem hi)

end HeapPageLog

/-- `Initialize` as the initializer of a new page. -/
def heapPageInitializer (schemaHistory : HeapTupleSchemaHistory) (pageLsn : UInt64) (page : Page) :
    Bool × PageBytes :=
  let done := Edit.run (HeapPage.initializePage ⟨page.id, schemaHistory⟩ pageLsn) page.bytes
  match done.1 with
  | .ok () => (true, done.2)
  | .error _ => (false, done.2)

section Initializer

variable {schemaHistory : HeapTupleSchemaHistory} {pageLsn : UInt64} {page : Page}

lemma heapPageInitializer_built (h : (heapPageInitializer schemaHistory pageLsn page).1 = true) :
    HeapPageLog.empty.Explains ⟨page.id, schemaHistory⟩
      (heapPageInitializer schemaHistory pageLsn page).2 := by
  by_cases hn : IsValidHeapPageNumber page.id.pageNo
  · have hrun := @initializePage_run ⟨page.id, schemaHistory⟩ page.bytes pageLsn hn
    rw [heapPageInitializer, hrun]
    exact HeapPageLog.explains_initialized pageLsn hn
  · rw [heapPageInitializer, HeapPage.initializePage, Edit.run_of_bind_error (Check.require_neg hn)]
      at h
    cases h

end Initializer

/-- The files in `files` hold heap pages of the given schemas. -/
def heapPageKind (files : FileId → Bool) (schemas : FileId → HeapTupleSchemaHistory) :
    PageKind UInt64 HeapPageCall HeapPageLog where
  files := files
  validator file := heapPageValidator (schemas file)
  build pageLsn page := heapPageInitializer (schemas page.id.fileId) pageLsn page
  perform id call bytes := (HeapPage.perform ⟨id, schemas id.fileId⟩ call bytes).2
  note id call bytes log := log.add call (HeapPage.perform ⟨id, schemas id.fileId⟩ call bytes).1
  start := .empty
  Holds id bytes log := log.Explains ⟨id, schemas id.fileId⟩ bytes
  holds_same h hx := hx.same h
  accepts_same h hv := heapPageValidator_same h hv
  built _ h := heapPageInitializer_built h
  performed _ hx := hx.perform _

section Runs

variable {N : ℕ} {T V : Type} [NeZero N] [DecidableEq T] [DecidableEq V] [Fintype T] [Fintype V]
  {opts : BufferPoolOptions} {files : FileId → Bool} {schemas : FileId → HeapTupleSchemaHistory}
  {x : (World N T V × History N) × (PageId → HeapPageLog)} {t : T} {v : GuardVar V}
  {g : PageGuard N} {page : Page}

lemma explains_of_run
    (h : Run (pageSystem (heapPageKind files schemas) opts) (heapPageKind files schemas).Respects x)
    (hg : x.1.1.guards t v = some g) (hpage : (x.1.1.pool.frames g.frameId).page = page)
    (hf : files page.id.fileId = true) :
    (x.2 page.id).Explains ⟨page.id, schemas page.id.fileId⟩ page.bytes := by
  have hholds := guarded_page_holds h hg (by rwa [hpage])
  rwa [hpage] at hholds

/-- In every run over heap files, each page that a guard shows is the slot map that the calls on it
make, with the replies they got. -/
theorem heap_rows_survive
    (h : Run (pageSystem (heapPageKind files schemas) opts) (heapPageKind files schemas).Respects x)
    (hg : x.1.1.guards t v = some g) (hpage : (x.1.1.pool.frames g.frameId).page = page)
    (hf : files page.id.fileId = true) :
    ∃ map, SlotMap.Run ⟨page.id, schemas page.id.fileId⟩ (x.2 page.id).origin
        ((x.2 page.id).entries.map Prod.fst) ((x.2 page.id).entries.map Prod.snd) map ∧
      (∀ slotId, (HeapPage.tupleBytes ⟨page.id, schemas page.id.fileId⟩ page.bytes slotId :
        Except (Exit Empty) _) = .ok (map.lookup slotId)) ∧
      ∀ entry ∈ (x.2 page.id).entries, entry.2.Sound := by
  obtain ⟨headers, slots, map, hrun, hrep⟩ := explains_of_run h hg hpage hf
  refine ⟨map, hrun, fun slotId => hrep.tupleBytes, fun entry he => ?_⟩
  exact SlotMap.Run.sound hrun entry.2 (List.mem_map_of_mem he)

/-- A row that was inserted and not marked dead since is read back, value by value. -/
theorem row_read_back
    (h : Run (pageSystem (heapPageKind files schemas) opts) (heapPageKind files schemas).Respects x)
    (hg : x.1.1.guards t v = some g) (hpage : (x.1.1.pool.frames g.frameId).page = page)
    (hf : files page.id.fileId = true) {before after : List SlotMap.Entry} {tuple : List UInt8}
    {rid : Rid} (hlog : (x.2 page.id).entries =
      before ++ (.insert tuple, .inserted (.ok rid)) :: after)
    (hd : ∀ slotId, (.markDead slotId, .marked (.ok ())) ∈ after → slotId ≠ rid.slot)
    {columns : List PhysicalColumnSpec} {version : SchemaVer} {layout : TuplePhysicalLayout}
    (hbuild : buildTuplePhysicalLayout columns version = .ok layout)
    {metadata : TupleVersionMetadata} {values : List TupleValue}
    (hencode : encodeTuple layout metadata values = .ok tuple) :
    ∃ bytes, (HeapPage.tupleBytes ⟨page.id, schemas page.id.fileId⟩ page.bytes rid.slot :
        Except (Exit Empty) _) = .ok (some bytes) ∧
      ∀ (i : ℕ) (hi : i < values.length), decodeTupleValue layout bytes i = .ok values[i] := by
  exact (explains_of_run h hg hpage hf).row hlog hd hbuild hencode

end Runs

section Sample

lemma zero_not_heapPage {schemaHistory : HeapTupleSchemaHistory} {id : PageId} :
    heapPageValidator schemaHistory ⟨id, PageBytes.zero⟩ ≠ .valid := by
  intro hv
  obtain ⟨headers, slots, hvalid, -⟩ := validate_accepts.mp (heapPageValidator_valid.mp hv)
  have hheader := header_eq_some.mpr hvalid.commonStored
  have htype : PageBytes.zero.header.map CommonPageHeader.pageType ≠ some PageType.heapData := by
    decide
  rw [hheader, Option.map_some, hvalid.pageType] at htype
  exact htype rfl

def sampleHeapKind : PageKind UInt64 HeapPageCall HeapPageLog :=
  heapPageKind (fun file => file == sampleFile) fun _ => sampleHeapPage.schemaHistory

def sampleHeapStart : (World 1 Bool Unit × History 1) × (PageId → HeapPageLog) :=
  ((World.initial sampleDisk, .initial sampleDisk), fun _ => .empty)

lemma sampleHeapStart_initial : (pageSystem sampleHeapKind sampleOptions).initial sampleHeapStart :=
  ⟨⟨⟨sampleDisk, rfl⟩, rfl⟩, fun _ _ hv => absurd hv zero_not_heapPage⟩

def sampleRowMetadata : TupleVersionMetadata := { xmin := ⟨5⟩ }

def sampleRow : List UInt8 :=
  Pattern.fill 0 (tuplePattern sampleTupleLayout sampleRowMetadata sampleValues)

lemma sampleRow_encode : encodeTuple sampleTupleLayout sampleRowMetadata sampleValues =
    .ok sampleRow := by
  have hb := buildTuplePhysicalLayout_built sampleTupleLayout_build
  refine (encodeTuple_eq_ok hb).mpr ⟨(encodable_iff hb).mpr ⟨?_, by decide, by decide⟩, rfl⟩
  exact .cons (by decide) (.cons (by decide) (.cons (by decide) (.cons (by decide)
    (.cons (by decide) .nil))))

/-- Registers a heap file, creates its first page and inserts a row. -/
def sampleRows : List (PageAction Bool Unit HeapPageCall) :=
  [.pool false (.call (.registerFile sampleFile (heapPageValidator sampleHeapPage.schemaHistory))),
    .pool false (.pageCount (.ok 1)), .pool false .run,
    .pool false (.call (.newPage sampleFile
      (some (heapPageInitializer sampleHeapPage.schemaHistory 0)))),
    .pool false .run, .pool false .run, .pool false .run, .pool false (.pageCount (.ok 1)),
    .pool false (.extendFile (.ok 1)), .pool false .run, .pool false .run, .pool false .run,
    .pool false .run, .perform false none (.insert sampleRow)]

def sampleRowsState : (World 1 Bool Unit × History 1) × (PageId → HeapPageLog) :=
  Option.get (execute (pageSystem sampleHeapKind sampleOptions) sampleHeapKind.Keeps
    sampleHeapStart sampleRows) (by decide +kernel)

lemma sampleRows_run :
    Run (pageSystem sampleHeapKind sampleOptions) sampleHeapKind.Respects sampleRowsState := by
  refine Run.of_execute_labels (.start sampleHeapStart_initial) ?_ (Option.some_get _).symm
  simp only [sampleRows, List.forall_mem_cons, PageKind.Supplied, true_and, List.not_mem_nil,
    false_imp_iff, implies_true, and_true]
  exact ⟨fun _ => rfl, fun _ => ⟨0, rfl⟩⟩

def sampleRowsGuard : PageGuard 1 := ⟨0, 1, .exclusive⟩

def sampleRowsPage : Page := (sampleRowsState.1.1.pool.frames sampleRowsGuard.frameId).page

lemma sampleRows_page :
    (sampleRowsState.1.1.pool.frames sampleRowsGuard.frameId).page = sampleRowsPage := by
  rw [sampleRowsPage]

def isInsertedAt (tuple : List UInt8) (rid : Rid) : List SlotMap.Entry → Bool
  | [(.insert tuple', .inserted (.ok rid'))] => tuple' == tuple && rid' == rid
  | _ => false

lemma eq_of_isInsertedAt {tuple : List UInt8} {rid : Rid} {entries : List SlotMap.Entry}
    (h : isInsertedAt tuple rid entries = true) :
    entries = [] ++ (.insert tuple, .inserted (.ok rid)) :: [] := by
  unfold isInsertedAt at h
  split at h
  · simp only [Bool.and_eq_true, beq_iff_eq] at h
    rw [h.1, h.2, List.nil_append]
  · cases h

lemma sampleRows_ends : sampleRowsState.1.1.guards false none = some sampleRowsGuard ∧
    sampleRowsPage.id.fileId = sampleFile ∧
    isInsertedAt sampleRow ⟨⟨sampleFile, 1⟩, 0⟩ (sampleRowsState.2 sampleRowsPage.id).entries := by
  decide +kernel

theorem heap_rows_survive_insert : ∃ map, SlotMap.Run
    ⟨sampleRowsPage.id, sampleHeapPage.schemaHistory⟩ (sampleRowsState.2 sampleRowsPage.id).origin
    ((sampleRowsState.2 sampleRowsPage.id).entries.map Prod.fst)
    ((sampleRowsState.2 sampleRowsPage.id).entries.map Prod.snd) map := by
  obtain ⟨hguard, hfile, -⟩ := sampleRows_ends
  obtain ⟨map, hrun, -⟩ := heap_rows_survive sampleRows_run hguard sampleRows_page
    (beq_iff_eq.mpr hfile)
  exact ⟨map, hrun⟩

theorem row_read_back_sample : ∃ bytes,
    (HeapPage.tupleBytes ⟨sampleRowsPage.id, sampleHeapPage.schemaHistory⟩ sampleRowsPage.bytes 0 :
      Except (Exit Empty) _) = .ok (some bytes) ∧
    decodeTupleValue sampleTupleLayout bytes 3 = .ok (.varchar [0xC3, 0xA9]) := by
  obtain ⟨hguard, hfile, hlog⟩ := sampleRows_ends
  obtain ⟨bytes, hread, hvalues⟩ := row_read_back sampleRows_run hguard sampleRows_page
    (beq_iff_eq.mpr hfile) (eq_of_isInsertedAt hlog) (by simp) sampleTupleLayout_build
    sampleRow_encode
  exact ⟨bytes, hread, hvalues 3 (by decide)⟩

end Sample

end DBlusBlus
