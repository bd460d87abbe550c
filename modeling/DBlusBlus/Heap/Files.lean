import DBlusBlus.BufferPool.OverDisk
import DBlusBlus.Heap.Store

/-! Rows of heap pages in page files, from the values to the system calls. -/

namespace DBlusBlus

open Span BufferPool DiskPageIo Transition

section Runs

variable {N : ℕ} {T V : Type} [NeZero N] [DecidableEq T] [DecidableEq V] [Fintype T] [Fintype V]
  {opts : BufferPoolOptions} {files : FileId → Bool} {schemas : FileId → HeapTupleSchemaHistory}
  {x : ((World N T V × History N) × (PageId → HeapPageLog)) × Calls T} {t : T} {v : GuardVar V}
  {g : PageGuard N} {page : Page}

/-- A row that was inserted and not marked dead since is read back, value by value, whatever the
system calls of the disk manager answer and however the calls of several threads mix. -/
theorem row_read_from_files
    (h : Run (pageUser (heapPageKind files schemas) opts).stack
      (PoolUser.OnUpper (heapPageKind files schemas).Follows) x)
    (hg : x.1.1.1.guards t v = some g) (hpage : (x.1.1.1.pool.frames g.frameId).page = page)
    (hf : files page.id.fileId = true) {before after : List SlotMap.Entry} {tuple : List UInt8}
    {rid : Rid} (hlog : (x.1.2 page.id).entries =
      before ++ (.insert tuple, .inserted (.ok rid)) :: after)
    (hd : ∀ slotId, (.markDead slotId, .marked (.ok ())) ∈ after → slotId ≠ rid.slot)
    {columns : List PhysicalColumnSpec} {version : SchemaVer} {layout : TuplePhysicalLayout}
    (hbuild : buildTuplePhysicalLayout columns version = .ok layout)
    {metadata : TupleVersionMetadata} {values : List TupleValue}
    (hencode : encodeTuple layout metadata values = .ok tuple) :
    ∃ bytes, (HeapPage.tupleBytes ⟨page.id, schemas page.id.fileId⟩ page.bytes rid.slot :
        Except (Exit Empty) _) = .ok (some bytes) ∧
      ∀ (i : ℕ) (hi : i < values.length), decodeTupleValue layout bytes i = .ok values[i] := by
  exact (explains_of_run (respects_of_run h) hg hpage hf).row hlog hd hbuild hencode

end Runs

section Sample

def sampleFilesStart :
    ((World 1 Bool Unit × History 1) × (PageId → HeapPageLog)) × Calls Bool :=
  (sampleHeapStart, ⟨sampleStackDisk, fun _ => none⟩)

/-- The sample row in a new page, with every count, extension and system call of its own. -/
def sampleFiles : List (StackAct Bool (PageAction Bool Unit HeapPageCall)) :=
  [.upper (.pool false (.call (.registerFile sampleFile
      (heapPageValidator sampleHeapPage.schemaHistory)))),
    .start false, .answer false (.done 0), .finish false, .upper (.pool false .run),
    .upper (.pool false (.call (.newPage sampleFile
      (some (heapPageInitializer sampleHeapPage.schemaHistory 0))))),
    .upper (.pool false .run), .upper (.pool false .run), .upper (.pool false .run),
    .start false, .answer false (.failed 4), .answer false (.done 0), .finish false,
    .start false, .answer false (.done 0), .answer false (.done 0), .finish false,
    .upper (.pool false .run), .upper (.pool false .run), .upper (.pool false .run),
    .upper (.pool false .run), .upper (.perform false none (.insert sampleRow))]

def sampleFilesState : ((World 1 Bool Unit × History 1) × (PageId → HeapPageLog)) × Calls Bool :=
  Option.get (execute (pageUser sampleHeapKind sampleOptions).stack
    (PoolUser.OnUpper sampleHeapKind.Careful) sampleFilesStart sampleFiles) (by decide +kernel)

lemma sampleFiles_run : Run (pageUser sampleHeapKind sampleOptions).stack
    (PoolUser.OnUpper sampleHeapKind.Follows) sampleFilesState := by
  have hstart : Run (pageUser sampleHeapKind sampleOptions).stack
      (fun x a => PoolUser.OnUpper sampleHeapKind.Careful x a ∧
        ∀ b, a = .upper b → sampleHeapKind.Supplied b) sampleFilesStart := by
    refine .start ⟨sampleHeapStart_initial, sampleStackDisk_initial, fun _ => rfl, fun page => ?_⟩
    exact (pageAt_zeros ..).symm
  refine (Run.of_execute_labels hstart ?_ (Option.some_get _).symm).mono fun _ _ h =>
    onUpper_follows h
  simp only [sampleFiles, List.forall_mem_cons, StackAct.upper.injEq, reduceCtorEq, forall_eq',
    false_imp_iff, implies_true, PageKind.Supplied, true_and, and_true, List.not_mem_nil]
  exact ⟨fun _ => rfl, fun _ => ⟨0, rfl⟩⟩

def sampleFilesPage : Page := (sampleFilesState.1.1.1.pool.frames sampleRowsGuard.frameId).page

lemma sampleFiles_page :
    (sampleFilesState.1.1.1.pool.frames sampleRowsGuard.frameId).page = sampleFilesPage := by
  rw [sampleFilesPage]

lemma sampleFiles_ends : sampleFilesState.1.1.1.guards false none = some sampleRowsGuard ∧
    sampleFilesPage.id.fileId = sampleFile ∧ isInsertedAt sampleRow ⟨⟨sampleFile, 2⟩, 0⟩
      (sampleFilesState.1.2 sampleFilesPage.id).entries := by
  decide +kernel

theorem row_read_from_files_sample : ∃ bytes,
    (HeapPage.tupleBytes ⟨sampleFilesPage.id, sampleHeapPage.schemaHistory⟩ sampleFilesPage.bytes 0 :
      Except (Exit Empty) _) = .ok (some bytes) ∧
    decodeTupleValue sampleTupleLayout bytes 3 = .ok (.varchar [0xC3, 0xA9]) := by
  obtain ⟨hguard, hfile, hlog⟩ := sampleFiles_ends
  obtain ⟨bytes, hread, hvalues⟩ := row_read_from_files sampleFiles_run hguard sampleFiles_page
    (beq_iff_eq.mpr hfile) (eq_of_isInsertedAt hlog) (by simp) sampleTupleLayout_build
    sampleRow_encode
  exact ⟨bytes, hread, hvalues 3 (by decide)⟩

end Sample

end DBlusBlus
