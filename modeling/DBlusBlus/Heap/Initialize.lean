import DBlusBlus.Heap.Local

/-! A page that has just been initialized. -/

namespace DBlusBlus

open Span

section Encoders

variable {ε β : Type} {bytes : PageBytes} {offset : ℕ} {data : List UInt8}

lemma encodeSlot_fresh (slot : HeapSlotEntry) :
    encodeHeapSlotEntry (List.replicate heapPageSlotEntryEncodedSize 0) slot = some slot.image := by
  rw [encodeHeapSlotEntry_eq slot (by rw [List.length_replicate]), Codec.splice_zero,
    List.drop_of_length_le (by rw [List.length_replicate, HeapSlotEntry.length_image]),
    List.append_nil]

lemma encodeHeader_whole (header : HeapPageHeader)
    (h : data.length = heapPageHeaderEncodedSize) :
    encodeHeapPageHeader data header = some header.image := by
  rw [encodeHeapPageHeader_eq header h.ge, Codec.splice_zero,
    List.drop_of_length_le (by rw [h, HeapPageHeader.length_image]), List.append_nil]

lemma encodeHeader_fresh (header : HeapPageHeader) :
    encodeHeapPageHeader (List.replicate heapPageHeaderEncodedSize 0) header = some header.image :=
  encodeHeader_whole header List.length_replicate

lemma encodeCommon_whole (header : CommonPageHeader) (h : data.length = commonPageHeaderEncodedSize) :
    encodeCommonPageHeader data header = some header.image := by
  rw [encodeCommonPageHeader_eq header h.ge, Codec.overlay,
    List.drop_of_length_le (by rw [h]; exact header.length_image.ge), List.append_nil]
  rfl

lemma run_put (h : offset + data.length ≤ pageSize) :
    Edit.run (PageBytes.put offset data : Edit PageBytes ε Unit) bytes =
      (.ok (), bytes.overwrite offset data) :=
  Edit.run_update (PageBytes.write_eq h)

lemma run_put_bind {f : Unit → Edit PageBytes ε β} (h : offset + data.length ≤ pageSize) :
    Edit.run (PageBytes.put offset data >>= f) bytes =
      Edit.run (f ()) (bytes.overwrite offset data) :=
  Edit.run_bind_ok (run_put h)

end Encoders

def initialCommon (pageNo : PageNo) (pageLsn : UInt64) : CommonPageHeader :=
  ⟨PageType.heapData, heapPageFormatVersion, 0, pageLsn, 0, UInt16.ofNat heapPageTotalHeaderSize, 0,
    pageNo⟩

def initialHeaders (pageNo : PageNo) (pageLsn : UInt64) : HeapPageHeaders :=
  ⟨initialCommon pageNo pageLsn, {}⟩

def initialized (pageNo : PageNo) (pageLsn : UInt64) : PageBytes :=
  (PageBytes.zero.overwrite 0 (initialCommon pageNo pageLsn).image).overwrite heapPageHeaderOffset
    (HeapPageHeader.image {})

section Initialize

variable {page : HeapPage} {bytes : PageBytes} {pageLsn : UInt64} {pageNo : PageNo}

theorem initializePage_run (h : IsValidHeapPageNumber page.id.pageNo) :
    Edit.run (page.initializePage pageLsn) bytes =
      (.ok (), initialized page.id.pageNo pageLsn) := by
  have hcommon : 0 + (initialCommon page.id.pageNo pageLsn).image.length ≤ pageSize := by
    rw [CommonPageHeader.length_image]
    decide
  have hheap : heapPageHeaderOffset + (HeapPageHeader.image {}).length ≤ pageSize := by
    rw [HeapPageHeader.length_image]
    decide
  rw [HeapPage.initializePage, Edit.run_of_bind_ok (Check.require_pos h), Edit.run_set_bind,
    Edit.run_get_bind, Edit.run_of_bind_ok (Check.present_eq_ok.mpr
      (encodeCommon_whole _ PageBytes.length_slice))]
  refine (run_put_bind hcommon).trans ?_
  rw [Edit.run_get_bind, Edit.run_of_bind_ok (PageBytes.read_eq (by decide)),
    Edit.run_of_bind_ok (Check.present_eq_ok.mpr (encodeHeader_whole _ PageBytes.length_slice)),
    run_put hheap]
  rfl

lemma initialized_valid (h : IsValidHeapPageNumber pageNo) :
    LocallyValid pageNo (initialized pageNo pageLsn) (initialHeaders pageNo pageLsn) [] where
  commonStored := by
    have hlen := (initialCommon pageNo pageLsn).length_image
    rw [initialized, PageBytes.slice_overwrite_of_disjoint, ← hlen]
    · exact PageBytes.slice_overwrite_self (by rw [hlen]; decide)
    · rw [HeapPageHeader.length_image]
      decide
    · exact .inl (by decide)
  pageType := rfl
  ownNumber := rfl
  ordinary := h
  headerSize := rfl
  formatVersion := rfl
  flags := rfl
  reserved16 := rfl
  heapStored := by
    have hlen := HeapPageHeader.length_image {}
    rw [initialized, ← hlen]
    exact PageBytes.slice_overwrite_self (by rw [hlen]; decide)
  reserved := rfl
  count := rfl
  lower := rfl
  order := show 48 ≤ 8192 by decide
  upper := Nat.le_refl 8192
  stored := storedFrom_nil
  canonical := by simp
  disjoint := List.Pairwise.nil
  freeChain := ⟨[], .stop, List.nodup_nil, fun slotId => by simp [isUnusedAt]⟩

end Initialize

end DBlusBlus
