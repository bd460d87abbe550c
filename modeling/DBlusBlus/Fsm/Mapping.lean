import DBlusBlus.Fsm.Valid

/-! Every heap page has one entry of one free space map page, and every entry one heap page. -/

namespace DBlusBlus

open Span

section Arithmetic

variable {p f first : PageNo} {header : FsmPageHeader}

lemma invalidPageNo_toNat : invalidPageNo.toNat = 18446744073709551615 := rfl

lemma toNat_pred (h : p ≠ 0) : (p - 1).toNat = p.toNat - 1 := by
  have hpos : p.toNat ≠ 0 := fun hz => h (UInt64.toNat_inj.mp hz)
  refine UInt64.toNat_sub_of_le _ _ ?_
  rw [UInt64.le_iff_toNat_le]
  change 1 ≤ p.toNat
  omega

lemma toNat_ne_invalid (h : p ≠ invalidPageNo) : p.toNat < 18446744073709551615 := by
  have hne : p.toNat ≠ invalidPageNo.toNat := fun he => h (UInt64.toNat_inj.mp he)
  have hlt := p.toNat_lt
  rw [invalidPageNo_toNat] at hne
  omega

lemma fsmLocationForHeapPage_eq_ok {location : FsmEntryLocation} :
    fsmLocationForHeapPage p = .ok location ↔ p ≠ 0 ∧ p ≠ invalidPageNo ∧
      location.fsmPageNo.toNat = 1 + (p.toNat - 1) / 8144 ∧
      location.entryIndex.toNat = (p.toNat - 1) % 8144 := by
  unfold fsmLocationForHeapPage
  by_cases hp : p = 0 ∨ p = invalidPageNo
  · rw [if_pos hp]
    refine iff_of_false (by simp) ?_
    rintro ⟨h₁, h₂, -⟩
    exact hp.elim h₁ h₂
  rw [if_neg hp]
  obtain ⟨hzero, hinvalid⟩ := not_or.mp hp
  have hpred := toNat_pred hzero
  have hlt := toNat_ne_invalid hinvalid
  have hdiv : ((p - 1) / UInt64.ofNat fsmPageEntryCapacity).toNat = (p.toNat - 1) / 8144 := by
    rw [UInt64.toNat_div, hpred]
    rfl
  have hmod : ((p - 1) % UInt64.ofNat fsmPageEntryCapacity).toUInt16.toNat =
      (p.toNat - 1) % 8144 := by
    rw [UInt64.toNat_toUInt16, UInt64.toNat_mod, hpred]
    change (p.toNat - 1) % 8144 % 65536 = _
    omega
  have hmax : ¬ (p - 1) / UInt64.ofNat fsmPageEntryCapacity = maxPageNo := by
    rw [← UInt64.toNat_inj, hdiv]
    change ¬ (p.toNat - 1) / 8144 = 18446744073709551615
    omega
  have hone : (1 + (p - 1) / UInt64.ofNat fsmPageEntryCapacity).toNat = 1 + (p.toNat - 1) / 8144 := by
    rw [UInt64.toNat_add, hdiv]
    change (1 + _) % 18446744073709551616 = _
    omega
  dsimp only
  rw [if_neg hmax, Except.ok.injEq]
  constructor
  · rintro rfl
    exact ⟨hzero, hinvalid, hone, hmod⟩
  · rintro ⟨-, -, h₁, h₂⟩
    have hf : 1 + (p - 1) / UInt64.ofNat fsmPageEntryCapacity = location.fsmPageNo :=
      UInt64.toNat_inj.mp (hone.trans h₁.symm)
    have he : ((p - 1) % UInt64.ofNat fsmPageEntryCapacity).toUInt16 = location.entryIndex :=
      UInt16.toNat_inj.mp (hmod.trans h₂.symm)
    rw [hf, he]

lemma firstHeapPageForFsmPage_eq_some : firstHeapPageForFsmPage f = some first ↔
    f ≠ 0 ∧ first.toNat = 1 + (f.toNat - 1) * 8144 ∧
      1 + (f.toNat - 1) * 8144 < 18446744073709551615 := by
  unfold firstHeapPageForFsmPage
  by_cases hf : f = 0 ∨ f = invalidPageNo
  · rw [if_pos hf]
    refine iff_of_false (by simp) ?_
    rintro ⟨hzero, -, hlt⟩
    rw [hf.resolve_left hzero, invalidPageNo_toNat] at hlt
    omega
  rw [if_neg hf]
  obtain ⟨hzero, hinvalid⟩ := not_or.mp hf
  have hpred := toNat_pred hzero
  have hbound : ((maxPageNo - 1) / UInt64.ofNat fsmPageEntryCapacity).toNat =
      18446744073709551614 / 8144 := rfl
  dsimp only
  by_cases hbig : (maxPageNo - 1) / UInt64.ofNat fsmPageEntryCapacity < f - 1
  · rw [if_pos hbig]
    rw [UInt64.lt_iff_toNat_lt, hbound, hpred] at hbig
    refine iff_of_false (by simp) ?_
    rintro ⟨-, -, hlt⟩
    omega
  rw [if_neg hbig]
  rw [UInt64.lt_iff_toNat_lt, hbound, hpred] at hbig
  have hvalue : (1 + (f - 1) * UInt64.ofNat fsmPageEntryCapacity).toNat =
      1 + (f.toNat - 1) * 8144 := by
    rw [UInt64.toNat_add, UInt64.toNat_mul, hpred]
    change (1 + (f.toNat - 1) * 8144 % 18446744073709551616) % 18446744073709551616 = _
    omega
  have hiff : 1 + (f - 1) * UInt64.ofNat fsmPageEntryCapacity ≠ invalidPageNo ↔
      1 + (f.toNat - 1) * 8144 < 18446744073709551615 := by
    rw [Ne, ← UInt64.toNat_inj, hvalue, invalidPageNo_toNat]
    omega
  by_cases hne : 1 + (f - 1) * UInt64.ofNat fsmPageEntryCapacity ≠ invalidPageNo
  · rw [if_pos hne, Option.some.injEq, ← UInt64.toNat_inj, hvalue]
    constructor
    · exact fun h => ⟨hzero, h.symm, hiff.mp hne⟩
    · exact fun h => h.2.1.symm
  · rw [if_neg hne]
    exact iff_of_false (by simp) fun h => hne (hiff.mpr h.2.2)

lemma initializedRangeFits_iff : InitializedRangeFits header ↔ header.entryCount = 0 ∨
    header.firstHeapPageNo.toNat + header.entryCount.toNat ≤ 18446744073709551615 := by
  unfold InitializedRangeFits
  by_cases hz : header.entryCount = 0
  · exact iff_of_true (.inl hz) (.inl hz)
  have hpos : header.entryCount.toNat ≠ 0 := fun h => hz (UInt16.toNat_inj.mp h)
  have hlt := header.entryCount.toNat_lt
  have hoffset : (header.entryCount - 1).toUInt64.toNat = header.entryCount.toNat - 1 := by
    rw [UInt16.toNat_toUInt64]
    refine UInt16.toNat_sub_of_le _ _ ?_
    rw [UInt16.le_iff_toNat_le]
    change 1 ≤ _
    omega
  have hlimit : ((maxPageNo - 1) - (header.entryCount - 1).toUInt64).toNat =
      18446744073709551614 - (header.entryCount.toNat - 1) := by
    rw [UInt64.toNat_sub_of_le, hoffset]
    · rfl
    · rw [UInt64.le_iff_toNat_le, hoffset]
      change _ ≤ 18446744073709551614
      omega
  rw [UInt64.le_iff_toNat_le, hlimit]
  refine or_congr_right ?_
  omega

end Arithmetic

def fsmInitialized (pageNo firstHeapPageNo : PageNo) (initialization : FsmPageInitialization) :
    PageBytes :=
  (PageBytes.zero.overwrite 0 (CommonPageHeader.image ⟨PageType.fsmData, fsmPageFormatVersion, 0,
    initialization.pageLsn, 0, UInt16.ofNat fsmPageTotalHeaderSize, 0, pageNo⟩)).overwrite
      fsmPageHeaderOffset (FsmPageHeader.image ⟨firstHeapPageNo, initialization.entryCount, 0, 0⟩)

def fsmInitialHeaders (pageNo firstHeapPageNo : PageNo) (initialization : FsmPageInitialization) :
    FsmPageHeaders :=
  ⟨⟨PageType.fsmData, fsmPageFormatVersion, 0, initialization.pageLsn, 0,
    UInt16.ofNat fsmPageTotalHeaderSize, 0, pageNo⟩, ⟨firstHeapPageNo, initialization.entryCount, 0, 0⟩⟩

section Pages

variable {page : FsmPage} {bytes : PageBytes} {headers : FsmPageHeaders} {pageNo first : PageNo}
  {initialization : FsmPageInitialization} {entryIndex k : ℕ} {category : UInt8}

lemma fsmInitializePage_run (ho : page.id.pageNo ≠ 0 ∧ page.id.pageNo ≠ invalidPageNo)
    (hf : firstHeapPageForFsmPage page.id.pageNo = some first)
    (hc : initialization.entryCount.toNat ≤ fsmPageEntryCapacity)
    (hr : InitializedRangeFits ⟨first, initialization.entryCount, 0, 0⟩) :
    Edit.run (page.initializePage initialization) bytes =
      (.ok (), fsmInitialized page.id.pageNo first initialization) := by
  rw [FsmPage.initializePage, Edit.run_of_bind_ok (Check.require_pos (not_or.mpr ho)),
    Edit.run_of_bind_ok (Check.present_eq_ok.mpr hf), Edit.run_of_bind_ok (Check.require_pos hc)]
  dsimp only
  rw [Edit.run_of_bind_ok (Check.require_pos hr),
    Edit.run_of_bind_ok (Check.present_eq_ok.mpr (encodeCommon_whole _ List.length_replicate)),
    Edit.run_of_bind_ok (Check.present_eq_ok.mpr (encodeFsmPageHeader_whole _ List.length_replicate)),
    Edit.run_set_bind]
  refine (run_put_bind ?_).trans (run_put ?_)
  · rw [CommonPageHeader.length_image]
    decide
  · rw [FsmPageHeader.length_image]
    decide

lemma fsmInitialized_valid (ho : pageNo ≠ 0 ∧ pageNo ≠ invalidPageNo)
    (hf : firstHeapPageForFsmPage pageNo = some first)
    (hc : initialization.entryCount.toNat ≤ fsmPageEntryCapacity)
    (hr : InitializedRangeFits ⟨first, initialization.entryCount, 0, 0⟩) :
    FsmValid pageNo (fsmInitialized pageNo first initialization)
      (fsmInitialHeaders pageNo first initialization) where
  commonStored := by
    have hlen := (fsmInitialHeaders pageNo first initialization).common.length_image
    rw [fsmInitialized, PageBytes.slice_overwrite_of_disjoint, ← hlen]
    · refine PageBytes.slice_overwrite_self ?_
      rw [CommonPageHeader.length_image]
      decide
    · rw [FsmPageHeader.length_image]
      decide
    · exact .inl (by decide)
  pageType := rfl
  ownNumber := rfl
  headerSize := rfl
  formatVersion := rfl
  flags := rfl
  reserved16 := rfl
  fsmStored := by
    have hlen := (fsmInitialHeaders pageNo first initialization).fsm.length_image
    rw [fsmInitialized, ← hlen]
    refine PageBytes.slice_overwrite_self ?_
    rw [FsmPageHeader.length_image]
    decide
  fsmReserved := ⟨rfl, rfl⟩
  ordinary := ho
  firstHeapPage := hf
  count := hc
  range := hr
  unused := by
    intro k _ hlt
    change k < 8144 at hlt
    have hzero : PageBytes.zero.byteAt (48 + k) = 0 := by
      rw [PageBytes.byteAt, dif_pos (by change 48 + k < 8192; omega)]
      rfl
    change PageBytes.byteAt _ (48 + k) = 0
    rw [fsmInitialized, PageBytes.byteAt_overwrite, if_neg, PageBytes.byteAt_overwrite, if_neg, hzero]
    · rw [CommonPageHeader.length_image]
      change ¬ (0 ≤ 48 + k ∧ 48 + k < 0 + 32)
      omega
    · rw [CommonPageHeader.length_image]
      decide
    · rw [FsmPageHeader.length_image]
      change ¬ (32 ≤ 48 + k ∧ 48 + k < 32 + 16)
      omega
    · rw [FsmPageHeader.length_image]
      decide

lemma category_eq (hv : FsmValid page.id.pageNo bytes headers)
    (h : entryIndex < headers.fsm.entryCount.toNat) :
    page.category bytes entryIndex = .ok (bytes.byteAt (fsmPageEntriesOffset + entryIndex)) := by
  have hcount : headers.fsm.entryCount.toNat ≤ 8144 := hv.count
  rw [FsmPage.category, fsmValidate_eq_ok.mpr hv]
  change (Check.require _ _ >>= _) = _
  rw [Check.require_pos h, Check.ok_bind]
  refine PageBytes.get_eq ?_
  change 48 + entryIndex < 8192
  omega

lemma category_outOfRange (hv : FsmValid page.id.pageNo bytes headers)
    (h : headers.fsm.entryCount.toNat ≤ entryIndex) :
    page.category bytes entryIndex = .error (.error ⟨.entryOutOfRange, .none⟩) := by
  rw [FsmPage.category, fsmValidate_eq_ok.mpr hv]
  change (Check.require _ _ >>= _) = _
  rw [Check.require_neg (Nat.not_lt_of_le h)]
  rfl

lemma setCategory_outOfRange (hv : FsmValid page.id.pageNo bytes headers)
    (h : headers.fsm.entryCount.toNat ≤ entryIndex) :
    Edit.run (page.setCategory entryIndex category) bytes =
      (.error (.error ⟨.entryOutOfRange, .none⟩), bytes) := by
  rw [FsmPage.setCategory, Edit.run_get_bind,
    Edit.run_of_bind_ok (Span.report_eq_ok.mpr (fsmValidate_eq_ok.mpr hv))]
  exact Edit.run_of_bind_error (Check.require_neg (Nat.not_lt_of_le h))

lemma setCategory_run (hv : FsmValid page.id.pageNo bytes headers)
    (h : entryIndex < headers.fsm.entryCount.toNat) :
    Edit.run (page.setCategory entryIndex category) bytes =
      (.ok (), bytes.overwrite (fsmPageEntriesOffset + entryIndex) [category]) := by
  have hcount : headers.fsm.entryCount.toNat ≤ 8144 := hv.count
  rw [FsmPage.setCategory, Edit.run_get_bind,
    Edit.run_of_bind_ok (Span.report_eq_ok.mpr (fsmValidate_eq_ok.mpr hv)),
    Edit.run_of_bind_ok (Check.require_pos h)]
  refine run_put ?_
  change 48 + entryIndex + 1 ≤ 8192
  omega

lemma byteAt_setCategory (h : entryIndex < fsmPageEntryCapacity) :
    (bytes.overwrite (fsmPageEntriesOffset + entryIndex) [category]).byteAt k =
      if k = fsmPageEntriesOffset + entryIndex then category else bytes.byteAt k := by
  have h : entryIndex < 8144 := h
  rw [PageBytes.byteAt_overwrite (by change 48 + entryIndex + 1 ≤ 8192; omega)]
  by_cases hk : k = fsmPageEntriesOffset + entryIndex
  · rw [if_pos hk, if_pos (by rw [List.length_singleton]; omega), hk, Nat.sub_self]
    rfl
  · rw [if_neg hk, if_neg (by rw [List.length_singleton]; omega)]

lemma FsmValid.setCategory (category : UInt8) (hv : FsmValid pageNo bytes headers)
    (h : entryIndex < headers.fsm.entryCount.toNat) :
    FsmValid pageNo (bytes.overwrite (fsmPageEntriesOffset + entryIndex) [category]) headers := by
  have hcount : headers.fsm.entryCount.toNat ≤ 8144 := hv.count
  have hfits : fsmPageEntriesOffset + entryIndex + [category].length ≤ pageSize := by
    change 48 + entryIndex + 1 ≤ 8192
    omega
  refine { hv with
    commonStored := ?_
    fsmStored := ?_
    unused := fun k hle hlt => ?_ }
  · rw [PageBytes.slice_overwrite_of_disjoint hfits, hv.commonStored]
    exact .inl (show 0 + 32 ≤ 48 + entryIndex by omega)
  · rw [PageBytes.slice_overwrite_of_disjoint hfits, hv.fsmStored]
    exact .inl (show 32 + 16 ≤ 48 + entryIndex by omega)
  · rw [byteAt_setCategory (show entryIndex < 8144 by omega), if_neg (by omega)]
    exact hv.unused k hle hlt

lemma FsmValid.location (hv : FsmValid pageNo bytes headers)
    (h : entryIndex < headers.fsm.entryCount.toNat) {p : PageNo}
    (hp : p.toNat = headers.fsm.firstHeapPageNo.toNat + entryIndex) :
    fsmLocationForHeapPage p = .ok ⟨pageNo, UInt16.ofNat entryIndex⟩ := by
  obtain ⟨hzero, hfirst, hlt⟩ := firstHeapPageForFsmPage_eq_some.mp hv.firstHeapPage
  have hcount : headers.fsm.entryCount.toNat ≤ 8144 := hv.count
  have hrange := (initializedRangeFits_iff.mp hv.range).resolve_left (by
    intro hz
    rw [hz] at h
    exact Nat.not_lt_zero _ h)
  have hne : pageNo.toNat ≠ 0 := fun hz => hzero (UInt64.toNat_inj.mp hz)
  have hentry : (UInt16.ofNat entryIndex).toNat = entryIndex :=
    UInt16.toNat_ofNat_of_lt' (by rw [UInt16.size]; omega)
  refine fsmLocationForHeapPage_eq_ok.mpr ⟨?_, ?_, ?_, ?_⟩
  · rintro rfl
    rw [UInt64.toNat_zero] at hp
    omega
  · rintro rfl
    rw [invalidPageNo_toNat] at hp
    omega
  · dsimp only
    omega
  · dsimp only
    rw [hentry]
    omega

lemma FsmValid.of_location (hv : FsmValid pageNo bytes headers) {p : PageNo} {e : UInt16}
    (h : fsmLocationForHeapPage p = .ok ⟨pageNo, e⟩) :
    p.toNat = headers.fsm.firstHeapPageNo.toNat + e.toNat := by
  obtain ⟨-, hfirst, -⟩ := firstHeapPageForFsmPage_eq_some.mp hv.firstHeapPage
  obtain ⟨hzero, -, hpage, hentry⟩ := fsmLocationForHeapPage_eq_ok.mp h
  have hne : p.toNat ≠ 0 := fun hz => hzero (UInt64.toNat_inj.mp hz)
  dsimp only at hpage hentry
  omega

end Pages

abbrev FsmPages := PageNo → Option PageBytes

/-- What `Category` reports for a heap page. -/
def reportedCategory (fileId : FileId) (pages : FsmPages) (heapPageNo : PageNo) :
    Option (Except (Exit FsmPageEntryFailure) UInt8) :=
  match fsmLocationForHeapPage heapPageNo with
  | .ok location => (pages location.fsmPageNo).map fun bytes =>
    FsmPage.category ⟨⟨fileId, location.fsmPageNo⟩⟩ bytes location.entryIndex.toNat
  | .error _ => none

def AllFsmValid (fileId : FileId) (pages : FsmPages) : Prop :=
  ∀ fsmPageNo bytes, pages fsmPageNo = some bytes →
    ∃ headers, FsmPage.validate ⟨⟨fileId, fsmPageNo⟩⟩ bytes = .ok headers

section Updates

variable {fileId : FileId} {pages : FsmPages} {p q : PageNo} {location : FsmEntryLocation}
  {bytes : PageBytes} {headers : FsmPageHeaders} {category : UInt8}

lemma fsmLocation_injective {location' : FsmEntryLocation}
    (hp : fsmLocationForHeapPage p = .ok location) (hq : fsmLocationForHeapPage q = .ok location')
    (hne : p ≠ q) : location ≠ location' := by
  rintro rfl
  obtain ⟨hp₀, -, hp₁, hp₂⟩ := fsmLocationForHeapPage_eq_ok.mp hp
  obtain ⟨hq₀, -, hq₁, hq₂⟩ := fsmLocationForHeapPage_eq_ok.mp hq
  have hp' : p.toNat ≠ 0 := fun hz => hp₀ (UInt64.toNat_inj.mp hz)
  have hq' : q.toNat ≠ 0 := fun hz => hq₀ (UInt64.toNat_inj.mp hz)
  refine hne (UInt64.toNat_inj.mp ?_)
  omega

lemma AllFsmValid.update (hall : AllFsmValid fileId pages) {fsmPageNo : PageNo}
    (hv : FsmValid fsmPageNo bytes headers) :
    AllFsmValid fileId (Function.update pages fsmPageNo (some bytes)) := by
  intro f image hf
  by_cases he : f = fsmPageNo
  · subst he
    rw [Function.update_self] at hf
    obtain rfl := Option.some.inj hf
    exact ⟨headers, fsmValidate_eq_ok.mpr hv⟩
  · rw [Function.update_of_ne he] at hf
    exact hall f image hf

lemma reportedCategory_other
    (hp : fsmLocationForHeapPage p = .ok location) (hb : pages location.fsmPageNo = some bytes)
    (hv : FsmValid location.fsmPageNo bytes headers)
    (he : location.entryIndex.toNat < headers.fsm.entryCount.toNat) (hne : q ≠ p) :
    reportedCategory fileId (Function.update pages location.fsmPageNo
      (some (bytes.overwrite (fsmPageEntriesOffset + location.entryIndex.toNat) [category]))) q =
        reportedCategory fileId pages q := by
  unfold reportedCategory
  rcases hq : fsmLocationForHeapPage q with _ | location'
  · rfl
  have hdistinct := fsmLocation_injective hq hp hne
  dsimp only
  by_cases hf : location'.fsmPageNo = location.fsmPageNo
  swap
  · rw [Function.update_of_ne hf]
  have hentry : location'.entryIndex.toNat ≠ location.entryIndex.toNat := by
    intro h
    refine hdistinct ?_
    cases location
    cases location'
    obtain rfl := UInt16.toNat_inj.mp h
    obtain rfl := hf
    rfl
  rw [hf, Function.update_self, hb]
  refine congrArg some ?_
  dsimp only
  have hcount : headers.fsm.entryCount.toNat ≤ 8144 := hv.count
  have hbefore : FsmValid (FsmPage.mk ⟨fileId, location.fsmPageNo⟩).id.pageNo bytes headers := hv
  have hafter : FsmValid (FsmPage.mk ⟨fileId, location.fsmPageNo⟩).id.pageNo _ headers :=
    hv.setCategory category he
  rcases Nat.lt_or_ge location'.entryIndex.toNat headers.fsm.entryCount.toNat with hin | hout
  · rw [category_eq hafter hin, category_eq hbefore hin,
      byteAt_setCategory (by change _ < 8144; omega), if_neg (by omega)]
  · rw [category_outOfRange hafter hout, category_outOfRange hbefore hout]

lemma fsmLocation_initializes (hzero : p ≠ 0) (hinvalid : p ≠ invalidPageNo) :
    ∃ location, fsmLocationForHeapPage p = .ok location ∧
      location.fsmPageNo.toNat = 1 + (p.toNat - 1) / 8144 ∧
      location.entryIndex.toNat < 8144 ∧
      location.entryIndex.toNat ≤ p.toNat ∧
      p.toNat - location.entryIndex.toNat + (location.entryIndex.toNat + 1) ≤ invalidPageNo.toNat ∧
      ∀ (page : FsmPage) (initialization : FsmPageInitialization) (bytes : PageBytes),
        page.id.pageNo = location.fsmPageNo →
        location.entryIndex.toNat < initialization.entryCount.toNat →
        initialization.entryCount.toNat ≤ fsmPageEntryCapacity →
        p.toNat - location.entryIndex.toNat + initialization.entryCount.toNat ≤
          invalidPageNo.toNat →
        ∃ bytes' headers, Edit.run (page.initializePage initialization) bytes = (.ok (), bytes') ∧
          page.validate bytes' = .ok headers ∧
          headers.fsm.firstHeapPageNo.toNat = p.toNat - location.entryIndex.toNat ∧
          headers.fsm.entryCount = initialization.entryCount := by
  have hlt := toNat_ne_invalid hinvalid
  have hpos : p.toNat ≠ 0 := fun hz => hzero (UInt64.toNat_inj.mp hz)
  obtain ⟨location, hf, he⟩ : ∃ location : FsmEntryLocation,
      location.fsmPageNo.toNat = 1 + (p.toNat - 1) / 8144 ∧
        location.entryIndex.toNat = (p.toNat - 1) % 8144 :=
    ⟨⟨UInt64.ofNat _, UInt16.ofNat _⟩, UInt64.toNat_ofNat_of_lt' (by rw [UInt64.size]; omega),
      UInt16.toNat_ofNat_of_lt' (by rw [UInt16.size]; omega)⟩
  have hlocation := fsmLocationForHeapPage_eq_ok.mpr ⟨hzero, hinvalid, hf, he⟩
  refine ⟨location, hlocation, hf, ?_⟩
  rw [he, invalidPageNo_toNat]
  refine ⟨by omega, by omega, by omega, ?_⟩
  rintro page initialization bytes hpage hn hcount hrange
  have hpno : page.id.pageNo.toNat = 1 + (p.toNat - 1) / 8144 := by rw [hpage, hf]
  have hfirst : (UInt64.ofNat (p.toNat - (p.toNat - 1) % 8144)).toNat =
      p.toNat - (p.toNat - 1) % 8144 :=
    UInt64.toNat_ofNat_of_lt' (by rw [UInt64.size]; omega)
  have ho : page.id.pageNo ≠ 0 ∧ page.id.pageNo ≠ invalidPageNo := by
    constructor
    · rintro h
      rw [h, UInt64.toNat_zero] at hpno
      omega
    · rintro h
      rw [h, invalidPageNo_toNat] at hpno
      omega
  have hsome : firstHeapPageForFsmPage page.id.pageNo =
      some (UInt64.ofNat (p.toNat - (p.toNat - 1) % 8144)) := by
    refine firstHeapPageForFsmPage_eq_some.mpr ⟨ho.1, ?_, ?_⟩
    · rw [hfirst, hpno]
      omega
    · rw [hpno]
      omega
  have hfits : InitializedRangeFits ⟨UInt64.ofNat (p.toNat - (p.toNat - 1) % 8144),
      initialization.entryCount, 0, 0⟩ := by
    refine initializedRangeFits_iff.mpr (.inr ?_)
    dsimp only
    rw [hfirst]
    exact hrange
  exact ⟨_, _, fsmInitializePage_run ho hsome hcount hfits,
    fsmValidate_eq_ok.mpr (fsmInitialized_valid ho hsome hcount hfits), hfirst, rfl⟩

theorem fsmMapping_bijective (fileId : FileId) :
    (∀ p : PageNo, p ≠ 0 → p ≠ invalidPageNo →
      ∃ location, fsmLocationForHeapPage p = .ok location ∧
        location.fsmPageNo.toNat = 1 + (p.toNat - 1) / 8144 ∧
        location.entryIndex.toNat < 8144 ∧
        location.entryIndex.toNat ≤ p.toNat ∧
        p.toNat - location.entryIndex.toNat + (location.entryIndex.toNat + 1) ≤
          invalidPageNo.toNat ∧
        ∀ (page : FsmPage) (initialization : FsmPageInitialization) (bytes : PageBytes),
          page.id.pageNo = location.fsmPageNo →
          location.entryIndex.toNat < initialization.entryCount.toNat →
          initialization.entryCount.toNat ≤ fsmPageEntryCapacity →
          p.toNat - location.entryIndex.toNat + initialization.entryCount.toNat ≤
            invalidPageNo.toNat →
          ∃ bytes' headers, Edit.run (page.initializePage initialization) bytes = (.ok (), bytes') ∧
            page.validate bytes' = .ok headers ∧
            headers.fsm.firstHeapPageNo.toNat = p.toNat - location.entryIndex.toNat ∧
            headers.fsm.entryCount = initialization.entryCount) ∧
    (∀ p q location, fsmLocationForHeapPage p = .ok location →
      fsmLocationForHeapPage q = .ok location → p = q) ∧
    (∀ (page : FsmPage) (bytes : PageBytes) (headers : FsmPageHeaders) (entryIndex : ℕ),
      page.validate bytes = .ok headers → entryIndex < headers.fsm.entryCount.toNat →
      ∀ p : PageNo, fsmLocationForHeapPage p = .ok ⟨page.id.pageNo, UInt16.ofNat entryIndex⟩ ↔
        p.toNat = headers.fsm.firstHeapPageNo.toNat + entryIndex) ∧
    (∀ (page : FsmPage) (bytes : PageBytes) (headers : FsmPageHeaders) (entryIndex : ℕ)
      (category : UInt8), page.validate bytes = .ok headers →
      headers.fsm.entryCount.toNat ≤ entryIndex →
      page.category bytes entryIndex = .error (.error ⟨.entryOutOfRange, .none⟩) ∧
      Edit.run (page.setCategory entryIndex category) bytes =
        (.error (.error ⟨.entryOutOfRange, .none⟩), bytes)) ∧
    ∀ (pages : FsmPages) (p : PageNo) (location : FsmEntryLocation) (bytes : PageBytes)
      (headers : FsmPageHeaders) (category : UInt8), AllFsmValid fileId pages →
      fsmLocationForHeapPage p = .ok location → pages location.fsmPageNo = some bytes →
      FsmPage.validate ⟨⟨fileId, location.fsmPageNo⟩⟩ bytes = .ok headers →
      location.entryIndex.toNat < headers.fsm.entryCount.toNat →
      ∃ bytes', Edit.run (FsmPage.setCategory ⟨⟨fileId, location.fsmPageNo⟩⟩
          location.entryIndex.toNat category) bytes = (.ok (), bytes') ∧
        AllFsmValid fileId (Function.update pages location.fsmPageNo (some bytes')) ∧
        reportedCategory fileId (Function.update pages location.fsmPageNo (some bytes')) p =
          some (.ok category) ∧
        ∀ q, q ≠ p → reportedCategory fileId
          (Function.update pages location.fsmPageNo (some bytes')) q =
            reportedCategory fileId pages q := by
  refine ⟨fun p => fsmLocation_initializes, fun p q location hp hq => ?_, ?_, ?_, ?_⟩
  · by_contra hne
    exact fsmLocation_injective hp hq hne rfl
  · intro page bytes headers entryIndex hvalid hlt p
    have hv := fsmValidate_eq_ok.mp hvalid
    have hcount : headers.fsm.entryCount.toNat ≤ 8144 := hv.count
    constructor
    · intro h
      rw [hv.of_location h, UInt16.toNat_ofNat_of_lt' (by rw [UInt16.size]; omega)]
    · exact hv.location hlt
  · intro page bytes headers entryIndex category hvalid hle
    have hv := fsmValidate_eq_ok.mp hvalid
    exact ⟨category_outOfRange hv hle, setCategory_outOfRange hv hle⟩
  · intro pages p location bytes headers category hall hp hb hvalid hlt
    have hv := fsmValidate_eq_ok.mp hvalid
    have hafter : FsmValid (FsmPage.mk ⟨fileId, location.fsmPageNo⟩).id.pageNo _ headers :=
      hv.setCategory category hlt
    have hcount : headers.fsm.entryCount.toNat ≤ 8144 := hv.count
    refine ⟨_, setCategory_run hv hlt, hall.update hafter, ?_,
      fun q hne => reportedCategory_other hp hb hv hlt hne⟩
    unfold reportedCategory
    rw [hp]
    dsimp only
    rw [Function.update_self, Option.map_some, category_eq hafter hlt,
      byteAt_setCategory (by change _ < 8144; omega), if_pos rfl]

end Updates

end DBlusBlus
