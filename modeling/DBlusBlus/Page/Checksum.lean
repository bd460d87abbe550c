import DBlusBlus.Page.Header
import DBlusBlus.Common.Crc32c

/-! The page checksum: CRC-32C of the page with its own field zeroed, stored at bytes 16..19. -/

namespace DBlusBlus

def checksumOffset : ℕ := 16
def checksumSize : ℕ := 4

def PageBytes.checksumInput (page : PageBytes) : PageBytes :=
  page.overwrite checksumOffset (List.replicate checksumSize 0)

def computePageChecksum (page : PageBytes) : UInt32 :=
  crc32c (List.ofFn page.checksumInput)

def finalizePageChecksum (page : PageBytes) : PageBytes :=
  page.overwrite checksumOffset (littleEndianBytes checksumSize (computePageChecksum page).toBitVec)

def verifyPageChecksum (page : PageBytes) : Bool :=
  decodeU32 (page.subspan checksumOffset checksumSize (by decide)) == some (computePageChecksum page)

/-- Two images agree on every byte that the checksum protects. -/
def SameContent (a b : PageBytes) : Prop :=
  ∀ i : Fin pageSize, (i.val < 16 ∨ 20 ≤ i.val) → a i = b i

namespace SameContent

variable {a b c : PageBytes}

@[refl] lemma refl (a : PageBytes) : SameContent a a := fun _ _ => rfl

@[symm] lemma symm (h : SameContent a b) : SameContent b a := fun i hi => (h i hi).symm

@[trans] lemma trans (hab : SameContent a b) (hbc : SameContent b c) : SameContent a c :=
  fun i hi => (hab i hi).trans (hbc i hi)

instance : Trans SameContent SameContent SameContent := ⟨trans⟩

end SameContent

lemma sameContent_finalize (page : PageBytes) : SameContent (finalizePageChecksum page) page := by
  intro i hi
  apply PageBytes.overwrite_outside
  simpa [checksumOffset, checksumSize] using hi

end DBlusBlus
