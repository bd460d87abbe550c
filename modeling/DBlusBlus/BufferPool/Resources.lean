import DBlusBlus.Library.Accounting
import DBlusBlus.BufferPool.Acts
import Mathlib.Data.Fintype.Option
import Mathlib.Data.Fintype.Sum
import Mathlib.Data.Fintype.Prod

/-! What threads and guards hold of the pool, and how much of it the pool has given out. -/

namespace DBlusBlus.BufferPool

inductive FrameRole
  | unbound
  | victim (page : PageId)
  | eviction (page : PageId)
  | writeback (page : PageId) (bindingEpoch : ℕ)
  | pin
  | shared
  | exclusive
deriving DecidableEq

inductive EntryRole (N : ℕ)
  | intent (load : LoadId)
  | loading (frame : Fin N) (load : Option LoadId)
deriving DecidableEq

inductive LoadRole
  | loader | claim
deriving DecidableEq

inductive Resource (N : ℕ)
  | frame (frame : Fin N) (role : FrameRole)
  | entry (page : PageId) (role : EntryRole N)
  | turn (file : FileId)
  | load (load : LoadId) (role : LoadRole)
deriving DecidableEq

variable {N : ℕ} {T V : Type}

def Requester.resources : Requester → List (Resource N)
  | .fetch page _ load => [.entry page (.intent load), .load load .loader, .load load .claim]
  | .newPage file _ => [.turn file]

def Writer.resources : Writer N → List (Resource N)
  | .evict requester f victim => .frame f (.eviction victim) :: requester.resources
  | .flush f page bindingEpoch _ _ => [.frame f (.writeback page bindingEpoch)]

/-- A finished load has turned the claims of its joiners into pins, or dropped them. -/
def LoadOperation.joiner (operation : LoadOperation N) (load : LoadId) : List (Resource N) :=
  if operation.done then
    match operation.frameId with
    | some f => [.frame f .pin]
    | none => []
  else [.load load .claim]

def Pc.resources (loads : LoadId → LoadOperation N) : Pc N V → List (Resource N)
  | .joinLoad _ _ load => (loads load).joiner load
  | .acquireFrame requester _ | .candidateObserved requester _ _ | .requestFailed requester _ =>
    requester.resources
  | .victimReserved requester f victim => .frame f (.victim victim) :: requester.resources
  | .frameAcquired requester f => .frame f .unbound :: requester.resources
  | .readPage page _ load f _ | .finishLoad page _ load f _ _ =>
    [.entry page (.loading f (some load)), .load load .loader, .load load .claim]
  | .newPageCount file _ f _ | .newPageExtend file _ f | .newPageReserved file _ f _ =>
    [.frame f .unbound, .turn file]
  | .newPageBuild page _ f _ | .newPageFinish page f _ _ =>
    [.entry page (.loading f none), .turn page.fileId]
  | .makeGuard _ f _ | .unpin f _ => [.frame f .pin]
  | .latchForCopy f page bindingEpoch _ => [.frame f (.writeback page bindingEpoch)]
  | .copyImage f page bindingEpoch _ =>
    [.frame f (.writeback page bindingEpoch), .frame f .shared]
  | .writePage writer _ | .syncFile writer _ | .finishWrite writer _ => writer.resources
  | _ => []

def LatchMode.role : LatchMode → FrameRole
  | .shared => .shared
  | .exclusive => .exclusive

def guardResources : Option (PageGuard N) → List (Resource N)
  | none => []
  | some g => [.frame g.frameId .pin, .frame g.frameId g.mode.role]

def BufferFrame.demand (listed : Bool) (frame : BufferFrame) : FrameRole → ℕ
  | .unbound => Accounting.unit (frame.state = .free ∧ listed = false)
  | .victim page =>
    Accounting.unit (frame.state = .evicting ∧ frame.ioState = .none ∧ frame.page.id = page)
  | .eviction page =>
    Accounting.unit (frame.state = .evicting ∧ frame.ioState ≠ .none ∧ frame.page.id = page)
  | .writeback page bindingEpoch =>
    Accounting.unit (frame.state = .resident ∧ frame.ioState ≠ .none ∧ frame.page.id = page ∧
      frame.bindingEpoch = bindingEpoch)
  | .pin => frame.pinCount
  | .shared => frame.latch.shared
  | .exclusive => Accounting.unit (frame.latch.exclusive = true)

def entryDemand [NeZero N] (entry : Option (PageTableEntry N)) : EntryRole N → ℕ
  | .intent load => Accounting.unit (entry = some ⟨.loadIntent, 0, some load⟩)
  | .loading f load => Accounting.unit (entry = some ⟨.loading, f, load⟩)

def turnDemand : Option FileEntry → ℕ
  | none => 0
  | some entry => Accounting.unit (entry.newPageInProgress = true)

def LoadOperation.demand (started : Bool) (operation : LoadOperation N) : LoadRole → ℕ
  | .loader => Accounting.unit (started = true ∧ operation.done = false)
  | .claim => if operation.done then 0 else operation.claims

/-- How many holders of each resource the pool counts on. -/
def Pool.demand [NeZero N] (pool : Pool N) : Resource N → ℕ
  | .frame f role => (pool.frames f).demand (decide (f ∈ pool.freeList)) role
  | .entry page role => entryDemand (pool.pageTable.lookup page) role
  | .turn file => turnDemand (pool.files.lookup file)
  | .load load role => (pool.loads load).demand (decide (load < pool.nextLoad)) role

/-- Whoever works on an entry also holds its load, or the turn to create pages in its file. -/
def EntryRole.licence (page : PageId) : EntryRole N → Resource N
  | .intent load | .loading _ (some load) => .load load .loader
  | .loading _ none => .turn page.fileId

section Licences

variable {pc : Pc N V} {loads : LoadId → LoadOperation N} {page : PageId} {role : EntryRole N}

lemma Requester.licence_mem {requester : Requester}
    (h : Resource.entry page role ∈ requester.resources) :
    role.licence page ∈ (requester.resources : List (Resource N)) := by
  cases requester with
  | fetch => simp_all [Requester.resources, EntryRole.licence]
  | newPage => simp [Requester.resources] at h

lemma Requester.licence_mem_cons {requester : Requester} {f : Fin N} {own : FrameRole}
    (h : Resource.entry page role ∈ .frame f own :: requester.resources) :
    role.licence page ∈ Resource.frame f own :: requester.resources := by
  simp only [List.mem_cons, reduceCtorEq, false_or] at h
  exact List.mem_cons_of_mem _ (licence_mem h)

lemma Writer.licence_mem {writer : Writer N} (h : Resource.entry page role ∈ writer.resources) :
    role.licence page ∈ writer.resources := by
  cases writer with
  | evict requester f victim => exact Requester.licence_mem_cons h
  | flush => simp [Writer.resources] at h

lemma LoadOperation.entry_notMem_joiner (operation : LoadOperation N) (load : LoadId) :
    Resource.entry page role ∉ operation.joiner load := by
  rw [joiner]
  split
  · split <;> simp
  · simp

lemma Pc.licence_mem (h : Resource.entry page role ∈ pc.resources loads) :
    role.licence page ∈ pc.resources loads := by
  cases pc
  case joinLoad => exact absurd h (LoadOperation.entry_notMem_joiner _ _)
  case acquireFrame => exact Requester.licence_mem h
  case candidateObserved => exact Requester.licence_mem h
  case requestFailed => exact Requester.licence_mem h
  case victimReserved => exact Requester.licence_mem_cons h
  case frameAcquired => exact Requester.licence_mem_cons h
  case writePage => exact Writer.licence_mem h
  case syncFile => exact Writer.licence_mem h
  case finishWrite => exact Writer.licence_mem h
  all_goals simp_all [Pc.resources, EntryRole.licence]

lemma guardResources_entry (g : Option (PageGuard N)) :
    Resource.entry page role ∉ guardResources g := by
  cases g <;> simp [guardResources]

end Licences

section Holdings

variable [NeZero N] (w : World N T V)

/-- A thread holds through its program counter, and through each of its guard variables. -/
abbrev Holder (T V : Type) := T ⊕ T × GuardVar V

def World.holding (w : World N T V) : Holder T V → List (Resource N)
  | .inl t => (w.pc t).resources w.pool.loads
  | .inr (t, v) => guardResources (w.guards t v)

def World.Accounted [Fintype T] [Fintype V] (w : World N T V) : Prop :=
  Accounting.Balanced w.holding w.pool.demand

end Holdings

end DBlusBlus.BufferPool
