import NestedVisor.Fault
import NestedVisor.Paging.Note
import NestedVisor.Paging.Slot

/-!
The extended page tables: the guest-physical address space as a tree of tables in pool pages.

Pages are committed and uncommitted at three sizes.  Tables are taken from the pool on demand
and given back as soon as they map nothing; a refused commit gives back what it had linked.
-/

namespace NestedVisor.Paging

structure Ept where
  /-- The page of the root table. -/
  root : Word
  slots : SlotIndex → Slot
  pool : PagePool

/-- A four-level walk translates 48 address bits. -/
def guestPhysicalLimit : Nat := 1 <<< 48

/-- The outcome of a change, with the notes it leaves. -/
structure Change where
  ept : Ept
  outcome : Except PagingFault Unit
  notes : List Note := []

/-- What a refused commit reports for an obstacle. -/
def Obstacle.fault (base : Word) : Obstacle → PagingFault
  | .exhausted => .outOfResources
  | _ => .mappingConflict base

def Obstacle.notes (base : Word) : Obstacle → List Note
  | .coveredByLarger level => [.coveredByLarger base level]
  | .holdsSmaller => [.holdsSmaller base]
  | .exhausted => []

namespace Ept

/-- An empty address space: one table, which stays until the end. -/
def create (pool : PagePool) : Except PagingFault Ept × PagePool :=
  match pool.allocate with
  | (none, pool) => (.error .outOfResources, pool)
  | (some root, pool) => (.ok ⟨root, fun _ => .empty, pool⟩, pool)

/-- The whole tree, as the slot that refers to the root. -/
def tree (e : Ept) : Slot :=
  .table e.root e.slots

/-! ## Reading -/

def translate? (e : Ept) (address : Word) : Option Word :=
  if address.toNat < guestPhysicalLimit then
    (e.slots (slotIndex address 4)).translate? address 4
  else
    none

/-- The entry that maps `address` with a page of exactly this size. -/
def leaf? (e : Ept) (address : Word) (size : Granularity) : Option Entry :=
  (e.slots (slotIndex address 4)).leaf? address (leafLevel size) 4

/-- The EPT pointer: the root, a walk of four tables, and write-back paging structures. -/
def pointer (e : Ept) : Word :=
  e.root ||| 0x18 ||| MemoryType.writeBack.code.setWidth 64

/-- Every table in memory with its words, the root first. -/
def image (e : Ept) : List (Word × (SlotIndex → Word)) :=
  e.tree.image

/-! ## Committing -/

/-- Releases the tables on the path of `base` that hold nothing; the root stays. -/
def prune (e : Ept) (base : Word) : Ept × List Word :=
  let i := slotIndex base 4
  let (slot, released) := (e.slots i).prune base 4
  ({ e with slots := replaceSlot e.slots i slot, pool := e.pool.freeAll released }, released)

/-- Maps the page at `base` to `backing`, replacing a mapping of the same size. -/
def commit (e : Ept) (base : Word) (size : Granularity) (backing : Word) (type : MemoryType) :
    Change :=
  if ¬ size.Aligned base then ⟨e, .error (.misaligned base), []⟩
  else if ¬ size.Aligned backing then ⟨e, .error (.misaligned backing), []⟩
  else if ¬ base.toNat < guestPhysicalLimit then ⟨e, .error (.outOfRange base), []⟩
  else if type = .unspecified then ⟨e, .error (.invalidMemoryType type.code), []⟩
  else
    let level := leafLevel size
    let i := slotIndex base 4
    let insertion := (e.slots i).insert base level (.toPage backing type (level > 1)) (4 - level)
      e.pool
    let linked :=
      { e with slots := replaceSlot e.slots i insertion.slot, pool := insertion.pool }
    match insertion.outcome with
    | .ok () => ⟨linked, .ok (), [.committing base backing size type]⟩
    | .error obstacle =>
        let (restored, released) := linked.prune base
        ⟨restored, .error (Obstacle.fault base obstacle),
          .committing base backing size type :: Obstacle.notes base obstacle ++
            released.map .released⟩

/-- Removes a mapping of exactly this size; without one, succeeds and changes nothing. -/
def uncommit (e : Ept) (base : Word) (size : Granularity) : Change :=
  if ¬ size.Aligned base then ⟨e, .error (.misaligned base), []⟩
  else if ¬ base.toNat < guestPhysicalLimit then ⟨e, .error (.outOfRange base), []⟩
  else
    match e.leaf? base size with
    | none => ⟨e, .ok (), [.notCommitted base size]⟩
    | some _ =>
        let level := leafLevel size
        let i := slotIndex base 4
        let erased :=
          { e with slots := replaceSlot e.slots i ((e.slots i).erase base level (4 - level)) }
        let (pruned, released) := erased.prune base
        ⟨pruned, .ok (), released.map .released ++ [.uncommitted base size]⟩

/-- Gives back every table, each after those below it. -/
def dispose (e : Ept) : PagePool :=
  e.pool.freeAll e.tree.frames

end Ept

end NestedVisor.Paging
