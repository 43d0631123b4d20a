import NestedVisor.Caching.Granularity
import NestedVisor.Paging.Entry
import NestedVisor.Paging.Pool

/-!
The radix tree of paging tables.

Tables stand on four levels: 4 at the root, 1 at the bottom.  A slot of a table at level `l` is
empty, maps a page of `2 ^ (12 + 9 * (l - 1))` bytes, or refers to a table at level `l - 1`.
Each table knows the physical page it occupies, so that the words in memory are a view of the
tree.

`translate?` and `leaf?` read the tree, `insert` and `erase` change one slot, and `prune`
releases the tables on a path that no longer map anything.
-/

namespace NestedVisor.Paging

/-- Nine bits of an address choose one of the 512 slots of a table. -/
abbrev SlotIndex := BitVec 9

def SlotIndex.all : List SlotIndex :=
  (List.range 512).map (BitVec.ofNat 9)

theorem SlotIndex.mem_all (i : SlotIndex) : i ∈ SlotIndex.all :=
  List.mem_map.2 ⟨i.toNat, List.mem_range.2 i.isLt, by simp⟩

def slotsPerTable : Nat := SlotIndex.all.length

inductive Slot where
  | empty
  | page (entry : Entry)
  | table (frame : Word) (slots : SlotIndex → Slot)

/-- The level of the tables whose slots map pages of this size. -/
def leafLevel : Granularity → Nat
  | .page4K => 1
  | .page2M => 2
  | .page1G => 3

/-- The address bits below the slot index at `level`. -/
def levelShift (level : Nat) : Nat :=
  12 + 9 * (level - 1)

def slotIndex (address : Word) (level : Nat) : SlotIndex :=
  address.extractLsb' (levelShift level) 9

/-- The part of an address inside a page that a slot at `level` maps. -/
def pageOffset (address : Word) (level : Nat) : Word :=
  address &&& ((1 <<< levelShift level) - 1)

/-- The slots with one of them replaced. -/
def replaceSlot (slots : SlotIndex → Slot) (i : SlotIndex) (s : Slot) : SlotIndex → Slot :=
  fun j => if j = i then s else slots j

@[simp] theorem replaceSlot_self (slots : SlotIndex → Slot) (i : SlotIndex) (s : Slot) :
    replaceSlot slots i s i = s := by
  simp [replaceSlot]

theorem replaceSlot_of_ne (slots : SlotIndex → Slot) {i j : SlotIndex} (s : Slot) (h : j ≠ i) :
    replaceSlot slots i s j = slots j := by
  simp [replaceSlot, h]

/-- Why a page cannot be mapped. -/
inductive Obstacle where
  /-- A larger page in a table at this level covers the address. -/
  | coveredByLarger (level : Nat)
  /-- A table stands where the page would go. -/
  | holdsSmaller
  | exhausted
  deriving DecidableEq, Repr

namespace Slot

def isEmpty : Slot → Bool
  | .empty => true
  | _ => false

/-- Whether no slot of a table is in use. -/
def allEmpty (slots : SlotIndex → Slot) : Bool :=
  SlotIndex.all.all fun i => (slots i).isEmpty

theorem isEmpty_iff (s : Slot) : s.isEmpty ↔ s = .empty := by
  cases s <;> simp [isEmpty]

theorem allEmpty_iff (slots : SlotIndex → Slot) :
    allEmpty slots ↔ ∀ i, slots i = .empty := by
  rw [allEmpty, List.all_eq_true]
  exact ⟨fun h i => (isEmpty_iff _).1 (h i (SlotIndex.mem_all i)),
    fun h i _ => (isEmpty_iff _).2 (h i)⟩

/-! ## Reading -/

/-- Follows `address` from a slot at `level` to the first page. -/
def translate? (address : Word) : Nat → Slot → Option Word
  | _, .empty => none
  | level, .page e => some (e.address + pageOffset address level)
  | level, .table _ slots => translate? address (level - 1) (slots (slotIndex address (level - 1)))

/-- Follows `address` from a slot at `level` to the slot at level `target`, and reads its page. -/
def leaf? (address : Word) (target : Nat) : Nat → Slot → Option Entry
  | _, .empty => none
  | level, .page e => if level = target then some e else none
  | level, .table _ slots =>
      if level = target then none
      else leaf? address target (level - 1) (slots (slotIndex address (level - 1)))

/-! ## Changing one slot

`depth` counts the levels between the slot at hand and the slot that changes. -/

/-- The outcome of `insert`.  Tables that were linked before an obstacle are still there. -/
structure Insertion where
  slot : Slot
  pool : PagePool
  outcome : Except Obstacle Unit

/-- Puts `entry` at level `target` on the path of `address`, linking the missing tables. -/
def insert (address : Word) (target : Nat) (entry : Entry) : Nat → Slot → PagePool → Insertion
  | 0, .table frame slots, pool => ⟨.table frame slots, pool, .error .holdsSmaller⟩
  | 0, _, pool => ⟨.page entry, pool, .ok ()⟩
  | depth + 1, .page e, pool => ⟨.page e, pool, .error (.coveredByLarger (target + depth + 1))⟩
  | depth + 1, .table frame slots, pool =>
      let i := slotIndex address (target + depth)
      let below := insert address target entry depth (slots i) pool
      { below with slot := .table frame (replaceSlot slots i below.slot) }
  | depth + 1, .empty, pool =>
      match pool.allocate with
      | (none, pool) => ⟨.empty, pool, .error .exhausted⟩
      | (some frame, pool) =>
          let i := slotIndex address (target + depth)
          let below := insert address target entry depth .empty pool
          { below with slot := .table frame (replaceSlot (fun _ => .empty) i below.slot) }

/-- Empties the slot at level `target` on the path of `address`. -/
def erase (address : Word) (target : Nat) : Nat → Slot → Slot
  | 0, _ => .empty
  | depth + 1, .table frame slots =>
      let i := slotIndex address (target + depth)
      .table frame (replaceSlot slots i (erase address target depth (slots i)))
  | _ + 1, slot => slot

/-! ## Releasing tables -/

/--
Unlinks the tables on the path of `address` that hold nothing, the deepest first, and lists the
pages they occupied in that order.
-/
def prune (address : Word) : Nat → Slot → Slot × List Word
  | level, .table frame slots =>
      let i := slotIndex address (level - 1)
      let (below, released) := prune address (level - 1) (slots i)
      let slots' := replaceSlot slots i below
      if allEmpty slots' then (.empty, released ++ [frame]) else (.table frame slots', released)
  | _, slot => (slot, [])

/-- The pages of all tables of a tree, each after those below it. -/
def frames : Slot → List Word
  | .table frame slots => SlotIndex.all.flatMap (fun i => frames (slots i)) ++ [frame]
  | _ => []

/-! ## The words in memory -/

/-- The word that stands for a slot in its table. -/
def word : Slot → Word
  | .empty => 0
  | .page e => e.word
  | .table frame _ => (Entry.toTable frame).word

/-- Every table of a tree with its 512 words, by the page it occupies. -/
def image : Slot → List (Word × (SlotIndex → Word))
  | .table frame slots =>
      (frame, fun i => (slots i).word) :: SlotIndex.all.flatMap fun i => image (slots i)
  | _ => []

end Slot

end NestedVisor.Paging
