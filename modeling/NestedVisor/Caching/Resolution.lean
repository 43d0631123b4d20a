import NestedVisor.Caching.Granularity
import NestedVisor.Caching.Range
import NestedVisor.Processor.AddressWidth

/-!
Resolution: the memory type that the range registers give to one page.

The variable ranges are scanned in index order.  A range that covers only part of the page
leaves it without a type, an uncacheable range settles it, and of the others the last one counts
except that write-back never replaces write-through.  A `Verdict` keeps why a type came out.
-/

namespace NestedVisor.Caching

inductive Verdict where
  /-- The processor has no range registers. -/
  | unsupported
  /-- Typing is switched off. -/
  | disabled
  /-- The fixed ranges of the first megabyte rule at `base`. -/
  | fixedRange (base : Word)
  /-- A range with this index and mask covers part of the page at `base`. -/
  | partialRange (index : Nat) (base mask : Word)
  /-- The ranges that cover the page, or else the default, agree on a type. -/
  | settled (type : MemoryType)
  deriving DecidableEq, Repr

namespace Verdict

def type : Verdict → MemoryType
  | .unsupported => .uncacheable
  | .disabled => .uncacheable
  | .fixedRange _ => .unspecified
  | .partialRange .. => .unspecified
  | .settled type => type

def records : Verdict → List Record
  | .fixedRange base =>
      [⟨.trace, s!"{hexText base.toNat} is covered by the fixed-range MTRRs"⟩]
  | .partialRange index base mask =>
      [⟨.debug, s!"MTRR {index} partially covers {hexText base.toNat} " ++
        s!"(mask {hexText mask.toNat})"⟩]
  | _ => []

end Verdict

/-- The address bits that range registers compare: bit 12 up to the address width. -/
def comparedBits (width : Nat) : Word :=
  ((1 <<< width) - 1) &&& ~~~0xFFF

/-- How one range relates to one page. -/
inductive Overlap where
  | apart
  | partly (mask : Word)
  | covers (type : MemoryType)
  deriving DecidableEq, Repr

/--
Compares a range with the page of `size` at `base`.  Only the mask bits above the page decide
whether the two meet; a mask bit inside the page means that only part of it is covered.
-/
def VariableRange.overlap (r : VariableRange) (compared base : Word) (size : Granularity) :
    Overlap :=
  if ¬ r.valid then .apart
  else
    let mask := r.mask &&& compared
    let above := mask &&& ~~~size.offsetMask
    if base &&& above ≠ r.base &&& compared &&& above then .apart
    else if mask &&& size.offsetMask ≠ 0 then .partly mask
    else .covers (.ofCode (r.typeCode.setWidth 64))

/-- The candidate after one more covering range. -/
def prefer (candidate : Option MemoryType) (type : MemoryType) : Option MemoryType :=
  match type, candidate with
  | .unspecified, _ => candidate
  | .writeBack, some .writeThrough => candidate
  | .writeBack, some .writeBack => candidate
  | _, _ => some type

/-- Scans the ranges from `index` on; `fallback` is the type when none covers the page. -/
def scan (compared base : Word) (size : Granularity) (fallback : MemoryType) :
    Nat → Option MemoryType → List VariableRange → Verdict
  | _, candidate, [] => .settled (candidate.getD fallback)
  | index, candidate, r :: rest =>
      match r.overlap compared base size with
      | .apart => scan compared base size fallback (index + 1) candidate rest
      | .partly mask => .partialRange index base mask
      | .covers .uncacheable => .settled .uncacheable
      | .covers type => scan compared base size fallback (index + 1) (prefer candidate type) rest

/-- The fixed ranges cover the first megabyte. -/
def fixedRangeLimit : Word := 0x100000

/-- The verdicts that need no variable range and no address width. -/
def early? (p : Processor) (base : Word) : Option Verdict :=
  if ¬ p.hasRangeRegisters then some .unsupported
  else if ¬ p.rangeDefault.enabled then some .disabled
  else if p.rangeCapability.hasFixedRanges ∧ p.rangeDefault.fixedEnabled ∧
      base < fixedRangeLimit then
    some (.fixedRange base)
  else none

/-- The verdict under a known address width. -/
def verdict (p : Processor) (width : Nat) (base : Word) (size : Granularity) : Verdict :=
  match early? p base with
  | some v => v
  | none =>
      scan (comparedBits width) (size.pageBase base) size
        (.ofCode (p.rangeDefault.typeCode.setWidth 64)) 0 none p.variableRanges

/-- The memory type under a known address width. -/
def resolve (p : Processor) (width : Nat) (base : Word) (size : Granularity) : MemoryType :=
  (verdict p width base size).type

/--
Resolution as it runs: the address width is fetched only when the variable ranges are scanned.
-/
def resolveCached (p : Processor) (cache : WidthCache) (base : Word) (size : Granularity) :
    MemoryType × WidthCache × List Record :=
  match early? p base with
  | some v => (v.type, cache, v.records)
  | none =>
      let (width, cache, reading) := cache.fetch p
      let v := verdict p width base size
      (v.type, cache, reading ++ v.records)

theorem fst_resolveCached (p : Processor) (cache : WidthCache) (base : Word)
    (size : Granularity) :
    (resolveCached p cache base size).1 = resolve p (cache.fetch p).1 base size := by
  unfold resolveCached resolve verdict
  split <;> rfl

end NestedVisor.Caching
