import NestedVisor.Word.Basic

/-!
Page sizes: the three granularities at which memory is mapped and typed.
-/

namespace NestedVisor

inductive Granularity where
  | page4K
  | page2M
  | page1G
  deriving DecidableEq, Repr

namespace Granularity

/-- The number of address bits inside one page. -/
def bits : Granularity → Nat
  | .page4K => 12
  | .page2M => 21
  | .page1G => 30

def size (g : Granularity) : Word :=
  1 <<< g.bits

/-- The address bits inside one page. -/
def offsetMask (g : Granularity) : Word :=
  g.size - 1

def Aligned (g : Granularity) (address : Word) : Prop :=
  address &&& g.offsetMask = 0

instance (g : Granularity) (address : Word) : Decidable (g.Aligned address) :=
  inferInstanceAs (Decidable (_ = _))

/-- The start of the page that holds `address`. -/
def pageBase (g : Granularity) (address : Word) : Word :=
  address &&& ~~~g.offsetMask

/-- The selector of the memory-type query: 0, 1 or 2. -/
def ofSelector? (selector : Word) : Option Granularity :=
  if selector = 0 then some .page4K
  else if selector = 1 then some .page2M
  else if selector = 2 then some .page1G
  else none

def name : Granularity → String
  | .page4K => "Page4Kb"
  | .page2M => "Page2Mb"
  | .page1G => "Page1Gb"

theorem aligned_pageBase (g : Granularity) (address : Word) : g.Aligned (g.pageBase address) := by
  simp [Aligned, pageBase, BitVec.and_assoc]

end Granularity

end NestedVisor
