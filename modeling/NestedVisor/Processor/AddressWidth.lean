import NestedVisor.Journal.Record
import NestedVisor.Processor.Basic

/-!
The physical address width.

It is read from the identification leaves once; whoever needs it later gets the width of the
first reading.
-/

namespace NestedVisor

/-- The width of a processor that does not report one. -/
def defaultAddressWidth : Nat := 36

namespace Processor

def extendedMaxLeaf : BitVec 32 := 0x80000000
def addressSizeLeaf : BitVec 32 := 0x80000008

/-- The reported width, at most 52 bits. -/
def addressWidth (p : Processor) : Nat :=
  if (p.cpuid extendedMaxLeaf 0).eax < addressSizeLeaf then defaultAddressWidth
  else
    let reported := ((p.cpuid addressSizeLeaf 0).eax.extractLsb' 0 8).toNat
    if reported = 0 then defaultAddressWidth else min reported 52

theorem addressWidth_le (p : Processor) : p.addressWidth ≤ 52 := by
  unfold addressWidth defaultAddressWidth
  dsimp only
  repeat' split
  all_goals omega

theorem addressWidth_pos (p : Processor) : 0 < p.addressWidth := by
  unfold addressWidth defaultAddressWidth
  dsimp only
  repeat' split
  all_goals omega

end Processor

/-- The width once it is known. -/
abbrev WidthCache := Option Nat

namespace WidthCache

def record (width : Nat) : Record :=
  ⟨.debug, s!"Physical address width: {width} bits"⟩

/-- The width in force, the cache after the reading, and what the reading reports. -/
def fetch (cache : WidthCache) (p : Processor) : Nat × WidthCache × List Record :=
  match cache with
  | some width => (width, some width, [])
  | none => (p.addressWidth, some p.addressWidth, [record p.addressWidth])

@[simp] theorem fetch_some (width : Nat) (p : Processor) :
    fetch (some width) p = (width, some width, []) := rfl

end WidthCache

end NestedVisor
