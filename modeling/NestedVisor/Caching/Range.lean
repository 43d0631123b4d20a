import NestedVisor.Caching.MemoryType
import NestedVisor.Processor.Basic

/-!
The memory-type range registers of a processor.

The capability register says how many variable ranges there are, the default type register
whether typing is on, and each variable range is a pair of a base and a mask register.
-/

namespace NestedVisor.Caching

/-- IA32_MTRRCAP. -/
structure RangeCapability where
  word : Word
  deriving DecidableEq, Repr

namespace RangeCapability

def variableCount (c : RangeCapability) : BitVec 8 := c.word.extractLsb' 0 8
def hasFixedRanges (c : RangeCapability) : Bool := c.word.getLsbD 8

end RangeCapability

/-- IA32_MTRR_DEF_TYPE. -/
structure RangeDefault where
  word : Word
  deriving DecidableEq, Repr

namespace RangeDefault

def typeCode (d : RangeDefault) : BitVec 8 := d.word.extractLsb' 0 8
def fixedEnabled (d : RangeDefault) : Bool := d.word.getLsbD 10
def enabled (d : RangeDefault) : Bool := d.word.getLsbD 11

end RangeDefault

/-- A variable range: the words of its base and mask register. -/
structure VariableRange where
  base : Word
  mask : Word
  deriving DecidableEq, Repr

namespace VariableRange

def typeCode (r : VariableRange) : BitVec 8 := r.base.extractLsb' 0 8
def valid (r : VariableRange) : Bool := r.mask.getLsbD 11

end VariableRange

/-- The count field of the capability register admits no more ranges. -/
def maxVariableRanges : Nat := 255

end NestedVisor.Caching

namespace NestedVisor.Processor

open Caching

def rangeCapability (p : Processor) : RangeCapability := ⟨p.msr .mtrrCapability⟩

def rangeDefault (p : Processor) : RangeDefault := ⟨p.msr .mtrrDefaultType⟩

/-- The pairs follow each other in the register numbers. -/
def variableRange (p : Processor) (i : Nat) : VariableRange where
  base := p.msr (.mtrrPhysBase0 + BitVec.ofNat 32 (2 * i))
  mask := p.msr (.mtrrPhysMask0 + BitVec.ofNat 32 (2 * i))

/-- The variable ranges in force, in index order. -/
def variableRanges (p : Processor) : List VariableRange :=
  (List.range p.rangeCapability.variableCount.toNat).map p.variableRange

/-- CPUID leaf 1 reports the range registers in EDX bit 12. -/
def hasRangeRegisters (p : Processor) : Bool :=
  (p.cpuid 1 0).edx.getLsbD 12

end NestedVisor.Processor
