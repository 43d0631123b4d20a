import NestedVisor.Caching.Range

/-!
Snapshots of the range registers, for the comparison of processors.
-/

namespace NestedVisor.Caching

structure Snapshot where
  defaultType : Word
  ranges : List VariableRange
  deriving DecidableEq, Repr

def Snapshot.capture (p : Processor) : Snapshot :=
  ⟨p.msr .mtrrDefaultType, p.variableRanges⟩

end NestedVisor.Caching
