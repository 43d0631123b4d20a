import NestedVisor.Caching.Granularity
import NestedVisor.Caching.MemoryType
import NestedVisor.Journal.Record

/-!
What the page tables report about their work.
-/

namespace NestedVisor.Paging

inductive Note where
  | committing (base backing : Word) (size : Granularity) (type : MemoryType)
  | coveredByLarger (base : Word) (level : Nat)
  | holdsSmaller (base : Word)
  | released (frame : Word)
  | notCommitted (base : Word) (size : Granularity)
  | uncommitted (base : Word) (size : Granularity)
  deriving DecidableEq, Repr

def Note.record : Note → Record
  | .committing base backing size type =>
      ⟨.trace, s!"EPT commit {hexText base.toNat} -> {hexText backing.toNat} " ++
        s!"({size.name}, {type.name})"⟩
  | .coveredByLarger base level =>
      ⟨.debug, s!"{hexText base.toNat} is already covered by a level {level} mapping"⟩
  | .holdsSmaller base => ⟨.debug, s!"{hexText base.toNat} already holds smaller mappings"⟩
  | .released frame => ⟨.trace, s!"Released EPT paging structure {hexText frame.toNat}"⟩
  | .notCommitted base size =>
      ⟨.trace, s!"EPT uncommit {hexText base.toNat} ({size.name}): not committed"⟩
  | .uncommitted base size => ⟨.trace, s!"EPT uncommit {hexText base.toNat} ({size.name})"⟩

end NestedVisor.Paging
