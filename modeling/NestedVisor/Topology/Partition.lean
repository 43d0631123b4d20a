import NestedVisor.Caching.Resolution
import NestedVisor.Caching.Snapshot
import NestedVisor.Topology.Affinity

/-!
A partition of logical processors, and memory typing across them.

Whatever is read from a processor is read from the one the caller is on.
-/

namespace NestedVisor.Topology

open Caching

/-- The processors by number. -/
abbrev Processors := ProcessorId → Processor

/-! ## Uniform range registers -/

/-- The snapshot of the first processor, and whether all later ones agree with it. -/
structure Comparison where
  reference : Option Snapshot := none
  uniform : Bool := true
  deriving DecidableEq, Repr

/-- Compares the current processor with the first one. -/
def compareRanges (cpus : Processors) (p : ProcessorId) : Work Comparison Unit := fun a c =>
  let snapshot := Snapshot.capture (cpus a.current)
  match c.reference with
  | none => (.ok (), a, { c with reference := some snapshot })
  | some first =>
      if first = snapshot then (.ok (), a, c)
      else
        (.ok (),
          a.log [⟨.warn, s!"MTRRs of logical processor {p.toNat} differ from processor 0"⟩],
          { c with uniform := false })

/-- Whether the range registers of all processors agree. -/
def rangesUniform (cpus : Processors) (a : Affinity) : Except Fault Bool × Affinity :=
  let (result, a, c) := onEach (compareRanges cpus) a {}
  (result.map fun _ => c.uniform, a)

/-! ## Resolution on a chosen processor -/

/-- Resolves a memory type with the range registers of the current processor. -/
def resolveHere (cpus : Processors) (base : Word) (size : Granularity) :
    Work WidthCache MemoryType := fun a cache =>
  let (type, cache, records) := resolveCached (cpus a.current) cache base size
  (.ok type, a.log records, cache)

def resolveOn (cpus : Processors) (processor : ProcessorId) (base : Word)
    (size : Granularity) : Work WidthCache MemoryType :=
  onProcessor processor (resolveHere cpus base size)

end NestedVisor.Topology
