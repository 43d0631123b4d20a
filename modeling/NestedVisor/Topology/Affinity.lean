import NestedVisor.Fault
import NestedVisor.Journal.Record

/-!
Work on a chosen logical processor.

The caller is pinned to a processor for the time of a piece of work and moved back afterwards,
whether the work succeeds or fails.  The moves are kept in the order in which they happen.
-/

namespace NestedVisor.Topology

abbrev ProcessorId := BitVec 32

inductive Move where
  | pin (processor : ProcessorId)
  | restore (processor : ProcessorId)
  /-- Work for `asked` starts while the caller is on `current`. -/
  | visit (asked current : ProcessorId)
  deriving DecidableEq, Repr

structure Affinity where
  count : BitVec 32
  current : ProcessorId
  /-- The moves so far, the oldest first. -/
  moves : Array Move := #[]
  journal : Journal := []
  deriving DecidableEq, Repr

/-- Work that may move the caller and has a state of its own; the state outlives a failure. -/
abbrev Work (σ α : Type) := Affinity → σ → Except Fault α × Affinity × σ

namespace Affinity

/-- Moves the caller to a processor that exists and returns the one it was on. -/
@[inline] def pin (a : Affinity) (processor : ProcessorId) : Except Fault (ProcessorId × Affinity) :=
  if processor < a.count then
    .ok (a.current, { a with current := processor, moves := a.moves.push (.pin processor) })
  else
    .error (.invalidProcessor processor)

def restore (a : Affinity) (saved : ProcessorId) : Affinity :=
  { a with current := saved, moves := a.moves.push (.restore saved) }

def log (a : Affinity) (records : List Record) : Affinity :=
  { a with journal := a.journal ++ records }

/-- The processors that exist, in order. -/
def processors (a : Affinity) : List ProcessorId :=
  (List.range a.count.toNat).map (BitVec.ofNat 32)

@[simp] theorem current_restore (a : Affinity) (saved : ProcessorId) :
    (a.restore saved).current = saved := rfl

end Affinity

variable {σ α : Type}

/-- Runs `body` on one processor. -/
def onProcessor (processor : ProcessorId) (body : Work σ α) : Work σ α := fun a s =>
  match a.pin processor with
  | .error fault => (.error fault, a, s)
  | .ok (saved, pinned) =>
      let (result, a, s) :=
        body (pinned.log [⟨.trace, s!"Running on logical processor {processor.toNat}"⟩]) s
      (result, a.restore saved, s)

/-- Runs `body` on processors in order up to the first failure. -/
def onAll (body : ProcessorId → Work σ Unit) : List ProcessorId → Work σ Unit
  | [] => fun a s => (.ok (), a, s)
  | p :: rest => fun a s =>
      match onProcessor p (body p) a s with
      | (.error fault, a, s) => (.error fault, a, s)
      | (.ok (), a, s) => onAll body rest a s

/-- Runs `body` on `n` processors from number `first` on, up to the first failure. -/
def onSpan (body : ProcessorId → Work σ Unit) : Nat → Nat → Work σ Unit
  | 0, _ => fun a s => (.ok (), a, s)
  | n + 1, first => fun a s =>
      match onProcessor (BitVec.ofNat 32 first) (body (BitVec.ofNat 32 first)) a s with
      | (.error fault, a, s) => (.error fault, a, s)
      | (.ok (), a, s) => onSpan body n (first + 1) a s

/-- Runs `body` on every processor that exists; after a failure no further one is looked at. -/
def onEach (body : ProcessorId → Work σ Unit) : Work σ Unit := fun a s =>
  onSpan body a.count.toNat 0 a s

theorem onSpan_eq_onAll (body : ProcessorId → Work σ Unit) (n first : Nat) :
    onSpan body n first = onAll body ((List.range' first n).map (BitVec.ofNat 32)) := by
  induction n generalizing first with
  | zero => rfl
  | succ n ih =>
      funext a s
      simp only [onSpan, List.range'_succ, List.map_cons, onAll, ih]

theorem onEach_eq_onAll (body : ProcessorId → Work σ Unit) (a : Affinity) (s : σ) :
    onEach body a s = onAll body a.processors a s := by
  simp only [onEach, onSpan_eq_onAll, Affinity.processors, List.range_eq_range']

end NestedVisor.Topology
