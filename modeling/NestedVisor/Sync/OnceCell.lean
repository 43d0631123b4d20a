import NestedVisor.Sync.Backoff
import NestedVisor.Sync.Schedule

/-!
A cell that is initialized once.

The first caller runs its initializer; callers that come while it runs wait until the value is
published.  `Caller` is one call: get-or-initialize, get, or the question whether the cell is
initialized.  Its steps are the atomic operations: the compare-and-swap of the flag, the run of
the initializer, the write of the slot, the store of the flag, each load of the flag and the read
of the slot.
-/

namespace NestedVisor.Sync

inductive CellFlag where
  | uninitialized
  | running
  | complete
  deriving DecidableEq, Repr

structure OnceCell (α : Type) where
  flag : CellFlag := .uninitialized
  slot : Option α := none
  deriving DecidableEq, Repr

namespace OnceCell

variable {α : Type}

/-- The published value. -/
def get? (c : OnceCell α) : Option α :=
  if c.flag = .complete then c.slot else none

def isInitialized (c : OnceCell α) : Bool :=
  c.flag = .complete

/-- Where a caller stands. -/
inductive Stage (α : Type) where
  /-- Get or initialize: about to attempt the compare-and-swap. -/
  | claiming (initial : α)
  /-- Won: about to run the initializer, which yields `initial`. -/
  | initializing (initial : α)
  /-- About to write the initializer's value. -/
  | writing (value : α)
  /-- About to store the flag. -/
  | publishing
  /-- Lost: waiting for the flag. -/
  | waiting (delay : Backoff)
  /-- Get: about to load the flag. -/
  | checking
  /-- About to read the slot. -/
  | reading
  /-- Finished with what the slot held, or with nothing. -/
  | returned (value : Option α)
  /-- About to load the flag, to say whether the cell is initialized. -/
  | asking
  /-- Finished with that answer. -/
  | answered (initialized : Bool)
  deriving DecidableEq, Repr

structure Caller (α : Type) where
  stage : Stage α
  /-- How often this caller ran its initializer. -/
  runs : Nat := 0
  deriving DecidableEq, Repr

namespace Caller

/-- A call of get-or-initialize, whose initializer yields `initial`. -/
def getOrInit (initial : α) : Caller α := ⟨.claiming initial, 0⟩

def get : Caller α := ⟨.checking, 0⟩

def isInitialized : Caller α := ⟨.asking, 0⟩

def step (k : Caller α) (c : OnceCell α) : Caller α × OnceCell α :=
  match k.stage with
  | .claiming initial =>
      match c.flag with
      | .uninitialized => ({ k with stage := .initializing initial }, { c with flag := .running })
      | .complete => ({ k with stage := .reading }, c)
      | .running => ({ k with stage := .waiting {} }, c)
  | .initializing initial => ({ stage := .writing initial, runs := k.runs + 1 }, c)
  | .writing value => ({ k with stage := .publishing }, { c with slot := some value })
  | .publishing => ({ k with stage := .reading }, { c with flag := .complete })
  | .waiting delay =>
      if c.flag = .complete then ({ k with stage := .reading }, c)
      else ({ k with stage := .waiting delay.spin }, c)
  | .checking =>
      if c.flag = .complete then ({ k with stage := .reading }, c)
      else ({ k with stage := .returned none }, c)
  | .reading => ({ k with stage := .returned c.slot }, c)
  | .asking => ({ k with stage := .answered c.isInitialized }, c)
  | .returned _ => (k, c)
  | .answered _ => (k, c)

def returned? (k : Caller α) : Option α :=
  match k.stage with
  | .returned value => value
  | _ => none

def done (k : Caller α) : Bool :=
  match k.stage with
  | .returned _ | .answered _ => true
  | _ => false

/-- A call needs at most five steps when nobody is in its way. -/
def runAlone (k : Caller α) (c : OnceCell α) : Caller α × OnceCell α :=
  go 5 k c
where
  go : Nat → Caller α → OnceCell α → Caller α × OnceCell α
    | 0, k, c => (k, c)
    | n + 1, k, c =>
        let (k, c) := k.step c
        go n k c

end Caller

/-- Callers with the same initial value that race for a new cell. -/
def racers (threads : Nat) (value : α) : Crew (OnceCell α) (Caller α) :=
  ⟨{}, List.replicate threads (.getOrInit value)⟩

/-- All callers return within eight rounds when they are served in turn. -/
def race (threads : Nat) (value : α) : Crew (OnceCell α) (Caller α) :=
  (racers threads value).roundRobin Caller.step Caller.done 8

end OnceCell

end NestedVisor.Sync
