/-!
Log records: a level and a message.

A record is written as one line that names the logical processor it comes from.
-/

namespace NestedVisor

inductive Level where
  | error
  | warn
  | info
  | debug
  | trace
  deriving DecidableEq, Repr

namespace Level

/-- Detail grows from `error` to `trace`. -/
def detail : Level → Nat
  | .error => 1
  | .warn => 2
  | .info => 3
  | .debug => 4
  | .trace => 5

def name : Level → String
  | .error => "ERROR"
  | .warn => "WARN"
  | .info => "INFO"
  | .debug => "DEBUG"
  | .trace => "TRACE"

end Level

/-- The most detailed level that is still written; `none` writes nothing. -/
abbrev Verbosity := Option Level

namespace Verbosity

def admits (v : Verbosity) (level : Level) : Bool :=
  match v with
  | none => false
  | some max => level.detail ≤ max.detail

def name : Verbosity → String
  | none => "OFF"
  | some level => level.name

@[simp] theorem admits_none (level : Level) : admits none level = false := rfl

@[simp] theorem admits_self (level : Level) : admits (some level) level = true := by
  simp [admits]

end Verbosity

structure Record where
  level : Level
  message : String
  deriving DecidableEq, Repr

/-- The line of a record, without its final line feed. -/
def Record.line (r : Record) (processor : Nat) : String :=
  s!"lp-{processor} {r.level.name}: {r.message}"

/-- The records written so far, oldest first. -/
abbrev Journal := List Record

def Journal.upTo (journal : Journal) (v : Verbosity) : Journal :=
  journal.filter fun r => v.admits r.level

end NestedVisor
