import NestedVisor.Console.Uart
import NestedVisor.Journal.Record

/-!
The process-wide log and the serial logger behind it.

The serial logger is installed by the first `start` and keeps the port of that call; later calls
change the verbosity only.  A logger that was registered before stays registered.
-/

namespace NestedVisor.Console

/-- Who receives the records. -/
inductive Receiver where
  | nobody
  /-- Another logger, which keeps every line it is given. -/
  | collector
  | serial
  deriving DecidableEq, Repr

structure Log where
  wire : Wire
  receiver : Receiver := .nobody
  verbosity : Verbosity := none
  /-- The port of the first start. -/
  port : Option SerialPort := none
  /-- The processor that the lines are tagged with. -/
  processor : Nat := 0
  collected : List String := []

namespace Log

def start (l : Log) (port : SerialPort) (verbosity : Verbosity) : Log :=
  match l.port with
  | some _ => { l with verbosity }
  | none =>
      { l with
        wire := l.wire.setUp port
        port := some port
        receiver := if l.receiver = .nobody then .serial else l.receiver
        verbosity }

/-- Whether the receiver takes records of a level. -/
def enabled (l : Log) (level : Level) : Bool :=
  match l.receiver with
  | .nobody => false
  | .collector => true
  | .serial => l.verbosity.admits level

/-- Hands a record to the receiver. -/
def deliver (l : Log) (r : Record) : Log :=
  match l.receiver, l.port with
  | .nobody, _ => l
  | .collector, _ => { l with collected := l.collected ++ [r.line l.processor] }
  | .serial, none => l
  | .serial, some port =>
      if l.verbosity.admits r.level then
        { l with wire := l.wire.sendBytes port (lineBytes (r.line l.processor ++ "\n")) }
      else l

/-- Logs a record: nothing happens above the verbosity. -/
def log (l : Log) (r : Record) : Log :=
  if l.verbosity.admits r.level then l.deliver r else l

/-- Nothing is buffered. -/
def flush (l : Log) : Log := l

end Log

end NestedVisor.Console
