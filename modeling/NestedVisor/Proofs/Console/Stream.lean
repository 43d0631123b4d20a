import NestedVisor.Console.Logger
import NestedVisor.Proofs.Console.Transmission

/-!
# The serial log

Any number of starts and records go to a log that has no other receiver.  The first start sets its
port up, and from then on the port carries one byte stream: the lines of the records that were
within the verbosity of their time, one after the other.
-/

namespace NestedVisor.Console

inductive LogCall where
  | start (port : SerialPort) (verbosity : Verbosity)
  | record (processor : Nat) (r : Record)
  deriving DecidableEq, Repr

namespace LogCall

def port? : LogCall → Option SerialPort
  | .start port _ => some port
  | .record .. => none

/-- The verbosity after the call. -/
def verbosity (v : Verbosity) : LogCall → Verbosity
  | .start _ verbosity => verbosity
  | .record .. => v

/-- What the call sends, at most a line with its processor and its level. -/
def sends (v : Verbosity) : LogCall → List (BitVec 8)
  | .start .. => []
  | .record processor r =>
      if v.admits r.level then
        textBytes ("lp-" ++ toString processor ++ " " ++ r.level.name ++ ": " ++ r.message ++ "\n")
      else []

def firstPort? (calls : List LogCall) : Option SerialPort :=
  calls.findSome? port?

def latestVerbosity (v : Verbosity) (calls : List LogCall) : Verbosity :=
  calls.foldl verbosity v

def stream (v : Verbosity) : List LogCall → List (BitVec 8)
  | [] => []
  | call :: rest => call.sends v ++ stream (call.verbosity v) rest

end LogCall

open LogCall

namespace Log

/-- A log that nobody has started, in a process without another receiver. -/
def new (status : LineStatus) : Log :=
  { wire := { status } }

def serve (l : Log) : LogCall → Log
  | .start port verbosity => l.start port verbosity
  | .record processor r => { l with processor }.log r

def run (l : Log) (calls : List LogCall) : Log :=
  calls.foldl serve l

end Log

/-- No interrupts; the divisor; eight bits without parity; the queue; RTS and DSR. -/
def setUpAccesses (port : SerialPort) : List Access :=
  [.write (port.base + 1) 0x00, .write (port.base + 3) 0x80, .write (port.base + 0) 0x01,
    .write (port.base + 1) 0x00, .write (port.base + 3) 0x03, .write (port.base + 2) 0xC7,
    .write (port.base + 4) 0x03]

theorem toList_accesses_setUp (w : Wire) (port : SerialPort) :
    (w.setUp port).accesses.toList = w.accesses.toList ++ setUpAccesses port := by
  simp only [Wire.setUp, Wire.setupWrites, Wire.write, List.foldl_cons, List.foldl_nil,
    Array.toList_push, List.append_assoc]
  rfl

theorem owns_setUpAccesses (port : SerialPort) :
    ∀ access ∈ setUpAccesses port, port.Owns access := by
  simp only [setUpAccesses, List.forall_mem_cons]
  exact ⟨⟨1, by decide, rfl⟩, ⟨3, by decide, rfl⟩, ⟨0, by decide, rfl⟩, ⟨1, by decide, rfl⟩,
    ⟨3, by decide, rfl⟩, ⟨2, by decide, rfl⟩, ⟨4, by decide, rfl⟩, nofun⟩

/-! ## After the first start -/

variable {l : Log} {port : SerialPort}

/-- The serial logger receives the records, and has this port. -/
structure Log.On (l : Log) (port : SerialPort) : Prop where
  receiver : l.receiver = .serial
  installed : l.port = some port

/-- What calls lead to on a log that is on. -/
structure Log.Sends (l : Log) (port : SerialPort) (v : Verbosity) (bytes : List (BitVec 8))
    (l' : Log) : Prop where
  on : l'.On port
  verbosity : l'.verbosity = v
  accesses : ∃ accesses, l'.wire.accesses.toList = l.wire.accesses.toList ++ accesses ∧
    Transmits port bytes accesses

theorem Log.On.serve (on : l.On port) (call : LogCall) :
    l.Sends port (call.verbosity l.verbosity) (call.sends l.verbosity) (l.serve call) := by
  obtain ⟨wire, receiver, verbosity, installed, processor, collected⟩ := l
  obtain ⟨rfl, rfl⟩ : receiver = .serial ∧ installed = some port := ⟨on.receiver, on.installed⟩
  cases call with
  | start port' v => exact ⟨⟨rfl, rfl⟩, rfl, [], (List.append_nil _).symm, .nothing⟩
  | record processor' r =>
      rw [LogCall.sends, Log.serve, Log.log]
      by_cases admitted : verbosity.admits r.level = true
      · rw [if_pos admitted, if_pos admitted]
        obtain ⟨accesses, sent, transmits⟩ := transmits_sendBytes wire port
          (textBytes ("lp-" ++ toString processor' ++ " " ++ r.level.name ++ ": " ++ r.message ++
            "\n"))
        have delivered : Log.deliver
              { wire, receiver := .serial, verbosity, port := some port, processor := processor',
                collected } r =
            { wire := wire.sendBytes port (lineBytes (r.line processor' ++ "\n"))
              receiver := .serial, verbosity, port := some port, processor := processor',
              collected } := if_pos admitted
        rw [delivered, lineBytes_eq]
        exact ⟨⟨rfl, rfl⟩, rfl, accesses, sent, transmits⟩
      · rw [if_neg admitted, if_neg admitted]
        exact ⟨⟨rfl, rfl⟩, rfl, [], (List.append_nil _).symm, .nothing⟩

theorem Log.On.run (on : l.On port) (calls : List LogCall) :
    l.Sends port (latestVerbosity l.verbosity calls) (stream l.verbosity calls) (l.run calls) := by
  induction calls generalizing l with
  | nil => exact ⟨on, rfl, [], (List.append_nil _).symm, .nothing⟩
  | cons call rest ih =>
      have first := on.serve call
      have later := ih first.on
      rw [first.verbosity] at later
      obtain ⟨accesses, sent, transmits⟩ := first.accesses
      obtain ⟨accesses', sent', transmits'⟩ := later.accesses
      refine ⟨later.on, later.verbosity, accesses ++ accesses', ?_, transmits.append transmits'⟩
      rw [← List.append_assoc, ← sent]
      exact sent'

/-! ## From the beginning -/

/-- The log is a faithful byte stream on the port of the first start. -/
structure Faithful (calls : List LogCall) (l : Log) : Prop where
  verbosity : l.verbosity = latestVerbosity none calls
  port : l.port = firstPort? calls
  silent : firstPort? calls = none → l.wire.accesses = #[]
  stream : ∀ port ∈ firstPort? calls, ∃ accesses,
    l.wire.accesses.toList = setUpAccesses port ++ accesses ∧
      Transmits port (stream none calls) accesses
  /-- No other port is touched. -/
  owned : ∀ access ∈ l.wire.accesses, ∃ port ∈ firstPort? calls, port.Owns access

/-- A log that nobody has started yet. -/
structure Log.Idle (l : Log) : Prop where
  receiver : l.receiver = .nobody
  verbosity : l.verbosity = none
  port : l.port = none
  untouched : l.wire.accesses = #[]

theorem Log.Idle.record (idle : l.Idle) (processor : Nat) (r : Record) :
    (l.serve (.record processor r)).Idle := by
  have closed : ({ l with processor } : Log).verbosity.admits r.level = false := by
    rw [idle.verbosity, Verbosity.admits_none]
  rw [Log.serve, Log.log, if_neg (by simp [closed])]
  exact ⟨idle.receiver, idle.verbosity, idle.port, idle.untouched⟩

theorem Log.Idle.start (idle : l.Idle) (port : SerialPort) (verbosity : Verbosity) :
    (l.serve (.start port verbosity)).On port ∧
      (l.serve (.start port verbosity)).verbosity = verbosity ∧
      (l.serve (.start port verbosity)).wire.accesses.toList = setUpAccesses port := by
  rw [Log.serve, Log.start, idle.port]
  refine ⟨⟨if_pos idle.receiver, rfl⟩, rfl, ?_⟩
  rw [toList_accesses_setUp, idle.untouched]
  rfl

theorem owned_of_transmits {bytes : List (BitVec 8)} {accesses : List Access}
    (all : l.wire.accesses.toList = setUpAccesses port ++ accesses)
    (transmits : Transmits port bytes accesses) :
    ∀ access ∈ l.wire.accesses, port.Owns access := by
  intro access listed
  rw [← Array.mem_toList_iff, all] at listed
  rcases List.mem_append.1 listed with first | later
  · exact owns_setUpAccesses port access first
  · exact transmits.owns access later

theorem Log.Idle.run (idle : l.Idle) (calls : List LogCall) : Faithful calls (l.run calls) := by
  induction calls generalizing l with
  | nil =>
      refine ⟨idle.verbosity, idle.port, fun _ => idle.untouched, nofun, fun access listed => ?_⟩
      change access ∈ l.wire.accesses at listed
      rw [idle.untouched] at listed
      exact absurd listed (Array.not_mem_empty access)
  | cons call rest ih =>
      cases call with
      | record processor r =>
          have faithful := ih (idle.record processor r)
          exact ⟨faithful.verbosity, faithful.port, faithful.silent, faithful.stream,
            faithful.owned⟩
      | start port verbosity =>
          obtain ⟨on, current, setUp⟩ := idle.start port verbosity
          have sends := on.run rest
          rw [current] at sends
          obtain ⟨accesses, all, transmits⟩ := sends.accesses
          rw [setUp] at all
          refine ⟨sends.verbosity, sends.on.installed, nofun, fun port' first => ?_,
            fun access listed => ⟨port, rfl, ?_⟩⟩
          · obtain rfl : port = port' := Option.some.inj first
            exact ⟨accesses, all, transmits⟩
          · exact owned_of_transmits all transmits access listed

/--
Whatever calls it gets, a log that is the only receiver is a faithful byte stream; and it does not
matter in which pieces a line is delivered.
-/
theorem faithful_run :
    (∀ (status : LineStatus) (calls : List LogCall),
      Faithful calls ((Log.new status).run calls)) ∧
    ∀ (w : Wire) (port : SerialPort) (pieces : List String),
      pieces.foldl (fun w piece => w.sendBytes port (lineBytes piece)) w =
        w.sendBytes port (textBytes (String.join pieces)) :=
  ⟨fun _ calls => Log.Idle.run ⟨rfl, rfl, rfl, rfl⟩ calls, sendBytes_pieces⟩

end NestedVisor.Console
