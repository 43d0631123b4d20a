/-!
A serial port: its registers, and the polled transmission of bytes.

Every access to a port is kept in order.  What the line-status register will read is given in
advance as a function of the number of reads, together with a bound on how long it stays busy,
so that waiting for the transmitter always ends.
-/

namespace NestedVisor.Console

inductive SerialPort where
  | com1
  | com2
  deriving DecidableEq, Repr

def SerialPort.base : SerialPort → BitVec 16
  | .com1 => 0x3F8
  | .com2 => 0x2F8

/-! ## Register offsets -/

def dataOffset : BitVec 16 := 0
def interruptEnableOffset : BitVec 16 := 1
def fifoControlOffset : BitVec 16 := 2
def lineControlOffset : BitVec 16 := 3
def modemControlOffset : BitVec 16 := 4
def lineStatusOffset : BitVec 16 := 5

/-- The line status says that the transmitter takes a byte. -/
def transmitterEmpty (status : BitVec 8) : Bool :=
  status.getLsbD 5

inductive Access where
  | read (port : BitVec 16) (value : BitVec 8)
  | write (port : BitVec 16) (value : BitVec 8)
  deriving DecidableEq, Repr

/-- What successive reads of the line status answer. -/
structure LineStatus where
  answer : Nat → BitVec 8
  /-- The transmitter is never busy for longer than this many reads. -/
  patience : Nat
  becomes_empty : ∀ n, ∃ k, k ≤ patience ∧ transmitterEmpty (answer (n + k))

namespace LineStatus

/-- The transmitter is busy for `busy` reads, then takes a byte, over and over. -/
def cyclic (busy : Nat) (ready : BitVec 8) (h : transmitterEmpty ready) : LineStatus where
  answer n := if n % (busy + 1) = busy then ready else 0xDF
  patience := busy
  becomes_empty n := by
    refine ⟨busy - n % (busy + 1), Nat.sub_le _ _, ?_⟩
    have hlt : n % (busy + 1) < busy + 1 := Nat.mod_lt _ (Nat.succ_pos _)
    have hmod : (n + (busy - n % (busy + 1))) % (busy + 1) = busy := by
      have hle : n % (busy + 1) ≤ busy := Nat.le_of_lt_succ hlt
      rw [Nat.add_mod, Nat.mod_eq_of_lt (show busy - n % (busy + 1) < busy + 1 by omega),
        Nat.add_sub_cancel' hle, Nat.mod_eq_of_lt (Nat.lt_succ_self _)]
    simp only [hmod, if_true]
    exact h

end LineStatus

/-- The port side of a transmission: how often the status was read, and all accesses. -/
structure Wire where
  status : LineStatus
  reads : Nat := 0
  accesses : Array Access := #[]

namespace Wire

def write (w : Wire) (port : BitVec 16) (value : BitVec 8) : Wire :=
  { w with accesses := w.accesses.push (.write port value) }

/-- The accesses of a wait that starts at read number `n`, at most `fuel + 1` reads long. -/
def polls (status : LineStatus) (port : BitVec 16) : Nat → Nat → List Access
  | 0, n => [.read port (status.answer n)]
  | fuel + 1, n =>
      .read port (status.answer n) ::
        if transmitterEmpty (status.answer n) then [] else polls status port fuel (n + 1)

/-- Reads the line status until the transmitter takes a byte. -/
def awaitEmpty (w : Wire) (port : SerialPort) : Wire :=
  let waited := polls w.status (port.base + lineStatusOffset) w.status.patience w.reads
  { w with reads := w.reads + waited.length, accesses := w.accesses ++ waited }

def sendByte (w : Wire) (port : SerialPort) (byte : BitVec 8) : Wire :=
  (w.awaitEmpty port).write (port.base + dataOffset) byte

def sendBytes (w : Wire) (port : SerialPort) (bytes : List (BitVec 8)) : Wire :=
  bytes.foldl (fun w byte => w.sendByte port byte) w

/-- Sets the port up: no interrupts, 115200 baud, eight bits without parity, and the queue on. -/
def setupWrites (port : SerialPort) : List (BitVec 16 × BitVec 8) :=
  [(port.base + interruptEnableOffset, 0x00), (port.base + lineControlOffset, 0x80),
    (port.base + dataOffset, 0x01), (port.base + interruptEnableOffset, 0x00),
    (port.base + lineControlOffset, 0x03), (port.base + fifoControlOffset, 0xC7),
    (port.base + modemControlOffset, 0x03)]

def setUp (w : Wire) (port : SerialPort) : Wire :=
  (setupWrites port).foldl (fun w (p, value) => w.write p value) w

end Wire

/-! ## Text on the line -/

def lineFeed : BitVec 8 := 0x0A
def carriageReturn : BitVec 8 := 0x0D

/-- Every line feed is sent after a carriage return. -/
def expandLineFeeds : List (BitVec 8) → List (BitVec 8)
  | [] => []
  | byte :: rest =>
      if byte = lineFeed then carriageReturn :: byte :: expandLineFeeds rest
      else byte :: expandLineFeeds rest

/-- The bytes of a text as they go over the line. -/
def lineBytes (text : String) : List (BitVec 8) :=
  expandLineFeeds (text.toUTF8.toList.map fun b => BitVec.ofNat 8 b.toNat)

end NestedVisor.Console
