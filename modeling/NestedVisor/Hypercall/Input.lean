import NestedVisor.Word.Field

/-!
The hypercall input value: the control word that a caller passes in RCX.

It holds the call code, the fast and nested flags, the size of the variable header and, for a
repeated call, the element count and the index of the first element still to do.  Bits 27 to
30, 44 to 47 and 60 to 63 are reserved, and no writer touches them.
-/

namespace NestedVisor.Hypercall

structure Input where
  word : Word
  deriving DecidableEq, Repr

namespace Input

/-! ## Fields -/

def code (i : Input) : BitVec 16 := i.word.extractLsb' 0 16
def fast (i : Input) : Bool := i.word.getLsbD 16
def headerSize (i : Input) : BitVec 10 := i.word.extractLsb' 17 10
def nested (i : Input) : Bool := i.word.getLsbD 31
def repCount (i : Input) : BitVec 12 := i.word.extractLsb' 32 12
def repStart (i : Input) : BitVec 12 := i.word.extractLsb' 48 12

/-! ## Updates

A value that is wider than its field loses its high bits. -/

def withCode (i : Input) (n : BitVec 16) : Input := ⟨setField i.word 0 n⟩
def withFast (i : Input) (b : Bool) : Input := ⟨setFlag i.word 16 b⟩
def withHeaderSize (i : Input) (n : BitVec 16) : Input := ⟨setField i.word 17 (n.setWidth 10)⟩
def withNested (i : Input) (b : Bool) : Input := ⟨setFlag i.word 31 b⟩
def withRepCount (i : Input) (n : BitVec 16) : Input := ⟨setField i.word 32 (n.setWidth 12)⟩
def withRepStart (i : Input) (n : BitVec 16) : Input := ⟨setField i.word 48 (n.setWidth 12)⟩

def withReps (i : Input) (count start : BitVec 16) : Input :=
  (i.withRepCount count).withRepStart start

/-- The input value of a simple call. -/
def ofCode (code : BitVec 16) : Input :=
  withCode ⟨0⟩ code

/-- A repeated call is one whose element count is not zero. -/
def isRep (i : Input) : Bool :=
  i.repCount != 0

def maxRepCount : Nat := 0xFFF

def text (i : Input) : String :=
  layoutText "HypercallInput" i.word.toNat
    [("call_code", .number i.code.toNat), ("fast", .flag i.fast),
      ("variable_header_size", .number i.headerSize.toNat), ("nested", .flag i.nested),
      ("rep_count", .number i.repCount.toNat), ("rep_start_index", .number i.repStart.toNat)]

end Input

end NestedVisor.Hypercall
