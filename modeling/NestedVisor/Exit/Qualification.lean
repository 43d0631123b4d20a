import NestedVisor.Word.Field

/-!
The exit qualification of a control-register access: which register, which kind of access and
which general-purpose register took part.
-/

namespace NestedVisor.Exit

inductive ControlAccess where
  | movToCr
  | movFromCr
  | clts
  | lmsw
  deriving DecidableEq, Repr

def ControlAccess.name : ControlAccess → String
  | .movToCr => "MovToCr"
  | .movFromCr => "MovFromCr"
  | .clts => "Clts"
  | .lmsw => "Lmsw"

structure ControlQualification where
  word : Word
  deriving DecidableEq, Repr

namespace ControlQualification

def controlRegister (q : ControlQualification) : BitVec 4 := q.word.extractLsb' 0 4
def accessCode (q : ControlQualification) : BitVec 2 := q.word.extractLsb' 4 2
def lmswFromMemory (q : ControlQualification) : Bool := q.word.getLsbD 6
def gpr (q : ControlQualification) : BitVec 4 := q.word.extractLsb' 8 4
def lmswSource (q : ControlQualification) : BitVec 16 := q.word.extractLsb' 16 16

def access (q : ControlQualification) : ControlAccess :=
  if q.accessCode = 0 then .movToCr
  else if q.accessCode = 1 then .movFromCr
  else if q.accessCode = 2 then .clts
  else .lmsw

def text (q : ControlQualification) : String :=
  layoutText "ControlRegAccessExitQualification" q.word.toNat
    [("control_register", .number q.controlRegister.toNat),
      ("access_type_raw", .number q.accessCode.toNat),
      ("lmsw_memory_operand", .flag q.lmswFromMemory), ("gpr", .number q.gpr.toNat),
      ("lmsw_source_data", .number q.lmswSource.toNat)]

end ControlQualification

end NestedVisor.Exit
