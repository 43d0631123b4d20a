import NestedVisor.Word.Field
import NestedVisor.Hypercall.Status

/-!
The hypercall result value: status, reserved bits and the number of completed repetitions.
-/

namespace NestedVisor.Hypercall

structure Result where
  word : Word
  deriving DecidableEq, Repr

namespace Result

def status (r : Result) : Status := ⟨r.word.extractLsb' 0 16⟩
def reserved (r : Result) : BitVec 16 := r.word.extractLsb' 16 16
def repsCompleted (r : Result) : BitVec 12 := r.word.extractLsb' 32 12

/-- The result with this status and, modulo 4096, this many completed repetitions. -/
def ofStatus (status : Status) (reps : BitVec 16) : Result :=
  ⟨status.code.setWidth 64 ||| ((reps.setWidth 12).setWidth 64 <<< 32)⟩

def isSuccess (r : Result) : Bool :=
  r.status == .success

/-- The completed repetitions of a success, otherwise the failing status. -/
def outcome (r : Result) : Except Status (BitVec 12) :=
  if r.status = .success then .ok r.repsCompleted else .error r.status

def text (r : Result) : String :=
  layoutText "HypercallResult" r.word.toNat
    [("status_code", .number r.status.code.toNat), ("reserved", .number r.reserved.toNat),
      ("reps_completed", .number r.repsCompleted.toNat)]

end Result

end NestedVisor.Hypercall
