import NestedVisor.Word.Field
import NestedVisor.Guest.Vmcs
import NestedVisor.Journal.Record

/-!
Event injection: exceptions that the next VM entry delivers to the guest.
-/

namespace NestedVisor

inductive Exception where
  | divideError
  | debug
  | nonMaskableInterrupt
  | breakpoint
  | overflow
  | boundRangeExceeded
  | invalidOpcode
  | deviceNotAvailable
  | doubleFault
  | invalidTss
  | segmentNotPresent
  | stackSegmentFault
  | generalProtection
  | pageFault
  | x87FloatingPoint
  | alignmentCheck
  | machineCheck
  | simdFloatingPoint
  | virtualization
  | controlProtection
  deriving DecidableEq, Repr

namespace Exception

def all : List Exception :=
  [.divideError, .debug, .nonMaskableInterrupt, .breakpoint, .overflow, .boundRangeExceeded,
    .invalidOpcode, .deviceNotAvailable, .doubleFault, .invalidTss, .segmentNotPresent,
    .stackSegmentFault, .generalProtection, .pageFault, .x87FloatingPoint, .alignmentCheck,
    .machineCheck, .simdFloatingPoint, .virtualization, .controlProtection]

def vector : Exception → BitVec 8
  | .divideError => 0
  | .debug => 1
  | .nonMaskableInterrupt => 2
  | .breakpoint => 3
  | .overflow => 4
  | .boundRangeExceeded => 5
  | .invalidOpcode => 6
  | .deviceNotAvailable => 7
  | .doubleFault => 8
  | .invalidTss => 10
  | .segmentNotPresent => 11
  | .stackSegmentFault => 12
  | .generalProtection => 13
  | .pageFault => 14
  | .x87FloatingPoint => 16
  | .alignmentCheck => 17
  | .machineCheck => 18
  | .simdFloatingPoint => 19
  | .virtualization => 20
  | .controlProtection => 21

def ofVector? (vector : Nat) : Option Exception :=
  all.find? fun e => e.vector.toNat == vector

def name : Exception → String
  | .divideError => "DivideError"
  | .debug => "Debug"
  | .nonMaskableInterrupt => "NonMaskableInterrupt"
  | .breakpoint => "Breakpoint"
  | .overflow => "Overflow"
  | .boundRangeExceeded => "BoundRangeExceeded"
  | .invalidOpcode => "InvalidOpcode"
  | .deviceNotAvailable => "DeviceNotAvailable"
  | .doubleFault => "DoubleFault"
  | .invalidTss => "InvalidTss"
  | .segmentNotPresent => "SegmentNotPresent"
  | .stackSegmentFault => "StackSegmentFault"
  | .generalProtection => "GeneralProtectionFault"
  | .pageFault => "PageFault"
  | .x87FloatingPoint => "X87FloatingPoint"
  | .alignmentCheck => "AlignmentCheck"
  | .machineCheck => "MachineCheck"
  | .simdFloatingPoint => "SimdFloatingPoint"
  | .virtualization => "Virtualization"
  | .controlProtection => "ControlProtection"

end Exception

/-- Interruption types of the VM-entry interruption-information field. -/
inductive InterruptionType where
  | externalInterrupt
  | nonMaskableInterrupt
  | hardwareException
  | softwareInterrupt
  | privilegedSoftwareException
  | softwareException
  | otherEvent
  deriving DecidableEq, Repr

namespace InterruptionType

def all : List InterruptionType :=
  [.externalInterrupt, .nonMaskableInterrupt, .hardwareException, .softwareInterrupt,
    .privilegedSoftwareException, .softwareException, .otherEvent]

def code : InterruptionType → BitVec 3
  | .externalInterrupt => 0
  | .nonMaskableInterrupt => 2
  | .hardwareException => 3
  | .softwareInterrupt => 4
  | .privilegedSoftwareException => 5
  | .softwareException => 6
  | .otherEvent => 7

end InterruptionType

/-- The VM-entry interruption-information field. -/
structure Injection where
  word : BitVec 32
  deriving DecidableEq, Repr

namespace Injection

def vector (e : Injection) : BitVec 8 := e.word.extractLsb' 0 8
def type (e : Injection) : BitVec 3 := e.word.extractLsb' 8 3
def deliverErrorCode (e : Injection) : Bool := e.word.getLsbD 11
def valid (e : Injection) : Bool := e.word.getLsbD 31

def withVector (e : Injection) (n : BitVec 8) : Injection := ⟨setField e.word 0 n⟩
def withType (e : Injection) (n : BitVec 3) : Injection := ⟨setField e.word 8 n⟩
def withDeliverErrorCode (e : Injection) (b : Bool) : Injection := ⟨setFlag e.word 11 b⟩
def withValid (e : Injection) (b : Bool) : Injection := ⟨setFlag e.word 31 b⟩

/-- A valid hardware exception. -/
def hardwareException (e : Exception) (deliverErrorCode : Bool) : Injection :=
  ((((⟨0⟩ : Injection).withVector e.vector).withType
    InterruptionType.hardwareException.code).withDeliverErrorCode deliverErrorCode).withValid true

def generalProtection : Injection := hardwareException .generalProtection true

def undefinedOpcode : Injection := hardwareException .invalidOpcode false

@[simp] theorem word_generalProtection : generalProtection.word = 0x80000B0D := by decide

@[simp] theorem word_undefinedOpcode : undefinedOpcode.word = 0x80000306 := by decide

def text (e : Injection) : String :=
  layoutText "EventInjection" e.word.toNat
    [("vector", .number e.vector.toNat), ("interruption_type", .number e.type.toNat),
      ("deliver_error_code", .flag e.deliverErrorCode), ("valid", .flag e.valid)]

end Injection

namespace Vmcs

/-- The fields that queue `#GP(errorCode)`, in the order in which they are written. -/
def generalProtectionWrites (errorCode : BitVec 32) : List (VmcsField × Word) :=
  [(.entryErrorCode, errorCode.setWidth 64),
    (.entryInterruptionInfo, Injection.generalProtection.word.setWidth 64)]

/-- The field that queues `#UD`, which has no error code. -/
def undefinedOpcodeWrites : List (VmcsField × Word) :=
  [(.entryInterruptionInfo, Injection.undefinedOpcode.word.setWidth 64)]

/-- Writes in order up to the first failure; what was written before it stays. -/
def writeAll (v : Vmcs) : List (VmcsField × Word) → Except Fault Unit × Vmcs
  | [] => (.ok (), v)
  | (field, value) :: rest =>
      match v.write field value with
      | .ok v' => v'.writeAll rest
      | .error fault => (.error fault, v)

end Vmcs

/-! ## Records -/

def generalProtectionRecord (errorCode : BitVec 32) : Record :=
  ⟨.warn, s!"Injecting #GP({hexText errorCode.toNat}): " ++
    s!"info={hexText Injection.generalProtection.word.toNat}"⟩

def undefinedOpcodeRecord : Record :=
  ⟨.warn, s!"Injecting #UD: info={hexText Injection.undefinedOpcode.word.toNat}"⟩

end NestedVisor
