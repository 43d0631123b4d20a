import NestedVisor.Caching.Granularity
import NestedVisor.Fault

/-!
The paravirtual calls that the guest makes to this core, and the statuses it gets back.

A call is a VMCALL whose RCX carries the signature in its upper half and the code in its lowest
16 bits.  Arguments travel in RDX and R8.
-/

namespace NestedVisor

inductive GuestCall where
  /-- Returns RDX. -/
  | echo
  /-- Tears the virtual machine down. -/
  | turnOff
  /-- Maps the page at RDX to the backing page at R8. -/
  | commit (size : Granularity)
  /-- Removes the mapping of the page at RDX. -/
  | uncommit (size : Granularity)
  /-- Drops all cached translations of the guest-physical space. -/
  | flush
  /-- Reports the memory type of the page at RDX, of the size that R8 selects. -/
  | queryMemoryType
  deriving DecidableEq, Repr

namespace GuestCall

def signature : BitVec 32 := 0x53495245

/-- Whether the upper half of RCX marks a VMCALL as a call to this core. -/
def Marked (rcx : Word) : Prop :=
  rcx.extractLsb' 32 32 = signature

instance (rcx : Word) : Decidable (Marked rcx) :=
  inferInstanceAs (Decidable (_ = _))

/-- Every call, by code. -/
def table : List (BitVec 16 × GuestCall) :=
  [(0x00, .echo), (0x01, .turnOff),
    (0x10, .commit .page4K), (0x11, .commit .page2M), (0x12, .commit .page1G),
    (0x13, .uncommit .page4K), (0x14, .uncommit .page2M), (0x15, .uncommit .page1G),
    (0x16, .flush), (0x17, .queryMemoryType)]

def ofCode? (code : BitVec 16) : Option GuestCall :=
  table.lookup code

def code : GuestCall → BitVec 16
  | .echo => 0x00
  | .turnOff => 0x01
  | .commit .page4K => 0x10
  | .commit .page2M => 0x11
  | .commit .page1G => 0x12
  | .uncommit .page4K => 0x13
  | .uncommit .page2M => 0x14
  | .uncommit .page1G => 0x15
  | .flush => 0x16
  | .queryMemoryType => 0x17

def name : GuestCall → String
  | .echo => "Echo"
  | .turnOff => "TurnOffVm"
  | .commit .page4K => "EptCommit4Kb"
  | .commit .page2M => "EptCommit2Mb"
  | .commit .page1G => "EptCommit1Gb"
  | .uncommit .page4K => "EptUncommit4Kb"
  | .uncommit .page2M => "EptUncommit2Mb"
  | .uncommit .page1G => "EptUncommit1Gb"
  | .flush => "EptFlush"
  | .queryMemoryType => "QueryMemoryType"

@[simp] theorem ofCode?_code (c : GuestCall) : ofCode? c.code = some c := by
  cases c with
  | commit size => cases size <;> rfl
  | uncommit size => cases size <;> rfl
  | _ => rfl

/-- What the guest finds in RAX. -/
inductive Status where
  | success
  /-- A misaligned or out-of-range address, or an unknown size selector. -/
  | invalidParameter
  /-- No single memory type applies to the range. -/
  | memoryTypeUnspecified
  | insufficientResources
  | notImplemented
  /-- A page of another size is in the way. -/
  | mappingConflict
  deriving DecidableEq, Repr

namespace Status

def code : Status → Word
  | .success => 0
  | .invalidParameter => 1
  | .memoryTypeUnspecified => 2
  | .insufficientResources => 3
  | .notImplemented => 4
  | .mappingConflict => 5

def ofFault : PagingFault → Status
  | .misaligned _ => .invalidParameter
  | .outOfRange _ => .invalidParameter
  | .outOfResources => .insufficientResources
  | .mappingConflict _ => .mappingConflict
  | .invalidMemoryType _ => .memoryTypeUnspecified

def name : Status → String
  | .success => "Success"
  | .invalidParameter => "InvalidParameter"
  | .memoryTypeUnspecified => "MemoryTypeUnspecified"
  | .insufficientResources => "InsufficientResources"
  | .notImplemented => "NotImplemented"
  | .mappingConflict => "MappingConflict"

end Status

end GuestCall

end NestedVisor
