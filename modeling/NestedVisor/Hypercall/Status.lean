/-!
Status codes that the host hypervisor answers a hypercall with.
-/

namespace NestedVisor.Hypercall

structure Status where
  code : BitVec 16
  deriving DecidableEq, Repr

namespace Status

def success : Status := ⟨0x0000⟩
def invalidHypercallCode : Status := ⟨0x0002⟩
def invalidHypercallInput : Status := ⟨0x0003⟩
def invalidAlignment : Status := ⟨0x0004⟩
def invalidParameter : Status := ⟨0x0005⟩
def accessDenied : Status := ⟨0x0006⟩
def operationDenied : Status := ⟨0x0008⟩
def insufficientMemory : Status := ⟨0x000B⟩
def timeout : Status := ⟨0x0078⟩

/-- The named statuses, by code. -/
def all : List Status :=
  [success, invalidHypercallCode, invalidHypercallInput, invalidAlignment, invalidParameter,
    accessDenied, operationDenied, insufficientMemory, timeout]

def text (s : Status) : String :=
  s!"HvStatus({s.code.toNat})"

end Status

/-! ## Call codes -/

def flushVirtualAddressSpaceCode : BitVec 16 := 0x0002
def flushGuestPhysicalAddressSpaceCode : BitVec 16 := 0x00AF

/-! ## Flags of the virtual address space flush -/

def flushAllProcessors : BitVec 64 := 1
def flushAllVirtualAddressSpaces : BitVec 64 := 2
def flushNonGlobalMappingsOnly : BitVec 64 := 4

end NestedVisor.Hypercall
