import NestedVisor.Word.Basic
import NestedVisor.Hypercall.Status

/-!
Why an operation fails.

A `PagingFault` is a refusal of the page tables and leaves them as they were.  A `Fault` ends
the virtual machine when it reaches the dispatcher.
-/

namespace NestedVisor

inductive PagingFault where
  | misaligned (address : Word)
  | outOfRange (address : Word)
  | outOfResources
  | mappingConflict (address : Word)
  | invalidMemoryType (code : BitVec 8)
  deriving DecidableEq, Repr

def PagingFault.message : PagingFault → String
  | .misaligned a => s!"address {hexText a.toNat} is not aligned to the page granularity"
  | .outOfRange a => s!"address {hexText a.toNat} is beyond the supported guest-physical range"
  | .outOfResources => "the page pool backing the EPT is exhausted"
  | .mappingConflict a => s!"a mapping of a different granularity already covers {hexText a.toNat}"
  | .invalidMemoryType c => s!"memory type {hexText c.toNat} cannot be encoded in an EPT entry"

inductive Fault where
  | unhandledExit (reason : BitVec 32)
  | unknownControlRegisterAccess (qualification : Word)
  | invalidRegister (index : Word)
  | fieldAccess (field : BitVec 32)
  | invalidInstructionLength (length : Word)
  | paging (cause : PagingFault)
  | hypercall (status : Hypercall.Status)
  | invalidProcessor (processor : BitVec 32)
  | terminating
  deriving DecidableEq, Repr

def Fault.message : Fault → String
  | .unhandledExit r => s!"unhandled VM exit reason {hexText r.toNat}"
  | .unknownControlRegisterAccess q => s!"unknown control register access {hexText q.toNat}"
  | .invalidRegister i => s!"invalid general-purpose register index {i.toNat}"
  | .fieldAccess f => s!"VMREAD/VMWRITE failed for field {hexText f.toNat}"
  | .invalidInstructionLength n => s!"VM-exit instruction length {n.toNat} is out of range"
  | .paging cause => s!"EPT store operation failed: {cause.message}"
  | .hypercall status => s!"host hypercall failed: {status.text}"
  | .invalidProcessor p => s!"logical processor {p.toNat} does not exist"
  | .terminating => "the virtual CPU is terminating"

end NestedVisor
