import NestedVisor.Exit.ControlRegister
import NestedVisor.Exit.Instruction
import NestedVisor.Exit.MsrAccess
import NestedVisor.Exit.Vmcall

/-!
Which service each exit reason gets.
-/

namespace NestedVisor.Exit

inductive Service where
  | controlRegister
  | cpuid
  | halt
  | invlpg
  | cacheFlush
  | msr (access : MsrAccess)
  | vmcall
  /-- Virtualization instructions do not exist for the guest. -/
  | undefinedOpcode
  /-- Fatal. -/
  | none
  deriving DecidableEq, Repr

def Reason.service : Reason → Service
  | .controlRegisterAccess => .controlRegister
  | .cpuid => .cpuid
  | .hlt => .halt
  | .invlpg => .invlpg
  | .wbinvdOrWbnoinvd | .invd => .cacheFlush
  | .rdmsr => .msr .read
  | .wrmsr => .msr .write
  | .vmcall => .vmcall
  | .vmclear | .vmlaunch | .vmptrld | .vmptrst | .vmread | .vmresume | .vmwrite | .vmxoff | .vmxon
  | .invept | .invvpid | .vmfunc => .undefinedOpcode
  | _ => .none

/-- Serves one exit; `field` is the full exit-reason field. -/
def serve (reason : Reason) (field : BitVec 32) : Handler Outcome := do
  match reason.service with
  | .controlRegister => serveControlRegister
  | .cpuid => serveCpuid
  | .halt => serveHalt
  | .invlpg => serveInvlpg
  | .cacheFlush => serveCacheFlush reason
  | .msr access => serveMsr access
  | .vmcall => serveVmcall
  | .undefinedOpcode => Machine.injectUndefinedOpcode
  | .none =>
      Machine.log ⟨.error, s!"No handler for VM exit {reason.name} ({hexText field.toNat})"⟩
      throw (.unhandledExit field)

end NestedVisor.Exit
