import NestedVisor.Exit.MsrPolicy
import NestedVisor.Machine.Basic

/-!
RDMSR and WRMSR.

The register number is in ECX and the value in EDX:EAX.  An access that the policy refuses
raises `#GP(0)` and leaves RIP where it is, as a register that the processor lacks does.
-/

namespace NestedVisor.Exit

open Machine

def refuseMsr (access : MsrAccess) (msr : Msr) : Handler Outcome := do
  log ⟨.warn, s!"Refusing {access.name} of MSR {hexText msr.toNat}"⟩
  injectGeneralProtection 0

def readGuestMsr (msr : Msr) : Handler Outcome := do
  match classify msr with
  | .hardware _ =>
      let value ← readMsr msr
      modifyRegisters (·.withEdxEax value)
      return .advance
  | .vmcs field =>
      let value ← readField field
      modifyRegisters (·.withEdxEax value)
      return .advance
  | .featureControl =>
      modifyRegisters (·.withEdxEax featureControlValue)
      return .advance
  | .denied => refuseMsr .read msr

def writeGuestMsr (msr : Msr) (value : Word) : Handler Outcome := do
  if ¬ accepts msr value then
    log ⟨.warn, s!"Refusing write of {hexText value.toNat} to MSR {hexText msr.toNat}"⟩
    injectGeneralProtection 0
  else
    match classify msr with
    | .hardware true =>
        writeMsr msr value
        return .advance
    | .vmcs field =>
        writeField field value
        return .advance
    | _ => refuseMsr .write msr

def serveMsr (access : MsrAccess) : Handler Outcome := do
  let r ← getRegisters
  let msr : Msr := r.rcx.setWidth 32
  log ⟨.trace, s!"{access.name} MSR {hexText msr.toNat} ({(classify msr).text})"⟩
  match access with
  | .read => readGuestMsr msr
  | .write => writeGuestMsr msr r.edxEax

end NestedVisor.Exit
