import NestedVisor.GuestCall.Serve

/-!
VMCALL: a call to this core when RCX carries the signature, otherwise a hypercall that is passed
on to the host.

The control word goes to the host unchanged.  The parameter blocks of a memory call are named by
guest-physical addresses, which the page tables translate.
-/

namespace NestedVisor.Exit

open Machine Hypercall

/-- Translates the address of a parameter block; zero means that there is none. -/
def blockAddress (ept : Paging.Ept) (address : Word) : Except Status Word :=
  if address = 0 then .ok 0
  else if address &&& 7 ≠ 0 then .error .invalidAlignment
  else
    match ept.translate? address with
    | some physical => .ok physical
    | none => .error .invalidParameter

/-- Both blocks of a memory call; of two failures the first one counts. -/
def blockAddresses (ept : Paging.Ept) (input output : Word) : Except Status (Word × Word) := do
  let input ← blockAddress ept input
  let output ← blockAddress ept output
  return (input, output)

/-- The host's result for the guest's call, or the status it fails with here. -/
def callForGuest (input : Input) : Handler Result := do
  let m ← get
  if input.fast then
    let answer ← callHost (m.relay.forward input (.fast m.registers.fastBlock))
    if let .fast block := answer.parameters then
      modifyRegisters (·.withFastBlock block)
    return answer.result
  else
    match blockAddresses m.ept m.registers.rdx m.registers.r8 with
    | .ok (inputBlock, outputBlock) =>
        return (← callHost (m.relay.forward input (.memory inputBlock outputBlock))).result
    | .error status =>
        log ⟨.warn, s!"Hypercall {hexText input.code.toNat} rejected: " ++
          s!"parameter block not mapped ({status.text})"⟩
        return .ofStatus status 0

def forwardToHost : Handler Outcome := do
  let m ← get
  let input : Input := ⟨m.registers.rcx⟩
  if ¬ m.hostIsHyperv then
    log ⟨.debug, s!"Hypercall {hexText input.code.toNat} issued without a Hyper-V host"⟩
    modifyRegisters fun r =>
      { r with rax := (Result.ofStatus .invalidHypercallCode 0).word }
    return .advance
  else
    let result ← callForGuest input
    log ⟨.trace, s!"Hypercall {hexText input.code.toNat} -> {result.text}"⟩
    modifyRegisters fun r => { r with rax := result.word }
    return .advance

def serveVmcall : Handler Outcome := do
  let r ← getRegisters
  log ⟨.trace, s!"VMCALL RCX={hexText r.rcx.toNat} RDX={hexText r.rdx.toNat} " ++
    s!"R8={hexText r.r8.toNat}"⟩
  if GuestCall.Marked r.rcx then
    GuestCall.serve (r.rcx.extractLsb' 0 16)
  else
    forwardToHost

end NestedVisor.Exit
