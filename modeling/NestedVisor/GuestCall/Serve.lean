import NestedVisor.GuestCall.Code
import NestedVisor.Machine.Basic

/-!
Serving the paravirtual calls.

Every failure of a call is a status in RAX; only the request to turn the machine off ends it.
-/

namespace NestedVisor.GuestCall

open Machine

def report (status : Status) : Handler Unit :=
  modifyRegisters fun r => { r with rax := status.code }

/-- Maps the page at RDX to R8, cached as the range registers say the backing page is. -/
def serveCommit (size : Granularity) : Handler Outcome := do
  let r ← getRegisters
  let base := r.rdx
  let backing := r.r8
  if ¬ size.Aligned base ∨ ¬ size.Aligned backing then
    log ⟨.debug, s!"Commit of {hexText base.toNat} -> {hexText backing.toNat} " ++
      s!"is not {size.name} aligned"⟩
    report .invalidParameter
    return .advance
  else
    let type ← resolveType backing size
    if type = .unspecified then
      log ⟨.warn, s!"No single memory type for {hexText backing.toNat} ({size.name}); " ++
        "commit refused"⟩
      report .memoryTypeUnspecified
      return .advance
    else
      match ← changeEpt fun e => e.commit base size backing type with
      | .ok () =>
          report .success
          return .advance
      | .error fault =>
          log ⟨.warn, s!"EPT commit of {hexText base.toNat} failed: {fault.message}"⟩
          report (.ofFault fault)
          return .advance

/-- Removes the mapping of the page at RDX; without one, this succeeds. -/
def serveUncommit (size : Granularity) : Handler Outcome := do
  let base := (← getRegisters).rdx
  match ← changeEpt fun e => e.uncommit base size with
  | .ok () =>
      report .success
      return .advance
  | .error fault =>
      log ⟨.debug, s!"EPT uncommit of {hexText base.toNat} failed: {fault.message}"⟩
      report (.ofFault fault)
      return .advance

/-- Drops cached translations here and, where the policy asks for it, in a Hyper-V host. -/
def serveFlush : Handler Outcome := do
  let m ← get
  let pointer := m.ept.pointer
  emit (.invalidateEpt pointer)
  if m.policy.relayEptFlush ∧ m.hostIsHyperv then
    log (Hypercall.Note.flushingGuestPhysical pointer).record
    let answer ← callHost (m.relay.flushGuestPhysicalAddressSpace pointer)
    if ¬ answer.result.isSuccess then
      log ⟨.warn, s!"Host failed to flush address space {hexText pointer.toNat}: " ++
        answer.result.status.text⟩
  report .success
  return .advance

/-- Reports a memory type code in RDX. -/
def serveQuery : Handler Outcome := do
  let r ← getRegisters
  let base := r.rdx
  match (Granularity.ofSelector? r.r8).filter (·.Aligned base) with
  | none =>
      report .invalidParameter
      return .advance
  | some size =>
      let type ← resolveType base size
      log ⟨.trace, s!"Memory type of {hexText base.toNat} ({size.name}): {type.name}"⟩
      modifyRegisters fun r => { r with rdx := type.code.setWidth 64 }
      report (if type = .unspecified then .memoryTypeUnspecified else .success)
      return .advance

def serveKnown : GuestCall → Handler Outcome
  | .echo => do
      modifyRegisters fun r => { r with rax := r.rdx }
      return .advance
  | .turnOff => do
      log ⟨.info, "Guest requested VM shutdown"⟩
      report .success
      return .shutDown
  | .commit size => serveCommit size
  | .uncommit size => serveUncommit size
  | .flush => serveFlush
  | .queryMemoryType => serveQuery

/-- Serves a call by its code; a code that names no call is answered, never fatal. -/
def serve (code : BitVec 16) : Handler Outcome := do
  match ofCode? code with
  | none =>
      log ⟨.debug, s!"Siren call {hexText code.toNat} is not implemented"⟩
      report .notImplemented
      return .advance
  | some call =>
      let r ← getRegisters
      log ⟨.debug, s!"Siren call {call.name} RDX={hexText r.rdx.toNat} R8={hexText r.r8.toNat}"⟩
      serveKnown call

end NestedVisor.GuestCall
