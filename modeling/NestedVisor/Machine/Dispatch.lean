import NestedVisor.Exit.Service

/-!
The life of a virtual CPU: exits are dispatched one by one until one ends the machine.

```text
awaitingExit → dispatching → resumed → awaitingExit
                           ↘ terminating
```
-/

namespace NestedVisor.Machine

open Exit

/-- Loads the registers that the processor keeps in the control structure. -/
def loadRegisters : Handler Unit := do
  let rip ← readField .rip
  modifyRegisters fun r => { r with rip }
  let rsp ← readField .rsp
  modifyRegisters fun r => { r with rsp }
  let rflags ← readField .rflags
  modifyRegisters fun r => { r with rflags }

def countExit (reason : Reason) : Handler Unit :=
  modify fun m =>
    { m with counters := fun r => if r = reason then m.counters r + 1 else m.counters r }

/-- Moves the guest past the instruction that exited. -/
def advanceRip : Handler Unit := do
  let length ← readInstructionLength
  modifyRegisters fun r => { r with rip := r.rip + length }
  writeField .rip (← getRegisters).rip

/-- Serves the exit that the control structure reports. -/
def serveExit : Handler Outcome := do
  let field ← readExitReason
  loadRegisters
  match Reason.ofField? (field.setWidth 64) with
  | none => throw (.unhandledExit field)
  | some reason =>
      countExit reason
      log ⟨.trace, s!"VM exit {reason.name} at RIP {hexText (← getRegisters).rip.toNat}"⟩
      let outcome ← serve reason field
      if outcome = .advance then
        advanceRip
      return outcome

/-- Handles one exit.  The answer says whether the guest goes on. -/
def dispatch (m : Machine) : Bool × Machine :=
  if m.phase = .terminating then (false, m)
  else
    let (result, m) := serveExit.run.run { m with phase := .dispatching }
    match result with
    | .ok .shutDown =>
        let report : Record :=
          ⟨.info, s!"Guest requested teardown at RIP {hexText m.registers.rip.toNat}"⟩
        (false, { m with phase := .terminating, journal := m.journal ++ [report] })
    | .ok _ => (true, { m with phase := .resumed })
    | .error fault =>
        let report : Record := ⟨.error, s!"Tearing down the VM: {fault.message}"⟩
        (false, { m with phase := .terminating, journal := m.journal ++ [report] })

/-- Marks the VM entry that follows a dispatch. -/
def entered (m : Machine) : Machine :=
  if m.phase = .resumed then { m with phase := .awaitingExit } else m

end NestedVisor.Machine
