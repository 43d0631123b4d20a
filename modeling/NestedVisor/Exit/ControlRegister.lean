import NestedVisor.Exit.Qualification
import NestedVisor.Machine.Basic

/-!
Control-register accesses.

A value that the guest moves to CR0 or CR4 is checked as the processor would check it.  The
guest's view goes to the read shadow, and the real register gets the value adjusted by the
fixed bits of the processor.  VMXE stays set in the real CR4 and clear in the shadow.  CR8 is
kept in the virtual CPU.
-/

namespace NestedVisor.Exit

open Machine

/-! ## Bits -/

/-- The defined bits of CR0: 0 to 5, 16, 18 and 29 to 31. -/
def cr0Defined : Word := 0xE005003F

/-- The defined bits of CR4: 0 to 14 and 16 to 24. -/
def cr4Defined : Word := 0x1FF7FFF

def protectionBit : Nat := 0
def taskSwitchedBit : Nat := 3
def extensionTypeBit : Nat := 4
def notWriteThroughBit : Nat := 29
def cacheDisableBit : Nat := 30
def pagingBit : Nat := 31
def addressExtensionBit : Nat := 5
def vmxeBit : Nat := 13
def longModeActiveBit : Nat := 10
def noFlushBit : Nat := 63

/-- What a MOV to CR0 stores: undefined bits are dropped and ET is always set. -/
def cr0View (value : Word) : Word :=
  setFlag (value &&& cr0Defined) extensionTypeBit true

/-- The real CR0 behind a guest view. -/
def cr0Actual (view fixed0 fixed1 : Word) : Word :=
  (view ||| fixed0) &&& fixed1

/-- The real CR4 behind a guest view. -/
def cr4Actual (view fixed0 fixed1 : Word) : Word :=
  (setFlag view vmxeBit true ||| fixed0) &&& fixed1

/-- LMSW replaces the lowest four bits but never clears PE. -/
def lmswView (view : Word) (source : BitVec 16) : Word :=
  setField view 0 (source.extractLsb' 0 4 ||| (view.extractLsb' 0 1).setWidth 4)

/-! ## Records -/

def accessRecord (q : ControlQualification) (rip : Word) : Record :=
  ⟨.trace, s!"CR access: {q.access.name} CR{q.controlRegister.toNat} GPR={q.gpr.toNat} " ++
    s!"RIP={hexText rip.toNat}"⟩

def movRecord (register : Nat) (value : Word) : Record :=
  ⟨.trace, s!"MOV to CR{register}: {hexText value.toNat}"⟩

def storedRecord (register : Nat) (view actual : Word) : Record :=
  ⟨.trace, s!"CR{register} shadow={hexText view.toNat} actual={hexText actual.toNat}"⟩

/-! ## Writes -/

/-- A value that the processor would refuse. -/
def refuse (why : String) : Handler Outcome := do
  log ⟨.debug, s!"Control register write refused: {why}"⟩
  injectGeneralProtection 0

def inLongMode : Handler Bool :=
  return (← readField .efer).getLsbD longModeActiveBit

def storeCr0 (view : Word) : Handler Outcome := do
  writeField .cr0ReadShadow view
  let actual := cr0Actual view (← readMsr .vmxCr0Fixed0) (← readMsr .vmxCr0Fixed1)
  writeField .cr0 actual
  log (storedRecord 0 view actual)
  return .advance

def movToCr0 (value : Word) : Handler Outcome := do
  log (movRecord 0 value)
  let view := cr0View value
  if value.extractLsb' 32 32 ≠ 0 then
    refuse "CR0[63:32] set"
  else if view.getLsbD pagingBit ∧ ¬ view.getLsbD protectionBit then
    refuse "CR0.PG without CR0.PE"
  else if view.getLsbD notWriteThroughBit ∧ ¬ view.getLsbD cacheDisableBit then
    refuse "CR0.NW without CR0.CD"
  else if view.getLsbD pagingBit then
    storeCr0 view
  else if ← inLongMode then
    refuse "clearing CR0.PG in long mode"
  else
    storeCr0 view

def movToCr3 (value : Word) : Handler Outcome := do
  log (movRecord 3 value)
  let cr3 := setFlag value noFlushBit false
  let width ← fetchWidth
  if cr3 >>> width ≠ 0 then
    refuse "CR3 beyond the physical address width"
  else
    writeField .cr3 cr3
    if ¬ value.getLsbD noFlushBit then
      emit (.invalidateContext (← get).policy.vpid)
    return .advance

def storeCr4 (view : Word) : Handler Outcome := do
  writeField .cr4ReadShadow view
  let actual := cr4Actual view (← readMsr .vmxCr4Fixed0) (← readMsr .vmxCr4Fixed1)
  writeField .cr4 actual
  log (storedRecord 4 view actual)
  return .advance

def movToCr4 (value : Word) : Handler Outcome := do
  log (movRecord 4 value)
  if value &&& ~~~cr4Defined ≠ 0 then
    refuse "reserved CR4 bits"
  else if value.getLsbD vmxeBit then
    refuse "CR4.VMXE set"
  else if value.getLsbD addressExtensionBit then
    storeCr4 value
  else if ← inLongMode then
    refuse "clearing CR4.PAE in long mode"
  else
    storeCr4 value

def movToCr8 (value : Word) : Handler Outcome := do
  log (movRecord 8 value)
  if value &&& ~~~0xF ≠ 0 then
    refuse "CR8[63:4] set"
  else
    modify fun m => { m with taskPriority := value.setWidth 4 }
    return .advance

def clearTaskSwitched : Handler Outcome := do
  storeCr0 (setFlag (← readField .cr0ReadShadow) taskSwitchedBit false)

def loadMachineStatus (source : BitVec 16) : Handler Outcome := do
  log ⟨.trace, s!"LMSW {hexText source.toNat}"⟩
  storeCr0 (lmswView (← readField .cr0ReadShadow) source)

/-! ## Reads -/

/-- Writes a register; RSP also lives in the control structure, from which it is reloaded. -/
def writeGpr (index value : Word) : Handler Outcome := do
  let g ← Registers.gprAt index
  modifyRegisters fun r => r.set g value
  if g = .rsp then
    writeField .rsp value
  return .advance

def movFromField (index : Word) (field : VmcsField) : Handler Outcome := do
  let value ← readField field
  log ⟨.trace, s!"MOV from control register field {hexText field.toNat}: " ++
    s!"{hexText value.toNat} -> GPR{index.toNat}"⟩
  writeGpr index value

/-! ## The access -/

def readGpr (index : Word) : Handler Word := do
  let g ← Registers.gprAt index
  return (← getRegisters).get g

def serveControlRegister : Handler Outcome := do
  let q : ControlQualification := ⟨← readExitQualification⟩
  let gpr := q.gpr.setWidth 64
  log (accessRecord q (← getRegisters).rip)
  match q.access, q.controlRegister.toNat with
  | .movToCr, 0 => movToCr0 (← readGpr gpr)
  | .movToCr, 3 => movToCr3 (← readGpr gpr)
  | .movToCr, 4 => movToCr4 (← readGpr gpr)
  | .movToCr, 8 => movToCr8 (← readGpr gpr)
  | .movFromCr, 0 => movFromField gpr .cr0ReadShadow
  | .movFromCr, 3 => movFromField gpr .cr3
  | .movFromCr, 4 => movFromField gpr .cr4ReadShadow
  | .movFromCr, 8 => writeGpr gpr ((← get).taskPriority.setWidth 64)
  | .clts, _ => clearTaskSwitched
  | .lmsw, _ => loadMachineStatus q.lmswSource
  | _, _ =>
      log ⟨.warn, s!"Unhandled control register access {hexText q.word.toNat}"⟩
      throw (.unknownControlRegisterAccess q.word)

end NestedVisor.Exit
