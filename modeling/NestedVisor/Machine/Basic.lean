import NestedVisor.Caching.Resolution
import NestedVisor.Exit.Reason
import NestedVisor.Guest.Injection
import NestedVisor.Hypercall.Identity
import NestedVisor.Hypercall.Relay
import NestedVisor.Paging.Ept
import NestedVisor.Policy

/-!
The virtual CPU with everything that serving an exit can see or change.

A handler is a step on this state that may end in a fault; what it did before the fault stays
done.
-/

namespace NestedVisor

/-- Where a virtual CPU stands between guest and host. -/
inductive Phase where
  | awaitingExit
  | dispatching
  | resumed
  /-- Absorbing: nothing is dispatched any more. -/
  | terminating
  deriving DecidableEq, Repr

def Phase.name : Phase → String
  | .awaitingExit => "AwaitingExit"
  | .dispatching => "Dispatching"
  | .resumed => "Resumed"
  | .terminating => "Terminating"

/-- What leaves the core: effects on the processor and calls to the host. -/
inductive Event where
  | writeMsr (msr : Msr) (value : Word)
  | writeBackCaches
  /-- Cached translations derived from an EPT pointer are dropped. -/
  | invalidateEpt (pointer : Word)
  /-- The translation of one linear address is dropped. -/
  | invalidateAddress (vpid : BitVec 16) (address : Word)
  /-- The non-global translations of a guest are dropped. -/
  | invalidateContext (vpid : BitVec 16)
  | hostCall (call : Hypercall.Call)
  deriving DecidableEq, Repr

structure Machine where
  policy : Policy := {}
  /-- The host hypervisor, if there is one. -/
  identity : Option Hypercall.HostIdentity := none
  phase : Phase := .awaitingExit
  /-- How often the guest exited for a reason, until the counter wraps. -/
  counters : Exit.Reason → Word := fun _ => 0
  /-- The guest's CR8. -/
  taskPriority : BitVec 4 := 0
  registers : Registers := {}
  vmcs : Vmcs := {}
  processor : Processor
  width : WidthCache := none
  ept : Paging.Ept
  host : Hypercall.Host := {}
  /-- Everything that left the core, oldest first. -/
  trace : List Event := []
  /-- Every use of a field of the control structure that was tried, granted or not, oldest first. -/
  accesses : List Access := []
  journal : Journal := []

abbrev Handler := ExceptT Fault (StateM Machine)

/-- What becomes of the guest after its exit was served. -/
inductive Outcome where
  /-- The instruction was emulated: go on after it. -/
  | advance
  /-- Go on where the guest stands, as after an injection. -/
  | resume
  | shutDown
  deriving DecidableEq, Repr

def Outcome.name : Outcome → String
  | .advance => "IncrementRip"
  | .resume => "Continue"
  | .shutDown => "ExitHypervisor"

namespace Machine

/-- Whether the host implements the Hyper-V hypercall interface. -/
def hostIsHyperv (m : Machine) : Bool :=
  m.identity.any (·.isHyperv)

def exitCounts (m : Machine) (reason : Exit.Reason) : Nat :=
  (m.counters reason).toNat

def relay (m : Machine) : Hypercall.Relay :=
  ⟨m.policy.nestedHypercalls⟩

/-- A virtual CPU that awaits its first exit, after a look at the host. -/
def create (policy : Policy) (processor : Processor) (vmcs : Vmcs) (ept : Paging.Ept)
    (host : Hypercall.Host) : Machine :=
  let identity := Hypercall.HostIdentity.query processor
  let report :=
    match identity with
    | some host => host.record
    | none => ⟨.warn, "No host hypervisor detected; hypercalls will not be relayed"⟩
  { policy, processor, vmcs, ept, host, identity, journal := [report] }

/-! ## Steps of handlers -/

def log (r : Record) : Handler Unit :=
  modify fun m => { m with journal := m.journal ++ [r] }

def emit (e : Event) : Handler Unit :=
  modify fun m => { m with trace := m.trace ++ [e] }

def getRegisters : Handler Registers :=
  return (← get).registers

def modifyRegisters (f : Registers → Registers) : Handler Unit :=
  modify fun m => { m with registers := f m.registers }

/-- Notes the use of a field, whatever comes of it. -/
def tryAccess (access : Access) : Handler Unit :=
  modify fun m => { m with accesses := m.accesses ++ [access] }

def readField (field : VmcsField) : Handler Word := do
  tryAccess (.read field)
  (← get).vmcs.read field

def writeField (field : VmcsField) (value : Word) : Handler Unit := do
  tryAccess (.write field)
  let vmcs ← (← get).vmcs.write field value
  modify fun m => { m with vmcs }

/-- Writes fields in order up to the first failure. -/
def writeFields : List (VmcsField × Word) → Handler Unit
  | [] => return
  | (field, value) :: rest => do
      writeField field value
      writeFields rest

def readExitReason : Handler (BitVec 32) :=
  return (← readField .exitReason).setWidth 32

def readExitQualification : Handler Word :=
  readField .exitQualification

def readInstructionLength : Handler Word := do
  Vmcs.checkLength (← readField .exitInstructionLength)

def readMsr (msr : Msr) : Handler Word :=
  return (← get).processor.msr msr

def writeMsr (msr : Msr) (value : Word) : Handler Unit := do
  modify fun m => { m with processor := m.processor.writeMsr msr value }
  emit (.writeMsr msr value)

/-- The physical address width in force. -/
def fetchWidth : Handler Nat := do
  let m ← get
  let (width, cache, records) := m.width.fetch m.processor
  set { m with width := cache, journal := m.journal ++ records }
  return width

/-- Resolves a memory type with the range registers of the processor. -/
def resolveType (base : Word) (size : Granularity) : Handler MemoryType := do
  let m ← get
  let (type, cache, records) := Caching.resolveCached m.processor m.width base size
  set { m with width := cache, journal := m.journal ++ records }
  return type

/-- Issues a call to the host. -/
def callHost (call : Hypercall.Call) : Handler Hypercall.Answer := do
  let m ← get
  let (answer, host) := m.host.serve call
  set { m with host }
  emit (.hostCall call)
  return answer

/-- Carries a change of the page tables out. -/
def changeEpt (change : Paging.Ept → Paging.Change) : Handler (Except PagingFault Unit) := do
  let m ← get
  let c := change m.ept
  set { m with ept := c.ept, journal := m.journal ++ c.notes.map Paging.Note.record }
  return c.outcome

/-! ## Injection -/

/-- Queues `#GP(errorCode)`; the guest resumes at the instruction that caused it. -/
def injectGeneralProtection (errorCode : BitVec 32) : Handler Outcome := do
  log (generalProtectionRecord errorCode)
  writeFields (Vmcs.generalProtectionWrites errorCode)
  return .resume

/-- Queues `#UD`. -/
def injectUndefinedOpcode : Handler Outcome := do
  log undefinedOpcodeRecord
  writeFields Vmcs.undefinedOpcodeWrites
  return .resume

end Machine

end NestedVisor
