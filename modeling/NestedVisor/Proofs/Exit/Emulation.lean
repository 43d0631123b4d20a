import NestedVisor.Proofs.Machine.Run

/-!
# What the service of an exit can do

`Emulates` has one rule for each way in which the service of an exit can carry an instruction
out, with the checks that it passed.  The other relations say what is left behind when an
exception is queued instead, when the guest turns the machine off, and when a fault stops the
service halfway.  `Behaves` joins them.  What every service may add to, the log, the cache of the
address width and the record of accesses, is left out of the rules.
-/

namespace NestedVisor

open Exit

namespace Exit.ControlQualification

def operand (q : ControlQualification) : Gpr :=
  (Gpr.ofIndex? q.gpr.toNat).get (Gpr.ofIndex?_toNat_isSome q.gpr)

theorem gprAt_gpr (q : ControlQualification) :
    Registers.gprAt (q.gpr.setWidth 64) = .ok q.operand := by
  have : (q.gpr.setWidth 64 : Word).toNat = q.gpr.toNat := by
    rw [BitVec.toNat_setWidth]
    have := q.gpr.isLt
    omega
  rw [Registers.gprAt, this, ← Option.some_get (Gpr.ofIndex?_toNat_isSome q.gpr)]
  rfl

end Exit.ControlQualification

def Registers.ecx (r : Registers) : Msr :=
  r.rcx.setWidth 32

def GuestCall.Status.ofOutcome : Except PagingFault Unit → Status
  | .ok () => .success
  | .error fault => .ofFault fault

/-- What a service adds to on its way. -/
structure Notes where
  journal : Journal
  width : WidthCache
  accesses : List Access

def Notes.trying (notes : Notes) (access : Access) : Notes :=
  { notes with accesses := notes.accesses ++ [access] }

namespace Machine

variable (m : Machine)

/-! ## What the service reads -/

def addressWidth : Nat :=
  (m.width.fetch m.processor).1

/-- A cache that is as it was, or holds the width in force. -/
def Knows (width : WidthCache) : Prop :=
  width = m.width ∨ width = some m.addressWidth

def typeOf (base : Word) (size : Granularity) : MemoryType :=
  Caching.resolve m.processor m.addressWidth base size

def controlQualification : ControlQualification :=
  ⟨m.vmcs.get .exitQualification⟩

/-- The value that a MOV to a control register moves. -/
def operand : Word :=
  m.registers.get m.controlQualification.operand

/-- The guest's view of a control register. -/
def controlView? : Nat → Option Word
  | 0 => some (m.vmcs.get .cr0ReadShadow)
  | 3 => some (m.vmcs.get .cr3)
  | 4 => some (m.vmcs.get .cr4ReadShadow)
  | 8 => some (m.taskPriority.setWidth 64)
  | _ => none

def guestMsr? (msr : Msr) : Option Word :=
  match classify msr with
  | .hardware _ => some (m.processor.msr msr)
  | .vmcs field => some (m.vmcs.get field)
  | .featureControl => some featureControlValue
  | .denied => none

def cpuidAnswer : CpuidLeaf :=
  maskLeaf (m.registers.rax.setWidth 32)
    (m.processor.cpuid (m.registers.rax.setWidth 32) (m.registers.rcx.setWidth 32))

def guestCall? : Option GuestCall :=
  GuestCall.ofCode? (m.registers.rcx.extractLsb' 0 16)

def inLongMode : Bool :=
  (m.vmcs.get .efer).getLsbD longModeActiveBit

/-! ## What it changes -/

def notes : Notes :=
  ⟨m.journal, m.width, m.accesses⟩

def noting (notes : Notes) : Machine :=
  { m with journal := notes.journal, width := notes.width, accesses := notes.accesses }

@[simp] theorem noting_notes : m.noting m.notes = m :=
  rfl

def withField (field : VmcsField) (value : Word) : Machine :=
  { m with vmcs := m.vmcs.put field value }

def withFields (writes : List (VmcsField × Word)) : Machine :=
  writes.foldl (fun m w => m.withField w.1 w.2) m

def withCr0 (view : Word) : Machine :=
  (m.withField .cr0ReadShadow view).withField .cr0
    (cr0Actual view (m.processor.msr .vmxCr0Fixed0) (m.processor.msr .vmxCr0Fixed1))

def withCr4 (view : Word) : Machine :=
  (m.withField .cr4ReadShadow view).withField .cr4
    (cr4Actual view (m.processor.msr .vmxCr4Fixed0) (m.processor.msr .vmxCr4Fixed1))

def withRegisters (registers : Registers) : Machine :=
  { m with registers }

/-- RSP is also a field of the control structure. -/
def withGpr (g : Gpr) (value : Word) : Machine :=
  (if g = .rsp then m.withField .rsp value else m).withRegisters (m.registers.set g value)

def withRax (value : Word) : Machine :=
  m.withRegisters { m.registers with rax := value }

def withChange (c : Paging.Change) : Machine :=
  { m.withRax (GuestCall.Status.ofOutcome c.outcome).code with ept := c.ept }

def withEvent (event : Event) : Machine :=
  { m with trace := m.trace ++ [event] }

def withHostCall (call : Hypercall.Call) : Machine :=
  { m.withEvent (.hostCall call) with host := (m.host.serve call).2 }

/-- A hypercall with the blocks that the guest names. -/
def forwarded (parameters : Hypercall.Parameters) : Hypercall.Call :=
  m.relay.forward ⟨m.registers.rcx⟩ parameters

def hostResult (call : Hypercall.Call) : Word :=
  (m.host.serve call).1.result.word

end Machine

namespace Exit

variable (m : Machine)

/-! ## Checks -/

/-- What a processor outside long mode accepts in CR0. -/
structure Cr0Valid (value : Word) : Prop where
  high : value.extractLsb' 32 32 = 0
  paging : (cr0View value).getLsbD pagingBit → (cr0View value).getLsbD protectionBit
  cache : (cr0View value).getLsbD notWriteThroughBit → (cr0View value).getLsbD cacheDisableBit

/-- What a processor outside long mode accepts in CR4, save VMXE. -/
structure Cr4Valid (value : Word) : Prop where
  defined : value &&& ~~~cr4Defined = 0
  vmxe : value.getLsbD vmxeBit = false

/-- Why a marked call is answered with a status and nothing else. -/
inductive Refuses : Option GuestCall → GuestCall.Status → Prop
  | unknown : Refuses none .notImplemented
  | misaligned {size : Granularity}
      (h : ¬ size.Aligned m.registers.rdx ∨ ¬ size.Aligned m.registers.r8) :
      Refuses (some (.commit size)) .invalidParameter
  | untyped {size : Granularity} (h : m.typeOf m.registers.r8 size = .unspecified) :
      Refuses (some (.commit size)) .memoryTypeUnspecified
  | noPage
      (h : (Granularity.ofSelector? m.registers.r8).filter (·.Aligned m.registers.rdx) = none) :
      Refuses (some .queryMemoryType) .invalidParameter

/-! ## The emulation of one instruction -/

inductive Emulates : Service → Machine → Prop
  | cpuid :
      Emulates .cpuid (m.withRegisters { m.registers with
        rax := m.cpuidAnswer.eax.setWidth 64
        rbx := m.cpuidAnswer.ebx.setWidth 64
        rcx := m.cpuidAnswer.ecx.setWidth 64
        rdx := m.cpuidAnswer.edx.setWidth 64 })
  | halted (policy : m.policy.halt = .trap) : Emulates .halt m
  | parked (policy : m.policy.halt = .idle) :
      Emulates .halt (m.withField .activityState activityHlt)
  | flushSkipped (policy : m.policy.cache = .emulate) : Emulates .cacheFlush m
  | cachesFlushed (policy : m.policy.cache = .writeBackInvalidate) :
      Emulates .cacheFlush (m.withEvent .writeBackCaches)
  | invlpg :
      Emulates .invlpg
        (m.withEvent (.invalidateAddress m.policy.vpid (m.vmcs.get .exitQualification)))
  -- model-specific registers
  | rdmsr {value : Word} (found : m.guestMsr? m.registers.ecx = some value) :
      Emulates (.msr .read) (m.withRegisters (m.registers.withEdxEax value))
  | wrmsr (home : classify m.registers.ecx = .hardware true)
      (accepted : accepts m.registers.ecx m.registers.edxEax = true) :
      Emulates (.msr .write)
        { m.withEvent (.writeMsr m.registers.ecx m.registers.edxEax) with
          processor := m.processor.writeMsr m.registers.ecx m.registers.edxEax }
  | wrmsrField {field : VmcsField} (home : classify m.registers.ecx = .vmcs field)
      (accepted : accepts m.registers.ecx m.registers.edxEax = true) :
      Emulates (.msr .write) (m.withField field m.registers.edxEax)
  -- control registers
  | movToCr0 (access : m.controlQualification.access = .movToCr)
      (register : m.controlQualification.controlRegister.toNat = 0) (valid : Cr0Valid m.operand)
      (mode : (cr0View m.operand).getLsbD pagingBit ∨ m.inLongMode = false) :
      Emulates .controlRegister (m.withCr0 (cr0View m.operand))
  | movToCr3 (access : m.controlQualification.access = .movToCr)
      (register : m.controlQualification.controlRegister.toNat = 3)
      (width : setFlag m.operand noFlushBit false >>> m.addressWidth = 0) :
      Emulates .controlRegister
        (if m.operand.getLsbD noFlushBit then
          m.withField .cr3 (setFlag m.operand noFlushBit false)
        else
          (m.withField .cr3 (setFlag m.operand noFlushBit false)).withEvent
            (.invalidateContext m.policy.vpid))
  | movToCr4 (access : m.controlQualification.access = .movToCr)
      (register : m.controlQualification.controlRegister.toNat = 4) (valid : Cr4Valid m.operand)
      (mode : m.operand.getLsbD addressExtensionBit ∨ m.inLongMode = false) :
      Emulates .controlRegister (m.withCr4 m.operand)
  | movToCr8 (access : m.controlQualification.access = .movToCr)
      (register : m.controlQualification.controlRegister.toNat = 8)
      (small : m.operand &&& ~~~0xF = 0) :
      Emulates .controlRegister { m with taskPriority := m.operand.setWidth 4 }
  | movFrom {value : Word} (access : m.controlQualification.access = .movFromCr)
      (view : m.controlView? m.controlQualification.controlRegister.toNat = some value) :
      Emulates .controlRegister (m.withGpr m.controlQualification.operand value)
  | clts (access : m.controlQualification.access = .clts) :
      Emulates .controlRegister
        (m.withCr0 (setFlag (m.vmcs.get .cr0ReadShadow) taskSwitchedBit false))
  | lmsw (access : m.controlQualification.access = .lmsw) :
      Emulates .controlRegister
        (m.withCr0 (lmswView (m.vmcs.get .cr0ReadShadow) m.controlQualification.lmswSource))
  -- calls to this core
  | refused {status : GuestCall.Status} (marked : GuestCall.Marked m.registers.rcx)
      (refuses : Refuses m m.guestCall? status) : Emulates .vmcall (m.withRax status.code)
  | echo (marked : GuestCall.Marked m.registers.rcx) (named : m.guestCall? = some .echo) :
      Emulates .vmcall (m.withRax m.registers.rdx)
  | commit {size : Granularity} (marked : GuestCall.Marked m.registers.rcx)
      (named : m.guestCall? = some (.commit size))
      (aligned : size.Aligned m.registers.rdx ∧ size.Aligned m.registers.r8)
      (typed : m.typeOf m.registers.r8 size ≠ .unspecified) :
      Emulates .vmcall (m.withChange
        (m.ept.commit m.registers.rdx size m.registers.r8 (m.typeOf m.registers.r8 size)))
  | uncommit {size : Granularity} (marked : GuestCall.Marked m.registers.rcx)
      (named : m.guestCall? = some (.uncommit size)) :
      Emulates .vmcall (m.withChange (m.ept.uncommit m.registers.rdx size))
  | flush (marked : GuestCall.Marked m.registers.rcx) (named : m.guestCall? = some .flush)
      (alone : ¬ (m.policy.relayEptFlush ∧ m.hostIsHyperv)) :
      Emulates .vmcall ((m.withEvent (.invalidateEpt m.ept.pointer)).withRax
        GuestCall.Status.success.code)
  | flushRelayed (marked : GuestCall.Marked m.registers.rcx)
      (named : m.guestCall? = some .flush) (relayed : m.policy.relayEptFlush ∧ m.hostIsHyperv) :
      Emulates .vmcall
        (((m.withEvent (.invalidateEpt m.ept.pointer)).withHostCall
          (m.relay.flushGuestPhysicalAddressSpace m.ept.pointer)).withRax
            GuestCall.Status.success.code)
  | query {size : Granularity} (marked : GuestCall.Marked m.registers.rcx)
      (named : m.guestCall? = some .queryMemoryType)
      (page : (Granularity.ofSelector? m.registers.r8).filter (·.Aligned m.registers.rdx) =
        some size) :
      Emulates .vmcall (m.withRegisters { m.registers with
        rdx := (m.typeOf m.registers.rdx size).code.setWidth 64
        rax := GuestCall.Status.code
          (if m.typeOf m.registers.rdx size = .unspecified then .memoryTypeUnspecified
            else .success) })
  -- calls to the host
  | noHost (foreign : ¬ GuestCall.Marked m.registers.rcx) (absent : ¬ m.hostIsHyperv) :
      Emulates .vmcall (m.withRax (Hypercall.Result.ofStatus .invalidHypercallCode 0).word)
  | notMapped {status : Hypercall.Status} (foreign : ¬ GuestCall.Marked m.registers.rcx)
      (present : m.hostIsHyperv) (slow : (⟨m.registers.rcx⟩ : Hypercall.Input).fast = false)
      (blocks : blockAddresses m.ept m.registers.rdx m.registers.r8 = .error status) :
      Emulates .vmcall (m.withRax (Hypercall.Result.ofStatus status 0).word)
  | memoryCall {input output : Word} (foreign : ¬ GuestCall.Marked m.registers.rcx)
      (present : m.hostIsHyperv) (slow : (⟨m.registers.rcx⟩ : Hypercall.Input).fast = false)
      (blocks : blockAddresses m.ept m.registers.rdx m.registers.r8 = .ok (input, output)) :
      Emulates .vmcall ((m.withHostCall (m.forwarded (.memory input output))).withRax
        (m.hostResult (m.forwarded (.memory input output))))
  | fastCall {block : FastBlock} (foreign : ¬ GuestCall.Marked m.registers.rcx)
      (present : m.hostIsHyperv) (fast : (⟨m.registers.rcx⟩ : Hypercall.Input).fast = true)
      (answered : (m.host.serve (m.forwarded (.fast m.registers.fastBlock))).1.parameters =
        .fast block) :
      Emulates .vmcall
        (((m.withHostCall (m.forwarded (.fast m.registers.fastBlock))).withRegisters
          (m.registers.withFastBlock block)).withRax
            (m.hostResult (m.forwarded (.fast m.registers.fastBlock))))

/-! ## Other ends -/

/-- An exception waits for the next entry, and nothing else happened. -/
inductive Injects : Machine → Prop
  | generalProtection : Injects (m.withFields (Vmcs.generalProtectionWrites 0))
  | undefinedOpcode : Injects (m.withFields Vmcs.undefinedOpcodeWrites)

/-- What a fault leaves of a service: nothing, or the first of the two places it writes to. -/
inductive Stops : Machine → Prop
  | untouched : Stops m
  | halfWritten {field : VmcsField} (value : Word)
      (first : field ∈ [VmcsField.entryErrorCode, .cr0ReadShadow, .cr4ReadShadow]) :
      Stops (m.withField field value)
  | stackPointer (value : Word) : Stops (m.withRegisters (m.registers.set .rsp value))

/-- What the service leaves behind, by its result. -/
inductive Behaves (service : Service) : Except Fault Outcome → Machine → Prop
  | advanced {core : Machine} (notes : Notes) (deed : Emulates m service core)
      (known : m.Knows notes.width) : Behaves service (.ok .advance) (core.noting notes)
  | injected {core : Machine} (notes : Notes) (event : Injects m core)
      (known : m.Knows notes.width) : Behaves service (.ok .resume) (core.noting notes)
  | turnedOff (notes : Notes) (marked : GuestCall.Marked m.registers.rcx)
      (named : m.guestCall? = some .turnOff) (known : m.Knows notes.width) :
      Behaves service (.ok .shutDown) ((m.withRax GuestCall.Status.success.code).noting notes)
  | stopped {core : Machine} {fault : Fault} (notes : Notes) (rest : Stops m core)
      (known : m.Knows notes.width) : Behaves service (.error fault) (core.noting notes)

end Exit

end NestedVisor
