import NestedVisor.Proofs.GuestCall.Commit
import NestedVisor.Proofs.Paging.Rollback

/-!
# Calls to this core

A VMCALL with the signature is answered in RAX whatever its code and its arguments are, and it
touches only what its code names.  The guest goes on after all of them but the one that turns the
machine off.
-/

namespace NestedVisor

open Exit

namespace Machine

/-! ## What a call names -/

section

variable (m : Machine)

/-- The size of the page that the guest asks the memory type of. -/
def queriedPage? : Option Granularity :=
  if m.guestCall? = some .queryMemoryType then
    (Granularity.ofSelector? m.registers.r8).filter (·.Aligned m.registers.rdx)
  else none

/-- What the guest finds in RDX. -/
def answeredRdx : Word :=
  match m.queriedPage? with
  | some size => (m.typeOf m.registers.rdx size).code.setWidth 64
  | none => m.registers.rdx

/-- The status of a question for the memory type of a page. -/
def queryStatus : GuestCall.Status :=
  match (Granularity.ofSelector? m.registers.r8).filter (·.Aligned m.registers.rdx) with
  | some size =>
      if m.typeOf m.registers.rdx size = .unspecified then .memoryTypeUnspecified else .success
  | none => .invalidParameter

/-- What the host is asked for. -/
def flushCalls : List Hypercall.Call :=
  if m.guestCall? = some .flush ∧ m.policy.relayEptFlush ∧ m.hostIsHyperv then
    [m.relay.flushGuestPhysicalAddressSpace m.ept.pointer]
  else []

def flushEvents : List Event :=
  if m.guestCall? = some .flush then
    .invalidateEpt m.ept.pointer :: m.flushCalls.map .hostCall
  else []

/-- The call is to commit or to uncommit a page. -/
def NamesTables : Prop :=
  ∃ size, m.guestCall? = some (.commit size) ∨ m.guestCall? = some (.uncommit size)

/-- What a status other than that of an echo says about its call. -/
structure Reports (call : Option GuestCall) (status : GuestCall.Status) : Prop where
  notImplemented : status = .notImplemented ↔ call = none
  flush : call = some .flush → status = .success
  commit : ∀ size, call = some (.commit size) → size.Aligned m.registers.rdx →
    size.Aligned m.registers.r8 → m.registers.rdx.toNat < Paging.guestPhysicalLimit →
      status ≠ .invalidParameter ∧
        (status = .memoryTypeUnspecified ↔ m.typeOf m.registers.r8 size = .unspecified)
  uncommit : ∀ size, call = some (.uncommit size) → size.Aligned m.registers.rdx →
    m.registers.rdx.toNat < Paging.guestPhysicalLimit → status = .success
  query : call = some .queryMemoryType → status = m.queryStatus

end

variable {m : Machine}

theorem answeredRdx_of_none (none : m.queriedPage? = none) :
    m.answeredRdx = m.registers.rdx := by
  rw [answeredRdx, none]

theorem queriedPage?_of_named {call : GuestCall} (named : m.guestCall? = some call)
    (other : call ≠ .queryMemoryType) : m.queriedPage? = none :=
  if_neg fun h => other (Option.some.inj (named.symm.trans h))

theorem flushCalls_of_ne (other : m.guestCall? ≠ some .flush) : m.flushCalls = [] :=
  if_neg fun h => other h.1

theorem flushEvents_of_ne (other : m.guestCall? ≠ some .flush) : m.flushEvents = [] :=
  if_neg other

end Machine

/-! ## Statuses -/

namespace GuestCall.Status

open Paging

theorem ofOutcome_ne_notImplemented (outcome : Except PagingFault Unit) :
    ofOutcome outcome ≠ .notImplemented := by
  cases outcome with
  | ok => nofun
  | error fault => cases fault <;> nofun

/-- After its checks a commit can only run out of pages or meet a page in its way. -/
theorem ofOutcome_commit {e : Ept} {base backing : Word} {size : Granularity} {type : MemoryType}
    (h : Acceptable base size backing type) :
    ofOutcome (e.commit base size backing type).outcome ≠ .invalidParameter ∧
      ofOutcome (e.commit base size backing type).outcome ≠ .memoryTypeUnspecified := by
  rw [Ept.outcome_commit h]
  cases (e.insertion base size backing type).outcome with
  | ok => exact ⟨nofun, nofun⟩
  | error obstacle => cases obstacle <;> exact ⟨nofun, nofun⟩

end GuestCall.Status

namespace Exit

open Machine

variable {m core : Machine}

theorem Refuses.ne_flush {call : Option GuestCall} {status : GuestCall.Status}
    (refuses : Refuses m call status) : call ≠ some .flush := by
  cases refuses <;> nofun

theorem Refuses.queriedPage? {status : GuestCall.Status}
    (refuses : Refuses m m.guestCall? status) : m.queriedPage? = none := by
  rw [Machine.queriedPage?]
  generalize m.guestCall? = call at refuses
  cases refuses with
  | noPage h => rw [if_pos rfl, h]
  | _ => exact if_neg nofun

theorem Refuses.reports {call : Option GuestCall} {status : GuestCall.Status}
    (refuses : Refuses m call status) : m.Reports call status := by
  cases refuses with
  | unknown => exact ⟨by simp, nofun, nofun, nofun, nofun⟩
  | @misaligned size h =>
      refine ⟨by simp, nofun, fun size' same base backing => ?_, nofun, nofun⟩
      cases same
      exact absurd h (by simp [base, backing])
  | @untyped size h =>
      refine ⟨by simp, nofun, fun size' same _ _ _ => ?_, nofun, nofun⟩
      cases same
      exact ⟨nofun, by simp [h]⟩
  | noPage h =>
      refine ⟨by simp, nofun, nofun, nofun, fun _ => ?_⟩
      rw [queryStatus, h]

theorem reports_commit {size : Granularity} (backing : size.Aligned m.registers.r8)
    (typed : m.typeOf m.registers.r8 size ≠ .unspecified) :
    m.Reports (some (.commit size)) (.ofOutcome (m.ept.commit m.registers.rdx size m.registers.r8
      (m.typeOf m.registers.r8 size)).outcome) where
  notImplemented := iff_of_false (GuestCall.Status.ofOutcome_ne_notImplemented _) nofun
  flush := nofun
  commit := by
    intro size' same base _ inRange
    cases same
    obtain ⟨valid, single⟩ := GuestCall.Status.ofOutcome_commit (e := m.ept)
      ⟨base, backing, inRange, typed⟩
    exact ⟨valid, iff_of_false single typed⟩
  uncommit := nofun
  query := nofun

theorem reports_uncommit (size : Granularity) :
    m.Reports (some (.uncommit size))
      (.ofOutcome (m.ept.uncommit m.registers.rdx size).outcome) where
  notImplemented := iff_of_false (GuestCall.Status.ofOutcome_ne_notImplemented _) nofun
  flush := nofun
  commit := nofun
  uncommit := by
    intro size' same base inRange
    cases same
    rw [Paging.Ept.outcome_uncommit base inRange]
    rfl
  query := nofun

/-! ## The emulation of a call -/

/-- A call leaves the control structure and the processor alone. -/
theorem Emulates.frame_of_vmcall (deed : Emulates m .vmcall core) :
    core.vmcs = m.vmcs ∧ core.processor = m.processor ∧ core.taskPriority = m.taskPriority := by
  cases deed <;> exact ⟨rfl, rfl, rfl⟩

section Marked

variable (deed : Emulates m .vmcall core) (marked : GuestCall.Marked m.registers.rcx)

include deed marked

theorem Emulates.registers_of_marked :
    ∃ rax, core.registers = { m.registers with rax, rdx := m.answeredRdx } := by
  have kept (rax : Word) (none : m.queriedPage? = none) :
      ∃ rax', { m.registers with rax } = { m.registers with rax := rax', rdx := m.answeredRdx } :=
    ⟨rax, by rw [answeredRdx_of_none none]⟩
  cases deed with
  | refused _ refuses => exact kept _ refuses.queriedPage?
  | echo _ named => exact kept _ (queriedPage?_of_named named nofun)
  | commit _ named => exact kept _ (queriedPage?_of_named named nofun)
  | uncommit _ named => exact kept _ (queriedPage?_of_named named nofun)
  | flush _ named => exact kept _ (queriedPage?_of_named named nofun)
  | flushRelayed _ named => exact kept _ (queriedPage?_of_named named nofun)
  | @query size _ named page =>
      have queried : m.queriedPage? = some size := by rw [Machine.queriedPage?, if_pos named, page]
      rw [answeredRdx, queried]
      exact ⟨_, rfl⟩
  | _ => contradiction

theorem Emulates.effects_of_marked : core.trace = m.trace ++ m.flushEvents ∧
    core.host = m.flushCalls.foldl (fun host call => (host.serve call).2) m.host := by
  have quiet (other : m.guestCall? ≠ some .flush) : m.trace = m.trace ++ m.flushEvents ∧
      m.host = m.flushCalls.foldl (fun host call => (host.serve call).2) m.host := by
    rw [flushEvents_of_ne other, flushCalls_of_ne other, List.append_nil]
    exact ⟨rfl, rfl⟩
  cases deed with
  | refused _ refuses => exact quiet refuses.ne_flush
  | echo _ named => exact quiet (by simp [named])
  | commit _ named => exact quiet (by simp [named])
  | uncommit _ named => exact quiet (by simp [named])
  | query _ named => exact quiet (by simp [named])
  | flush _ named alone =>
      rw [flushEvents, if_pos named, flushCalls, if_neg fun h => alone h.2]
      exact ⟨rfl, rfl⟩
  | flushRelayed _ named relayed =>
      rw [flushEvents, if_pos named, flushCalls, if_pos ⟨named, relayed⟩]
      exact ⟨List.append_assoc .., rfl⟩
  | _ => contradiction

/-- An echo is answered with its argument, and every other call with a status. -/
theorem Emulates.rax_of_marked :
    m.guestCall? = some .echo ∧ core.registers.rax = m.registers.rdx ∨
      m.guestCall? ≠ some .echo ∧
        ∃ status, core.registers.rax = status.code ∧ m.Reports m.guestCall? status := by
  have reported {call : GuestCall} {status : GuestCall.Status} (named : m.guestCall? = some call)
      (rax : core.registers.rax = status.code) (other : call ≠ .echo)
      (reports : m.Reports (some call) status) :
      m.guestCall? ≠ some .echo ∧
        ∃ status, core.registers.rax = status.code ∧ m.Reports m.guestCall? status := by
    rw [named]
    exact ⟨fun h => other (Option.some.inj h), status, rax, reports⟩
  have flushed : m.Reports (some .flush) .success := ⟨by simp, fun _ => rfl, nofun, nofun, nofun⟩
  cases deed with
  | refused _ refuses =>
      refine .inr ⟨fun h => ?_, _, rfl, refuses.reports⟩
      rw [h] at refuses
      cases refuses
  | echo _ named => exact .inl ⟨named, rfl⟩
  | commit _ named aligned typed =>
      exact .inr (reported named rfl nofun (reports_commit aligned.2 typed))
  | uncommit _ named => exact .inr (reported named rfl nofun (reports_uncommit _))
  | flush _ named => exact .inr (reported named rfl nofun flushed)
  | flushRelayed _ named => exact .inr (reported named rfl nofun flushed)
  | query _ named page =>
      refine .inr (reported named rfl nofun ⟨?_, nofun, nofun, nofun, fun _ => ?_⟩)
      · split <;> simp
      · rw [queryStatus, page]
  | _ => contradiction

end Marked

end Exit

namespace Machine

variable {m : Machine}

/-! ## The exit -/

/--
The guest goes on after a call that was answered in RAX, and no more was touched than the call
names.
-/
structure Answered (m m' : Machine) : Prop where
  advanced : Advanced m m'
  registers : ∃ rax, m'.registers =
    { m.registers with
      rip := m.vmcs.get .rip + m.instructionLength
      rsp := m.vmcs.get .rsp
      rflags := m.vmcs.get .rflags
      rax
      rdx := m.answeredRdx }
  rax : m.guestCall? = some .echo ∧ m'.registers.rax = m.registers.rdx ∨
    m.guestCall? ≠ some .echo ∧
      ∃ status, m'.registers.rax = status.code ∧ m.Reports m.guestCall? status
  vmcs : m'.vmcs = m.vmcs.put .rip (m.vmcs.get .rip + m.instructionLength)
  tables : ¬ m.NamesTables → m'.ept = m.ept
  translation : ∀ a, m'.ept.translate? a ≠ m.ept.translate? a →
    m.NamesTables ∧ m'.registers.rax = GuestCall.Status.success.code
  trace : m'.trace = m.trace ++ m.flushEvents
  host : m'.host = m.flushCalls.foldl (fun host call => (host.serve call).2) m.host
  processor : m'.processor = m.processor
  taskPriority : m'.taskPriority = m.taskPriority

theorem namesTables_of_changes {change : Paging.Change} (changes : Changes m change) :
    m.NamesTables := by
  cases changes with
  | commit named => exact ⟨_, .inl named⟩
  | uncommit named => exact ⟨_, .inr named⟩

theorem outcome_of_changes {change : Paging.Change} (changes : Changes m change) {a : Word}
    (moved : change.ept.translate? a ≠ m.ept.translate? a) : change.outcome = .ok () := by
  cases outcome : change.outcome with
  | ok => rfl
  | error fault =>
      refine absurd ?_ moved
      cases changes with
      | commit => exact Paging.Ept.translate?_of_error (r := .commit ..) a outcome
      | uncommit => exact Paging.Ept.translate?_of_error (r := .uncommit ..) a outcome

theorem Reports.of_captured {reason : Reason} {call : Option GuestCall}
    {status : GuestCall.Status} (reports : (m.begun.captured reason).Reports call status) :
    m.Reports call status :=
  ⟨reports.notImplemented, reports.flush, reports.commit, reports.uncommit, reports.query⟩

theorem answered_of_emulates {core : Machine} {notes : Notes} {phase : Phase}
    {journal : Journal} (valid : m.ValidLength)
    (deed : Emulates (m.begun.captured .vmcall) .vmcall core)
    (marked : GuestCall.Marked m.registers.rcx) :
    Answered m { (core.noting notes).moved m.instructionLength with phase, journal } := by
  obtain ⟨vmcs, processor, taskPriority⟩ := deed.frame_of_vmcall
  obtain ⟨trace, host⟩ := deed.effects_of_marked marked
  obtain ⟨rax, registers⟩ := deed.registers_of_marked marked
  have rip : core.registers.rip = m.vmcs.get .rip := deed.rip_eq
  constructor
  case advanced => exact advanced_of_emulates deed valid
  case registers =>
    refine ⟨rax, ?_⟩
    change { core.registers with rip := core.registers.rip + m.instructionLength } = _
    rw [rip, registers]
    rfl
  case rax =>
    rcases deed.rax_of_marked marked with echoed | ⟨other, status, rax, reports⟩
    · exact .inl echoed
    · exact .inr ⟨other, status, rax, reports.of_captured⟩
  case vmcs =>
    change core.vmcs.put .rip (core.registers.rip + m.instructionLength) = _
    rw [rip, vmcs]
    rfl
  case tables =>
    intro other
    rcases deed.ept_cases with same | ⟨_, _, change, changes, _⟩
    · exact same
    · exact absurd (namesTables_of_changes changes) other
  case translation =>
    intro a moved
    rcases deed.ept_cases with same | ⟨_, _, change, changes, tables, rax⟩
    · exact absurd (congrArg (·.translate? a) same) moved
    · have named := namesTables_of_changes changes
      change core.ept.translate? a ≠ _ at moved
      rw [tables] at moved
      refine ⟨named, rax.trans ?_⟩
      rw [outcome_of_changes changes moved]
      rfl
  case trace => exact trace
  case host => exact host
  case processor => exact processor
  case taskPriority => exact taskPriority

/--
Whatever its code and its arguments are, a call to this core that does not turn the machine off is
answered, and the guest goes on after it exactly where RIP can be moved.
-/
theorem dispatch_answers (alive : m.phase ≠ .terminating) (opens : m.Opens .vmcall)
    (marked : GuestCall.Marked m.registers.rcx) (stays : m.guestCall? ≠ some .turnOff) :
    (m.dispatch.1 = true ↔ ¬ (Access.read .exitInstructionLength).Denied m.vmcs ∧
      m.ValidLength ∧ ¬ (Access.write .rip).Denied m.vmcs) ∧
    (m.dispatch.1 = true → Answered m m.dispatch.2) := by
  have course : vmcallCourse (m.begun.captured .vmcall) = .ends (.ok .advance) := by
    rw [vmcallCourse, if_neg fun off => stays off.2]
  refine ⟨dispatch_eq_true_of_course alive opens course, fun resumed => ?_⟩
  obtain ⟨core, notes, phase, journal, deed, valid, after⟩ :=
    emulates_of_dispatch opens (congrArg Course.ending course) resumed
  rw [after]
  exact answered_of_emulates valid deed marked

/-- A call to this core under a Hyper-V host that fails the next call with status 5. -/
def callingCore (code : Word) : Machine :=
  { exitingFor 18 3 with
    identity := some
      { maxLeaf := 0x40000001
        vendor := Hypercall.HostIdentity.hypervVendor
        interface := Hypercall.HostIdentity.hypervInterface }
    host := { queue := [{ result := ⟨5⟩ }] }
    registers := { rcx := 0x5349524500000000 ||| code, rdx := 0x205000, r8 := 2 } }

/-- The status of the host does not reach the guest, and a code without a call reaches no host. -/
theorem dispatch_answers_flush_and_unknown :
    ((callingCore 0x16).dispatch.1 = true ∧ (callingCore 0x16).dispatch.2.registers.rax = 0 ∧
      (callingCore 0x16).dispatch.2.trace = [.invalidateEpt 0x1E, .hostCall ⟨⟨0x100AF⟩,
        .fast #v[0x1E, 0, 0, 0, 0, 0, 0, 0, 0, 0, 0, 0, 0, 0]⟩]) ∧
    (callingCore 0xFFFF).dispatch.1 = true ∧ (callingCore 0xFFFF).dispatch.2.registers.rax = 4 ∧
      (callingCore 0xFFFF).dispatch.2.trace = [] := by
  have opens (code : Word) : (callingCore code).Opens .vmcall :=
    ⟨rfl, fun _ _ => List.not_mem_nil⟩
  constructor
  · obtain ⟨goesOn, answered⟩ := dispatch_answers (m := callingCore 0x16) (by decide) (opens _)
      (by decide) (by decide)
    have resumed := goesOn.2 ⟨List.not_mem_nil, by decide, List.not_mem_nil⟩
    refine ⟨resumed, ?_, (answered resumed).trace⟩
    rcases (answered resumed).rax with ⟨echo, _⟩ | ⟨_, status, rax, reports⟩
    · exact absurd echo (by decide)
    · rw [rax, reports.flush (by decide)]
      rfl
  · obtain ⟨goesOn, answered⟩ := dispatch_answers (m := callingCore 0xFFFF) (by decide) (opens _)
      (by decide) (by decide)
    have resumed := goesOn.2 ⟨List.not_mem_nil, by decide, List.not_mem_nil⟩
    refine ⟨resumed, ?_, (answered resumed).trace⟩
    rcases (answered resumed).rax with ⟨echo, _⟩ | ⟨_, status, rax, reports⟩
    · exact absurd echo (by decide)
    · rw [rax, reports.notImplemented.2 (by decide)]
      rfl

end Machine

end NestedVisor
