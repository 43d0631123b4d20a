import NestedVisor.Proofs.Machine.Dispatch
import NestedVisor.Proofs.Paging.Request

/-!
# The call that commits a page

A commit call that reports success has mapped the page at RDX.  The backing address is not
checked against the width of an entry: of R8 the low 52 bits count, so that the page is mapped to
R8 exactly when R8 has no others.
-/

namespace NestedVisor

open Exit

/-! ## Reports of success -/

namespace GuestCall

theorem Status.code_inj {first second : Status} (h : first.code = second.code) :
    first = second := by
  cases first <;> cases second <;> first | rfl | cases h

theorem Status.eq_ok_of_ofOutcome {outcome : Except PagingFault Unit}
    (success : ofOutcome outcome = .success) : outcome = .ok () := by
  cases outcome with
  | ok => rfl
  | error fault => cases fault <;> cases success

end GuestCall

namespace Exit

variable {m core : Machine}

theorem Refuses.ne_success {call : Option GuestCall} {status : GuestCall.Status}
    (refuses : Refuses m call status) : status ≠ .success := by
  cases refuses <;> nofun

theorem Emulates.committed {size : Granularity} (deed : Emulates m .vmcall core)
    (marked : GuestCall.Marked m.registers.rcx) (named : m.guestCall? = some (.commit size))
    (success : core.registers.rax = GuestCall.Status.success.code) :
    (m.ept.commit m.registers.rdx size m.registers.r8
        (m.typeOf m.registers.r8 size)).outcome = .ok () ∧
      core.ept =
        (m.ept.commit m.registers.rdx size m.registers.r8 (m.typeOf m.registers.r8 size)).ept := by
  cases deed with
  | refused _ refuses => exact absurd (GuestCall.Status.code_inj success) refuses.ne_success
  | commit _ other =>
      cases named.symm.trans other
      exact ⟨GuestCall.Status.eq_ok_of_ofOutcome (GuestCall.Status.code_inj success), rfl⟩
  | echo _ other => cases named.symm.trans other
  | uncommit _ other => cases named.symm.trans other
  | flush _ other => cases named.symm.trans other
  | flushRelayed _ other => cases named.symm.trans other
  | query _ other => cases named.symm.trans other
  | _ => contradiction

end Exit

/-! ## Commits -/

/-- A page to commit, and the address that the guest gives for its backing. -/
structure Commit where
  base : Word
  size : Granularity
  backing : Word

namespace Machine

variable {m : Machine} {size : Granularity} {c : Commit}

/-- The exit is a call to commit this page. -/
structure AsksFor (m : Machine) (c : Commit) : Prop where
  opens : m.Opens .vmcall
  marked : GuestCall.Marked m.registers.rcx
  named : m.guestCall? = some (.commit c.size)
  base : m.registers.rdx = c.base
  backing : m.registers.r8 = c.backing

/-- The call is carried out, and answered with success. -/
structure Commits (m : Machine) (c : Commit) : Prop where
  alive : m.phase ≠ .terminating
  asks : m.AsksFor c
  success : m.dispatch.2.registers.rax = GuestCall.Status.success.code

theorem Commits.ept (commits : m.Commits c) :
    (m.ept.commit c.base c.size c.backing (m.typeOf c.backing c.size)).outcome = .ok () ∧
      m.dispatch.2.ept =
        (m.ept.commit c.base c.size c.backing (m.typeOf c.backing c.size)).ept := by
  obtain ⟨alive, ⟨opens, marked, named, base, backing⟩, success⟩ := commits
  have opens' := opens_begun.2 opens
  rw [← base, ← backing]
  obtain ⟨_, _, phase, journal, serves, _, after⟩ := serves_dispatch alive
  rw [after] at success ⊢
  cases serves with
  | closed rip rsp rflags accesses closed => exact absurd opens' (closed _)
  | ended known stays ends =>
      obtain rfl := known.unique opens'
      have stayed : ¬ TurnsOff (m.begun.captured .vmcall) := by
        rintro ⟨_, off⟩
        cases named.symm.trans off
      refine absurd ?_ stays
      rw [ends, Reason.service, serviceCourse, vmcallCourse, if_neg stayed]
      rfl
  | advanced notes known deed =>
      obtain rfl := known.unique opens'
      exact deed.committed marked named success
  | stuck notes rip known deed =>
      obtain rfl := known.unique opens'
      exact deed.committed marked named success

/-! ## Commits that the guest goes on after -/

/-- The exit to serve is a VMCALL that names a call of this core. -/
structure Calls (m : Machine) (call : GuestCall) : Prop where
  vmcall : ∃ field, m.vmcs.exitReason = .ok field ∧
    Reason.ofField? (field.setWidth 64) = some .vmcall
  marked : GuestCall.Marked m.registers.rcx
  named : GuestCall.ofCode? (m.registers.rcx.extractLsb' 0 16) = some call

theorem Calls.opens {call : GuestCall} (calls : m.Calls call) (resumed : m.dispatch.1 = true) :
    m.Opens .vmcall := by
  obtain ⟨reason, opens⟩ := opens_of_dispatch resumed
  obtain ⟨field, read, vmcall⟩ := calls.vmcall
  rw [Vmcs.exitReason, Vmcs.read_of_not_denied (opens.readable _ (by decide))] at read
  obtain rfl : m.exitReasonField = field := Except.ok.inj read
  obtain rfl : reason = .vmcall := Option.some.inj (opens.known.symm.trans vmcall)
  exact opens

theorem committed_of_dispatch (calls : m.Calls (.commit size)) (resumed : m.dispatch.1 = true)
    (success : m.dispatch.2.registers.rax = GuestCall.Status.success.code) :
    ∃ type, (m.ept.commit m.registers.rdx size m.registers.r8 type).outcome = .ok () ∧
      m.dispatch.2.ept = (m.ept.commit m.registers.rdx size m.registers.r8 type).ept := by
  have asks : m.AsksFor ⟨m.registers.rdx, size, m.registers.r8⟩ :=
    ⟨calls.opens resumed, calls.marked, calls.named, rfl, rfl⟩
  have commits : m.Commits ⟨m.registers.rdx, size, m.registers.r8⟩ :=
    ⟨alive_of_dispatch resumed, asks, success⟩
  exact ⟨_, commits.ept⟩

/--
A commit call that goes on with success has mapped the page at RDX to the low 52 bits of R8, and
so to R8 itself exactly when R8 is below `2 ^ 52`.
-/
theorem translate?_of_dispatch_commit (calls : m.Calls (.commit size))
    (resumed : m.dispatch.1 = true)
    (success : m.dispatch.2.registers.rax = GuestCall.Status.success.code) :
    (∀ o : Word, o.toNat < 2 ^ size.bits →
      m.dispatch.2.ept.translate? (m.registers.rdx + o) =
        some ((m.registers.r8.setWidth 52).setWidth 64 + o)) ∧
    ((∀ o : Word, o.toNat < 2 ^ size.bits →
      m.dispatch.2.ept.translate? (m.registers.rdx + o) = some (m.registers.r8 + o)) ↔
        m.registers.r8.toNat < 2 ^ 52) := by
  obtain ⟨type, ok, tables⟩ := committed_of_dispatch calls resumed success
  obtain ⟨acceptable, _⟩ := Paging.Ept.acceptable_of_commit_ok ok
  have mapped : ∀ o : Word, o.toNat < 2 ^ size.bits →
      m.dispatch.2.ept.translate? (m.registers.rdx + o) =
        some ((m.registers.r8.setWidth 52).setWidth 64 + o) := by
    intro o inside
    have inRange : m.registers.rdx.toNat < 2 ^ 48 := acceptable.inRange
    have small : o.toNat < 2 ^ 30 := Nat.lt_of_lt_of_le inside (by cases size <;> decide)
    have holds : size.Holds m.registers.rdx (m.registers.rdx + o) := by
      rw [Granularity.Holds, BitVec.toNat_add, Nat.mod_eq_of_lt (by omega)]
      omega
    rw [tables, Paging.Ept.translate?_of_commit_ok ok holds, BitVec.add_comm m.registers.rdx o,
      BitVec.add_sub_cancel]
  have low : (m.registers.r8.setWidth 52).setWidth 64 = m.registers.r8 ↔
      m.registers.r8.toNat < 2 ^ 52 := by
    rw [← BitVec.toNat_inj]
    simp
    omega
  refine ⟨mapped, ?_, ?_⟩
  · intro asked
    have first := (mapped 0#64 (Nat.two_pow_pos _)).symm.trans
      (asked 0#64 (Nat.two_pow_pos _))
    rw [Option.some.injEq, BitVec.add_zero, BitVec.add_zero] at first
    exact low.1 first
  · intro bound o inside
    rw [mapped o inside, low.2 bound]

def askingFor (backing : Word) : Machine where
  processor := .blank
  vmcs := { fields := [(.exitReason, 18), (.exitInstructionLength, 3)] }
  registers := { rcx := 0x5349524500000010, rdx := 0x205000, r8 := backing }
  ept := ⟨0x100000, fun _ => .empty, ⟨(Paging.PagePool.ofRun 0x100000 16).supply, 1, [0x100000]⟩⟩

theorem calls_askingFor (backing : Word) : (askingFor backing).Calls (.commit .page4K) := by
  have code : (askingFor backing).registers.rcx = 0x5349524500000010 := rfl
  constructor
  case vmcall => exact ⟨18, rfl, rfl⟩
  case marked =>
    rw [code]
    decide
  case named =>
    rw [code]
    decide

theorem translate?_of_dispatch_commit_small :
    (askingFor 0x7000).dispatch.1 = true ∧
      (askingFor 0x7000).dispatch.2.registers.rax = GuestCall.Status.success.code ∧
      (askingFor 0x7000).dispatch.2.ept.translate? (0x205000 + 0x123) = some (0x7000 + 0x123) :=
  ⟨rfl, rfl, (translate?_of_dispatch_commit (calls_askingFor 0x7000) rfl rfl).2.2 (by decide)
    0x123 (by decide)⟩

/-- Bit 52 of the backing address is lost, and the guest is told of success. -/
theorem dispatch_commit_drops_bit_52 :
    (askingFor 0x10000000000000).Calls (.commit .page4K) ∧
      (askingFor 0x10000000000000).dispatch.1 = true ∧
      (askingFor 0x10000000000000).dispatch.2.registers.rax = GuestCall.Status.success.code ∧
      (askingFor 0x10000000000000).dispatch.2.ept.translate? 0x205000 = some 0 := by
  refine ⟨calls_askingFor _, rfl, rfl, ?_⟩
  obtain ⟨type, ok, tables⟩ := committed_of_dispatch (calls_askingFor 0x10000000000000) rfl rfl
  rw [tables]
  exact Paging.Ept.translate?_of_commit_ok ok ⟨by decide, by decide⟩

end Machine

end NestedVisor
