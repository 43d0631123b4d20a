import Mathlib.Tactic.IntervalCases
import NestedVisor.Proofs.Machine.Dispatch

/-!
# Hypercalls that are passed on

A VMCALL without the signature is for the host.  It goes out at most once and as the guest wrote
it, with nothing changed but the addresses of its parameter blocks.
-/

namespace NestedVisor

theorem setFlag_self {n i : Nat} {w : BitVec n} {b : Bool} (same : w.getLsbD i = b) :
    setFlag w i b = w := by
  apply BitVec.eq_of_getLsbD_eq
  intro j _
  rw [getLsbD_setFlag]
  split
  · next here => rw [here.2, same]
  · rfl

namespace Hypercall

/-- A word whose fast flag is right goes out with all its bits. -/
theorem Call.issue_eq {input : Input} {parameters : Parameters}
    (same : input.fast = parameters.isFast) :
    Call.issue input parameters = ⟨input, parameters⟩ := by
  rw [issue, Input.withFast, setFlag_self same]

theorem Result.word_ofStatus_zero (status : Status) :
    (Result.ofStatus status 0).word = status.code.setWidth 64 := by
  simp [Result.ofStatus]

end Hypercall

namespace Registers

theorem fastBlock_withFastBlock (r : Registers) (block : FastBlock) :
    (r.withFastBlock block).fastBlock = block := by
  apply Vector.ext
  intro i bound
  interval_cases i <;> rfl

end Registers

namespace Exit

open Hypercall

/-! ## Parameter blocks -/

/-- Where the host finds a parameter block; zero stands for no block on both sides. -/
inductive Names (ept : Paging.Ept) : Word → Word → Prop
  | none : Names ept 0 0
  | mapped {address physical : Word} (present : address ≠ 0) (aligned : address.toNat % 8 = 0)
      (translated : ept.translate? address = some physical) : Names ept address physical

/-- Why the host would not find it, as the code that the guest gets. -/
inductive Unnamed (ept : Paging.Ept) (address : Word) : Word → Prop
  | misaligned (h : address.toNat % 8 ≠ 0) : Unnamed ept address 4
  | unmapped (present : address ≠ 0) (aligned : address.toNat % 8 = 0)
      (h : ept.translate? address = none) : Unnamed ept address 5

theorem and_seven_eq_zero_iff {address : Word} : address &&& 7 = 0 ↔ address.toNat % 8 = 0 := by
  rw [← BitVec.toNat_inj, BitVec.toNat_and]
  exact iff_of_eq (congrArg (· = 0) (Nat.and_two_pow_sub_one_eq_mod address.toNat 3))

variable {ept : Paging.Ept} {address physical : Word}

theorem blockAddress_cases (ept : Paging.Ept) (address : Word) :
    (∃ physical, blockAddress ept address = .ok physical ∧ Names ept address physical) ∨
      ∃ status, blockAddress ept address = .error status ∧
        Unnamed ept address (status.code.setWidth 64) := by
  rw [blockAddress]
  by_cases absent : address = 0
  · rw [if_pos absent, absent]
    exact .inl ⟨0, rfl, .none⟩
  rw [if_neg absent]
  by_cases misaligned : address &&& 7 ≠ 0
  · rw [if_pos misaligned]
    exact .inr ⟨_, rfl, .misaligned (mt and_seven_eq_zero_iff.2 misaligned)⟩
  rw [if_neg misaligned]
  have aligned := and_seven_eq_zero_iff.1 (not_not.1 misaligned)
  cases translated : ept.translate? address with
  | none => exact .inr ⟨_, rfl, .unmapped absent aligned translated⟩
  | some physical => exact .inl ⟨_, rfl, .mapped absent aligned translated⟩

theorem blockAddress_of_names (names : Names ept address physical) :
    blockAddress ept address = .ok physical := by
  rw [blockAddress]
  cases names with
  | none => exact if_pos rfl
  | mapped present aligned translated =>
      rw [if_neg present, if_neg (not_not_intro (and_seven_eq_zero_iff.2 aligned)), translated]

end Exit

namespace Machine

open Exit Hypercall

variable {m m' core : Machine}

/-! ## The emulation -/

/-- The call that goes out to the host, or the code that the guest gets instead. -/
def outgoing (m : Machine) : Except Word Call :=
  match m.hostIsHyperv, (⟨m.registers.rcx⟩ : Input).fast with
  | false, _ => .error 2
  | true, true => .ok ⟨⟨m.registers.rcx⟩, .fast m.registers.fastBlock⟩
  | true, false =>
      match blockAddresses m.ept m.registers.rdx m.registers.r8 with
      | .ok (input, output) => .ok ⟨⟨m.registers.rcx⟩, .memory input output⟩
      | .error status => .error (status.code.setWidth 64)

/-- The registers after the answer of the host. -/
def answered (m : Machine) (call : Call) : Registers :=
  match (m.host.serve call).1.parameters with
  | .fast block => { m.registers.withFastBlock block with rax := m.hostResult call }
  | .memory .. => { m.registers with rax := m.hostResult call }

def settled (m : Machine) : Except Word Call → Machine
  | .error code => m.withRax code
  | .ok call => (m.withHostCall call).withRegisters (m.answered call)

theorem eq_settled_of_emulates (deed : Emulates m .vmcall core)
    (foreign : ¬ GuestCall.Marked m.registers.rcx) : core = m.settled m.outgoing := by
  rw [outgoing]
  cases deed with
  | noHost _ absent =>
      rw [Bool.eq_false_iff.2 absent]
      rfl
  | notMapped _ present slow blocks =>
      rw [present, slow, blocks]
      exact congrArg m.withRax (Result.word_ofStatus_zero _)
  | @memoryCall input output _ present slow blocks =>
      have call : m.forwarded (.memory input output) =
        ⟨⟨m.registers.rcx⟩, .memory input output⟩ := Call.issue_eq slow
      rw [present, slow, blocks, call]
      rfl
  | fastCall _ present fast answered =>
      have call : m.forwarded (.fast m.registers.fastBlock) =
        ⟨⟨m.registers.rcx⟩, .fast m.registers.fastBlock⟩ := Call.issue_eq fast
      rw [call] at answered ⊢
      rw [present, fast]
      simp only [settled, Machine.answered, answered]
      rfl
  | refused marked | echo marked | commit marked | uncommit marked | flush marked
  | flushRelayed marked | query marked => exact absurd marked foreign

/-! ## The exit -/

/--
These calls went to the host, in this order, and the guest finds these registers, with RSP and
RFLAGS from the control structure and RIP apart.  Nothing else changed that the guest could see.
-/
structure Relayed (m m' : Machine) (calls : List Call) (registers : Registers) : Prop where
  registers : ∃ rip, m'.registers =
    { registers with rip, rsp := m.vmcs.get .rsp, rflags := m.vmcs.get .rflags }
  trace : m'.trace = m.trace ++ calls.map .hostCall
  host : m'.host = calls.foldl (fun host call => (host.serve call).2) m.host
  fields : ∀ field ≠ .rip, m'.vmcs.get field = m.vmcs.get field
  ept : m'.ept = m.ept
  processor : m'.processor = m.processor
  taskPriority : m'.taskPriority = m.taskPriority

/-- What becomes of a hypercall that the guest makes to the host. -/
structure Forwards (m m' : Machine) : Prop where
  noHost : m.hostIsHyperv = false → m.Relayed m' [] { m.registers with rax := 2 }
  fast : m.hostIsHyperv = true → m.registers.rcx.getLsbD 16 = true →
    ∃ result block,
      (m.host.serve ⟨⟨m.registers.rcx⟩, .fast m.registers.fastBlock⟩).1 = ⟨result, .fast block⟩ ∧
        m.Relayed m' [⟨⟨m.registers.rcx⟩, .fast m.registers.fastBlock⟩]
          { m.registers.withFastBlock block with rax := result.word } ∧
        m'.registers.fastBlock = block
  memory : m.hostIsHyperv = true → m.registers.rcx.getLsbD 16 = false →
    ∀ input output, Names m.ept m.registers.rdx input → Names m.ept m.registers.r8 output →
      ∃ result,
        (m.host.serve ⟨⟨m.registers.rcx⟩, .memory input output⟩).1 =
            ⟨result, .memory input output⟩ ∧
          m.Relayed m' [⟨⟨m.registers.rcx⟩, .memory input output⟩]
            { m.registers with rax := result.word }
  refused : m.hostIsHyperv = true → m.registers.rcx.getLsbD 16 = false →
    ¬ ((∃ input, Names m.ept m.registers.rdx input) ∧
      ∃ output, Names m.ept m.registers.r8 output) →
    ∃ code,
      (Unnamed m.ept m.registers.rdx code ∨
        (∃ input, Names m.ept m.registers.rdx input) ∧ Unnamed m.ept m.registers.r8 code) ∧
      m.Relayed m' [] { m.registers with rax := code }

section

variable (alive : m.phase ≠ .terminating) (opens : m.Opens .vmcall)
  (foreign : ¬ GuestCall.Marked m.registers.rcx)

include foreign in
theorem vmcallCourse_eq : vmcallCourse (m.begun.captured .vmcall) = .ends (.ok .advance) := by
  rw [vmcallCourse, if_neg fun off => foreign off.1]

include alive opens foreign

theorem follows_settled :
    Follows ((m.begun.captured .vmcall).settled m.outgoing) m.dispatch.2 := by
  obtain ⟨core, deed, follows⟩ := follows_of_opens alive opens (vmcallCourse_eq foreign)
  have core_eq : core = (m.begun.captured .vmcall).settled m.outgoing :=
    eq_settled_of_emulates deed foreign
  rwa [core_eq] at follows

theorem relayed_of_outgoing_error {code : Word} (answer : m.outgoing = .error code) :
    m.Relayed m.dispatch.2 [] { m.registers with rax := code } := by
  have follows := follows_settled alive opens foreign
  rw [answer] at follows
  exact ⟨follows.registers, follows.trace.trans (List.append_nil _).symm, follows.host,
    follows.fields, follows.ept, follows.processor, follows.taskPriority⟩

theorem relayed_of_outgoing_ok {call : Call} (answer : m.outgoing = .ok call) :
    m.Relayed m.dispatch.2 [call] (m.answered call) := by
  have follows := follows_settled alive opens foreign
  rw [answer] at follows
  obtain ⟨rip, registers⟩ := follows.registers
  refine ⟨⟨rip, registers.trans ?_⟩, follows.trace, follows.host, follows.fields, follows.ept,
    follows.processor, follows.taskPriority⟩
  change { (m.begun.captured .vmcall).answered call with rip } = _
  have same : (m.begun.captured .vmcall).host.serve call = m.host.serve call := rfl
  rw [answered, answered, same]
  cases (m.host.serve call).1.parameters <;> rfl

theorem forwards_of_opens : m.Forwards m.dispatch.2 where
  noHost absent := by
    refine relayed_of_outgoing_error alive opens foreign ?_
    rw [outgoing, absent]
  fast present fast := by
    -- the host answers a call with a block by a block
    obtain ⟨result, block, answer⟩ : ∃ result block,
        (m.host.serve ⟨⟨m.registers.rcx⟩, .fast m.registers.fastBlock⟩).1 =
          ⟨result, .fast block⟩ := ⟨_, _, rfl⟩
    have relayed : m.Relayed m.dispatch.2 [⟨⟨m.registers.rcx⟩, .fast m.registers.fastBlock⟩]
        { m.registers.withFastBlock block with rax := result.word } := by
      have out : m.outgoing = .ok ⟨⟨m.registers.rcx⟩, .fast m.registers.fastBlock⟩ := by
        rw [outgoing, present, show (⟨m.registers.rcx⟩ : Input).fast = true from fast]
      have relayed := relayed_of_outgoing_ok alive opens foreign out
      rw [answered, hostResult, answer] at relayed
      exact relayed
    refine ⟨result, block, answer, relayed, ?_⟩
    obtain ⟨rip, registers⟩ := relayed.registers
    rw [registers]
    exact Registers.fastBlock_withFastBlock m.registers block
  memory present slow input output named named' := by
    refine ⟨(m.host.serve ⟨⟨m.registers.rcx⟩, .memory input output⟩).1.result, rfl, ?_⟩
    have blocks : blockAddresses m.ept m.registers.rdx m.registers.r8 = .ok (input, output) := by
      rw [blockAddresses, blockAddress_of_names named, blockAddress_of_names named']
      rfl
    refine relayed_of_outgoing_ok alive opens foreign ?_
    rw [outgoing, present, show (⟨m.registers.rcx⟩ : Input).fast = false from slow, blocks]
  refused present slow unnamed := by
    have refused {status : Status}
        (blocks : blockAddresses m.ept m.registers.rdx m.registers.r8 = .error status) :
        m.Relayed m.dispatch.2 [] { m.registers with rax := status.code.setWidth 64 } := by
      refine relayed_of_outgoing_error alive opens foreign ?_
      rw [outgoing, present, show (⟨m.registers.rcx⟩ : Input).fast = false from slow, blocks]
    rcases blockAddress_cases m.ept m.registers.rdx with
      ⟨input, found, named⟩ | ⟨status, failed, why⟩
    · rcases blockAddress_cases m.ept m.registers.r8 with
        ⟨output, found', named'⟩ | ⟨status, failed, why⟩
      · exact absurd ⟨⟨input, named⟩, output, named'⟩ unnamed
      · refine ⟨_, .inr ⟨⟨input, named⟩, why⟩, refused ?_⟩
        rw [blockAddresses, found, failed]
        rfl
    · refine ⟨_, .inl why, refused ?_⟩
      rw [blockAddresses, failed]
      rfl

end

/--
A VMCALL without the signature is passed on at most once and as it is, and the guest goes on after
it exactly where RIP can be moved.
-/
theorem dispatch_forwards (alive : m.phase ≠ .terminating) (opens : m.Opens .vmcall)
    (foreign : ¬ GuestCall.Marked m.registers.rcx) :
    m.Forwards m.dispatch.2 ∧
      (m.dispatch.1 = true ↔ ¬ (Access.read .exitInstructionLength).Denied m.vmcs ∧
        m.ValidLength ∧ ¬ (Access.write .rip).Denied m.vmcs) ∧
      (m.dispatch.1 = true → Advanced m m.dispatch.2 ∧ Synchronized m.dispatch.2) := by
  have course := vmcallCourse_eq foreign
  refine ⟨forwards_of_opens alive opens foreign, dispatch_eq_true_of_course alive opens course,
    fun resumed => ?_⟩
  obtain ⟨core, notes, phase, journal, deed, valid, after⟩ :=
    emulates_of_dispatch opens (congrArg Course.ending course) resumed
  rw [after]
  exact ⟨advanced_of_emulates deed valid, synchronized_of_emulates deed _⟩

/-- A hypercall on a host whose next reply puts 7 into the second word of a block. -/
def calling (rcx rdx : Word) : Machine :=
  { exitingFor 18 3 with
    identity := some
      { maxLeaf := 0x40000001
        vendor := HostIdentity.hypervVendor
        interface := HostIdentity.hypervInterface }
    host := { queue := [{ result := ⟨0x100000000⟩, writes := [(1, 7)] }] }
    registers := { rcx, rdx, r8 := 0x1003 } }

theorem dispatch_forwards_fast_and_misaligned :
    ((calling 0xF002F00488010002 0x30).dispatch.2.trace =
        [.hostCall ⟨⟨0xF002F00488010002⟩,
          .fast #v[0x30, 0x1003, 0, 0, 0, 0, 0, 0, 0, 0, 0, 0, 0, 0]⟩] ∧
      (calling 0xF002F00488010002 0x30).dispatch.2.registers.fastBlock =
        #v[0x30, 7, 0, 0, 0, 0, 0, 0, 0, 0, 0, 0, 0, 0] ∧
      (calling 0xF002F00488010002 0x30).dispatch.2.registers.rax = 0x100000000) ∧
    (calling 2 0).dispatch.2.trace = [] ∧ (calling 2 0).dispatch.2.registers.rax = 4 := by
  have opens (rcx rdx : Word) : (calling rcx rdx).Opens .vmcall :=
    ⟨rfl, fun _ _ => List.not_mem_nil⟩
  constructor
  · have forwards := (dispatch_forwards (m := calling 0xF002F00488010002 0x30) (by decide)
      (opens _ _) (by decide)).1
    obtain ⟨result, block, answer, relayed, left⟩ := forwards.fast rfl rfl
    cases answer
    obtain ⟨rip, registers⟩ := relayed.registers
    exact ⟨relayed.trace, left, congrArg (·.rax) registers⟩
  · have forwards := (dispatch_forwards (m := calling 2 0) (by decide) (opens _ _) (by decide)).1
    have misaligned : ∀ output, ¬ Names (calling 2 0).ept 0x1003 output := by
      intro output named
      cases named with
      | mapped present aligned => exact absurd aligned (by decide)
    obtain ⟨code, why, relayed⟩ := forwards.refused rfl rfl fun named =>
      named.2.elim misaligned
    obtain ⟨rip, registers⟩ := relayed.registers
    refine ⟨relayed.trace, (congrArg (·.rax) registers).trans ?_⟩
    rcases why with first | ⟨-, second⟩
    · cases first with
      | misaligned h => exact absurd rfl h
      | unmapped present => exact absurd rfl present
    · cases second with
      | misaligned => rfl
      | unmapped present aligned => exact absurd aligned (by decide)

end Machine

end NestedVisor
