import Mathlib.Logic.Basic
import NestedVisor.Proofs.Exit.Course

/-!
# The course of a call

A VMCALL uses no field of the control structure.  It goes on after the instruction whatever
becomes of the call, except that the call to turn the machine off ends it.
-/

namespace NestedVisor

open Machine Exit

variable {m : Machine}

namespace GuestCall

theorem takes_changeEpt {change : Paging.Ept → Paging.Change} {r : PagingFault → Record}
    (deed : Emulates m .vmcall (m.withChange (change m.ept))) :
    Takes m .vmcall (do
      match ← changeEpt change with
      | .ok () =>
          report .success
          return .advance
      | .error fault =>
          log (r fault)
          report (.ofFault fault)
          return .advance) (.ends (.ok .advance)) := by
  refine .emulated deed (.bind (.changeEpt change) ?_)
  rw [withChange]
  cases (change m.ept).outcome with
  | ok => exact .bind (.modifyRegisters _) .pure
  | error fault => exact .bind (.log _) (.bind (.modifyRegisters _) .pure)

section Marked

variable (marked : Marked m.registers.rcx)

include marked

theorem takes_report {status : Status} (refuses : Refuses m m.guestCall? status) :
    Takes m .vmcall (do
      report status
      return .advance) (.ends (.ok .advance)) :=
  .emulated (.refused marked refuses) (.bind (.modifyRegisters _) .pure)

theorem takes_serveCommit {size : Granularity} (named : m.guestCall? = some (.commit size)) :
    Takes m .vmcall (serveCommit size) (.ends (.ok .advance)) := by
  refine .getRegisters ?_
  dsimp only
  by_cases misaligned : ¬ size.Aligned m.registers.rdx ∨ ¬ size.Aligned m.registers.r8
  · rw [if_pos misaligned]
    exact .log _ (takes_report marked (by rw [named]; exact .misaligned misaligned))
  · rw [if_neg misaligned]
    refine .resolveType ?_
    by_cases untyped : m.typeOf m.registers.r8 size = .unspecified
    · rw [if_pos untyped]
      exact .log _ (takes_report marked (by rw [named]; exact .untyped untyped))
    · rw [if_neg untyped]
      exact takes_changeEpt (.commit marked named (by simpa using misaligned) untyped)

theorem takes_serveUncommit {size : Granularity}
    (named : m.guestCall? = some (.uncommit size)) :
    Takes m .vmcall (serveUncommit size) (.ends (.ok .advance)) :=
  .getRegisters (takes_changeEpt (.uncommit marked named))

theorem takes_serveFlush (named : m.guestCall? = some .flush) :
    Takes m .vmcall serveFlush (.ends (.ok .advance)) := by
  refine .get (fun _ => rfl) ?_
  dsimp only
  by_cases relayed : m.policy.relayEptFlush ∧ m.hostIsHyperv
  · simp only [if_pos relayed]
    refine .emulated (.flushRelayed marked named relayed)
      (.bind (.emit _) (.bind (.log _) (.bind (.callHost _) ?_)))
    -- what the host answers decides only about one more record
    split
    · exact .bind (.log _) (.bind (.modifyRegisters _) .pure)
    · exact .bind (.modifyRegisters _) .pure
  · simp only [if_neg relayed]
    exact .emulated (.flush marked named relayed)
      (.bind (.emit _) (.bind (.modifyRegisters _) .pure))

theorem takes_serveQuery (named : m.guestCall? = some .queryMemoryType) :
    Takes m .vmcall serveQuery (.ends (.ok .advance)) := by
  refine .getRegisters ?_
  dsimp only
  cases page : (Granularity.ofSelector? m.registers.r8).filter (·.Aligned m.registers.rdx) with
  | none => exact takes_report marked (by rw [named]; exact .noPage page)
  | some size =>
      exact .resolveType (.log _ (.emulated (.query marked named page)
        (.bind (.modifyRegisters _) (.bind (.modifyRegisters _) .pure))))

end Marked

/-- The course of a call to this core; a code that names no call is answered like any other. -/
def course (call? : Option GuestCall) : Course :=
  .ends (.ok (if call? = some .turnOff then .shutDown else .advance))

theorem takes_serveKnown (marked : Marked m.registers.rcx) {call : GuestCall}
    (named : m.guestCall? = some call) :
    Takes m .vmcall (serveKnown call) (course (some call)) := by
  cases call with
  | echo =>
      exact .emulated (.echo marked named) (.bind (.modifyRegisters _) .pure)
  | turnOff =>
      exact .log _ (.reached (.bind (.modifyRegisters _) .pure)
        fun notes known => .turnedOff notes marked named known)
  | commit size => exact takes_serveCommit marked named
  | uncommit size => exact takes_serveUncommit marked named
  | flush => exact takes_serveFlush marked named
  | queryMemoryType => exact takes_serveQuery marked named

theorem takes_serve (marked : Marked m.registers.rcx) :
    Takes m .vmcall (serve (m.registers.rcx.extractLsb' 0 16)) (course m.guestCall?) := by
  rw [serve]
  cases named : ofCode? (m.registers.rcx.extractLsb' 0 16) with
  | none =>
      rw [guestCall?, named]
      exact .log _ (takes_report marked (by rw [guestCall?, named]; exact .unknown))
  | some call =>
      rw [guestCall?, named]
      exact .getRegisters (.log _ (takes_serveKnown marked named))

end GuestCall

namespace Exit

/-- The call that turns the machine off. -/
def TurnsOff (m : Machine) : Prop :=
  GuestCall.Marked m.registers.rcx ∧ m.guestCall? = some .turnOff

instance (m : Machine) : Decidable (TurnsOff m) :=
  inferInstanceAs (Decidable (_ ∧ _))

def vmcallCourse (m : Machine) : Course :=
  .ends (.ok (if TurnsOff m then .shutDown else .advance))

/-! ## Calls to the host -/

theorem reaches_callForGuest_fast {block : FastBlock}
    (fast : (⟨m.registers.rcx⟩ : Hypercall.Input).fast = true)
    (answered : (m.host.serve (m.forwarded (.fast m.registers.fastBlock))).1.parameters =
      .fast block) :
    Reaches m
      ((m.withHostCall (m.forwarded (.fast m.registers.fastBlock))).withRegisters
        (m.registers.withFastBlock block))
      (callForGuest ⟨m.registers.rcx⟩)
      (m.host.serve (m.forwarded (.fast m.registers.fastBlock))).1.result := by
  refine .get (fun _ => rfl) ?_
  rw [if_pos fast]
  refine .bind (.callHost _) ?_
  rw [forwarded] at answered
  simp only [answered]
  exact .bind (.modifyRegisters _) .pure

theorem reaches_callForGuest_memory {input output : Word}
    (slow : (⟨m.registers.rcx⟩ : Hypercall.Input).fast = false)
    (blocks : blockAddresses m.ept m.registers.rdx m.registers.r8 = .ok (input, output)) :
    Reaches m (m.withHostCall (m.forwarded (.memory input output)))
      (callForGuest ⟨m.registers.rcx⟩)
      (m.host.serve (m.forwarded (.memory input output))).1.result := by
  refine .get (fun _ => rfl) ?_
  simp only [slow, blocks]
  exact .bind (.callHost _) .pure

theorem reaches_callForGuest_notMapped {status : Hypercall.Status}
    (slow : (⟨m.registers.rcx⟩ : Hypercall.Input).fast = false)
    (blocks : blockAddresses m.ept m.registers.rdx m.registers.r8 = .error status) :
    Reaches m m (callForGuest ⟨m.registers.rcx⟩) (.ofStatus status 0) := by
  refine .get (fun _ => rfl) ?_
  simp only [slow, blocks]
  exact .bind (.log _) .pure

theorem takes_forwardToHost (foreign : ¬ GuestCall.Marked m.registers.rcx) :
    Takes m .vmcall forwardToHost (.ends (.ok .advance)) := by
  refine .get (fun _ => rfl) ?_
  dsimp only
  by_cases present : m.hostIsHyperv = true
  · rw [if_neg (not_not_intro present)]
    cases mode : (⟨m.registers.rcx⟩ : Hypercall.Input).fast with
    | true =>
        -- the host answers a call with a block by a block
        obtain ⟨block, answered⟩ : ∃ block,
            (m.host.serve (m.forwarded (.fast m.registers.fastBlock))).1.parameters =
              .fast block := ⟨_, rfl⟩
        exact .emulated (.fastCall foreign present mode answered)
          (.bind (reaches_callForGuest_fast mode answered)
            (.bind (.log _) (.bind (.modifyRegisters _) .pure)))
    | false =>
        cases blocks : blockAddresses m.ept m.registers.rdx m.registers.r8 with
        | error status =>
            exact .emulated (.notMapped foreign present mode blocks)
              (.bind (reaches_callForGuest_notMapped mode blocks)
                (.bind (.log _) (.bind (.modifyRegisters _) .pure)))
        | ok addresses =>
            exact .emulated (.memoryCall foreign present mode blocks)
              (.bind (reaches_callForGuest_memory mode blocks)
                (.bind (.log _) (.bind (.modifyRegisters _) .pure)))
  · rw [if_pos present]
    exact .log _ (.emulated (.noHost foreign present) (.bind (.modifyRegisters _) .pure))

theorem takes_serveVmcall : Takes m .vmcall serveVmcall (vmcallCourse m) := by
  refine .getRegisters (.log _ ?_)
  by_cases marked : GuestCall.Marked m.registers.rcx
  · rw [if_pos marked]
    have same : TurnsOff m ↔ m.guestCall? = some .turnOff := and_iff_right marked
    simp only [vmcallCourse, same]
    exact GuestCall.takes_serve marked
  · rw [if_neg marked, vmcallCourse, if_neg fun h => marked h.1]
    exact takes_forwardToHost marked

end Exit

end NestedVisor
