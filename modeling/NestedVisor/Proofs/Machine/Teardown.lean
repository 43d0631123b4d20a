import Mathlib.Tactic.ByContra
import NestedVisor.Proofs.Machine.Dispatch

/-!
# What ends the machine

Of the exits that the guest can cause, few end its machine.  `Ends` lists the reasons, and none
of them depends on the arguments of a call, on the value of a register, on the page tables and
their pool, or on what the host answers.
-/

namespace NestedVisor

open Exit

/-! ## The reason of the exit -/

namespace Exit.Reason

def handled : List Reason :=
  [.controlRegisterAccess, .cpuid, .hlt, .invlpg, .wbinvdOrWbnoinvd, .invd, .rdmsr, .wrmsr,
    .vmcall, .vmclear, .vmlaunch, .vmptrld, .vmptrst, .vmread, .vmresume, .vmwrite, .vmxoff,
    .vmxon, .invept, .invvpid, .vmfunc]

theorem mem_handled {reason : Reason} : reason ∈ handled ↔ reason.service ≠ .none := by
  cases reason <;> decide

end Exit.Reason

namespace Machine

variable {m : Machine} {reason : Reason}

def ExitsFor (m : Machine) (reason : Reason) : Prop :=
  ((m.vmcs.get .exitReason).extractLsb' 0 16).toNat = reason.code

theorem exitReason?_eq_some : m.exitReason? = some reason ↔ m.ExitsFor reason := by
  have low : ((m.exitReasonField.setWidth 64).extractLsb' 0 16) =
      (m.vmcs.get .exitReason).extractLsb' 0 16 := by
    apply BitVec.eq_of_getLsbD_eq
    intro i bound
    simp [exitReasonField, bound, show i < 32 by omega, show i < 64 by omega]
  rw [exitReason?, Reason.ofField?, low, ExitsFor]
  constructor
  · intro named
    exact (Reason.code_of_ofCode? named).symm
  · intro code
    rw [code, Reason.ofCode?_code]

/-! ## Accesses of an exit -/

/-- The dispatch of the exit tries this use of a field, whatever comes of it. -/
def Performs (m : Machine) (access : Access) : Prop :=
  access ∈ m.dispatch.2.accesses.drop m.accesses.length

theorem accesses_dispatch (alive : m.phase ≠ .terminating) :
    m.dispatch.2.accesses = m.accesses ++ m.exitCourse.performed m.vmcs := by
  obtain ⟨_, phase, journal, after⟩ := dispatch_of_alive alive
  rw [after]
  exact (fits_serveExit m.begun).accesses

theorem performs_iff (alive : m.phase ≠ .terminating) {access : Access} :
    m.Performs access ↔ access ∈ m.exitCourse.performed m.vmcs := by
  rw [Performs, accesses_dispatch alive, List.drop_left]

/-! ## Its course -/

theorem ending_exitCourse_of_none (unknown : m.exitReason? = none) :
    m.exitCourse.ending = .error (.unhandledExit m.exitReasonField) := by
  simp [exitCourse, unknown, Course.after, Course.ends]

theorem ending_exitCourse_of_some (known : m.exitReason? = some reason) :
    m.exitCourse.ending =
      match (serviceCourse (m.captured reason) m.exitReasonField reason.service).ending with
      | .ok .advance => m.advanceCourse.ending
      | stopped => stopped := by
  simp only [exitCourse, known, Course.after]
  exact Course.ending_followed _ _

theorem ending_advanceCourse :
    m.advanceCourse.ending = if m.ValidLength then .ok .advance
      else .error (.invalidInstructionLength m.instructionLength) := by
  rw [advanceCourse, Course.after]
  split <;> rfl

theorem deliberate_of_ending_exitCourse {fault : Fault}
    (ends : m.exitCourse.ending = .error fault) : Deliberate fault := by
  cases known : m.exitReason? with
  | none =>
      rw [ending_exitCourse_of_none known] at ends
      cases ends
      trivial
  | some reason =>
      rw [ending_exitCourse_of_some known] at ends
      split at ends
      · rw [ending_advanceCourse] at ends
        split at ends
        · cases ends
        · cases ends
          trivial
      · exact deliberate_of_ending_serviceCourse ends

/-! ## The reasons -/

/-- The service of the exit asks for the guest to go on after its instruction. -/
def Advances (m : Machine) : Prop :=
  ∃ reason, m.ExitsFor reason ∧
    (exec (serve reason m.exitReasonField) (m.captured reason)).1 = .ok .advance

inductive Ends (m : Machine) : Prop
  | unhandled (foreign : ∀ reason ∈ Reason.handled, ¬ m.ExitsFor reason)
  | unknownAccess (exits : m.ExitsFor .controlRegisterAccess) (unknown : UnknownAccess m)
  | turnedOff (exits : m.ExitsFor .vmcall) (off : TurnsOff m)
  | invalidLength (advances : m.Advances) (invalid : ¬ m.ValidLength)
  | denied {access : Access} (performed : m.Performs access) (denied : access.Denied m.vmcs)

theorem fst_exec_serve (reason : Reason) :
    (exec (serve reason m.exitReasonField) (m.captured reason)).1 =
      (serviceCourse (m.captured reason) m.exitReasonField reason.service).result m.vmcs :=
  (takes_serve (m := m.captured reason) reason m.exitReasonField (m.captured reason).notes
    (.inl rfl)).result

theorem goesOn_exitCourse (known : m.exitReason? = some reason) :
    m.exitCourse.GoesOn ↔
      (serviceCourse (m.captured reason) m.exitReasonField reason.service).GoesOn ∧
        ((serviceCourse (m.captured reason) m.exitReasonField reason.service).ending =
          .ok .advance → m.ValidLength) := by
  rw [Course.GoesOn, ending_exitCourse_of_some known]
  split
  · next advances =>
      rw [ending_advanceCourse, Course.GoesOn, advances]
      split <;> simp [*]
  · next stays =>
      constructor
      · intro goesOn
        exact ⟨goesOn, fun advances => absurd advances (by simpa using stays)⟩
      · intro goesOn
        exact goesOn.1

theorem exitsFor_iff (known : m.exitReason? = some reason) {other : Reason} :
    m.ExitsFor other ↔ reason = other := by
  rw [← exitReason?_eq_some, known, Option.some.injEq]

theorem advances_iff (known : m.exitReason? = some reason)
    (granted : ∀ access ∈ m.exitCourse.accesses, ¬ access.Denied m.vmcs) :
    m.Advances ↔
      (serviceCourse (m.captured reason) m.exitReasonField reason.service).ending =
        .ok .advance := by
  simp only [Advances, exitsFor_iff known, exists_eq_left', fst_exec_serve]
  rw [Course.result_of_granted]
  intro access used
  refine granted access ?_
  simp only [exitCourse, known, Course.after, List.mem_cons]
  exact .inr (.inr (.inr (.inr (Course.accesses_subset_followed _ _ used))))

theorem ends_iff_of_granted (alive : m.phase ≠ .terminating)
    (granted : ∀ access ∈ m.exitCourse.accesses, ¬ access.Denied m.vmcs) :
    m.Ends ↔ ¬ m.exitCourse.GoesOn := by
  cases known : m.exitReason? with
  | none =>
      have none (reason : Reason) : ¬ m.ExitsFor reason := by
        simp [← exitReason?_eq_some, known]
      have stops : ¬ m.exitCourse.GoesOn := by
        simp [Course.GoesOn, ending_exitCourse_of_none known]
      exact ⟨fun _ => stops, fun _ => .unhandled fun reason _ => none reason⟩
  | some reason =>
      have exits {other : Reason} : m.ExitsFor other ↔ reason = other := exitsFor_iff known
      have advances := advances_iff known granted
      rw [goesOn_exitCourse known, goesOn_serviceCourse]
      constructor
      · rintro ends ⟨served, valid⟩
        refine served ?_
        cases ends with
        | unhandled foreign =>
            refine .inl (not_not.1 fun some => ?_)
            exact foreign reason (Reason.mem_handled.2 some) (exits.2 rfl)
        | unknownAccess exit unknown =>
            exact .inr (.inl ⟨Reason.service_eq_controlRegister.2 (exits.1 exit), unknown⟩)
        | turnedOff exit off =>
            exact .inr (.inr ⟨Reason.service_eq_vmcall.2 (exits.1 exit), off⟩)
        | invalidLength advance invalid => exact absurd (valid (advances.1 advance)) invalid
        | denied performed denied =>
            exact absurd denied (granted _ (List.mem_of_mem_take ((performs_iff alive).1 performed)))
      · intro stops
        by_contra going
        refine stops ⟨?_, fun advance => ?_⟩
        · rintro (none | ⟨service, unknown⟩ | ⟨service, off⟩)
          · exact going (.unhandled fun other handled exit =>
              Reason.mem_handled.1 handled (exits.1 exit ▸ none))
          · exact going (.unknownAccess (exits.2 (Reason.service_eq_controlRegister.1 service))
              unknown)
          · exact going (.turnedOff (exits.2 (Reason.service_eq_vmcall.1 service)) off)
        · by_contra invalid
          exact going (.invalidLength (advances.2 advance) invalid)

theorem fst_exec_serveExit_begun : (exec serveExit m.begun).1 = m.exitCourse.result m.vmcs :=
  (fits_serveExit m.begun).result

theorem serveExit_goesOn_iff (alive : m.phase ≠ .terminating) :
    (exec serveExit m.begun).1 = .ok .advance ∨ (exec serveExit m.begun).1 = .ok .resume ↔
      ¬ m.Ends := by
  rw [fst_exec_serveExit_begun, Course.result_goesOn_iff]
  by_cases granted : ∀ access ∈ m.exitCourse.accesses, ¬ access.Denied m.vmcs
  · rw [and_iff_left granted, ends_iff_of_granted alive granted, not_not]
  · obtain ⟨access, performed, denied⟩ : ∃ access ∈ m.exitCourse.performed m.vmcs,
        access.Denied m.vmcs := by
      rw [Course.exists_performed_denied]
      simpa using granted
    simp [granted, Ends.denied ((performs_iff alive).2 performed) denied]

theorem serveExit_ne_invalidRegister (index : Word) :
    (exec serveExit m.begun).1 ≠ .error (.invalidRegister index) := by
  rw [fst_exec_serveExit_begun, Course.result]
  cases m.exitCourse.accesses.find? fun access => access.Denied m.vmcs with
  | some access => simp
  | none => exact fun ends => deliberate_of_ending_exitCourse ends

/-- A dispatch ends the machine for one of these reasons, and for no other. -/
theorem dispatch_eq_false_iff (m : Machine) :
    (m.dispatch.1 = false ↔ m.phase = .terminating ∨ m.Ends) ∧
      ∀ index, (exec serveExit m.begun).1 ≠ .error (.invalidRegister index) := by
  refine ⟨?_, serveExit_ne_invalidRegister⟩
  by_cases ended : m.phase = .terminating
  · simp [dispatch, ended]
  · rw [← Bool.not_eq_true, (dispatch_of_alive ended).1, serveExit_goesOn_iff ended, not_not,
      or_iff_right ended]

/-- A HLT would park the virtual CPU, but the field for it cannot be written. -/
example :
    let start := exitingFor 12 1
    let m := { start with
      policy := { halt := .idle }
      vmcs := { start.vmcs with unwritable := [.activityState] } }
    m.dispatch.1 = false ∧ m.dispatch.2.accesses =
      [.read .exitReason, .read .rip, .read .rsp, .read .rflags, .write .activityState] :=
  ⟨rfl, rfl⟩

end Machine

end NestedVisor
