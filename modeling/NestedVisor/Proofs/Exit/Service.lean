import NestedVisor.Proofs.Exit.ControlRegister
import NestedVisor.Proofs.Exit.MsrAccess
import NestedVisor.Proofs.Exit.Vmcall

/-!
# The course of each service

Every service takes its course.  When no access is denied, most of them go on, after the
instruction or where the guest stands; the others are listed.
-/

namespace NestedVisor.Exit

open Machine

variable {m : Machine}

/-- The course of a service; `field` is the full exit-reason field. -/
def serviceCourse (m : Machine) (field : BitVec 32) : Service → Course
  | .controlRegister => controlRegisterCourse m
  | .cpuid => .ends (.ok .advance)
  | .halt => haltCourse m
  | .invlpg => invlpgCourse
  | .cacheFlush => .ends (.ok .advance)
  | .msr .read => readMsrCourse m
  | .msr .write => writeMsrCourse m
  | .vmcall => vmcallCourse m
  | .undefinedOpcode => undefinedOpcodeCourse
  | .none => .ends (.error (.unhandledExit field))

theorem Reason.service_eq_controlRegister {reason : Reason} :
    reason.service = .controlRegister ↔ reason = .controlRegisterAccess := by
  cases reason <;> decide

theorem Reason.service_eq_vmcall {reason : Reason} : reason.service = .vmcall ↔ reason = .vmcall := by
  cases reason <;> decide

theorem Reason.service_eq_msr_write {reason : Reason} :
    reason.service = .msr .write ↔ reason = .wrmsr := by
  cases reason <;> decide

theorem takes_serve (reason : Reason) (field : BitVec 32) :
    Takes m reason.service (serve reason field) (serviceCourse m field reason.service) := by
  rw [serve]
  cases reason.service with
  | controlRegister => exact takes_serveControlRegister
  | cpuid => exact takes_serveCpuid
  | halt => exact takes_serveHalt
  | invlpg => exact takes_serveInvlpg
  | cacheFlush => exact takes_serveCacheFlush reason
  | msr access =>
      cases access with
      | read => exact takes_serveMsr_read
      | write => exact takes_serveMsr_write
  | vmcall => exact takes_serveVmcall
  | undefinedOpcode => exact takes_injectUndefinedOpcode
  | none => exact .log _ (.throw _)

/-! ## Endings -/

def Course.GoesOn (c : Course) : Prop :=
  c.ending = .ok .advance ∨ c.ending = .ok .resume

namespace Course

theorem result_goesOn_iff {c : Course} {v : Vmcs} :
    c.result v = .ok .advance ∨ c.result v = .ok .resume ↔
      c.GoesOn ∧ ∀ access ∈ c.accesses, ¬ access.Denied v := by
  by_cases granted : ∀ access ∈ c.accesses, ¬ access.Denied v
  · rw [result_of_granted granted, and_iff_left granted, GoesOn]
  · obtain ⟨access, used, denied⟩ : ∃ access ∈ c.accesses, access.Denied v := by
      simpa using granted
    obtain ⟨_, _, _, fails⟩ := result_of_denied used denied
    simp [fails, granted]

@[simp] theorem goesOn_ends {ending : Except Fault Outcome} :
    (ends ending).GoesOn ↔ ending = .ok .advance ∨ ending = .ok .resume :=
  Iff.rfl

@[simp] theorem goesOn_after {access : Access} {c : Course} :
    (c.after access).GoesOn ↔ c.GoesOn :=
  Iff.rfl

@[simp] theorem goesOn_ite {p : Prop} [Decidable p] {c c' : Course} :
    (if p then c else c').GoesOn ↔ (p → c.GoesOn) ∧ (¬ p → c'.GoesOn) := by
  split <;> simp [*]

end Course

@[simp] theorem goesOn_generalProtectionCourse : generalProtectionCourse.GoesOn :=
  .inr rfl

@[simp] theorem goesOn_checkedStoreCourse {safe : Bool} {shadow actual : VmcsField} :
    (checkedStoreCourse m safe shadow actual).GoesOn := by
  simp [checkedStoreCourse, storeCourse]

@[simp] theorem goesOn_writeGprCourse {g : Gpr} : (writeGprCourse g).GoesOn := by
  simp [writeGprCourse]

/-- An access to a control register that is not virtualized. -/
def UnknownAccess (m : Machine) : Prop :=
  (m.controlQualification.access = .movToCr ∨ m.controlQualification.access = .movFromCr) ∧
    m.controlQualification.controlRegister.toNat ∉ [0, 3, 4, 8]

theorem goesOn_controlRegisterCourse :
    (controlRegisterCourse m).GoesOn ↔ ¬ UnknownAccess m := by
  rw [controlRegisterCourse, Course.goesOn_after, UnknownAccess]
  split <;> simp_all [movToCr0Course, movToCr3Course, movToCr4Course, movToCr8Course, storeCourse,
    unknownAccessCourse]
  -- what is left is the case without a rule
  cases access : m.controlQualification.access <;> simp_all

theorem goesOn_readMsrCourse : (readMsrCourse m).GoesOn := by
  rw [readMsrCourse]
  cases classify m.registers.ecx <;> simp

theorem goesOn_writeMsrCourse : (writeMsrCourse m).GoesOn := by
  rw [writeMsrCourse]
  by_cases accepted : accepts m.registers.ecx m.registers.edxEax = true
  · rw [if_pos accepted]
    cases classify m.registers.ecx with
    | hardware writable => cases writable <;> simp
    | _ => simp
  · rw [if_neg accepted]
    exact goesOn_generalProtectionCourse

theorem goesOn_haltCourse : (haltCourse m).GoesOn := by
  rw [haltCourse]
  cases m.policy.halt <;> simp

theorem goesOn_vmcallCourse : (vmcallCourse m).GoesOn ↔ ¬ TurnsOff m := by
  rw [vmcallCourse]
  split <;> simp [*]

/-- The services that end the machine although no access is denied. -/
theorem goesOn_serviceCourse (field : BitVec 32) (service : Service) :
    (serviceCourse m field service).GoesOn ↔
      ¬ (service = .none ∨ service = .controlRegister ∧ UnknownAccess m ∨
        service = .vmcall ∧ TurnsOff m) := by
  cases service with
  | controlRegister => simpa [serviceCourse] using goesOn_controlRegisterCourse
  | vmcall => simpa [serviceCourse] using goesOn_vmcallCourse
  | halt => simpa [serviceCourse] using goesOn_haltCourse
  | msr access =>
      cases access with
      | read => simpa [serviceCourse] using goesOn_readMsrCourse
      | write => simpa [serviceCourse] using goesOn_writeMsrCourse
  | _ => simp [serviceCourse, invlpgCourse, undefinedOpcodeCourse]

theorem ending_controlRegisterCourse (unknown : UnknownAccess m) :
    (controlRegisterCourse m).ending =
      .error (.unknownControlRegisterAccess m.controlQualification.word) := by
  rw [controlRegisterCourse, Course.after]
  rw [UnknownAccess] at unknown
  split <;> simp_all [unknownAccessCourse, Course.ends]

/-- Faults that a service decides on, not those that an access runs into. -/
def Deliberate : Fault → Prop
  | .unhandledExit _ | .unknownControlRegisterAccess _ | .invalidInstructionLength _ => True
  | _ => False

/-- Four bits always name a register, so that no service ends for want of one. -/
theorem deliberate_of_ending_serviceCourse {field : BitVec 32} {service : Service} {fault : Fault}
    (ends : (serviceCourse m field service).ending = .error fault) : Deliberate fault := by
  have stops : ¬ (serviceCourse m field service).GoesOn := by simp [Course.GoesOn, ends]
  rw [goesOn_serviceCourse, not_not] at stops
  rcases stops with rfl | ⟨rfl, unknown⟩ | ⟨rfl, off⟩
  · cases ends
    trivial
  · rw [serviceCourse, ending_controlRegisterCourse unknown] at ends
    cases ends
    trivial
  · rw [serviceCourse, vmcallCourse, if_pos off] at ends
    cases ends

end NestedVisor.Exit
