import Mathlib.Logic.Basic
import NestedVisor.Proofs.Machine.Exit

/-!
# What comes of a dispatch

A dispatch lets the guest go on in one of two ways: after the instruction that exited, or where
it stands, with an exception and nothing else changed.
-/

namespace NestedVisor.Machine

open Exit

variable {m m' : Machine}

def begun (m : Machine) : Machine :=
  { m with phase := .dispatching }

theorem dispatch_of_alive (alive : m.phase ≠ .terminating) :
    (m.dispatch.1 = true ↔ (exec serveExit m.begun).1 = .ok .advance ∨
      (exec serveExit m.begun).1 = .ok .resume) ∧
    ∃ phase journal, m.dispatch.2 = { (exec serveExit m.begun).2 with phase, journal } := by
  obtain ⟨result, served, run⟩ : ∃ result served,
      serveExit.run.run { m with phase := .dispatching } = (result, served) := ⟨_, _, rfl⟩
  have run' : exec serveExit m.begun = (result, served) := run
  rw [dispatch, if_neg alive, run, run']
  cases result with
  | error fault => exact ⟨by simp, _, _, rfl⟩
  | ok outcome =>
      cases outcome with
      | shutDown => exact ⟨by simp, _, _, rfl⟩
      | _ => exact ⟨by simp, _, served.journal, rfl⟩

theorem serves_dispatch (alive : m.phase ≠ .terminating) :
    ∃ result served phase journal, m.begun.Serves result served ∧
      (m.dispatch.1 = true ↔ result = .ok .advance ∨ result = .ok .resume) ∧
      m.dispatch.2 = { served with phase, journal } := by
  obtain ⟨goesOn, phase, journal, after⟩ := dispatch_of_alive alive
  exact ⟨_, _, phase, journal, (fits_serveExit m.begun).leaves, goesOn, after⟩

theorem alive_of_dispatch (resumed : m.dispatch.1 = true) : m.phase ≠ .terminating := by
  intro ended
  rw [dispatch, if_pos ended] at resumed
  cases resumed

theorem opens_begun {reason : Reason} : m.begun.Opens reason ↔ m.Opens reason :=
  ⟨fun h => ⟨h.known, h.readable⟩, fun h => ⟨h.known, h.readable⟩⟩

theorem opens_of_dispatch (resumed : m.dispatch.1 = true) : ∃ reason, m.Opens reason := by
  obtain ⟨_, _, _, _, serves, goesOn, _⟩ := serves_dispatch (alive_of_dispatch resumed)
  cases serves with
  | closed => simp [resumed] at goesOn
  | ended opens => exact ⟨_, opens_begun.1 opens⟩
  | advanced _ opens => exact ⟨_, opens_begun.1 opens⟩
  | stuck => simp [resumed] at goesOn

/-! ## The two ways on -/

/-- The guest goes on after the instruction, and nothing is queued for it. -/
structure Advanced (m m' : Machine) : Prop where
  length : m.ValidLength
  rip : m'.vmcs.get .rip = m.vmcs.get .rip + m.instructionLength
  info : m'.vmcs.fields.lookup .entryInterruptionInfo =
    m.vmcs.fields.lookup .entryInterruptionInfo
  errorCode : m'.vmcs.fields.lookup .entryErrorCode = m.vmcs.fields.lookup .entryErrorCode

instance (m m' : Machine) : Decidable (Advanced m m') :=
  decidable_of_iff (m.ValidLength ∧ m'.vmcs.get .rip = m.vmcs.get .rip + m.instructionLength ∧
      m'.vmcs.fields.lookup .entryInterruptionInfo =
        m.vmcs.fields.lookup .entryInterruptionInfo ∧
      m'.vmcs.fields.lookup .entryErrorCode = m.vmcs.fields.lookup .entryErrorCode)
    ⟨fun h => ⟨h.1, h.2.1, h.2.2.1, h.2.2.2⟩, fun h => ⟨h.length, h.rip, h.info, h.errorCode⟩⟩

/-- The guest meets an exception where it stands, and all else is as it was at the exit. -/
structure Injected (m m' : Machine) : Prop where
  event :
    m'.vmcs.get .entryInterruptionInfo = Injection.generalProtection.word.setWidth 64 ∧
        m'.vmcs.get .entryErrorCode = 0 ∨
      m'.vmcs.get .entryInterruptionInfo = Injection.undefinedOpcode.word.setWidth 64 ∧
        m'.vmcs.fields.lookup .entryErrorCode = m.vmcs.fields.lookup .entryErrorCode
  -- RIP is one of these
  fields : ∀ field ∉ [VmcsField.entryInterruptionInfo, .entryErrorCode],
    m'.vmcs.fields.lookup field = m.vmcs.fields.lookup field
  registers : m'.registers = m.loaded
  processor : m'.processor = m.processor
  trace : m'.trace = m.trace
  ept : m'.ept = m.ept
  host : m'.host = m.host
  taskPriority : m'.taskPriority = m.taskPriority

/-- The registers that the control structure keeps are the same in both places. -/
structure Synchronized (m : Machine) : Prop where
  rip : m.registers.rip = m.vmcs.get .rip
  rsp : m.registers.rsp = m.vmcs.get .rsp
  rflags : m.registers.rflags = m.vmcs.get .rflags

theorem Injected.get_eq (injected : Injected m m') {field : VmcsField}
    (other : field ∉ [VmcsField.entryInterruptionInfo, .entryErrorCode]) :
    m'.vmcs.get field = m.vmcs.get field := by
  rw [Vmcs.get, Vmcs.get, injected.fields field other]

theorem Injected.synchronized (injected : Injected m m') : Synchronized m' := by
  constructor
  all_goals
    rw [injected.registers, injected.get_eq (by decide)]
    rfl

theorem Advanced.not_injected (advanced : Advanced m m') : ¬ Injected m m' := by
  intro injected
  -- a valid length moves RIP
  have moved := advanced.rip.symm.trans (injected.get_eq (by decide))
  have stays : m.instructionLength = 0 := BitVec.add_right_eq_self.1 moved
  simpa [ValidLength, stays] using advanced.length

section

variable {reason : Reason} {core : Machine} {notes : Notes} {phase : Phase} {journal : Journal}

theorem advanced_of_emulates
    (deed : Emulates (m.begun.captured reason) reason.service core) (valid : m.ValidLength) :
    Advanced m { (core.noting notes).moved m.instructionLength with phase, journal } where
  length := valid
  rip := by
    change (core.vmcs.put .rip (core.registers.rip + m.instructionLength)).get .rip = _
    rw [Vmcs.get_put_self, deed.rip_eq]
    rfl
  info := (lookup_withField_of_ne _ (by decide)).trans (deed.lookup_eq (by decide))
  errorCode := (lookup_withField_of_ne _ (by decide)).trans (deed.lookup_eq (by decide))

theorem synchronized_of_emulates
    (deed : Emulates (m.begun.captured reason) reason.service core) (length : Word) :
    Synchronized { (core.noting notes).moved length with phase, journal } where
  rip := (Vmcs.get_put_self ..).symm
  rsp := (deed.rsp_eq rfl).trans (Vmcs.get_put_of_ne _ _ (by decide)).symm
  rflags := by
    change core.registers.rflags = (core.vmcs.put .rip _).get .rflags
    rw [Vmcs.get_put_of_ne _ _ (by decide), deed.rflags_eq, deed.get_eq (by decide)]
    rfl

theorem injected_of_injects (event : Injects (m.begun.captured reason) core) :
    Injected m { core.noting notes with phase, journal } := by
  cases event with
  | generalProtection =>
      constructor
      case event =>
        refine .inl ⟨Vmcs.get_put_self .., ?_⟩
        exact (Vmcs.get_put_of_ne _ _ (by decide)).trans (Vmcs.get_put_self ..)
      case fields =>
        intro field other
        simp only [List.mem_cons, List.not_mem_nil, not_or] at other
        exact (lookup_withField_of_ne _ other.1).trans (lookup_withField_of_ne _ other.2.1)
      all_goals rfl
  | undefinedOpcode =>
      constructor
      case event => exact .inr ⟨Vmcs.get_put_self .., lookup_withField_of_ne _ (by decide)⟩
      case fields =>
        intro field other
        simp only [List.mem_cons, List.not_mem_nil, not_or] at other
        exact lookup_withField_of_ne _ other.1
      all_goals rfl

end

/-- RIP apart, a guest and its host cannot tell the two from each other. -/
structure Follows (core m : Machine) : Prop where
  registers : ∃ rip, m.registers = { core.registers with rip }
  fields : ∀ field ≠ .rip, m.vmcs.get field = core.vmcs.get field
  processor : m.processor = core.processor
  ept : m.ept = core.ept
  host : m.host = core.host
  trace : m.trace = core.trace
  taskPriority : m.taskPriority = core.taskPriority

/-- Around the service of an exit a dispatch writes no field but RIP. -/
theorem get_dispatch {reason : Reason} (alive : m.phase ≠ .terminating) (opens : m.Opens reason)
    {field : VmcsField} (ne : field ≠ .rip) :
    m.dispatch.2.vmcs.get field =
      (exec (serve reason m.exitReasonField) (m.begun.captured reason)).2.vmcs.get field := by
  obtain ⟨_, phase, journal, after⟩ := dispatch_of_alive alive
  rw [after]
  exact get_serveExit (opens_begun.2 opens) ne

/-- What a service that only goes on after the instruction did stays done. -/
theorem follows_of_opens {reason : Reason} (alive : m.phase ≠ .terminating)
    (opens : m.Opens reason)
    (course : serviceCourse (m.begun.captured reason) m.exitReasonField reason.service =
      .ends (.ok .advance)) :
    ∃ core, Emulates (m.begun.captured reason) reason.service core ∧ Follows core m.dispatch.2 := by
  obtain ⟨result, served, phase, journal, serves, _, after⟩ := serves_dispatch alive
  rw [after]
  cases serves with
  | closed rip rsp rflags accesses closed => exact absurd (opens_begun.2 opens) (closed reason)
  | ended opens' stays ends =>
      obtain rfl := (opens_begun.1 opens').unique opens
      exact absurd (ends.trans (congrArg (·.result m.vmcs) course)) stays
  | @advanced _ core notes opens' deed =>
      obtain rfl := (opens_begun.1 opens').unique opens
      exact ⟨core, deed, ⟨_, rfl⟩, fun _ ne => Vmcs.get_put_of_ne _ _ ne, rfl, rfl, rfl, rfl, rfl⟩
  | @stuck _ core _ notes rip opens' deed =>
      obtain rfl := (opens_begun.1 opens').unique opens
      exact ⟨core, deed, ⟨rip, rfl⟩, fun _ _ => rfl, rfl, rfl, rfl, rfl, rfl⟩

/-- What is loaded before the service can be read, so that its course decides. -/
theorem result_exitCourse_of_opens {reason : Reason} (opens : m.Opens reason) :
    m.begun.exitCourse.result m.begun.vmcs =
      ((serviceCourse (m.begun.captured reason) m.exitReasonField reason.service).followed
        m.advanceCourse).result m.vmcs := by
  have readable {field : VmcsField} (early : field ∈ [VmcsField.exitReason, .rip, .rsp, .rflags]) :
      ¬ (Access.read field).Denied m.begun.vmcs := opens.readable field early
  have known : m.begun.exitReason? = some reason := opens.known
  rw [exitCourse, Course.result_after_of_not_denied _ (readable (by decide)),
    Course.result_after_of_not_denied _ (readable (by decide)),
    Course.result_after_of_not_denied _ (readable (by decide)),
    Course.result_after_of_not_denied _ (readable (by decide)), known]
  rfl

/-- Such a service lets the guest go on exactly where RIP can be moved past the instruction. -/
theorem dispatch_eq_true_of_course {reason : Reason} (alive : m.phase ≠ .terminating)
    (opens : m.Opens reason)
    (course : serviceCourse (m.begun.captured reason) m.exitReasonField reason.service =
      .ends (.ok .advance)) :
    m.dispatch.1 = true ↔ ¬ (Access.read .exitInstructionLength).Denied m.vmcs ∧ m.ValidLength ∧
      ¬ (Access.write .rip).Denied m.vmcs := by
  have result : m.begun.exitCourse.result m.begun.vmcs = m.advanceCourse.result m.vmcs := by
    rw [result_exitCourse_of_opens opens, course]
    rfl
  rw [(dispatch_of_alive alive).1, (fits_serveExit m.begun).result, result, advanceCourse,
    Course.result_after]
  by_cases unread : (Access.read .exitInstructionLength).Denied m.vmcs
  · simp [unread]
  by_cases valid : m.ValidLength
  · rw [if_neg unread, if_pos valid, Course.result_after]
    by_cases unwritten : (Access.write .rip).Denied m.vmcs
    · simp [unwritten]
    · simp [unread, valid, unwritten, Course.result, Course.ends]
  · simp [unread, valid, Course.result, Course.ends]

/-- A service that goes on after the instruction has carried it out. -/
theorem emulates_of_dispatch {reason : Reason} (opens : m.Opens reason)
    (goesOn : (serviceCourse (m.begun.captured reason) m.exitReasonField reason.service).ending =
      .ok .advance) (resumed : m.dispatch.1 = true) :
    ∃ core notes phase journal,
      Emulates (m.begun.captured reason) reason.service core ∧ m.ValidLength ∧
        m.dispatch.2 =
          { (core.noting notes).moved m.instructionLength with phase, journal } := by
  obtain ⟨result, served, phase, journal, serves, resumes, after⟩ :=
    serves_dispatch (alive_of_dispatch resumed)
  rw [after]
  cases serves with
  | closed => simp [resumed] at resumes
  | ended opens' stays ends =>
      obtain rfl := (opens_begun.1 opens').unique opens
      change result = (serviceCourse _ m.exitReasonField _).result m.vmcs at ends
      rw [Course.result, goesOn] at ends
      -- an access that is denied stops the machine
      split at ends <;> simp_all
  | @advanced _ core notes opens' deed knows valid =>
      obtain rfl := (opens_begun.1 opens').unique opens
      exact ⟨core, notes, phase, journal, deed, valid, rfl⟩
  | stuck => simp [resumed] at resumes

/-- The dispatch carried out the instruction that exited, to this end. -/
structure CarriesOut (m : Machine) (reason : Reason) (core : Machine) : Prop where
  alive : m.phase ≠ .terminating
  opens : m.Opens reason
  deed : Emulates (m.begun.captured reason) reason.service core
  follows : Follows core m.dispatch.2

/-- What a dispatch keeps when it does not carry the instruction out. -/
structure Rests (m : Machine) (resumes : Bool) (m' : Machine) : Prop where
  /-- Nothing is written but an exception, or a shadow without the register behind it. -/
  fields : (∀ field ∉ [VmcsField.entryInterruptionInfo, .entryErrorCode],
      m'.vmcs.get field = m.vmcs.get field) ∨
    resumes = false ∧ ∃ shadow ∈ [VmcsField.cr0ReadShadow, .cr4ReadShadow],
      ∃ value, m'.vmcs = m.vmcs.put shadow value
  processor : m'.processor = m.processor
  ept : m'.ept = m.ept
  trace : m'.trace = m.trace

theorem Rests.get_eq {resumes : Bool} (rests : Rests m resumes m') {field : VmcsField}
    (other : field ∉ [VmcsField.entryInterruptionInfo, .entryErrorCode, .cr0ReadShadow,
      .cr4ReadShadow]) : m'.vmcs.get field = m.vmcs.get field := by
  rcases rests.fields with kept | ⟨-, shadow, first, value, stored⟩
  · exact kept field fun queued => other (List.mem_append_left _ queued)
  · rw [stored]
    refine Vmcs.get_put_of_ne _ _ ?_
    rintro rfl
    exact other (List.mem_cons_of_mem _ (List.mem_cons_of_mem _ first))

theorem carriesOut_or_rests (m : Machine) :
    (∃ reason core, m.CarriesOut reason core) ∨ Rests m m.dispatch.1 m.dispatch.2 := by
  by_cases ended : m.phase = .terminating
  · rw [dispatch, if_pos ended]
    exact .inr ⟨.inl fun _ _ => rfl, rfl, rfl, rfl⟩
  obtain ⟨result, served, phase, journal, serves, goesOn, after⟩ := serves_dispatch ended
  cases serves with
  | closed => exact .inr (after ▸ ⟨.inl fun _ _ => rfl, rfl, rfl, rfl⟩)
  | ended opens stays ends behaves =>
      cases behaves with
      | advanced => exact absurd rfl stays
      | turnedOff => exact .inr (after ▸ ⟨.inl fun _ _ => rfl, rfl, rfl, rfl⟩)
      | injected notes event =>
          have injected : Injected m m.dispatch.2 := after ▸ injected_of_injects event
          exact .inr ⟨.inl fun _ => injected.get_eq, injected.processor, injected.ept,
            injected.trace⟩
      | stopped notes rest =>
          cases rest with
          | untouched => exact .inr (after ▸ ⟨.inl fun _ _ => rfl, rfl, rfl, rfl⟩)
          | stackPointer => exact .inr (after ▸ ⟨.inl fun _ _ => rfl, rfl, rfl, rfl⟩)
          | halfWritten value first =>
              refine .inr (after ▸ ⟨?_, rfl, rfl, rfl⟩)
              rcases List.mem_cons.1 first with rfl | first
              · refine .inl fun field other => Vmcs.get_put_of_ne _ _ ?_
                rintro rfl
                exact other (by decide)
              · exact .inr ⟨by simpa using goesOn, _, first, value, rfl⟩
  | @advanced reason core notes opens deed knows valid =>
      refine .inl ⟨reason, core, ended, opens_begun.1 opens, deed, after ▸ ?_⟩
      exact ⟨⟨_, rfl⟩, fun _ ne => Vmcs.get_put_of_ne _ _ ne, rfl, rfl, rfl, rfl, rfl⟩
  | @stuck reason core _ notes rip opens deed =>
      refine .inl ⟨reason, core, ended, opens_begun.1 opens, deed, after ▸ ?_⟩
      exact ⟨⟨rip, rfl⟩, fun _ _ => rfl, rfl, rfl, rfl, rfl, rfl⟩

theorem carriesOut_or_injected_of_dispatch (resumed : m.dispatch.1 = true) :
    (∃ reason core, m.CarriesOut reason core ∧ Advanced m m.dispatch.2 ∧
      Synchronized m.dispatch.2) ∨ Injected m m.dispatch.2 := by
  have alive := alive_of_dispatch resumed
  obtain ⟨result, served, phase, journal, serves, goesOn, after⟩ := serves_dispatch alive
  cases serves with
  | ended opens stays ends behaves =>
      cases behaves with
      | injected notes event => exact .inr (after ▸ injected_of_injects event)
      | advanced => exact absurd rfl stays
      | turnedOff => simp [resumed] at goesOn
      | stopped => simp [resumed] at goesOn
  | @advanced reason core notes opens deed knows valid =>
      refine .inl ⟨reason, core, ⟨alive, opens_begun.1 opens, deed, ?_⟩, ?_⟩
      · rw [after]
        exact ⟨⟨_, rfl⟩, fun _ ne => Vmcs.get_put_of_ne _ _ ne, rfl, rfl, rfl, rfl, rfl⟩
      · rw [after]
        exact ⟨advanced_of_emulates deed valid, synchronized_of_emulates deed _⟩
  | _ => simp [resumed] at goesOn

theorem advanced_or_injected_of_dispatch (resumed : m.dispatch.1 = true) :
    Advanced m m.dispatch.2 ∧ Synchronized m.dispatch.2 ∨ Injected m m.dispatch.2 :=
  (carriesOut_or_injected_of_dispatch resumed).imp_left fun ⟨_, _, _, advanced⟩ => advanced

/-- A guest that goes on was either moved past its instruction or handed an exception. -/
theorem dispatch_advances_or_injects (resumed : m.dispatch.1 = true) :
    Xor (Advanced m m.dispatch.2) (Injected m m.dispatch.2) ∧ Synchronized m.dispatch.2 := by
  rcases advanced_or_injected_of_dispatch resumed with ⟨advanced, synchronized⟩ | injected
  · exact ⟨.inl ⟨advanced, advanced.not_injected⟩, synchronized⟩
  · exact ⟨.inr ⟨injected, fun advanced => advanced.not_injected injected⟩,
      injected.synchronized⟩

def exitingFor (reason length : Word) : Machine where
  processor := .blank
  vmcs := { fields := [(.exitReason, reason), (.exitInstructionLength, length), (.rip, 0x40)] }
  ept := ⟨0, fun _ => .empty, .ofRun 0x100000 16⟩

theorem dispatch_advances_hlt_and_injects_vmxon :
    ((exitingFor 12 1).dispatch.1 = true ∧
      Advanced (exitingFor 12 1) (exitingFor 12 1).dispatch.2) ∧
    (exitingFor 27 5).dispatch.1 = true ∧
      Injected (exitingFor 27 5) (exitingFor 27 5).dispatch.2 := by
  refine ⟨⟨rfl, ?_⟩, rfl, ?_⟩
  · rcases (dispatch_advances_or_injects (m := exitingFor 12 1) rfl).1 with advanced | injected
    · exact advanced.1
    · exact absurd (injected.1.get_eq (show VmcsField.rip ∉ _ by decide)) (by decide)
  · rcases (dispatch_advances_or_injects (m := exitingFor 27 5) rfl).1 with advanced | injected
    · exact absurd advanced.1.rip (by decide)
    · exact injected.1

end NestedVisor.Machine
