import NestedVisor.Proofs.Exit.Frame
import NestedVisor.Proofs.Exit.Service

/-!
# Serving one exit

Around its service an exit loads three registers and, after an instruction that was carried out,
moves RIP.  `exitCourse` is the course of the whole, and `Serves` says how it can go.
-/

namespace NestedVisor.Machine

open Exit

variable {m : Machine}

section

variable (m : Machine)

def exitReasonField : BitVec 32 :=
  (m.vmcs.get .exitReason).setWidth 32

def exitReason? : Option Reason :=
  Reason.ofField? (m.exitReasonField.setWidth 64)

def instructionLength : Word :=
  m.vmcs.get .exitInstructionLength

def ValidLength : Prop :=
  1 ≤ m.instructionLength.toNat ∧ m.instructionLength.toNat ≤ maxInstructionLength

instance : Decidable m.ValidLength :=
  inferInstanceAs (Decidable (_ ∧ _))

def advanceCourse : Course :=
  .after (.read .exitInstructionLength)
    (if m.ValidLength then .after (.write .rip) (.ends (.ok .advance))
      else .ends (.error (.invalidInstructionLength m.instructionLength)))

def exitCourse : Course :=
  .after (.read .exitReason) (.after (.read .rip) (.after (.read .rsp) (.after (.read .rflags)
    (match m.exitReason? with
      | none => .ends (.error (.unhandledExit m.exitReasonField))
      | some reason =>
          (serviceCourse (m.captured reason) m.exitReasonField reason.service).followed
            m.advanceCourse))))

/-- RIP as it is in the register file, plus a length, in both places. -/
def moved (length : Word) : Machine :=
  (m.withField .rip (m.registers.rip + length)).withRegisters
    { m.registers with rip := m.registers.rip + length }

/-- The exit is for this reason, and what a dispatch loads before the service can be read. -/
structure Opens (reason : Reason) : Prop where
  known : m.exitReason? = some reason
  readable : ∀ field ∈ [VmcsField.exitReason, .rip, .rsp, .rflags],
    ¬ (Access.read field).Denied m.vmcs

inductive Serves : Except Fault Outcome → Machine → Prop
  | closed {fault : Fault} (rip rsp rflags : Word) (accesses : List Access)
      (closed : ∀ reason, ¬ m.Opens reason) :
      Serves (.error fault)
        { m with registers := { m.registers with rip, rsp, rflags }, accesses }
  | ended {reason : Reason} {result : Except Fault Outcome} {m' : Machine}
      (opens : m.Opens reason) (stays : result ≠ .ok .advance)
      (ends : result =
        (serviceCourse (m.captured reason) m.exitReasonField reason.service).result m.vmcs)
      (behaves : Behaves (m.captured reason) reason.service result m') : Serves result m'
  | advanced {reason : Reason} {core : Machine} (notes : Notes) (opens : m.Opens reason)
      (deed : Emulates (m.captured reason) reason.service core) (knows : m.Knows notes.width)
      (valid : m.ValidLength) : Serves (.ok .advance) ((core.noting notes).moved m.instructionLength)
  | stuck {reason : Reason} {core : Machine} {fault : Fault} (notes : Notes) (rip : Word)
      (opens : m.Opens reason) (deed : Emulates (m.captured reason) reason.service core)
      (knows : m.Knows notes.width) :
      Serves (.error fault) ((core.withRegisters { core.registers with rip }).noting notes)

end

instance (m : Machine) (reason : Reason) : Decidable (m.Opens reason) :=
  decidable_of_iff (m.exitReason? = some reason ∧
      [VmcsField.exitReason, .rip, .rsp, .rflags].all fun field =>
        ¬ (Access.read field).Denied m.vmcs)
    ⟨fun h => ⟨h.1, fun field among => of_decide_eq_true (List.all_eq_true.1 h.2 field among)⟩,
      fun h => ⟨h.known, List.all_eq_true.2 fun field among =>
        decide_eq_true (h.readable field among)⟩⟩

theorem Opens.unique {first second : Reason} (opens : m.Opens first) (opens' : m.Opens second) :
    first = second :=
  Option.some.inj (opens.known.symm.trans opens'.known)

/-! ## Around the service -/

theorem exec_loadRegisters (m : Machine) :
    exec loadRegisters m =
      if (Access.read .rip).Denied m.vmcs then
        (.error (.fieldAccess VmcsField.rip), m.tried (.read .rip))
      else if (Access.read .rsp).Denied m.vmcs then
        (.error (.fieldAccess VmcsField.rsp),
          ((m.withRegisters { m.registers with rip := m.vmcs.get .rip }).tried
            (.read .rip)).tried (.read .rsp))
      else if (Access.read .rflags).Denied m.vmcs then
        (.error (.fieldAccess VmcsField.rflags),
          (((m.withRegisters { m.registers with
            rip := m.vmcs.get .rip
            rsp := m.vmcs.get .rsp }).tried (.read .rip)).tried (.read .rsp)).tried
              (.read .rflags))
      else (.ok (), m.opened) := by
  simp only [loadRegisters, exec_bind, exec_readField, exec_modifyRegisters, tried, withRegisters]
  by_cases rip : (Access.read .rip).Denied m.vmcs
  · simp only [Vmcs.read_of_denied rip, if_pos rip]
  · simp only [Vmcs.read_of_not_denied rip, if_neg rip]
    by_cases rsp : (Access.read .rsp).Denied m.vmcs
    · simp only [Vmcs.read_of_denied rsp, if_pos rsp]
    · simp only [Vmcs.read_of_not_denied rsp, if_neg rsp]
      by_cases rflags : (Access.read .rflags).Denied m.vmcs
      · simp only [Vmcs.read_of_denied rflags, if_pos rflags]
      · simp [Vmcs.read_of_not_denied rflags, if_neg rflags, opened, loaded]

theorem eq_opened_of_exec_loadRegisters {m' : Machine} {u : Unit}
    (run : exec loadRegisters m = (.ok u, m')) : m' = m.opened := by
  rw [exec_loadRegisters] at run
  repeat' split at run
  all_goals
    cases run
    try rfl

theorem exec_advanceRip (m : Machine) :
    exec advanceRip m =
      if (Access.read .exitInstructionLength).Denied m.vmcs then
        (.error (.fieldAccess VmcsField.exitInstructionLength),
          m.tried (.read .exitInstructionLength))
      else if ¬ m.ValidLength then
        (.error (.invalidInstructionLength m.instructionLength),
          m.tried (.read .exitInstructionLength))
      else if (Access.write .rip).Denied m.vmcs then
        (.error (.fieldAccess VmcsField.rip),
          ((m.withRegisters { m.registers with
            rip := m.registers.rip + m.instructionLength }).tried
              (.read .exitInstructionLength)).tried (.write .rip))
      else (.ok (), ((m.moved m.instructionLength).tried (.read .exitInstructionLength)).tried
        (.write .rip)) := by
  rw [advanceRip, exec_bind, exec_readInstructionLength]
  by_cases denied : (Access.read .exitInstructionLength).Denied m.vmcs
  · have read : m.vmcs.instructionLength = .error (.fieldAccess VmcsField.exitInstructionLength) := by
      rw [Vmcs.instructionLength, Vmcs.read_of_denied denied]
      rfl
    rw [read, if_pos denied]
  · rw [if_neg denied]
    by_cases valid : m.ValidLength
    · have read : m.vmcs.instructionLength = .ok m.instructionLength := by
        rw [Vmcs.instructionLength, Vmcs.read_of_not_denied denied]
        exact if_pos valid
      rw [read, if_neg (not_not_intro valid)]
      -- the new RIP is in the register file before it is written back
      let m₁ := (m.withRegisters { m.registers with
        rip := m.registers.rip + m.instructionLength }).tried (.read .exitInstructionLength)
      change exec (writeField .rip (m.registers.rip + m.instructionLength)) m₁ = _
      by_cases last : (Access.write .rip).Denied m.vmcs
      · rw [if_pos last, exec_writeField_of_denied (m := m₁) last]
      · rw [if_neg last, exec_writeField_of_not_denied (m := m₁) last]
        rfl
    · have read : m.vmcs.instructionLength =
          .error (.invalidInstructionLength m.instructionLength) := by
        rw [Vmcs.instructionLength, Vmcs.read_of_not_denied denied]
        exact if_neg valid
      rw [read, if_pos valid]

/-! ## The whole -/

/-- What is left to do once an exit is counted. -/
def serveAndAdvance (reason : Reason) (field : BitVec 32) : Handler Outcome := do
  let outcome ← serve reason field
  if outcome = .advance then
    advanceRip
  return outcome

theorem exec_serveExit (m : Machine) :
    exec serveExit m =
      if (Access.read .exitReason).Denied m.vmcs then
        (.error (.fieldAccess VmcsField.exitReason), m.tried (.read .exitReason))
      else match exec loadRegisters (m.tried (.read .exitReason)) with
        | (.error fault, m') => (.error fault, m')
        | (.ok (), m') =>
            match m.exitReason? with
            | none => (.error (.unhandledExit m.exitReasonField), m')
            | some reason => exec (serveAndAdvance reason m.exitReasonField) (m.captured reason) := by
  rw [serveExit, exec_bind, exec_readExitReason, Vmcs.exitReason]
  by_cases unread : (Access.read .exitReason).Denied m.vmcs
  · rw [Vmcs.read_of_denied unread, if_pos unread]
    rfl
  · rw [Vmcs.read_of_not_denied unread, if_neg unread]
    simp only [Except.map]
    rw [exec_bind]
    cases run : exec loadRegisters (m.tried (.read .exitReason)) with
    | mk result m' =>
        cases result with
        | error fault => rfl
        | ok u =>
            rw [eq_opened_of_exec_loadRegisters run, exitReason?, exitReasonField]
            cases Reason.ofField? (((m.vmcs.get .exitReason).setWidth 32).setWidth 64) with
            | none => rfl
            | some reason => rfl

theorem exec_serveExit_of_opens {reason : Reason} (opens : m.Opens reason) :
    exec serveExit m = exec (serveAndAdvance reason m.exitReasonField) (m.captured reason) := by
  have readable {field : VmcsField} (early : field ∈ [VmcsField.exitReason, .rip, .rsp, .rflags]) :
      ¬ (Access.read field).Denied m.vmcs := opens.readable field early
  rw [exec_serveExit, if_neg (readable (by decide)), exec_loadRegisters, vmcs_tried,
    if_neg (readable (by decide)), if_neg (readable (by decide)), if_neg (readable (by decide))]
  dsimp only
  rw [opens.known]

theorem get_advanceRip (m : Machine) {field : VmcsField} (ne : field ≠ .rip) :
    (exec advanceRip m).2.vmcs.get field = m.vmcs.get field := by
  rw [exec_advanceRip]
  repeat' split
  · rfl
  · rfl
  · rfl
  · exact Vmcs.get_put_of_ne _ _ ne

/-- Around the service of an exit no field is written but RIP. -/
theorem get_serveExit {reason : Reason} (opens : m.Opens reason) {field : VmcsField}
    (ne : field ≠ .rip) :
    (exec serveExit m).2.vmcs.get field =
      (exec (serve reason m.exitReasonField) (m.captured reason)).2.vmcs.get field := by
  rw [exec_serveExit_of_opens opens, serveAndAdvance, exec_bind]
  cases exec (serve reason m.exitReasonField) (m.captured reason) with
  | mk result served =>
      rcases result with fault | outcome
      · rfl
      cases outcome with
      | advance =>
          change (exec (do
            advanceRip
            return Outcome.advance) served).2.vmcs.get field = _
          rw [exec_bind, ← get_advanceRip served ne]
          cases exec advanceRip served with
          | mk result moved => cases result <;> rfl
      | _ => rfl

/-! ## Its course -/

theorem fits_advance {reason : Reason} {core : Machine} {notes : Notes} (opens : m.Opens reason)
    (deed : Emulates (m.captured reason) reason.service core) (knows : m.Knows notes.width) :
    m.advanceCourse.Fits m.vmcs notes.accesses m.Serves
      (exec (do advanceRip; return .advance) (core.noting notes)) := by
  -- the emulation kept everything that the advance looks at
  have length : (core.noting notes).instructionLength = m.instructionLength :=
    deed.get_eq (by decide)
  have valid : (core.noting notes).ValidLength ↔ m.ValidLength := by
    rw [ValidLength, ValidLength, length]
  have denied (access : Access) : access.Denied (core.noting notes).vmcs ↔
      access.Denied m.vmcs := deed.denied_iff access
  let read := notes.trying (.read .exitInstructionLength)
  rw [exec_bind, exec_advanceRip, advanceCourse]
  simp only [denied, valid, length]
  by_cases unread : (Access.read .exitInstructionLength).Denied m.vmcs
  · rw [if_pos unread]
    exact .refused unread rfl (.stuck read core.registers.rip opens deed knows)
  rw [if_neg unread]
  refine .granted unread ?_
  by_cases short : m.ValidLength
  · rw [if_neg (not_not_intro short), if_pos short]
    by_cases unwritten : (Access.write .rip).Denied m.vmcs
    · rw [if_pos unwritten]
      -- RIP is ahead in the register file
      have left (fault : Fault) : m.Serves (.error fault)
          ((core.withRegisters { core.registers with
            rip := core.registers.rip + m.instructionLength }).noting
              (read.trying (.write .rip))) := .stuck _ _ opens deed knows
      exact .refused unwritten rfl (left _)
    · rw [if_neg unwritten]
      exact .granted unwritten
        (.ends _ rfl (.advanced (read.trying (.write .rip)) opens deed knows short))
  · rw [if_pos short, if_neg short]
    exact .ends _ rfl (.stuck read core.registers.rip opens deed knows)

theorem fits_serveAndAdvance {reason : Reason} (opens : m.Opens reason) :
    ((serviceCourse (m.captured reason) m.exitReasonField reason.service).followed
      m.advanceCourse).Fits m.vmcs (m.captured reason).accesses m.Serves
        (exec (serveAndAdvance reason m.exitReasonField) (m.captured reason)) := by
  have fits := takes_serve (m := m.captured reason) reason m.exitReasonField
    (m.captured reason).notes (.inl rfl)
  rw [noting_notes] at fits
  rw [serveAndAdvance, exec_bind]
  cases served : exec (serve reason m.exitReasonField) (m.captured reason) with
  | mk result m' =>
      rw [served] at fits
      cases result with
      | error fault => exact fits.stays nofun (.ended opens nofun fits.result fits.leaves)
      | ok outcome =>
          cases outcome with
          | resume => exact fits.stays nofun (.ended opens nofun fits.result fits.leaves)
          | shutDown => exact fits.stays nofun (.ended opens nofun fits.result fits.leaves)
          | advance =>
              refine fits.follows ?_
              cases fits.leaves with
              | advanced notes deed knows => exact fits_advance opens deed knows

/-- The service of an exit takes its course, and goes one of the ways listed. -/
theorem fits_serveExit (m : Machine) :
    m.exitCourse.Fits m.vmcs m.accesses m.Serves (exec serveExit m) := by
  have closed {field : VmcsField} (denied : (Access.read field).Denied m.vmcs)
      (early : field ∈ [VmcsField.exitReason, .rip, .rsp, .rflags]) (reason : Reason) :
      ¬ m.Opens reason := fun opens => opens.readable field early denied
  rw [exec_serveExit, exec_loadRegisters, vmcs_tried, exitCourse]
  by_cases reason : (Access.read .exitReason).Denied m.vmcs
  · rw [if_pos reason]
    exact .refused reason rfl (.closed m.registers.rip m.registers.rsp m.registers.rflags _
      (closed reason (by decide)))
  rw [if_neg reason]
  refine .granted reason ?_
  by_cases rip : (Access.read .rip).Denied m.vmcs
  · rw [if_pos rip]
    exact .refused rip rfl (.closed m.registers.rip m.registers.rsp m.registers.rflags _
      (closed rip (by decide)))
  rw [if_neg rip]
  refine .granted rip ?_
  by_cases rsp : (Access.read .rsp).Denied m.vmcs
  · rw [if_pos rsp]
    exact .refused rsp rfl (.closed _ m.registers.rsp m.registers.rflags _
      (closed rsp (by decide)))
  rw [if_neg rsp]
  refine .granted rsp ?_
  by_cases rflags : (Access.read .rflags).Denied m.vmcs
  · rw [if_pos rflags]
    exact .refused rflags rfl (.closed _ _ m.registers.rflags _ (closed rflags (by decide)))
  rw [if_neg rflags]
  refine .granted rflags ?_
  have loads : m.accesses ++ [.read .exitReason] ++ [.read .rip] ++ [.read .rsp] ++
      [.read .rflags] = (m.tried (.read .exitReason)).opened.accesses := by
    simp [tried, opened]
  rw [loads]
  cases known : m.exitReason? with
  | none =>
      exact .ends _ rfl (.closed _ _ _ _ fun reason opens => by simpa [known] using opens.known)
  | some exit => exact fits_serveAndAdvance ⟨known, by simp [*]⟩

end NestedVisor.Machine
