import NestedVisor.Proofs.Exit.Instruction

/-!
# The course of a register access

An access to a model-specific register uses the field that the register is kept in, if it is kept
in one.  What is refused ends in an injection, and nothing was changed before.
-/

namespace NestedVisor.Exit

open Machine

variable {m : Machine}

def readMsrCourse (m : Machine) : Course :=
  match classify m.registers.ecx with
  | .vmcs field => .after (.read field) (.ends (.ok .advance))
  | .denied => generalProtectionCourse
  | _ => .ends (.ok .advance)

def writeMsrCourse (m : Machine) : Course :=
  if accepts m.registers.ecx m.registers.edxEax then
    match classify m.registers.ecx with
    | .vmcs field => .after (.write field) (.ends (.ok .advance))
    | .hardware true => .ends (.ok .advance)
    | _ => generalProtectionCourse
  else generalProtectionCourse

theorem ending_writeMsrCourse {field : VmcsField} (home : classify m.registers.ecx = .vmcs field)
    (accepted : accepts m.registers.ecx m.registers.edxEax = true) :
    (writeMsrCourse m).ending = .ok .advance := by
  rw [writeMsrCourse, if_pos accepted, home]
  rfl

theorem takes_readGuestMsr :
    Takes m (.msr .read) (readGuestMsr m.registers.ecx) (readMsrCourse m) := by
  rw [readGuestMsr, readMsrCourse]
  cases home : classify m.registers.ecx with
  | hardware writable =>
      have found : m.guestMsr? m.registers.ecx = some (m.processor.msr m.registers.ecx) := by
        rw [guestMsr?, home]
      exact .emulated (.rdmsr found) fun notes => ⟨notes.journal, rfl⟩
  | vmcs field =>
      have found : m.guestMsr? m.registers.ecx = some (m.vmcs.get field) := by
        rw [guestMsr?, home]
      exact .read field
        (.emulated (.rdmsr found) (.bind (.modifyRegisters _) .pure))
  | featureControl =>
      have found : m.guestMsr? m.registers.ecx = some featureControlValue := by
        rw [guestMsr?, home]
      exact .emulated (.rdmsr found) fun notes => ⟨notes.journal, rfl⟩
  | denied => exact .log _ takes_injectGeneralProtection

theorem takes_writeGuestMsr :
    Takes m (.msr .write) (writeGuestMsr m.registers.ecx m.registers.edxEax)
      (writeMsrCourse m) := by
  rw [writeGuestMsr, writeMsrCourse]
  by_cases accepted : accepts m.registers.ecx m.registers.edxEax = true
  · rw [if_neg (fun refused => refused accepted), if_pos accepted]
    cases home : classify m.registers.ecx with
    | hardware writable =>
        cases writable with
        | true =>
            exact .emulated (.wrmsr home accepted) fun notes => ⟨notes.journal, rfl⟩
        | false => exact .log _ takes_injectGeneralProtection
    | vmcs field =>
        exact .writeField (.wrmsrField home accepted) .pure
    | featureControl => exact .log _ takes_injectGeneralProtection
    | denied => exact .log _ takes_injectGeneralProtection
  · rw [if_pos accepted, if_neg accepted]
    exact .log _ takes_injectGeneralProtection

theorem takes_serveMsr_read : Takes m (.msr .read) (serveMsr .read) (readMsrCourse m) :=
  .getRegisters (.log _ takes_readGuestMsr)

theorem takes_serveMsr_write : Takes m (.msr .write) (serveMsr .write) (writeMsrCourse m) :=
  .getRegisters (.log _ takes_writeGuestMsr)

/-! ## Refusals -/

/-- The homes of the registers that the guest has no write to. -/
def guardedHomes : List MsrHome :=
  [.hardware false, .featureControl, .denied]

/-- The policy refuses the access to the register in ECX, or the value for it. -/
inductive RefusesAccess (m : Machine) : MsrAccess → Prop
  | read (denied : classify m.registers.ecx = .denied) : RefusesAccess m .read
  | write (guarded : classify m.registers.ecx ∈ guardedHomes) : RefusesAccess m .write
  | value (refused : accepts m.registers.ecx m.registers.edxEax = false) : RefusesAccess m .write

namespace RefusesAccess

variable {core : Machine} {access : MsrAccess}

theorem readMsrCourse_eq (refuses : RefusesAccess m .read) :
    readMsrCourse m = generalProtectionCourse := by
  cases refuses with
  | read denied => rw [readMsrCourse, denied]

theorem writeMsrCourse_eq (refuses : RefusesAccess m .write) :
    writeMsrCourse m = generalProtectionCourse := by
  rw [writeMsrCourse]
  cases refuses with
  | write guarded =>
      simp only [guardedHomes, List.mem_cons, List.not_mem_nil, or_false] at guarded
      rcases guarded with home | home | home <;> simp [home]
  | value refused => simp [refused]

theorem not_emulates (refuses : RefusesAccess m access) : ¬ Emulates m (.msr access) core := by
  intro deed
  cases refuses with
  | read denied =>
      cases deed with
      | rdmsr found => simp [guestMsr?, denied] at found
  | write guarded =>
      cases deed with
      | wrmsr home => exact absurd (home ▸ guarded) (by decide)
      | wrmsrField home => simp [home, guardedHomes] at guarded
  | value refused =>
      cases deed with
      | wrmsr home accepted => simp [refused] at accepted
      | wrmsrField home accepted => simp [refused] at accepted

theorem readGuestMsr_eq (refuses : RefusesAccess m .read) : ∃ r,
    readGuestMsr m.registers.ecx = (do log r; injectGeneralProtection 0) := by
  cases refuses with
  | read denied =>
      rw [readGuestMsr, denied]
      exact ⟨_, rfl⟩

theorem writeGuestMsr_eq (refuses : RefusesAccess m .write) : ∃ r,
    writeGuestMsr m.registers.ecx m.registers.edxEax =
      (do log r; injectGeneralProtection 0) := by
  rw [writeGuestMsr]
  cases refuses with
  | write guarded =>
      split
      · exact ⟨_, rfl⟩
      · simp only [guardedHomes, List.mem_cons, List.not_mem_nil, or_false] at guarded
        rcases guarded with home | home | home <;> rw [home] <;> exact ⟨_, rfl⟩
  | value refused =>
      rw [if_pos (by simp [refused])]
      exact ⟨_, rfl⟩

/-- A refused access is logged, and an injection is all that follows. -/
theorem exec_serveMsr (refuses : RefusesAccess m access) : ∃ journal,
    exec (serveMsr access) m = exec (injectGeneralProtection 0) { m with journal } := by
  cases access with
  | read =>
      have begun : ∃ journal, exec (serveMsr .read) m =
          exec (readGuestMsr m.registers.ecx) { m with journal } := ⟨_, rfl⟩
      obtain ⟨r, same⟩ := refuses.readGuestMsr_eq
      obtain ⟨journal, begun⟩ := begun
      exact ⟨journal ++ [r], begun.trans (same ▸ rfl)⟩
  | write =>
      have begun : ∃ journal, exec (serveMsr .write) m =
          exec (writeGuestMsr m.registers.ecx m.registers.edxEax) { m with journal } := ⟨_, rfl⟩
      obtain ⟨r, same⟩ := refuses.writeGuestMsr_eq
      obtain ⟨journal, begun⟩ := begun
      exact ⟨journal ++ [r], begun.trans (same ▸ rfl)⟩

end RefusesAccess

end NestedVisor.Exit
