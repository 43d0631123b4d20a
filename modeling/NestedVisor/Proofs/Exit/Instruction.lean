import NestedVisor.Proofs.Exit.Course

/-!
# Courses of injections and single instructions

An injection writes to the control structure and ends the service there.  Of the single
instructions only a parking HLT and INVLPG use a field.
-/

namespace NestedVisor.Exit

open Machine

variable {m core : Machine} {service : Service}

/-! ## Injections -/

def generalProtectionCourse : Course :=
  .after (.write .entryErrorCode) (.after (.write .entryInterruptionInfo) (.ends (.ok .resume)))

def undefinedOpcodeCourse : Course :=
  .after (.write .entryInterruptionInfo) (.ends (.ok .resume))

theorem takes_injectGeneralProtection :
    Takes m service (injectGeneralProtection 0) generalProtectionCourse := by
  have stops : Stops m (m.withField .entryErrorCode 0) := .halfWritten 0 (by decide)
  have writes : writeFields (Vmcs.generalProtectionWrites 0) = (do
      writeField .entryErrorCode 0
      writeField .entryInterruptionInfo (Injection.generalProtection.word.setWidth 64)) := by
    simp [Vmcs.generalProtectionWrites, writeFields]
  rw [injectGeneralProtection, writes, bind_assoc]
  exact .log _ (.write .untouched (.write stops (.reached .pure
    fun notes known => .injected notes .generalProtection known)))

theorem takes_injectUndefinedOpcode :
    Takes m service injectUndefinedOpcode undefinedOpcodeCourse := by
  have writes : writeFields Vmcs.undefinedOpcodeWrites =
      writeField .entryInterruptionInfo (Injection.undefinedOpcode.word.setWidth 64) := by
    simp [Vmcs.undefinedOpcodeWrites, writeFields]
  rw [injectUndefinedOpcode, writes]
  exact .log _ (.write .untouched (.reached .pure
    fun notes known => .injected notes .undefinedOpcode known))

theorem writeAll_generalProtectionWrites
    (granted : ∀ access ∈ generalProtectionCourse.accesses, ¬ access.Denied m.vmcs) :
    m.vmcs.writeAll (Vmcs.generalProtectionWrites 0) =
      (.ok (), (m.withFields (Vmcs.generalProtectionWrites 0)).vmcs) := by
  have code : ¬ (Access.write .entryErrorCode).Denied m.vmcs := granted _ List.mem_cons_self
  have info (value : Word) :
      ¬ (Access.write .entryInterruptionInfo).Denied (m.vmcs.put .entryErrorCode value) :=
    granted _ (List.mem_cons_of_mem _ List.mem_cons_self)
  simp only [Vmcs.generalProtectionWrites, Vmcs.writeAll, Vmcs.write_of_not_denied _ code,
    Vmcs.write_of_not_denied _ (info _)]
  rfl

theorem vmcs_injectGeneralProtection
    (granted : ∀ access ∈ generalProtectionCourse.accesses, ¬ access.Denied m.vmcs) :
    (exec (injectGeneralProtection 0) m).2.vmcs =
      (m.withFields (Vmcs.generalProtectionWrites 0)).vmcs := by
  let logged := { m with journal := m.journal ++ [generalProtectionRecord 0] }
  obtain ⟨accesses, run⟩ := exec_writeFields (Vmcs.generalProtectionWrites 0) logged
  change (exec (writeFields (Vmcs.generalProtectionWrites 0) >>= fun _ => pure Outcome.resume)
    logged).2.vmcs = _
  rw [exec_bind, run, writeAll_generalProtectionWrites (m := logged) granted]
  rfl

/-! ## Single instructions -/

theorem takes_serveCpuid : Takes m .cpuid serveCpuid (.ends (.ok .advance)) :=
  .get (fun _ => rfl) (.log _ (.emulated .cpuid (.bind (.modifyRegisters _) .pure)))

def haltCourse (m : Machine) : Course :=
  match m.policy.halt with
  | .trap => .ends (.ok .advance)
  | .idle => .after (.write .activityState) (.ends (.ok .advance))

theorem takes_serveHalt : Takes m .halt serveHalt (haltCourse m) := by
  refine .get (fun _ => rfl) ?_
  rw [haltCourse]
  cases policy : m.policy.halt with
  | trap =>
      exact .log _ (.emulated (.halted policy) .pure)
  | idle =>
      exact .log _ (.writeField (.parked policy) .pure)

theorem takes_serveCacheFlush (reason : Reason) :
    Takes m .cacheFlush (serveCacheFlush reason) (.ends (.ok .advance)) := by
  refine .get (fun _ => rfl) ?_
  cases policy : m.policy.cache with
  | emulate =>
      exact .log _ (.emulated (.flushSkipped policy) .pure)
  | writeBackInvalidate =>
      exact .log _ (.emulated (.cachesFlushed policy) (.bind (.emit _) .pure))

def invlpgCourse : Course :=
  .after (.read .exitQualification) (.ends (.ok .advance))

theorem takes_serveInvlpg : Takes m .invlpg serveInvlpg invlpgCourse :=
  .read .exitQualification (.get (fun _ => rfl)
    (.log _ (.emulated .invlpg (.bind (.emit _) .pure))))

end NestedVisor.Exit
