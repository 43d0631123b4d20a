import NestedVisor.Proofs.Machine.Evolution

/-!
# The guest's model-specific registers

Some of the registers that the guest has are kept in the processor and some in fields of the
control structure.  To the guest this makes no difference: each of them has the value that it was
given last, and an access that is refused changes none of them.
-/

namespace NestedVisor

open Exit

/-! ## Values in EDX:EAX -/

theorem Registers.toNat_withEdxEax (r : Registers) (value : Word) :
    (r.withEdxEax value).rax.toNat = value.toNat % 2 ^ 32 ∧
      (r.withEdxEax value).rdx.toNat = value.toNat / 2 ^ 32 := by
  have bound := value.isLt
  simp only [withEdxEax, BitVec.toNat_setWidth, BitVec.extractLsb'_toNat, Nat.shiftRight_eq_div_pow]
  omega

/-! ## One emulation -/

namespace Exit

open Machine

variable {m m' core : Machine} {service : Service} {msr : Msr}

theorem guestMsr?_congr (processor : m'.processor = m.processor)
    (fields : ∀ entry ∈ vmcsMsrs, m'.vmcs.get entry.2 = m.vmcs.get entry.2) (msr : Msr) :
    m'.guestMsr? msr = m.guestMsr? msr := by
  rw [guestMsr?, guestMsr?, processor]
  cases home : classify msr with
  | vmcs field => exact congrArg some (fields _ (mem_vmcsMsrs_of_classify home))
  | _ => rfl

theorem Emulates.guestMsr?_cases (deed : Emulates m service core) (msr : Msr) :
    core.guestMsr? msr = m.guestMsr? msr ∨
      service = .msr .write ∧ m.registers.ecx = msr ∧ classify msr ∉ guardedHomes ∧
        accepts msr m.registers.edxEax = true := by
  cases home : classify msr with
  | hardware writable =>
      rcases deed.processor_cases with same | ⟨rfl, home', accepted, written⟩
      · exact .inl (by simp [guestMsr?, home, same])
      · by_cases number : m.registers.ecx = msr
        · subst number
          exact .inr ⟨rfl, rfl, home.symm.trans home' ▸ by decide, accepted⟩
        · have kept := m.processor.msr_writeMsr_of_ne m.registers.edxEax (Ne.symm number)
          exact .inl (by simp [guestMsr?, home, written, kept])
  | vmcs field =>
      obtain ⟨writes, stores, stored⟩ := deed.stores
      rcases stores.msr_cases m.vmcs (mem_vmcsMsrs_of_classify home) with
        same | ⟨rfl, number, accepted, -⟩
      · exact .inl (by simp [guestMsr?, home, stored, same])
      · exact .inr ⟨rfl, number, by simp [guardedHomes], accepted⟩
  | _ => exact .inl (by simp [guestMsr?, home])

theorem Emulates.guestMsr?_of_write (deed : Emulates m (.msr .write) core) :
    core.guestMsr? m.registers.ecx = some m.registers.edxEax := by
  cases deed with
  | wrmsr home => rw [guestMsr?, home, Processor.msr_writeMsr_self]
  | wrmsrField home =>
      rw [guestMsr?, home]
      exact congrArg some (Vmcs.get_put_self ..)

/-! ## The two instructions -/

def MsrAccess.reason : MsrAccess → Reason
  | .read => .rdmsr
  | .write => .wrmsr

theorem MsrAccess.service_reason (access : MsrAccess) : access.reason.service = .msr access := by
  cases access <;> rfl

theorem serve_reason (access : MsrAccess) (field : BitVec 32) :
    serve access.reason field = serveMsr access := by
  cases access <;> rfl

theorem RefusesAccess.captured {access : MsrAccess} (refuses : RefusesAccess m access)
    (reason : Reason) : RefusesAccess (m.begun.captured reason) access := by
  cases refuses with
  | read denied => exact .read denied
  | write guarded => exact .write guarded
  | value refused => exact .value refused

theorem RefusesAccess.serviceCourse_eq {access : MsrAccess} (refuses : RefusesAccess m access)
    (field : BitVec 32) : serviceCourse m field (.msr access) = generalProtectionCourse := by
  cases access with
  | read => exact refuses.readMsrCourse_eq
  | write => exact refuses.writeMsrCourse_eq

end Exit

namespace Machine

variable {m start : Machine} {exits : List Machine} {msr : Msr}

/-! ## One exit -/

/-- The guest goes on after a WRMSR of the register. -/
structure WritesMsr (m : Machine) (msr : Msr) : Prop where
  opens : m.Opens .wrmsr
  number : m.registers.ecx = msr
  advanced : Advanced m m.dispatch.2

instance (m : Machine) (msr : Msr) : Decidable (m.WritesMsr msr) :=
  decidable_of_iff (m.Opens .wrmsr ∧ m.registers.ecx = msr ∧ Advanced m m.dispatch.2)
    ⟨fun h => ⟨h.1, h.2.1, h.2.2⟩, fun h => ⟨h.opens, h.number, h.advanced⟩⟩

/-- The guest goes on after an RDMSR of the register. -/
structure ReadsMsr (m : Machine) (msr : Msr) : Prop where
  opens : m.Opens .rdmsr
  number : m.registers.ecx = msr
  resumed : m.dispatch.1 = true
  advanced : Advanced m m.dispatch.2

/-- The exit is for a WRMSR of the register, with a value that it takes. -/
structure AcceptsMsr (m : Machine) (msr : Msr) : Prop where
  opens : m.Opens .wrmsr
  number : m.registers.ecx = msr
  writable : classify msr ∉ guardedHomes
  accepted : accepts msr m.registers.edxEax = true

/-- The exit is for an access to a register, and the policy refuses it. -/
structure RefusesMsr (m : Machine) (access : MsrAccess) : Prop where
  opens : m.Opens access.reason
  refuses : RefusesAccess m access

theorem Follows.guestMsr?_eq {core : Machine} (follows : Follows core m) (msr : Msr) :
    m.guestMsr? msr = core.guestMsr? msr := by
  refine guestMsr?_congr follows.processor (fun entry home => follows.fields _ ?_) msr
  have apart : entry.2 ∉ [VmcsField.rip] := notMem_of_mem_vmcsMsrs home (by decide)
  simpa using apart

theorem Injected.guestMsr?_eq {m' : Machine} (injected : Injected m m') (msr : Msr) :
    m'.guestMsr? msr = m.guestMsr? msr :=
  guestMsr?_congr injected.processor
    (fun _ home => injected.get_eq (notMem_of_mem_vmcsMsrs home (by decide))) msr

theorem guestMsr?_dispatch (other : ¬ m.AcceptsMsr msr) :
    m.dispatch.2.guestMsr? msr = m.guestMsr? msr := by
  rcases carriesOut_or_rests m with ⟨reason, core, carries⟩ | rests
  · rw [carries.follows.guestMsr?_eq]
    rcases carries.deed.guestMsr?_cases msr with same | ⟨service, number, writable, accepted⟩
    · exact same
    · obtain rfl := Reason.service_eq_msr_write.1 service
      exact absurd ⟨carries.opens, number, writable, accepted⟩ other
  · exact guestMsr?_congr rests.processor
      (fun _ home => rests.get_eq (notMem_of_mem_vmcsMsrs home (by decide))) msr

theorem WritesMsr.guestMsr?_eq (writes : m.WritesMsr msr) (resumed : m.dispatch.1 = true) :
    m.dispatch.2.guestMsr? msr = some m.registers.edxEax := by
  rcases carriesOut_or_injected_of_dispatch resumed with ⟨reason, core, carries, -⟩ | injected
  · obtain rfl := carries.opens.unique writes.opens
    have deed : Emulates (m.begun.captured .wrmsr) (.msr .write) core := carries.deed
    rw [carries.follows.guestMsr?_eq, ← writes.number]
    exact deed.guestMsr?_of_write
  · exact absurd injected writes.advanced.not_injected

/-- Where the guest goes on, no other write to the register was carried out. -/
theorem guestMsr?_of_not_writesMsr (resumed : m.dispatch.1 = true) (other : ¬ m.WritesMsr msr) :
    m.dispatch.2.guestMsr? msr = m.guestMsr? msr := by
  rcases advanced_or_injected_of_dispatch resumed with ⟨advanced, -⟩ | injected
  · exact guestMsr?_dispatch fun accepts => other ⟨accepts.opens, accepts.number, advanced⟩
  · exact injected.guestMsr?_eq msr

theorem ReadsMsr.registers (reads : m.ReadsMsr msr) : ∃ value, m.guestMsr? msr = some value ∧
    m.dispatch.2.registers.rax.toNat = value.toNat % 2 ^ 32 ∧
      m.dispatch.2.registers.rdx.toNat = value.toNat / 2 ^ 32 := by
  rcases carriesOut_or_injected_of_dispatch reads.resumed with
    ⟨reason, core, carries, -⟩ | injected
  · obtain rfl := carries.opens.unique reads.opens
    have deed : Emulates (m.begun.captured .rdmsr) (.msr .read) core := carries.deed
    obtain ⟨rip, registers⟩ := carries.follows.registers
    rw [registers, ← reads.number]
    cases deed with
    | @rdmsr value found => exact ⟨value, found, m.loaded.toNat_withEdxEax value⟩
  · exact absurd injected reads.advanced.not_injected

/-! ## Refused accesses -/

namespace RefusesMsr

variable {access : MsrAccess}

theorem not_carriesOut (refuses : m.RefusesMsr access) {reason : Reason} {core : Machine} :
    ¬ m.CarriesOut reason core := by
  intro carries
  obtain rfl := carries.opens.unique refuses.opens
  have deed := carries.deed
  rw [MsrAccess.service_reason] at deed
  exact (refuses.refuses.captured _).not_emulates deed

theorem keeps (refuses : m.RefusesMsr access) : m.dispatch.2.processor = m.processor ∧
    ∀ entry ∈ vmcsMsrs, m.dispatch.2.vmcs.get entry.2 = m.vmcs.get entry.2 := by
  rcases carriesOut_or_rests m with ⟨reason, core, carries⟩ | rests
  · exact absurd carries refuses.not_carriesOut
  · exact ⟨rests.processor,
      fun _ home => rests.get_eq (notMem_of_mem_vmcsMsrs home (by decide))⟩

theorem goesOn_iff (refuses : m.RefusesMsr access) (alive : m.phase ≠ .terminating) :
    m.dispatch.1 = true ↔ ∀ used ∈ generalProtectionCourse.accesses, ¬ used.Denied m.vmcs := by
  have result : m.begun.exitCourse.result m.begun.vmcs = generalProtectionCourse.result m.vmcs := by
    rw [result_exitCourse_of_opens refuses.opens, MsrAccess.service_reason,
      (refuses.refuses.captured _).serviceCourse_eq]
    rfl
  rw [(dispatch_of_alive alive).1, (fits_serveExit m.begun).result, result, Course.result_goesOn_iff,
    and_iff_right goesOn_generalProtectionCourse]

theorem injects (refuses : m.RefusesMsr access) (resumed : m.dispatch.1 = true) :
    Injected m m.dispatch.2 ∧ m.dispatch.2.vmcs.get .entryInterruptionInfo = 0x80000B0D ∧
      m.dispatch.2.vmcs.get .entryErrorCode = 0 := by
  have alive := alive_of_dispatch resumed
  have granted := (refuses.goesOn_iff alive).1 resumed
  let c := m.begun.captured access.reason
  obtain ⟨journal, run⟩ := (refuses.refuses.captured access.reason).exec_serveMsr
  have get {field : VmcsField} (ne : field ≠ .rip) : m.dispatch.2.vmcs.get field =
      (c.withFields (Vmcs.generalProtectionWrites 0)).vmcs.get field := by
    rw [get_dispatch alive refuses.opens ne, serve_reason, run,
      vmcs_injectGeneralProtection (m := { c with journal }) granted]
    rfl
  refine ⟨?_, ?_, ?_⟩
  · rcases carriesOut_or_injected_of_dispatch resumed with ⟨reason, core, carries, -⟩ | injected
    · exact absurd carries refuses.not_carriesOut
    · exact injected
  · rw [get (by decide)]
    exact Vmcs.get_put_self ..
  · rw [get (by decide)]
    exact (Vmcs.get_put_of_ne _ _ (by decide)).trans (Vmcs.get_put_self ..)

end RefusesMsr

/-! ## Any number of exits -/

/-- The value of the newest of these exits that wrote to the register. -/
def lastWritten? (exits : List Machine) (msr : Msr) : Option Word :=
  (exits.find? (·.WritesMsr msr)).map (·.registers.edxEax)

theorem Evolves.guestMsr?_eq (run : Evolves (·.guestMsr? msr) start exits m)
    (alive : m.phase ≠ .terminating) :
    m.guestMsr? msr = (lastWritten? exits msr).or (start.guestMsr? msr) := by
  induction run with
  | start => rfl
  | between run same ended ih => rw [same, ih (mt ended alive)]
  | @dispatched exits x run ih =>
      have resumed : x.dispatch.1 = true := dispatch_eq_true_iff.2 alive
      by_cases writes : x.WritesMsr msr
      · simp [lastWritten?, writes, writes.guestMsr?_eq resumed]
      · rw [guestMsr?_of_not_writesMsr resumed writes, ih (alive_of_dispatch resumed)]
        simp [lastWritten?, writes]

/-- Nothing came of an access but `#GP(0)`, and the guest goes on if that could be queued. -/
structure Refused (m : Machine) : Prop where
  processor : m.dispatch.2.processor = m.processor
  fields : ∀ entry ∈ vmcsMsrs, m.dispatch.2.vmcs.get entry.2 = m.vmcs.get entry.2
  goesOn : m.phase ≠ .terminating → (m.dispatch.1 = true ↔
    ∀ field ∈ [VmcsField.entryErrorCode, .entryInterruptionInfo], field ∉ m.vmcs.unwritable)
  injected : m.dispatch.1 = true → Injected m m.dispatch.2
  info : m.dispatch.1 = true → m.dispatch.2.vmcs.get .entryInterruptionInfo = 0x80000B0D
  errorCode : m.dispatch.1 = true → m.dispatch.2.vmcs.get .entryErrorCode = 0

theorem RefusesMsr.refused {access : MsrAccess} (refuses : m.RefusesMsr access) : m.Refused where
  processor := refuses.keeps.1
  fields := refuses.keeps.2
  goesOn alive := by
    rw [refuses.goesOn_iff alive]
    simp [generalProtectionCourse, Course.after, Course.ends, Access.Denied]
  injected resumed := (refuses.injects resumed).1
  info resumed := (refuses.injects resumed).2.1
  errorCode resumed := (refuses.injects resumed).2.2

/--
Where only exits change a register, the guest reads from it in EDX:EAX what it last wrote there.
An exit changes it only by a WRMSR that is accepted, and an access that is refused changes none.
-/
theorem Evolves.msr_private (run : Evolves (·.guestMsr? msr) start exits m) :
    (m.ReadsMsr msr → ∃ value,
      (lastWritten? exits msr).or (start.guestMsr? msr) = some value ∧
        (msr = .featureControl → value = 1) ∧
        m.dispatch.2.registers.rax.toNat = value.toNat % 2 ^ 32 ∧
        m.dispatch.2.registers.rdx.toNat = value.toNat / 2 ^ 32) ∧
    (∀ x : Machine, ¬ x.AcceptsMsr msr → x.dispatch.2.guestMsr? msr = x.guestMsr? msr) ∧
    ∀ (x : Machine) access, x.RefusesMsr access → x.Refused := by
  refine ⟨fun reads => ?_, fun x => guestMsr?_dispatch, fun x access => RefusesMsr.refused⟩
  obtain ⟨value, found, low, high⟩ := reads.registers
  refine ⟨value, ?_, ?_, low, high⟩
  · rw [← run.guestMsr?_eq (alive_of_dispatch reads.resumed), found]
  · rintro rfl
    exact Option.some.inj (found.symm.trans rfl)

/-- A guest sets its kernel GS base, with more in the registers than EDX:EAX. -/
def writingKernelGsBase : Machine :=
  (exitingFor 0 2).exitingNext 32 0
    { rcx := 0xC0000102, rdx := 0xAAAAAAAA00007FFF, rax := 0xBBBBBBBB80001000 }

/-- Then it tries to set it to an address that is not canonical. -/
def writingBadKernelGsBase : Machine :=
  writingKernelGsBase.dispatch.2.exitingNext 32 0
    { rcx := 0xC0000102, rdx := 0x8000, rax := 0x1000 }

def readingKernelGsBase : Machine :=
  writingBadKernelGsBase.dispatch.2.exitingNext 31 0
    { rcx := 0xC0000102, rdx := 0xCCCCCCCCCCCCCCCC }

theorem Evolves.msr_private_kernel_gs_base :
    Evolves (·.guestMsr? .kernelGsBase) writingKernelGsBase
        [writingBadKernelGsBase, writingKernelGsBase] readingKernelGsBase ∧
      readingKernelGsBase.ReadsMsr .kernelGsBase ∧
      readingKernelGsBase.dispatch.2.registers.rax.toNat = 0x80001000 ∧
      readingKernelGsBase.dispatch.2.registers.rdx.toNat = 0x7FFF ∧
      writingBadKernelGsBase.RefusesMsr .write ∧
      writingBadKernelGsBase.dispatch.2.vmcs.get .entryInterruptionInfo = 0x80000B0D := by
  have run : Evolves (·.guestMsr? .kernelGsBase) writingKernelGsBase
      [writingBadKernelGsBase, writingKernelGsBase] readingKernelGsBase :=
    .between (.dispatched (.between (.dispatched .start) rfl id)) rfl id
  have reads : readingKernelGsBase.ReadsMsr .kernelGsBase :=
    ⟨⟨rfl, fun _ _ => List.not_mem_nil⟩, rfl, rfl, by decide⟩
  have refuses : writingBadKernelGsBase.RefusesMsr .write :=
    ⟨⟨rfl, fun _ _ => List.not_mem_nil⟩, .value rfl⟩
  have bad : ¬ writingBadKernelGsBase.WritesMsr .kernelGsBase :=
    fun writes => absurd writes.advanced.rip (by decide)
  have good : writingKernelGsBase.WritesMsr .kernelGsBase :=
    ⟨⟨rfl, fun _ _ => List.not_mem_nil⟩, rfl, by decide⟩
  obtain ⟨holds, -, refused⟩ := run.msr_private
  obtain ⟨value, stored, -, low, high⟩ := holds reads
  rw [lastWritten?, List.find?_cons_of_neg (by simpa using bad),
    List.find?_cons_of_pos (by simpa using good)] at stored
  obtain rfl : (0x7FFF80001000 : Word) = value := Option.some.inj stored
  exact ⟨run, reads, low, high, refuses, (refused _ _ refuses).info rfl⟩

end Machine

end NestedVisor
