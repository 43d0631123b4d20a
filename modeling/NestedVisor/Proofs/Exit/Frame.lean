import NestedVisor.Proofs.Exit.Course

/-!
# What an emulation leaves alone

The rules of `Emulates` seen from the other side.  An emulation writes to few fields of the
control structure, and RSP stays the same in both of its places.  Of the processor it changes
only the registers that belong to the guest, and of the page tables nothing unless it is asked to.
-/

namespace NestedVisor.Exit

open Machine

variable {m core : Machine} {service : Service}

/-! ## The control structure -/

def emulatedFields : List VmcsField :=
  [.activityState, .cr0ReadShadow, .cr0, .cr3, .cr4ReadShadow, .cr4, .rsp] ++
    vmcsMsrs.map Prod.snd

theorem classify_cases (msr : Msr) :
    (msr ∈ guestOwnedMsrs ∧ classify msr = .hardware true) ∨
    (∃ field, (msr, field) ∈ vmcsMsrs ∧ classify msr = .vmcs field) ∨
    classify msr ∈ [.hardware false, .featureControl, .denied] := by
  unfold classify
  split
  · next owned => exact .inl ⟨owned, rfl⟩
  · split
    · exact .inr (.inr (by simp))
    · split
      · next field found =>
          obtain ⟨before, after, split, _⟩ := List.lookup_eq_some_iff.1 found
          exact .inr (.inl ⟨field, by simp [split], rfl⟩)
      · split <;> exact .inr (.inr (by simp))

theorem mem_vmcsMsrs_of_classify {msr : Msr} {field : VmcsField}
    (home : classify msr = .vmcs field) : (msr, field) ∈ vmcsMsrs := by
  have cases := classify_cases msr
  simp_all

theorem notMem_of_mem_vmcsMsrs {msr : Msr} {field : VmcsField} {fields : List VmcsField}
    (home : (msr, field) ∈ vmcsMsrs) (apart : vmcsMsrs.all fun entry => entry.2 ∉ fields) :
    field ∉ fields :=
  of_decide_eq_true (List.all_eq_true.1 apart _ home)

/-- A field that no register is kept in is not that of any register. -/
theorem ne_of_classify {msr : Msr} {field other : VmcsField} (home : classify msr = .vmcs field)
    (elsewhere : other ∉ vmcsMsrs.map Prod.snd) : other ≠ field := by
  rintro rfl
  exact elsewhere (List.mem_map_of_mem (mem_vmcsMsrs_of_classify home))

theorem mem_emulatedFields_of_classify {msr : Msr} {field : VmcsField}
    (home : classify msr = .vmcs field) : field ∈ emulatedFields :=
  List.mem_append_right _ (List.mem_map_of_mem (mem_vmcsMsrs_of_classify home))

theorem mem_guestOwnedMsrs_of_classify {msr : Msr} (home : classify msr = .hardware true) :
    msr ∈ guestOwnedMsrs := by
  have cases := classify_cases msr
  simp_all

theorem lookup_withField_of_ne {field other : VmcsField} (value : Word) (ne : other ≠ field) :
    (m.withField field value).vmcs.fields.lookup other = m.vmcs.fields.lookup other := by
  rw [withField, Vmcs.put, Vmcs.lookup_putIn, if_neg ne]

theorem Emulates.lookup_eq (deed : Emulates m service core) {field : VmcsField}
    (other : field ∉ emulatedFields) :
    core.vmcs.fields.lookup field = m.vmcs.fields.lookup field := by
  have ne {written : VmcsField} (h : written ∈ emulatedFields) : field ≠ written := by
    rintro rfl
    exact other h
  have pair {shadow actual : VmcsField} {view value : Word} (h : shadow ∈ emulatedFields)
      (h' : actual ∈ emulatedFields) :
      ((m.withField shadow view).withField actual value).vmcs.fields.lookup field =
        m.vmcs.fields.lookup field :=
    (lookup_withField_of_ne _ (ne h')).trans (lookup_withField_of_ne _ (ne h))
  cases deed with
  | parked => exact lookup_withField_of_ne _ (ne (by decide))
  | wrmsrField home => exact lookup_withField_of_ne _ (ne (mem_emulatedFields_of_classify home))
  | movToCr0 => exact pair (by decide) (by decide)
  | movToCr3 =>
      split <;> exact lookup_withField_of_ne _ (ne (by decide))
  | movToCr4 => exact pair (by decide) (by decide)
  | movFrom =>
      rw [withGpr]
      split
      · exact lookup_withField_of_ne _ (ne (by decide))
      · rfl
  | clts => exact pair (by decide) (by decide)
  | lmsw => exact pair (by decide) (by decide)
  | _ => rfl

theorem Emulates.denied_iff (deed : Emulates m service core) (access : Access) :
    access.Denied core.vmcs ↔ access.Denied m.vmcs := by
  have same : core.vmcs.unreadable = m.vmcs.unreadable ∧
      core.vmcs.unwritable = m.vmcs.unwritable := by
    cases deed with
    | movToCr3 => split <;> exact ⟨rfl, rfl⟩
    | movFrom =>
        rw [withGpr]
        split <;> exact ⟨rfl, rfl⟩
    | _ => exact ⟨rfl, rfl⟩
  cases access <;> simp [Access.Denied, same]

theorem Emulates.get_eq (deed : Emulates m service core) {field : VmcsField}
    (other : field ∉ emulatedFields) : core.vmcs.get field = m.vmcs.get field := by
  rw [Vmcs.get, Vmcs.get, deed.lookup_eq other]

/-! ## Registers -/

theorem Emulates.rip_eq (deed : Emulates m service core) :
    core.registers.rip = m.registers.rip := by
  cases deed with
  | movToCr3 => split <;> rfl
  | movFrom => exact Registers.rip_set ..
  | _ => rfl

theorem Emulates.rflags_eq (deed : Emulates m service core) :
    core.registers.rflags = m.registers.rflags := by
  cases deed with
  | movToCr3 => split <;> rfl
  | movFrom => exact Registers.rflags_set ..
  | _ => rfl

/-- A value that goes to RSP goes to both of its places. -/
theorem Emulates.rsp_eq (deed : Emulates m service core)
    (same : m.registers.rsp = m.vmcs.get .rsp) : core.registers.rsp = core.vmcs.get .rsp := by
  have elsewhere {field : VmcsField} {value : Word} (ne : VmcsField.rsp ≠ field) :
      m.registers.rsp = (m.withField field value).vmcs.get .rsp := by
    rw [same, Vmcs.get, Vmcs.get, lookup_withField_of_ne _ ne]
  have pair {shadow actual : VmcsField} {view value : Word} (ne : VmcsField.rsp ≠ shadow)
      (ne' : VmcsField.rsp ≠ actual) :
      m.registers.rsp = ((m.withField shadow view).withField actual value).vmcs.get .rsp := by
    rw [same, Vmcs.get, Vmcs.get, lookup_withField_of_ne _ ne', lookup_withField_of_ne _ ne]
  cases deed with
  | parked => exact elsewhere (by decide)
  | wrmsrField home => exact elsewhere (ne_of_classify home (by decide))
  | movToCr0 => exact pair (by decide) (by decide)
  | movToCr3 => split <;> exact elsewhere (by decide)
  | movToCr4 => exact pair (by decide) (by decide)
  | clts => exact pair (by decide) (by decide)
  | lmsw => exact pair (by decide) (by decide)
  | movFrom =>
      rw [withGpr]
      split
      · next stack =>
          rw [stack]
          exact (Vmcs.get_put_self ..).symm
      · next stack =>
          exact (Registers.get_set_of_ne m.registers _ (Ne.symm stack)).trans same
  | _ => exact same

/-! ## The processor -/

/-- The processor changes only by an accepted WRMSR of a register that it holds for the guest. -/
theorem Emulates.processor_cases (deed : Emulates m service core) :
    core.processor = m.processor ∨
      service = .msr .write ∧ classify m.registers.ecx = .hardware true ∧
        accepts m.registers.ecx m.registers.edxEax = true ∧
        core.processor = m.processor.writeMsr m.registers.ecx m.registers.edxEax := by
  cases deed with
  | wrmsr home accepted => exact .inr ⟨rfl, home, accepted, rfl⟩
  | movToCr3 => split <;> exact .inl rfl
  | movFrom => rw [withGpr]; split <;> exact .inl rfl
  | _ => exact .inl rfl

theorem Emulates.msr_eq (deed : Emulates m service core) {msr : Msr}
    (foreign : msr ∉ guestOwnedMsrs) : core.processor.msr msr = m.processor.msr msr := by
  rcases deed.processor_cases with same | ⟨-, home, -, written⟩
  · rw [same]
  · rw [written]
    exact Processor.msr_writeMsr_of_ne _ _ fun same =>
      foreign (same ▸ mem_guestOwnedMsrs_of_classify home)

theorem Emulates.cpuid_eq (deed : Emulates m service core) :
    core.processor.cpuid = m.processor.cpuid := by
  cases deed with
  | movToCr3 => split <;> rfl
  | movFrom => rw [withGpr]; split <;> rfl
  | _ => rfl

/-! ## The counters -/

theorem Emulates.counters_eq (deed : Emulates m service core) : core.counters = m.counters := by
  cases deed with
  | movToCr3 => split <;> rfl
  | movFrom => rw [withGpr]; split <;> rfl
  | _ => rfl

theorem Behaves.counters_eq {result : Except Fault Outcome} {m' : Machine}
    (behaves : Behaves m service result m') : m'.counters = m.counters := by
  cases behaves with
  | advanced notes deed => exact deed.counters_eq
  | injected notes event => cases event <;> rfl
  | turnedOff => rfl
  | stopped notes rest => cases rest <;> rfl

/-! ## The page tables -/

/-- A change of the page tables that the guest asked for. -/
inductive Changes (m : Machine) : Paging.Change → Prop
  | commit {size : Granularity} (named : m.guestCall? = some (.commit size))
      (typed : m.typeOf m.registers.r8 size ≠ .unspecified) :
      Changes m
        (m.ept.commit m.registers.rdx size m.registers.r8 (m.typeOf m.registers.r8 size))
  | uncommit {size : Granularity} (named : m.guestCall? = some (.uncommit size)) :
      Changes m (m.ept.uncommit m.registers.rdx size)

theorem Emulates.ept_cases (deed : Emulates m service core) :
    core.ept = m.ept ∨ service = .vmcall ∧ GuestCall.Marked m.registers.rcx ∧
      ∃ change, Changes m change ∧ core.ept = change.ept ∧
        core.registers.rax = (GuestCall.Status.ofOutcome change.outcome).code := by
  cases deed with
  | commit marked named aligned typed =>
      exact .inr ⟨rfl, marked, _, .commit named typed, rfl, rfl⟩
  | uncommit marked named => exact .inr ⟨rfl, marked, _, .uncommit named, rfl, rfl⟩
  | movToCr3 => split <;> exact .inl rfl
  | movFrom => rw [withGpr]; split <;> exact .inl rfl
  | _ => exact .inl rfl

end NestedVisor.Exit
