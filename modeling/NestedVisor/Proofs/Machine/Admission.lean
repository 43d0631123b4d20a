import NestedVisor.Proofs.Machine.Evolution

/-!
# Values that the processor takes

VM entry fails when a field of the guest state has a value that the processor does not take, and
a register write with such a value faults in the core itself.  A guest's value reaches either
place only after a check, so that fields which are good once stay good.
-/

namespace NestedVisor

/-- The guest state that is checked, with the width of a physical address. -/
structure GuestValues where
  efer : Word
  pat : Word
  debugctl : Word
  fsBase : Word
  gsBase : Word
  sysenterEsp : Word
  sysenterEip : Word
  cr3 : Word
  width : Nat

/-- What VM entry asks of these values. -/
structure GuestValues.Admissible (g : GuestValues) : Prop where
  /-- Nothing but SCE, LME, LMA and NXE. -/
  efer : ∀ i, g.efer.getLsbD i = true → i ∈ [0, 8, 10, 11]
  /-- UC, WC, WT, WP, WB and UC-. -/
  pat : ∀ i < 8, g.pat.extractLsb' (8 * i) 8 ∈ [0#8, 1, 4, 5, 6, 7]
  debugctl : g.debugctl &&& ~~~0xFFC3 = 0
  fsBase : Canonical g.fsBase
  gsBase : Canonical g.gsBase
  sysenterEsp : Canonical g.sysenterEsp
  sysenterEip : Canonical g.sysenterEip
  cr3 : g.cr3.toNat < 2 ^ g.width

/-- A write that the guest may have the core carry out on the processor. -/
structure WritesSafely (msr : Msr) (value : Word) : Prop where
  owned : msr ∈ [Msr.tscAux, .kernelGsBase, .star, .lstar, .cstar, .fmask]
  address : msr ∈ [Msr.lstar, .cstar, .kernelGsBase] → Canonical value
  narrow : msr ∈ [Msr.tscAux, .fmask] → value.toNat < 2 ^ 32

theorem and_not_eq_zero_iff {value mask : Word} :
    value &&& ~~~mask = 0 ↔ ∀ i, value.getLsbD i = true → mask.getLsbD i = true := by
  constructor
  · intro clear i set
    have inside : i < 64 := BitVec.lt_of_getLsbD set
    have bit := congrArg (·.getLsbD i) clear
    simpa [set, inside] using bit
  · intro inside
    apply BitVec.eq_of_getLsbD_eq
    intro i bound
    cases set : value.getLsbD i with
    | false => simp [set]
    | true => simp [set, inside i set, bound]

theorem ushiftRight_eq_zero_iff {value : Word} {n : Nat} :
    value >>> n = 0 ↔ value.toNat < 2 ^ n := by
  rw [← BitVec.toNat_inj, BitVec.toNat_ushiftRight, Nat.shiftRight_eq_div_pow]
  simp [Nat.div_eq_zero_iff]

/-! ## Accepted values -/

namespace Exit

variable {msr : Msr} {value : Word}

theorem accepts_of_address (address : msr ∈ addressMsrs) :
    accepts msr value = true ↔ Canonical value := by
  rw [accepts, if_pos address, decide_eq_true_iff]

theorem accepts_of_narrow (narrow : msr ∈ [Msr.tscAux, .fmask]) :
    accepts msr value = true ↔ value.toNat < 2 ^ 32 := by
  have check : accepts msr value = decide (value >>> 32 = 0) := by
    simp only [List.mem_cons, List.not_mem_nil, or_false] at narrow
    rcases narrow with rfl | rfl <;> rfl
  rw [check, decide_eq_true_iff, ushiftRight_eq_zero_iff]

theorem accepts_efer :
    accepts .efer value = true ↔ ∀ i, value.getLsbD i = true → i ∈ [0, 8, 10, 11] := by
  have bits (i : Nat) : eferWritable.getLsbD i = true ↔ i ∈ [0, 8, 10, 11] := by
    by_cases bound : i < 64
    · exact (by decide +kernel :
        ∀ i : Fin 64, eferWritable.getLsbD i = true ↔ i.val ∈ [0, 8, 10, 11]) ⟨i, bound⟩
    · simp [BitVec.getLsbD_of_ge eferWritable i (by omega)]
      omega
  have check : accepts .efer value = decide (value &&& ~~~eferWritable = 0) := rfl
  simp only [check, decide_eq_true_iff, and_not_eq_zero_iff, bits]

theorem accepts_pat :
    accepts .pat value = true ↔
      ∀ i < 8, value.extractLsb' (8 * i) 8 ∈ [0#8, 1, 4, 5, 6, 7] := by
  have check : accepts .pat value =
      (List.range 8).all fun i => patTypes.contains (patEntry value i) := rfl
  rw [check]
  simp [patEntry, patTypes]

theorem accepts_debugctl : accepts .debugctl value = true ↔ value &&& ~~~0xFFC3 = 0 := by
  have check : accepts .debugctl value = decide (value &&& ~~~debugctlWritable = 0) := rfl
  rw [check, decide_eq_true_iff, debugctlWritable]

theorem writesSafely_of_accepts (home : classify msr = .hardware true)
    (accepted : accepts msr value = true) : WritesSafely msr value where
  owned := mem_guestOwnedMsrs_of_classify home
  address kind := (accepts_of_address (List.mem_of_mem_take (i := 3) kind)).1 accepted
  narrow kind := (accepts_of_narrow kind).1 accepted

end Exit

namespace Machine

open Exit

variable {m start : Machine} {exits : List Machine}

def guestValues (m : Machine) : GuestValues where
  efer := m.vmcs.get .efer
  pat := m.vmcs.get .pat
  debugctl := m.vmcs.get .debugctl
  fsBase := m.vmcs.get .fsBase
  gsBase := m.vmcs.get .gsBase
  sysenterEsp := m.vmcs.get .sysenterEsp
  sysenterEip := m.vmcs.get .sysenterEip
  cr3 := m.vmcs.get .cr3
  width := m.addressWidth

/-- The table of registers says the same as the list of fields. -/
theorem admissible_guestValues :
    m.guestValues.Admissible ↔
      (∀ entry ∈ vmcsMsrs, accepts entry.1 (m.vmcs.get entry.2) = true) ∧
        m.vmcs.get .cr3 >>> m.addressWidth = 0 := by
  have address (msr : Msr) (kind : msr ∈ addressMsrs) (value : Word) :
      accepts msr value = true ↔ Canonical value := accepts_of_address kind
  rw [ushiftRight_eq_zero_iff]
  simp only [vmcsMsrs, List.forall_mem_cons, List.not_mem_nil, false_implies, implies_true,
    and_true, accepts_efer, accepts_pat, accepts_debugctl, address .fsBase (by decide),
    address .gsBase (by decide), address .sysenterEsp (by decide),
    address .sysenterEip (by decide)]
  constructor
  · intro h
    exact ⟨⟨h.fsBase, h.gsBase, h.efer, h.pat, h.debugctl, rfl, h.sysenterEsp, h.sysenterEip⟩,
      h.cr3⟩
  · rintro ⟨⟨fsBase, gsBase, efer, pat, debugctl, -, sysenterEsp, sysenterEip⟩, cr3⟩
    exact ⟨efer, pat, debugctl, fsBase, gsBase, sysenterEsp, sysenterEip, cr3⟩

/-! ## One exit -/

theorem addressWidth_dispatch (m : Machine) : m.dispatch.2.addressWidth = m.addressWidth :=
  (keepsTypes_dispatch m).addressWidth_eq

theorem msr_dispatch (m : Machine) {msr : Msr} {field : VmcsField}
    (home : (msr, field) ∈ vmcsMsrs) :
    m.dispatch.2.vmcs.get field = m.vmcs.get field ∨
      accepts msr (m.dispatch.2.vmcs.get field) = true := by
  have other : field ∉ returnFields ++ [VmcsField.cr0ReadShadow, .cr4ReadShadow] :=
    notMem_of_mem_vmcsMsrs home (by decide)
  rcases m.get_dispatch_cases other with same | ⟨reason, writes, stores, value⟩
  · exact .inl same
  · rw [value]
    refine (stores.msr_cases m.vmcs home).imp_right fun ⟨_, _, accepted, only⟩ => ?_
    rw [only, Vmcs.get_putAll_one]
    exact accepted

theorem cr3_dispatch (m : Machine) :
    m.dispatch.2.vmcs.get .cr3 = m.vmcs.get .cr3 ∨
      m.dispatch.2.vmcs.get .cr3 >>> m.addressWidth = 0 := by
  rcases m.get_dispatch_cases (show VmcsField.cr3 ∉ _ by decide) with
    same | ⟨reason, writes, stores, value⟩
  · exact .inl same
  · rw [value]
    exact stores.cr3_cases m.vmcs

theorem admissible_dispatch (valid : m.guestValues.Admissible) :
    m.dispatch.2.guestValues.Admissible := by
  rw [admissible_guestValues] at valid ⊢
  rw [addressWidth_dispatch]
  constructor
  · intro entry home
    rcases msr_dispatch m home with same | accepted
    · rw [same]
      exact valid.1 entry home
    · exact accepted
  · rcases cr3_dispatch m with same | small
    · rw [same]
      exact valid.2
    · exact small

/-! ## Any number of exits -/

/--
Whatever the guest does, what VM entry finds stays good, and so is every register write that the
processor sees.
-/
theorem Evolves.admissible (run : Evolves (fun m => (m.guestValues, m.trace)) start exits m)
    (valid : start.guestValues.Admissible) :
    m.guestValues.Admissible ∧ ∃ events, m.trace = start.trace ++ events ∧
      ∀ msr value, .writeMsr msr value ∈ events → WritesSafely msr value := by
  refine (run.invariant (P := fun shown => shown.1.Admissible ∧
    ∃ events, shown.2 = start.trace ++ events ∧
      ∀ msr value, .writeMsr msr value ∈ events → WritesSafely msr value)
    ⟨valid, [], (List.append_nil _).symm, by simp⟩ ?_).1
  rintro x - ⟨valid, events, trace, safe⟩
  obtain ⟨new, trace', accepted⟩ := trace_dispatch x
  refine ⟨admissible_dispatch valid, events ++ new, ?_, fun msr value seen => ?_⟩
  · rw [← List.append_assoc, ← trace]
    exact trace'
  · rcases List.mem_append.1 seen with old | seen
    · exact safe msr value old
    · obtain ⟨home, accepted⟩ := accepted msr value seen
      exact writesSafely_of_accepts home accepted

/-- WRMSR of EFER, with SCE, LME, LMA and NXE. -/
def writingEfer : Machine :=
  (exitingFor 0 2).exitingNext 32 0 { rcx := 0xC0000080, rax := 0xD01 }

/-- After it, WRMSR of LSTAR. -/
def writingLstar : Machine :=
  writingEfer.dispatch.2.exitingNext 32 0 { rcx := 0xC0000082, rdx := 0xFFFFF800, rax := 0x1000 }

theorem Evolves.admissible_efer_lstar :
    writingEfer.guestValues.Admissible ∧ writingLstar.dispatch.2.guestValues.Admissible ∧
      writingLstar.dispatch.2.vmcs.get .efer = 0xD01 ∧
      writingLstar.dispatch.2.trace = [.writeMsr .lstar 0xFFFFF80000001000] ∧
      WritesSafely .lstar 0xFFFFF80000001000 := by
  have valid : writingEfer.guestValues.Admissible := by
    have checked : vmcsMsrs.all fun entry => accepts entry.1 (writingEfer.vmcs.get entry.2) := by
      decide
    exact admissible_guestValues.2 ⟨List.all_eq_true.1 checked, by decide⟩
  have run : Evolves (fun m => (m.guestValues, m.trace)) writingEfer [writingLstar, writingEfer]
      writingLstar.dispatch.2 :=
    .dispatched (.between (.dispatched .start) rfl id)
  have written : writingLstar.dispatch.2.trace = [.writeMsr .lstar 0xFFFFF80000001000] := rfl
  obtain ⟨admissible, events, trace, safe⟩ := Evolves.admissible run valid
  refine ⟨valid, admissible, rfl, written, safe _ _ ?_⟩
  have seen : events = [.writeMsr .lstar 0xFFFFF80000001000] := trace.symm.trans written
  rw [seen]
  exact List.mem_cons_self

end Machine

end NestedVisor
