import NestedVisor.Proofs.Machine.ReadBack

/-!
# Control registers behind their shadows

The guest reads CR0 and CR4 from their shadows.  The real registers are the shadows with the bits
that the processor fixes, and VMXE is set in the real CR4 and hidden from the guest.
-/

namespace NestedVisor

open Exit

/-- The bits of a control register that have to be set, and those that may be. -/
structure FixedBits where
  fixed0 : Word
  fixed1 : Word

/-- A control register in its two places. -/
structure ControlRegister where
  shadow : Word
  actual : Word
  fixed : FixedBits

/-- What the guest may see in CR0. -/
structure ValidCr0 (view : Word) : Prop where
  high : view.extractLsb' 32 32 = 0
  paging : view.getLsbD pagingBit = true → view.getLsbD protectionBit = true
  cache : view.getLsbD notWriteThroughBit = true → view.getLsbD cacheDisableBit = true

structure ControlRegister.VirtualizesCr0 (r : ControlRegister) : Prop where
  actual : r.actual = (r.shadow ||| r.fixed.fixed0) &&& r.fixed.fixed1
  shadow : ValidCr0 r.shadow

structure ControlRegister.VirtualizesCr4 (r : ControlRegister) : Prop where
  actual : r.actual = (r.shadow ||| 0x2000 ||| r.fixed.fixed0) &&& r.fixed.fixed1
  hidden : r.shadow.getLsbD vmxeBit = false

theorem setFlag_vmxeBit (view : Word) : setFlag view vmxeBit true = view ||| 0x2000 :=
  setFlag_true view vmxeBit

theorem getLsbD_cr4Actual {view fixed0 fixed1 : Word} (capable : fixed1.getLsbD vmxeBit = true) :
    (cr4Actual view fixed0 fixed1).getLsbD vmxeBit = true := by
  rw [cr4Actual, BitVec.getLsbD_and, BitVec.getLsbD_or, getLsbD_setFlag, if_pos (by decide)]
  exact capable

theorem ControlRegister.VirtualizesCr4.vmxe {r : ControlRegister} (virtualizes : r.VirtualizesCr4)
    (capable : r.fixed.fixed1.getLsbD vmxeBit = true) : r.actual.getLsbD vmxeBit = true := by
  rw [virtualizes.actual, ← setFlag_vmxeBit]
  exact getLsbD_cr4Actual capable

theorem Exit.NewCr0.valid {m : Machine} {view : Word} (checked : NewCr0 m view)
    (valid : ValidCr0 (m.vmcs.get .cr0ReadShadow)) : ValidCr0 view := by
  cases checked with
  | @moved value checks mode =>
      refine ⟨?_, checks.paging, checks.cache⟩
      rw [cr0View, setFlag, extractLsb'_setField_of_disjoint _ _ _ _ _ (by decide),
        BitVec.extractLsb'_and, checks.high]
      exact BitVec.zero_and
  | clts =>
      constructor
      · rw [setFlag, extractLsb'_setField_of_disjoint _ _ _ _ _ (by decide)]
        exact valid.high
      · rw [getLsbD_cltsView (by decide), getLsbD_cltsView (by decide)]
        exact valid.paging
      · rw [getLsbD_cltsView (by decide), getLsbD_cltsView (by decide)]
        exact valid.cache
  | lmsw source =>
      constructor
      · rw [lmswView, extractLsb'_setField_of_disjoint _ _ _ _ _ (by decide)]
        exact valid.high
      · intro paging
        rw [getLsbD_lmswView, if_neg (by decide)] at paging
        rw [getLsbD_lmswView, if_pos (by decide), valid.paging paging]
        simp [protectionBit]
      · rw [getLsbD_lmswView, getLsbD_lmswView, if_neg (by decide), if_neg (by decide)]
        exact valid.cache

/-! ## LMSW -/

namespace Exit

open Machine

theorem get_storeCr0 (view : Word) (m : Machine) :
    (exec (storeCr0 view) m).2.vmcs.get .cr0ReadShadow ∈
      [m.vmcs.get .cr0ReadShadow, view] := by
  rw [storeCr0, exec_bind]
  by_cases denied : (Access.write .cr0ReadShadow).Denied m.vmcs
  · rw [exec_writeField_of_denied denied]
    exact List.mem_cons_self
  rw [exec_writeField_of_not_denied denied]
  let value := cr0Actual view (m.processor.msr .vmxCr0Fixed0) (m.processor.msr .vmxCr0Fixed1)
  let m₁ := (m.tried (.write .cr0ReadShadow)).withField .cr0ReadShadow view
  change (exec (do
    writeField .cr0 value
    log (storedRecord 0 view value)
    return Outcome.advance) m₁).2.vmcs.get _ ∈ _
  rw [exec_bind]
  have stored : m₁.vmcs.get .cr0ReadShadow = view := Vmcs.get_put_self ..
  by_cases denied : (Access.write .cr0).Denied m₁.vmcs
  · rw [exec_writeField_of_denied denied]
    exact List.mem_cons_of_mem _ (List.mem_singleton.2 stored)
  · rw [exec_writeField_of_not_denied denied]
    refine List.mem_cons_of_mem _ (List.mem_singleton.2 ?_)
    exact (Vmcs.get_put_of_ne _ _ (by decide)).trans stored

theorem get_loadMachineStatus (source : BitVec 16) (m : Machine) :
    (exec (loadMachineStatus source) m).2.vmcs.get .cr0ReadShadow ∈
      [m.vmcs.get .cr0ReadShadow, lmswView (m.vmcs.get .cr0ReadShadow) source] := by
  let record : Record := ⟨.trace, s!"LMSW {hexText source.toNat}"⟩
  let logged := { m with journal := m.journal ++ [record] }
  change (exec (readField .cr0ReadShadow >>= fun view => storeCr0 (lmswView view source))
    logged).2.vmcs.get _ ∈ _
  rw [exec_bind]
  by_cases denied : (Access.read .cr0ReadShadow).Denied m.vmcs
  · rw [exec_readField_of_denied (m := logged) denied]
    exact List.mem_cons_self
  · rw [exec_readField_of_not_denied (m := logged) denied]
    exact get_storeCr0 _ (logged.tried _)

theorem get_serveControlRegister_lmsw {m : Machine}
    (access : m.controlQualification.access = .lmsw) :
    (exec serveControlRegister m).2.vmcs.get .cr0ReadShadow ∈
      [m.vmcs.get .cr0ReadShadow,
        lmswView (m.vmcs.get .cr0ReadShadow) m.controlQualification.lmswSource] := by
  rw [serveControlRegister, exec_bind, exec_readExitQualification, Vmcs.exitQualification]
  by_cases denied : (Access.read .exitQualification).Denied m.vmcs
  · rw [Vmcs.read_of_denied denied]
    exact List.mem_cons_self
  rw [Vmcs.read_of_not_denied denied]
  change ControlQualification.access ⟨m.vmcs.get .exitQualification⟩ = .lmsw at access
  simp only [access]
  exact get_loadMachineStatus _ { m.tried _ with journal := m.journal ++ [_] }

end Exit

namespace Machine

variable {m start : Machine} {exits : List Machine}

def cr0Register (m : Machine) : ControlRegister where
  shadow := m.vmcs.get .cr0ReadShadow
  actual := m.vmcs.get .cr0
  fixed := ⟨m.processor.msr .vmxCr0Fixed0, m.processor.msr .vmxCr0Fixed1⟩

def cr4Register (m : Machine) : ControlRegister where
  shadow := m.vmcs.get .cr4ReadShadow
  actual := m.vmcs.get .cr4
  fixed := ⟨m.processor.msr .vmxCr4Fixed0, m.processor.msr .vmxCr4Fixed1⟩

/-- The exit is for LMSW. -/
structure LoadsStatus (m : Machine) : Prop where
  opens : m.Opens .controlRegisterAccess
  access : m.controlQualification.access = .lmsw

/-- The exit is for MOV from CR4. -/
structure ReadsCr4 (m : Machine) : Prop where
  opens : m.Opens .controlRegisterAccess
  access : m.controlQualification.access = .movFromCr
  register : m.controlQualification.controlRegister.toNat = 4

/-! ## One exit -/

/-- The guest has no way to the registers that say which bits are fixed. -/
theorem fixed_dispatch (m : Machine) :
    m.dispatch.2.cr0Register.fixed = m.cr0Register.fixed ∧
      m.dispatch.2.cr4Register.fixed = m.cr4Register.fixed := by
  have same (msr : Msr) (foreign : msr ∉ guestOwnedMsrs) :
      m.dispatch.2.processor.msr msr = m.processor.msr msr :=
    (keepsTypes_dispatch m).processor.msr msr foreign
  simp only [cr0Register, cr4Register, same .vmxCr0Fixed0 (by decide),
    same .vmxCr0Fixed1 (by decide), same .vmxCr4Fixed0 (by decide),
    same .vmxCr4Fixed1 (by decide), and_self]

theorem virtualizesCr0_dispatch (resumed : m.dispatch.1 = true)
    (virtualizes : m.cr0Register.VirtualizesCr0) : m.dispatch.2.cr0Register.VirtualizesCr0 := by
  obtain ⟨reason, writes, -, stores, get⟩ := stores_of_dispatch resumed
  have after : m.dispatch.2.cr0Register =
      ⟨(m.vmcs.putAll writes).get .cr0ReadShadow, (m.vmcs.putAll writes).get .cr0,
        m.cr0Register.fixed⟩ := by
    rw [← (fixed_dispatch m).1, ← get .cr0ReadShadow (by decide), ← get .cr0 (by decide)]
    rfl
  rw [after]
  rcases stores.cr0_cases m.vmcs with ⟨shadow, actual⟩ | ⟨checked, actual⟩
  · rw [shadow, actual]
    exact virtualizes
  · exact ⟨actual, checked.valid virtualizes.shadow⟩

theorem virtualizesCr4_dispatch (resumed : m.dispatch.1 = true)
    (virtualizes : m.cr4Register.VirtualizesCr4) : m.dispatch.2.cr4Register.VirtualizesCr4 := by
  obtain ⟨reason, writes, -, stores, get⟩ := stores_of_dispatch resumed
  have after : m.dispatch.2.cr4Register =
      ⟨(m.vmcs.putAll writes).get .cr4ReadShadow, (m.vmcs.putAll writes).get .cr4,
        m.cr4Register.fixed⟩ := by
    rw [← (fixed_dispatch m).2, ← get .cr4ReadShadow (by decide), ← get .cr4 (by decide)]
    rfl
  rw [after]
  rcases stores.cr4_cases m.vmcs with ⟨shadow, actual⟩ | ⟨⟨valid, -⟩, actual⟩
  · rw [shadow, actual]
    exact virtualizes
  · rw [cr4Actual, setFlag_vmxeBit] at actual
    exact ⟨actual, valid.vmxe⟩

/-- Also where the guest does not go on: the real CR4 is written last. -/
theorem vmxe_dispatch (capable : m.cr4Register.fixed.fixed1.getLsbD vmxeBit = true)
    (set : m.cr4Register.actual.getLsbD vmxeBit = true) :
    m.dispatch.2.cr4Register.actual.getLsbD vmxeBit = true := by
  change (m.dispatch.2.vmcs.get .cr4).getLsbD vmxeBit = true
  rcases m.get_dispatch_cases (show VmcsField.cr4 ∉ _ by decide) with
    same | ⟨reason, writes, stores, value⟩
  · rw [same]
    exact set
  rw [value]
  rcases stores.cr4_cases m.vmcs with ⟨-, same⟩ | ⟨-, actual⟩
  · rw [same]
    exact set
  · rw [actual]
    exact getLsbD_cr4Actual capable

theorem LoadsStatus.protection (loads : m.LoadsStatus)
    (set : m.cr0Register.shadow.getLsbD protectionBit = true) :
    m.dispatch.2.cr0Register.shadow.getLsbD protectionBit = true := by
  by_cases ended : m.phase = .terminating
  · rw [dispatch, if_pos ended]
    exact set
  change (m.dispatch.2.vmcs.get .cr0ReadShadow).getLsbD protectionBit = true
  rw [get_dispatch ended loads.opens (by decide)]
  have kept := get_serveControlRegister_lmsw (m := m.begun.captured .controlRegisterAccess)
    loads.access
  rcases List.mem_cons.1 kept with same | kept
  · exact (congrArg (·.getLsbD protectionBit) same).trans set
  · refine (congrArg (·.getLsbD protectionBit) (List.mem_singleton.1 kept)).trans ?_
    rw [getLsbD_lmswView, if_pos (by decide)]
    exact (congrArg (_ || ·) set).trans (Bool.or_true _)

theorem ReadsCr4.get (reads : m.ReadsCr4) (resumed : m.dispatch.1 = true) :
    m.dispatch.2.registers.get m.controlQualification.operand = m.cr4Register.shadow := by
  have moves : m.MovesFromControl 4 := ⟨reads.opens, reads.access, reads.register⟩
  exact (moves.delivers rfl resumed).target

/-! ## Any number of exits -/

/--
The real registers stay behind their shadows, and the guest sees neither an impossible CR0 nor
VMXE.  VMXE stays set and LMSW never takes the guest back to real mode, also where the guest does
not go on.
-/
theorem Evolves.virtualizes
    (run : Evolves (fun m => (m.cr0Register, m.cr4Register)) start exits m)
    (cr0 : start.cr0Register.VirtualizesCr0) (cr4 : start.cr4Register.VirtualizesCr4)
    (capable : start.cr4Register.fixed.fixed1.getLsbD vmxeBit = true) :
    m.cr0Register.fixed = start.cr0Register.fixed ∧
      m.cr4Register.fixed = start.cr4Register.fixed ∧
      m.cr4Register.actual.getLsbD vmxeBit = true ∧
      (m.LoadsStatus → m.cr0Register.shadow.getLsbD protectionBit = true →
        m.dispatch.2.cr0Register.shadow.getLsbD protectionBit = true) ∧
      (m.phase ≠ .terminating →
        m.cr0Register.VirtualizesCr0 ∧ m.cr4Register.VirtualizesCr4 ∧
          (m.ReadsCr4 → m.dispatch.1 = true →
            (m.dispatch.2.registers.get m.controlQualification.operand).getLsbD vmxeBit =
              false)) := by
  have always : m.cr0Register.fixed = start.cr0Register.fixed ∧
      m.cr4Register.fixed = start.cr4Register.fixed ∧
      m.cr4Register.actual.getLsbD vmxeBit = true := by
    refine (run.invariant (P := fun shown => shown.1.fixed = start.cr0Register.fixed ∧
      shown.2.fixed = start.cr4Register.fixed ∧ shown.2.actual.getLsbD vmxeBit = true)
      ⟨rfl, rfl, cr4.vmxe capable⟩ ?_).1
    rintro x - ⟨fixed0, fixed4, set⟩
    obtain ⟨same0, same4⟩ := fixed_dispatch x
    exact ⟨same0.trans fixed0, same4.trans fixed4, vmxe_dispatch (fixed4 ▸ capable) set⟩
  refine ⟨always.1, always.2.1, always.2.2, LoadsStatus.protection, fun alive => ?_⟩
  have behind : m.cr0Register.VirtualizesCr0 ∧ m.cr4Register.VirtualizesCr4 := by
    refine (run.invariant (P := fun shown => shown.1.VirtualizesCr0 ∧ shown.2.VirtualizesCr4)
      ⟨cr0, cr4⟩ ?_).1
    rintro x dispatched ⟨cr0, cr4⟩
    have resumed := run.resumed alive x dispatched
    exact ⟨virtualizesCr0_dispatch resumed cr0, virtualizesCr4_dispatch resumed cr4⟩
  refine ⟨behind.1, behind.2, fun reads resumed => ?_⟩
  rw [reads.get resumed]
  exact behind.2.hidden

/-- LMSW with nothing set, on a processor that needs PE, NE, PG and VMXE. -/
def loadingStatus : Machine :=
  { (exitingFor 0 3).exitingNext 28 0x30 {} with
    processor := (((Processor.blank.writeMsr .vmxCr0Fixed0 0x80000021).writeMsr
      .vmxCr0Fixed1 0xFFFFFFFF).writeMsr .vmxCr4Fixed0 0x2000).writeMsr .vmxCr4Fixed1 0x3767FF
    vmcs := (exitingFor 28 3).vmcs.putAll [(.exitQualification, 0x30), (.cr0ReadShadow, 0x11),
      (.cr0, 0x80000031), (.cr4, 0x2000)] }

/-- Then MOV CR4, RAX with PAE. -/
def movingToCr4 : Machine :=
  loadingStatus.dispatch.2.exitingNext 28 4 { rax := 0x20 }

/-- Then MOV RBX, CR4. -/
def movingFromCr4 : Machine :=
  movingToCr4.dispatch.2.exitingNext 28 0x314 {}

theorem Evolves.virtualizes_lmsw_cr4 :
    movingFromCr4.cr0Register.shadow = 0x11 ∧ movingFromCr4.cr4Register.actual = 0x2020 ∧
      movingFromCr4.cr0Register.VirtualizesCr0 ∧ movingFromCr4.cr4Register.VirtualizesCr4 ∧
      movingFromCr4.dispatch.1 = true ∧ movingFromCr4.dispatch.2.registers.rbx = 0x20 ∧
      movingFromCr4.dispatch.2.registers.rbx.getLsbD vmxeBit = false := by
  have run : Evolves (fun m => (m.cr0Register, m.cr4Register)) loadingStatus
      [movingToCr4, loadingStatus] movingFromCr4 :=
    .between (.dispatched (.between (.dispatched .start) rfl id)) rfl id
  have reads : movingFromCr4.ReadsCr4 :=
    ⟨⟨by decide, fun _ _ => List.not_mem_nil⟩, by decide, by decide⟩
  obtain ⟨-, -, -, -, alive⟩ := Evolves.virtualizes run ⟨by decide, by decide, by decide, by decide⟩
    ⟨by decide, by decide⟩ (by decide)
  obtain ⟨cr0, cr4, hidden⟩ := alive (by decide)
  exact ⟨rfl, rfl, cr0, cr4, rfl, rfl, hidden reads rfl⟩

end Machine

end NestedVisor
