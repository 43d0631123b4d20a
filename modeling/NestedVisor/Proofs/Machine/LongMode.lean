import NestedVisor.Proofs.Machine.Evolution

/-!
# Long mode and paging

VM entry refuses a guest in long mode whose paging or whose physical-address extension is off.
Writes to CR0 and CR4 look at EFER before they clear either bit.  A write to EFER does not look
back at them, and this is the only way in which a guest can get there.
-/

namespace NestedVisor

open Exit

/-- The three bits that say how the guest's addresses are translated. -/
structure PagingMode where
  /-- EFER.LMA. -/
  longMode : Bool
  /-- CR0.PG, as the guest reads it. -/
  paging : Bool
  /-- CR4.PAE, as the guest reads it. -/
  extension : Bool
  deriving DecidableEq, Repr

def PagingMode.Consistent (mode : PagingMode) : Prop :=
  mode.longMode = true → mode.paging = true ∧ mode.extension = true

instance : DecidablePred PagingMode.Consistent :=
  fun _ => inferInstanceAs (Decidable (_ → _))

namespace Machine

variable {m start : Machine} {exits : List Machine}

def pagingMode (m : Machine) : PagingMode where
  longMode := m.inLongMode
  paging := (m.vmcs.get .cr0ReadShadow).getLsbD pagingBit
  extension := (m.vmcs.get .cr4ReadShadow).getLsbD addressExtensionBit

/-- The exit is a WRMSR that sets EFER.LMA, with nothing else wrong, while either bit is clear. -/
structure ActivatesUnpaged (m : Machine) : Prop where
  opens : m.Opens .wrmsr
  number : m.registers.ecx = .efer
  accepted : accepts .efer m.registers.edxEax = true
  active : m.registers.edxEax.getLsbD longModeActiveBit = true
  unpaged : ¬ (m.pagingMode.paging = true ∧ m.pagingMode.extension = true)

/-! ## One exit -/

theorem consistent_dispatch (resumed : m.dispatch.1 = true)
    (consistent : m.pagingMode.Consistent) (paged : ¬ m.ActivatesUnpaged) :
    m.dispatch.2.pagingMode.Consistent := by
  obtain ⟨reason, writes, opens, stores, get⟩ := stores_of_dispatch resumed
  intro active
  change (m.dispatch.2.vmcs.get .efer).getLsbD longModeActiveBit = true at active
  change (m.dispatch.2.vmcs.get .cr0ReadShadow).getLsbD pagingBit = true ∧
    (m.dispatch.2.vmcs.get .cr4ReadShadow).getLsbD addressExtensionBit = true
  rw [get .efer (by decide)] at active
  rw [get .cr0ReadShadow (by decide), get .cr4ReadShadow (by decide)]
  rcases stores.msr_cases m.vmcs (show (Msr.efer, VmcsField.efer) ∈ vmcsMsrs by decide) with
    same | ⟨service, number, accepted, only⟩
  · -- the guest was in long mode before, where a store to CR0 or CR4 is checked
    rw [same] at active
    obtain ⟨paging, extension⟩ := consistent active
    constructor
    · rcases stores.cr0_cases m.vmcs with kept | ⟨checked, -⟩
      · rwa [kept.1]
      · exact checked.paging active paging
    · rcases stores.cr4_cases m.vmcs with kept | ⟨⟨-, mode⟩, -⟩
      · rwa [kept.1]
      · refine mode.resolve_right fun inactive => ?_
        exact absurd (inactive.symm.trans active) (by decide)
  · subst only
    rw [Vmcs.get_putAll_one] at active
    rw [m.vmcs.get_putAll_one_of_ne _ (by decide), m.vmcs.get_putAll_one_of_ne _ (by decide)]
    by_contra unpaged
    obtain rfl := Reason.service_eq_msr_write.1 service
    exact paged ⟨opens, number, accepted, active, unpaged⟩

/-- A WRMSR with which the guest goes on wrote to the field of its register and to no other. -/
theorem get_dispatch_wrmsr {field : VmcsField} (opens : m.Opens .wrmsr)
    (home : classify m.registers.ecx = .vmcs field)
    (accepted : accepts m.registers.ecx m.registers.edxEax = true)
    (resumed : m.dispatch.1 = true) {other : VmcsField} (ne : other ≠ .rip) :
    m.dispatch.2.vmcs.get other =
      if other = field then m.registers.edxEax else m.vmcs.get other := by
  obtain ⟨core, _, _, _, deed, -, after⟩ := emulates_of_dispatch opens
    (ending_writeMsrCourse (m := m.begun.captured .wrmsr) home accepted) resumed
  have stored : m.dispatch.2.vmcs.get other = core.vmcs.get other := by
    rw [after]
    exact Vmcs.get_put_of_ne _ _ ne
  rw [stored]
  change Emulates _ (.msr .write) core at deed
  cases deed with
  | wrmsr home' => exact absurd (home.symm.trans home') nofun
  | wrmsrField home' =>
      obtain rfl := MsrHome.vmcs.inj (home.symm.trans home')
      split
      · next same =>
          rw [same]
          exact Vmcs.get_put_self ..
      · next same => exact Vmcs.get_put_of_ne _ _ same

theorem not_consistent_dispatch (resumed : m.dispatch.1 = true)
    (unpaged : m.ActivatesUnpaged) : ¬ m.dispatch.2.pagingMode.Consistent := by
  obtain ⟨opens, number, accepted, active, unpaged⟩ := unpaged
  have home : classify m.registers.ecx = .vmcs .efer := by rw [number]; rfl
  rw [← number] at accepted
  have get {field : VmcsField} (ne : field ≠ .rip) :=
    get_dispatch_wrmsr opens home accepted resumed ne
  simp only [PagingMode.Consistent, pagingMode, inLongMode] at unpaged ⊢
  rw [get (by decide), get (by decide), get (by decide), if_pos rfl, if_neg (by decide),
    if_neg (by decide)]
  exact fun consistent => unpaged (consistent active)

/-! ## Any number of exits -/

/--
A guest that was consistent stays so, unless it sets EFER.LMA by a WRMSR while paging or the
extension is off.  Each such WRMSR takes effect, and leaves a guest that VM entry refuses.
-/
theorem Evolves.consistent_iff (run : Evolves pagingMode start exits m)
    (alive : m.phase ≠ .terminating) (consistent : start.pagingMode.Consistent) :
    (m.pagingMode.Consistent ∧ ∀ x ∈ exits, x.dispatch.2.pagingMode.Consistent) ↔
      ∀ x ∈ exits, ¬ x.ActivatesUnpaged := by
  have resumed := run.resumed alive
  constructor
  · intro kept x dispatched unpaged
    exact not_consistent_dispatch (resumed x dispatched) unpaged (kept.2 x dispatched)
  · intro paged
    have step (x : Machine) (dispatched : x ∈ exits) (consistent : x.pagingMode.Consistent) :
        x.dispatch.2.pagingMode.Consistent :=
      consistent_dispatch (resumed x dispatched) consistent (paged x dispatched)
    obtain ⟨now, before⟩ := run.invariant consistent step
    exact ⟨now, fun x dispatched => step x dispatched (before x dispatched)⟩

/-- A guest turns on PAE, then paging, and then goes to long mode. -/
def enablingPae : Machine :=
  (exitingFor 0 3).exitingNext 28 4 { rax := 0x20 }

def enablingPaging : Machine :=
  enablingPae.dispatch.2.exitingNext 28 0 { rax := 0x80000001 }

def enteringLongMode : Machine :=
  enablingPaging.dispatch.2.exitingNext 32 0 { rcx := 0xC0000080, rax := 0x500 }

theorem Evolves.consistent_iff_long_mode :
    enteringLongMode.dispatch.2.pagingMode = ⟨true, true, true⟩ ∧
      enteringLongMode.dispatch.2.pagingMode.Consistent := by
  have run : Evolves pagingMode enablingPae [enteringLongMode, enablingPaging, enablingPae]
      enteringLongMode.dispatch.2 :=
    .dispatched (.between (.dispatched (.between (.dispatched .start) rfl id)) rfl id)
  refine ⟨rfl, ((Evolves.consistent_iff run (by decide) (by decide)).2 ?_).1⟩
  rintro x dispatched ⟨opens, number, accepted, active, unpaged⟩
  simp only [List.mem_cons, List.not_mem_nil, or_false] at dispatched
  obtain rfl | rfl | rfl := dispatched
  · exact unpaged (by decide)
  · exact absurd number (by decide)
  · exact absurd number (by decide)

/-- The same WRMSR right away. -/
def enteringUnpaged : Machine :=
  (exitingFor 0 2).exitingNext 32 0 { rcx := 0xC0000080, rax := 0x500 }

theorem dispatch_leaves_long_mode_unpaged :
    enteringUnpaged.pagingMode.Consistent ∧
      Evolves pagingMode enteringUnpaged [enteringUnpaged] enteringUnpaged.dispatch.2 ∧
      enteringUnpaged.dispatch.2.phase ≠ .terminating ∧
      ¬ enteringUnpaged.dispatch.2.pagingMode.Consistent :=
  ⟨by decide, .dispatched .start, by decide, by decide⟩

end Machine

end NestedVisor
