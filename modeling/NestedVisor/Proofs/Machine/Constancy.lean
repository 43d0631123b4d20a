import NestedVisor.Proofs.Machine.Evolution

/-!
# Typing over time

Whatever a guest does, resolution answers as it did before, and so do snapshots of the range
registers.  The guest has registers of the processor that it writes to, and a register number of
its own lies among those of the variable ranges; but what it writes there stays in the control
structure.
-/

namespace NestedVisor.Machine

open Exit Caching

variable {m start : Machine} {exits : List Machine}

/-- In a run that shows these, only exits change the processor or the address width in force. -/
def typing (m : Machine) : Processor × Nat :=
  (m.processor, m.addressWidth)

theorem Evolves.agree (run : Evolves typing start exits m) :
    m.processor.Agree start.processor ∧ m.addressWidth = start.addressWidth := by
  refine (run.invariant
    (P := fun now => now.1.Agree start.processor ∧ now.2 = start.addressWidth)
    ⟨.refl _, rfl⟩ fun x _ kept => ?_).1
  have keeps := keepsTypes_dispatch x
  exact ⟨keeps.processor.trans kept.1, keeps.addressWidth_eq.trans kept.2⟩

/--
After any run resolution gives each page, mapped or not, the type that it gave before, and a
snapshot of the range registers is the one that was taken before.
-/
theorem Evolves.typing_constant (run : Evolves typing start exits m) :
    (∀ base size, (resolveCached m.processor m.width base size).1 =
      (resolveCached start.processor start.width base size).1) ∧
    Snapshot.capture m.processor = Snapshot.capture start.processor := by
  obtain ⟨agree, width⟩ := run.agree
  have same := agree.sameRanges
  refine ⟨fun base size => ?_, same.capture_eq⟩
  rw [fst_resolveCached, fst_resolveCached, same.resolve_eq]
  exact congrArg (resolve start.processor · base size) width

/--
All 255 variable ranges exist.  The number of the mask of range 59 is that of the page attribute
table, and the range makes the page at 0x5000 uncacheable.
-/
def manyRangesProcessor : Processor where
  msr register :=
    if register = .mtrrCapability then 0xFF
    else if register = .mtrrDefaultType then 0x806
    else if register = 0x276 then 0x5000
    else if register = .pat then 0xFFFFFF800
    else 0
  cpuid leaf _ := if leaf = 1 then { edx := 0x1000 } else {}

/-- The guest sets its page attribute table, and then a register of the processor. -/
def settingPat : Machine :=
  { (exitingFor 0 2).exitingNext 32 0 { rcx := 0x277, rdx := 0x70406, rax := 0x70406 } with
    processor := manyRangesProcessor }

def settingKernelGsBase : Machine :=
  settingPat.dispatch.2.exitingNext 32 0 { rcx := 0xC0000102, rax := 0x5000 }

theorem Evolves.typing_constant_pat :
    (settingKernelGsBase.dispatch.2.vmcs.get .pat = 0x7040600070406 ∧
      settingKernelGsBase.dispatch.2.processor.msr .kernelGsBase = 0x5000) ∧
    (resolveCached settingKernelGsBase.dispatch.2.processor settingKernelGsBase.dispatch.2.width
      0x5000 .page4K).1 = .uncacheable ∧
    Snapshot.capture settingKernelGsBase.dispatch.2.processor =
      Snapshot.capture manyRangesProcessor := by
  have run : Evolves typing settingPat [settingKernelGsBase, settingPat]
      settingKernelGsBase.dispatch.2 :=
    .dispatched (.between (.dispatched .start) rfl id)
  obtain ⟨types, snapshot⟩ := run.typing_constant
  exact ⟨⟨rfl, rfl⟩, (types 0x5000 .page4K).trans (by decide), snapshot⟩

end NestedVisor.Machine
