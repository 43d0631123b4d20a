import NestedVisor.Caching.Resolution
import NestedVisor.Caching.Snapshot
import NestedVisor.Exit.MsrPolicy

/-!
# What a memory type depends on

Resolution reads the range registers and what the processor says about having them.  Two
processors with the `SameRanges` give every page the same type.  None of the registers is one
that the guest owns, so that processors which differ in nothing else have the same ranges.
-/

namespace NestedVisor

open Caching

/-- Processors between which resolution makes no difference. -/
structure Processor.SameRanges (p q : Processor) : Prop where
  supported : p.hasRangeRegisters = q.hasRangeRegisters
  fixed : p.rangeCapability.hasFixedRanges = q.rangeCapability.hasFixedRanges
  default : p.rangeDefault = q.rangeDefault
  ranges : p.variableRanges = q.variableRanges

/-- Processors that differ in the registers of the guest only. -/
structure Processor.Agree (p q : Processor) : Prop where
  cpuid : p.cpuid = q.cpuid
  msr : ∀ register ∉ Exit.guestOwnedMsrs, p.msr register = q.msr register

namespace Processor

variable {p q r : Processor}

/-! ## Range registers -/

/--
The numbers of the range registers that resolution can read: the capability, and from 0x200 on
the variable ranges, between which the default type lies.
-/
def IsRangeRegister (register : Msr) : Prop :=
  register = .mtrrCapability ∨ 0x200 ≤ register ∧ register < 0x3FE

instance (register : Msr) : Decidable (IsRangeRegister register) :=
  inferInstanceAs (Decidable (_ ∨ _))

theorem isRangeRegister_variable {i : Nat} (bound : i < 255) :
    IsRangeRegister (.mtrrPhysBase0 + BitVec.ofNat 32 (2 * i)) ∧
      IsRangeRegister (.mtrrPhysMask0 + BitVec.ofNat 32 (2 * i)) := by
  rw [IsRangeRegister, IsRangeRegister, Msr.mtrrPhysBase0, Msr.mtrrPhysMask0]
  constructor <;> right <;> bv_omega

theorem variableRange_congr (msr : ∀ register, IsRangeRegister register →
    p.msr register = q.msr register) {i : Nat} (bound : i < 255) :
    p.variableRange i = q.variableRange i := by
  obtain ⟨base, mask⟩ := isRangeRegister_variable bound
  rw [variableRange, variableRange, msr _ base, msr _ mask]

theorem sameRanges_of_msr (supported : p.hasRangeRegisters = q.hasRangeRegisters)
    (msr : ∀ register, IsRangeRegister register → p.msr register = q.msr register) :
    SameRanges p q := by
  have capability : p.rangeCapability = q.rangeCapability := by
    rw [rangeCapability, rangeCapability, msr _ (by decide)]
  constructor
  case supported => exact supported
  case fixed => rw [capability]
  case default => rw [rangeDefault, rangeDefault, msr _ (by decide)]
  case ranges =>
    rw [variableRanges, variableRanges, capability]
    refine List.map_congr_left fun i inside => variableRange_congr msr ?_
    have count := q.rangeCapability.variableCount.isLt
    have index := List.mem_range.1 inside
    omega

/-! ## Resolution -/

theorem SameRanges.early?_eq (same : SameRanges p q) (base : Word) :
    early? p base = early? q base := by
  rw [early?, early?, same.supported, same.default, same.fixed]

theorem SameRanges.verdict_eq (same : SameRanges p q) (width : Nat) (base : Word)
    (size : Granularity) : verdict p width base size = verdict q width base size := by
  rw [verdict, verdict, same.early?_eq, same.default, same.ranges]

theorem SameRanges.resolve_eq (same : SameRanges p q) (width : Nat) (base : Word)
    (size : Granularity) : resolve p width base size = resolve q width base size := by
  rw [resolve, resolve, same.verdict_eq]

theorem fetch_congr (width : p.addressWidth = q.addressWidth) (cache : WidthCache) :
    cache.fetch p = cache.fetch q := by
  rw [WidthCache.fetch.eq_def, WidthCache.fetch.eq_def, width]

/-- With the same width, what is cached and what is reported are the same, too. -/
theorem SameRanges.resolveCached_eq (same : SameRanges p q)
    (width : p.addressWidth = q.addressWidth) (cache : WidthCache) (base : Word)
    (size : Granularity) : resolveCached p cache base size = resolveCached q cache base size := by
  simp only [resolveCached, same.early?_eq, same.verdict_eq, fetch_congr width]

/-! ## Snapshots -/

theorem capture_eq_iff : Snapshot.capture p = Snapshot.capture q ↔
    p.rangeDefault = q.rangeDefault ∧ p.variableRanges = q.variableRanges := by
  simp [Snapshot.capture, rangeDefault]

theorem SameRanges.capture_eq (same : SameRanges p q) :
    Snapshot.capture p = Snapshot.capture q :=
  capture_eq_iff.2 ⟨same.default, same.ranges⟩

/-! ## Registers of the guest -/

namespace Agree

theorem refl (p : Processor) : Agree p p :=
  ⟨rfl, fun _ _ => rfl⟩

theorem trans (first : Agree p q) (second : Agree q r) : Agree p r :=
  ⟨first.cpuid.trans second.cpuid,
    fun register foreign => (first.msr register foreign).trans (second.msr register foreign)⟩

theorem addressWidth_eq (agree : Agree p q) : p.addressWidth = q.addressWidth := by
  rw [addressWidth, addressWidth, agree.cpuid]

/-- The registers of the guest have the high numbers. -/
theorem notMem_guestOwnedMsrs {register : Msr} (range : IsRangeRegister register) :
    register ∉ Exit.guestOwnedMsrs := by
  have high : Exit.guestOwnedMsrs.any (IsRangeRegister ·) = false := by decide
  exact fun owned => List.any_eq_false.1 high register owned (decide_eq_true range)

theorem sameRanges (agree : Agree p q) : SameRanges p q := by
  refine sameRanges_of_msr ?_ fun register range =>
    agree.msr register (notMem_guestOwnedMsrs range)
  rw [hasRangeRegisters, hasRangeRegisters, agree.cpuid]

end Agree

end Processor

end NestedVisor
