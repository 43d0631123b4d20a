import NestedVisor.Exit.CpuidMask
import NestedVisor.Hypercall.Identity
import NestedVisor.Proofs.Caching.Dependence

/-!
# Processors that differ in nested virtualization only

What a processor tells about nested virtualization is the VMX bit of leaf 1, the bit of the
host's recommendations for enlightened control structures, the host's leaf of nested features,
and the register that locks VMX.  Two processors that are `Alike` may differ in these.  All that
the core reads from a processor besides is the same on both: the masked leaves, the identity of
the host, the address width and the range registers.
-/

namespace NestedVisor

/-- Answers to a leaf that is not all hidden. -/
structure CpuidLeaf.Alike (leaf : BitVec 32) (a b : CpuidLeaf) : Prop where
  eax : ∀ i, (leaf = 0x40000004 → i ≠ 14) → a.eax.getLsbD i = b.eax.getLsbD i
  ebx : a.ebx = b.ebx
  ecx : ∀ i, (leaf = 1 → i ≠ 5) → a.ecx.getLsbD i = b.ecx.getLsbD i
  edx : a.edx = b.edx

structure Processor.Alike (p q : Processor) : Prop where
  msr : ∀ register ≠ Msr.featureControl, p.msr register = q.msr register
  cpuid : ∀ leaf ≠ 0x4000000A, ∀ subleaf,
    (p.cpuid leaf subleaf).Alike leaf (q.cpuid leaf subleaf)

namespace CpuidLeaf.Alike

variable {leaf : BitVec 32} {a b : CpuidLeaf}

theorem refl (leaf : BitVec 32) (a : CpuidLeaf) : Alike leaf a a :=
  ⟨fun _ _ => rfl, rfl, fun _ _ => rfl, rfl⟩

theorem eax_eq (alike : Alike leaf a b) (other : leaf ≠ 0x40000004) : a.eax = b.eax :=
  BitVec.eq_of_getLsbD_eq fun i _ => alike.eax i fun same => absurd same other

theorem ecx_eq (alike : Alike leaf a b) (other : leaf ≠ 1) : a.ecx = b.ecx :=
  BitVec.eq_of_getLsbD_eq fun i _ => alike.ecx i fun same => absurd same other

theorem eq_of_plain (alike : Alike leaf a b) (eax : leaf ≠ 0x40000004) (ecx : leaf ≠ 1) :
    a = b := by
  have := alike.eax_eq eax
  have := alike.ebx
  have := alike.ecx_eq ecx
  have := alike.edx
  cases a
  cases b
  simp_all

end CpuidLeaf.Alike

namespace Processor.Alike

open Exit Hypercall

variable {p q : Processor}

theorem refl (p : Processor) : Alike p p :=
  ⟨fun _ _ => rfl, fun _ _ _ => .refl ..⟩

theorem cpuid_eq (alike : Alike p q) {leaf : BitVec 32}
    (plain : leaf ∉ [1, 0x40000004, 0x4000000A]) (subleaf : BitVec 32) :
    p.cpuid leaf subleaf = q.cpuid leaf subleaf := by
  simp only [List.mem_cons, List.not_mem_nil, or_false, not_or] at plain
  exact (alike.cpuid leaf plain.2.2 subleaf).eq_of_plain plain.2.1 plain.1

/-! ## What is read -/

theorem setFlag_false_congr {a b : BitVec 32} {n : Nat}
    (same : ∀ i, i ≠ n → a.getLsbD i = b.getLsbD i) : setFlag a n false = setFlag b n false := by
  refine BitVec.eq_of_getLsbD_eq fun i inside => ?_
  rw [getLsbD_setFlag, getLsbD_setFlag]
  by_cases cleared : i = n
  · rw [if_pos ⟨inside, cleared⟩, if_pos ⟨inside, cleared⟩]
  · rw [if_neg fun h => cleared h.2, if_neg fun h => cleared h.2, same i cleared]

/-- The mask covers all that the processors may differ in. -/
theorem maskLeaf_eq (alike : Alike p q) (leaf subleaf : BitVec 32) :
    maskLeaf leaf (p.cpuid leaf subleaf) = maskLeaf leaf (q.cpuid leaf subleaf) := by
  by_cases nested : leaf = hostNestedFeatureLeaf
  · rw [nested]
    rfl
  have answers := alike.cpuid leaf nested subleaf
  by_cases features : leaf = featureLeaf
  · have recommendations : leaf ≠ 0x40000004 := features ▸ by decide
    simp only [maskLeaf, if_pos features, answers.eax_eq recommendations, answers.ebx,
      answers.edx, setFlag_false_congr fun i other => answers.ecx i fun _ => other]
  by_cases recommendations : leaf = hostRecommendationLeaf
  · simp only [maskLeaf, if_neg features, if_pos recommendations, answers.ebx,
      answers.ecx_eq features, answers.edx,
      setFlag_false_congr fun i other => answers.eax i fun _ => other]
  · rw [answers.eq_of_plain recommendations features]

theorem query_eq (alike : Alike p q) : HostIdentity.query p = HostIdentity.query q := by
  have present := (alike.cpuid 1 (by decide) 0).ecx 31 (by decide)
  have leaf {n : BitVec 32} (plain : n ∉ [1, 0x40000004, 0x4000000A]) := alike.cpuid_eq plain 0
  simp only [HostIdentity.query, present, leaf (show HostIdentity.vendorLeaf ∉ _ by decide),
    leaf (show HostIdentity.interfaceLeaf ∉ _ by decide),
    leaf (show HostIdentity.versionLeaf ∉ _ by decide),
    leaf (show HostIdentity.featureLeaf ∉ _ by decide)]

theorem addressWidth_eq (alike : Alike p q) : p.addressWidth = q.addressWidth := by
  rw [addressWidth, addressWidth, alike.cpuid_eq (by decide), alike.cpuid_eq (by decide)]

theorem sameRanges (alike : Alike p q) : SameRanges p q := by
  refine sameRanges_of_msr ?_ fun register range => alike.msr register ?_
  · rw [hasRangeRegisters, hasRangeRegisters, (alike.cpuid 1 (by decide) 0).edx]
  · rintro rfl
    exact absurd range (by decide)

/-! ## What is written -/

theorem writeMsr (alike : Alike p q) (register : Msr) (value : Word) :
    Alike (p.writeMsr register value) (q.writeMsr register value) where
  msr other visible := by
    by_cases written : other = register
    · rw [written, msr_writeMsr_self, msr_writeMsr_self]
    · rw [msr_writeMsr_of_ne _ _ written, msr_writeMsr_of_ne _ _ written,
        alike.msr other visible]
  cpuid := alike.cpuid

end Processor.Alike

namespace Processor

open Exit

def writeAll (p : Processor) (writes : List (Msr × Word)) : Processor :=
  writes.foldl (fun p (register, value) => p.writeMsr register value) p

theorem Alike.writeAll {p q : Processor} (alike : Alike p q) (writes : List (Msr × Word)) :
    Alike (p.writeAll writes) (q.writeAll writes) := by
  induction writes generalizing p q with
  | nil => exact alike
  | cons head rest ih => exact ih (alike.writeMsr head.1 head.2)

/-- The processor with what may differ taken away: what there is to see of it. -/
def masked (p : Processor) : Processor where
  msr register := if register = .featureControl then 0 else p.msr register
  cpuid leaf subleaf := maskLeaf leaf (p.cpuid leaf subleaf)

theorem Alike.masked_eq {p q : Processor} (alike : Alike p q) : p.masked = q.masked := by
  rw [masked, masked, mk.injEq]
  constructor
  · funext register
    by_cases hidden : register = .featureControl
    · rw [if_pos hidden, if_pos hidden]
    · rw [if_neg hidden, if_neg hidden, alike.msr register hidden]
  · exact funext fun leaf => funext fun subleaf => alike.maskLeaf_eq leaf subleaf

theorem alike_masked (p : Processor) : Alike p p.masked where
  msr register visible := (if_neg visible).symm
  cpuid leaf visible subleaf := by
    have kept (w : BitVec 32) {i n : Nat} (other : i ≠ n) :
        w.getLsbD i = (setFlag w n false).getLsbD i := by
      rw [getLsbD_setFlag, if_neg fun h => other h.2]
    change CpuidLeaf.Alike leaf _ (maskLeaf leaf (p.cpuid leaf subleaf))
    by_cases features : leaf = featureLeaf
    · rw [maskLeaf, if_pos features]
      exact ⟨fun _ _ => rfl, rfl, fun i other => kept _ (other features), rfl⟩
    by_cases recommendations : leaf = hostRecommendationLeaf
    · rw [maskLeaf, if_neg features, if_pos recommendations]
      exact ⟨fun i other => kept _ (other recommendations), rfl, fun _ _ => rfl, rfl⟩
    · rw [maskLeaf, if_neg features, if_neg recommendations,
        if_neg (show leaf ≠ hostNestedFeatureLeaf from visible)]
      exact .refl ..

end Processor

end NestedVisor
