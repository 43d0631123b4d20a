import NestedVisor.Proofs.Caching.Precedence

/-!
# Pages within pages

A range that covers a page covers every smaller page inside it, and one that misses it misses
them.  The scan of the smaller page then goes the same way, as long as no range divides the
larger one.
-/

namespace NestedVisor

variable {coarse fine : Granularity} {base page address : Word}

theorem Granularity.holds_trans (finer : fine.bits ≤ coarse.bits) (aligned : coarse.Aligned base)
    (aligned' : fine.Aligned page) (inside : coarse.Holds base page)
    (holds : fine.Holds page address) : coarse.Holds base address := by
  rw [Granularity.holds_iff_getLsbD aligned] at inside ⊢
  rw [Granularity.holds_iff_getLsbD aligned'] at holds
  intro i high
  rw [holds i (Nat.le_trans finer high), inside i high]

namespace Caching

variable {width : Nat} {p : Processor}

theorem scan_of_coarser (aligned : coarse.Aligned base) (aligned' : fine.Aligned page)
    (within : ∀ address, fine.Holds page address → coarse.Holds base address)
    {fallback : MemoryType} {index : Nat} {candidate : Option MemoryType}
    {ranges : List VariableRange}
    (typed : (scan (comparedBits width) base coarse fallback index candidate ranges).type ≠
      .unspecified) :
    scan (comparedBits width) page fine fallback index candidate ranges =
      scan (comparedBits width) base coarse fallback index candidate ranges := by
  induction ranges generalizing index candidate with
  | nil => rfl
  | cons r ranges ih =>
    by_cases misses : r.Misses width base coarse
    · have misses' : r.Misses width page fine := fun address holds =>
        misses address (within address holds)
      rw [scan_of_misses aligned misses] at typed ⊢
      rw [scan_of_misses aligned' misses', ih typed]
    by_cases covers : r.Covers width base coarse
    · have covers' : r.Covers width page fine := fun address holds =>
        covers address (within address holds)
      by_cases type : r.type = .uncacheable
      · rw [scan_of_uncacheable aligned covers type, scan_of_uncacheable aligned' covers' type]
      · rw [scan_of_covers aligned covers type] at typed ⊢
        rw [scan_of_covers aligned' covers' type, ih typed]
    · exact absurd (type_scan_of_divides aligned ⟨misses, covers⟩) typed

/-- Without a scan an address either has no type, or is like every other. -/
theorem early?_of_not_scans (idle : ¬ Scans p base) (page : Word) :
    early? p base = some (.fixedRange base) ∨ early? p page = early? p base := by
  by_cases supported : p.hasRangeRegisters
  · by_cases enabled : p.rangeDefault.enabled
    · left
      have fixed := by_contra fun unfixed => idle ⟨supported, enabled, unfixed⟩
      rw [early?, if_neg (not_not_intro supported), if_neg (not_not_intro enabled), if_pos fixed]
    · right
      simp [early?, enabled]
  · right
    simp [early?, supported]

theorem resolve_of_coarser (finer : fine.bits ≤ coarse.bits) (aligned : coarse.Aligned base)
    (aligned' : fine.Aligned page) (inside : coarse.Holds base page)
    (typed : resolve p width base coarse ≠ .unspecified) :
    resolve p width page fine = resolve p width base coarse := by
  by_cases scans : Scans p base
  · have scans' : Scans p page :=
      ⟨scans.supported, scans.enabled, fun ⟨has, enabled, low⟩ =>
        scans.unfixed ⟨has, enabled, Nat.lt_of_le_of_lt inside.1 low⟩⟩
    rw [resolve_of_scans scans, Granularity.pageBase_of_aligned aligned] at typed ⊢
    rw [resolve_of_scans scans', Granularity.pageBase_of_aligned aligned',
      scan_of_coarser aligned aligned' (fun _ => Granularity.holds_trans finer aligned aligned'
        inside) typed]
  · obtain ⟨v, early⟩ := Option.ne_none_iff_exists'.1 (mt early?_eq_none_iff.1 scans)
    rcases early?_of_not_scans scans page with fixed | same
    · refine absurd ?_ typed
      rw [resolve, verdict, fixed]
      rfl
    · rw [resolve, resolve, verdict, verdict, same, early]

end Caching

end NestedVisor
