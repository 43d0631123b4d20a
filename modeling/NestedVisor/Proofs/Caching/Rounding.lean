import NestedVisor.Proofs.Caching.Precedence

/-!
# The address inside the page

Resolution gives a type to the page that holds an address.  The variable ranges are compared with
the page, but the first megabyte of the fixed ranges with the address as it comes.  A page of
4 KiB lies on one side of that limit; the first page of the larger sizes lies on both.
-/

namespace NestedVisor

namespace Granularity

theorem holds_pageBase (size : Granularity) (address : Word) :
    size.Holds (size.pageBase address) address := by
  rw [holds_iff_getLsbD (size.aligned_pageBase address)]
  intro i high
  rw [pageBase, getLsbD_and_not_offsetMask, decide_eq_true high, Bool.and_true]

@[simp] theorem pageBase_pageBase (size : Granularity) (address : Word) :
    size.pageBase (size.pageBase address) = size.pageBase address :=
  pageBase_of_aligned (size.aligned_pageBase address)

end Granularity

namespace Caching

variable {p : Processor} {width : Nat} {size : Granularity} {a b base : Word}

theorem pageBase_lt_limit_iff :
    (base < fixedRangeLimit ↔ size.pageBase base < fixedRangeLimit) ↔
      ¬ (size.pageBase base = 0 ∧ fixedRangeLimit ≤ base) := by
  have aligned := (size.aligned_iff _).1 (size.aligned_pageBase base)
  obtain ⟨before, inside⟩ := size.holds_pageBase base
  rw [fixedRangeLimit]
  cases size <;> simp only [Granularity.bits] at aligned inside <;> bv_omega

/-- Typing is on, and the first megabyte belongs to the fixed ranges. -/
structure FixedRangesRule (p : Processor) : Prop where
  supported : p.hasRangeRegisters
  enabled : p.rangeDefault.enabled
  available : p.rangeCapability.hasFixedRanges
  active : p.rangeDefault.fixedEnabled

theorem FixedRangesRule.resolve_of_low (rule : FixedRangesRule p) (low : a < fixedRangeLimit) :
    resolve p width a size = .unspecified := by
  have early : early? p a = some (.fixedRange a) := by
    rw [early?, if_neg (not_not_intro rule.supported), if_neg (not_not_intro rule.enabled),
      if_pos ⟨rule.available, rule.active, low⟩]
  rw [resolve, verdict, early]
  rfl

theorem FixedRangesRule.scans_of_high (rule : FixedRangesRule p) (high : ¬ a < fixedRangeLimit) :
    Scans p a :=
  ⟨rule.supported, rule.enabled, fun fixed => high fixed.2.2⟩

/-- Without fixed ranges nothing but the page of an address is looked at. -/
theorem early?_congr (free : ¬ FixedRangesRule p) (a b : Word) : early? p a = early? p b := by
  by_cases supported : p.hasRangeRegisters
  · by_cases enabled : p.rangeDefault.enabled
    · have unfixed (x : Word) : ¬ (p.rangeCapability.hasFixedRanges ∧
          p.rangeDefault.fixedEnabled ∧ x < fixedRangeLimit) :=
        fun ⟨available, active, _⟩ => free ⟨supported, enabled, available, active⟩
      rw [early?, early?, if_neg (unfixed a), if_neg (unfixed b)]
    · simp [early?, enabled]
  · simp [early?, supported]

theorem resolve_congr (page : size.pageBase a = size.pageBase b)
    (side : FixedRangesRule p → (a < fixedRangeLimit ↔ b < fixedRangeLimit)) :
    resolve p width a size = resolve p width b size := by
  by_cases rule : FixedRangesRule p
  · by_cases low : a < fixedRangeLimit
    · rw [rule.resolve_of_low low, rule.resolve_of_low ((side rule).1 low)]
    · have high : ¬ b < fixedRangeLimit := mt (side rule).2 low
      rw [resolve_of_scans (rule.scans_of_high low), resolve_of_scans (rule.scans_of_high high),
        page]
  · rw [resolve, resolve, verdict, verdict, early?_congr rule a b, page]

/-- On the two sides of the limit only pages without a type are alike. -/
theorem resolve_eq_iff (page : size.pageBase a = size.pageBase b) :
    resolve p width a size = resolve p width b size ↔
      (FixedRangesRule p → (a < fixedRangeLimit ↔ b < fixedRangeLimit)) ∨
        resolve p width a size = .unspecified ∧ resolve p width b size = .unspecified := by
  constructor
  case mp =>
    intro same
    by_cases rule : FixedRangesRule p
    · by_cases low : a < fixedRangeLimit
      · have none : resolve p width a size = .unspecified := rule.resolve_of_low low
        exact .inr ⟨none, same ▸ none⟩
      · by_cases low' : b < fixedRangeLimit
        · have none : resolve p width b size = .unspecified := rule.resolve_of_low low'
          exact .inr ⟨same ▸ none, none⟩
        · exact .inl fun _ => iff_of_false low low'
    · exact .inl fun holds => absurd holds rule
  case mpr =>
    rintro (side | ⟨none, none'⟩)
    · exact resolve_congr page side
    · rw [none, none']

/--
An address is typed like the base of its page, except where the fixed ranges rule, the page is
the first one and the address is not in the first megabyte: then the page may have a type there
although its base has none.  So the addresses of a page are typed alike on either side of the
limit.
-/
theorem resolveCached_pageBase_iff (p : Processor) (cache : WidthCache) (base : Word)
    (size : Granularity) :
    ((resolveCached p cache base size).1 = (resolveCached p cache (size.pageBase base) size).1 ↔
      ¬ (FixedRangesRule p ∧ size.pageBase base = 0 ∧ fixedRangeLimit ≤ base ∧
        (resolveCached p cache base size).1 ≠ .unspecified)) ∧
    ∀ other, size.pageBase other = size.pageBase base →
      ((resolveCached p cache base size).1 = (resolveCached p cache other size).1 ↔
        (FixedRangesRule p → (base < fixedRangeLimit ↔ other < fixedRangeLimit)) ∨
          (resolveCached p cache base size).1 = .unspecified ∧
            (resolveCached p cache other size).1 = .unspecified) := by
  simp only [fst_resolveCached]
  constructor
  case left =>
    rw [resolve_eq_iff (size.pageBase_pageBase base).symm, pageBase_lt_limit_iff]
    constructor
    case mp =>
      rintro (side | ⟨none, _⟩) ⟨rule, first, high, typed⟩
      · exact side rule ⟨first, high⟩
      · exact typed none
    case mpr =>
      intro clear
      by_contra apart
      obtain ⟨side, typed⟩ := not_or.1 apart
      obtain ⟨rule, across⟩ := Classical.not_imp.1 side
      obtain ⟨first, high⟩ := not_not.1 across
      have low : size.pageBase base < fixedRangeLimit := first ▸ by decide
      exact clear ⟨rule, first, high, fun none => typed ⟨none, rule.resolve_of_low low⟩⟩
  case right => exact fun other page => resolve_eq_iff page.symm

/-- A processor without variable ranges that leaves the first megabyte to the fixed ones. -/
def lowMemoryProcessor : Processor where
  msr register :=
    if register = .mtrrCapability then 0x100
    else if register = .mtrrDefaultType then 0xC06
    else 0
  cpuid leaf _ := if leaf = 1 then { edx := 0x1000 } else {}

/-- The second megabyte has a type, although the page of 2 MiB that holds it has none. -/
theorem resolveCached_second_megabyte :
    (resolveCached lowMemoryProcessor none 0x100000 .page2M).1 = .writeBack ∧
    (resolveCached lowMemoryProcessor none (Granularity.page2M.pageBase 0x100000) .page2M).1 =
      .unspecified := by
  decide

end Caching

end NestedVisor
