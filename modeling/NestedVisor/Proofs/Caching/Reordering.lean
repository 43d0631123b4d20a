import NestedVisor.Proofs.Caching.Dependence
import NestedVisor.Proofs.Caching.Precedence

/-!
# The order of the ranges

The scan takes the ranges as they come: it stops at the first one that decides, and of several
types that have nothing to do with each other the last one stays.  Where neither can happen,
only which ranges there are matters, and not in which slots.
-/

namespace NestedVisor

open Caching

namespace Processor

variable {p : Processor} {ranges : List VariableRange}

/-- The processor with these pairs in its first variable ranges. -/
def program (p : Processor) (ranges : List VariableRange) : Processor where
  msr register :=
    let slot := (register - .mtrrPhysBase0).toNat
    match ranges[slot / 2]? with
    | some r => if slot % 2 = 0 then r.base else r.mask
    | none => p.msr register
  cpuid := p.cpuid

theorem msr_program_of_outside {register : Msr}
    (outside : 2 * ranges.length ≤ (register - .mtrrPhysBase0).toNat) :
    (p.program ranges).msr register = p.msr register := by
  have past : ranges[(register - .mtrrPhysBase0).toNat / 2]? = none :=
    List.getElem?_eq_none (by omega)
  simp only [program, past]

theorem variableRange_program (few : ranges.length ≤ 127) {i : Nat} (inside : i < ranges.length) :
    (p.program ranges).variableRange i = ranges[i] := by
  have base : (.mtrrPhysBase0 + BitVec.ofNat 32 (2 * i) - .mtrrPhysBase0 : Msr).toNat = 2 * i := by
    rw [Msr.mtrrPhysBase0]
    bv_omega
  have mask : (.mtrrPhysMask0 + BitVec.ofNat 32 (2 * i) - .mtrrPhysBase0 : Msr).toNat =
      2 * i + 1 := by
    rw [Msr.mtrrPhysMask0, Msr.mtrrPhysBase0]
    bv_omega
  have even : 2 * i / 2 = i ∧ 2 * i % 2 = 0 := by omega
  have odd : (2 * i + 1) / 2 = i ∧ ¬ (2 * i + 1) % 2 = 0 := by omega
  simp only [variableRange, program, base, mask, even, odd, List.getElem?_eq_getElem inside,
    if_true, if_false]

section

variable (few : ranges.length ≤ 127)

include few

/-- The default type stands behind 127 pairs, and the capability before all of them. -/
theorem rangeDefault_program : (p.program ranges).rangeDefault = p.rangeDefault := by
  have last : (.mtrrDefaultType - .mtrrPhysBase0 : Msr).toNat = 255 := rfl
  rw [rangeDefault, rangeDefault, msr_program_of_outside (by omega)]

theorem rangeCapability_program : (p.program ranges).rangeCapability = p.rangeCapability := by
  have before : 255 ≤ (.mtrrCapability - .mtrrPhysBase0 : Msr).toNat := by decide
  rw [rangeCapability, rangeCapability, msr_program_of_outside (by omega)]

theorem variableRanges_program (all : ranges.length = p.rangeCapability.variableCount.toNat) :
    (p.program ranges).variableRanges = ranges := by
  rw [variableRanges, rangeCapability_program few, ← all]
  refine List.ext_getElem (by simp) fun i _ inside => ?_
  rw [List.getElem_map, List.getElem_range, variableRange_program few inside]

theorem early?_program (base : Word) : early? (p.program ranges) base = early? p base := by
  rw [early?, early?, rangeDefault_program few, rangeCapability_program few]
  rfl

end

end Processor

namespace Caching

/-- The order of these ranges says nothing about the page. -/
structure Orderly (ranges : List VariableRange) (width : Nat) (base : Word)
    (size : Granularity) : Prop where
  decided : ∀ r ∈ ranges, r.Divides width base size →
    ∀ s ∈ ranges, s.Covers width base size → s.type ≠ .uncacheable
  undecided : Undecided ranges width base size →
    ∀ s ∈ coveringTypes ranges width base size, ∀ t ∈ coveringTypes ranges width base size,
      Yields s t ∨ Yields t s

section Ranges

variable {ranges ranges' : List VariableRange} {width : Nat} {base : Word} {size : Granularity}

theorem exists_first_of_not_undecided (decided : ¬ Undecided ranges width base size) :
    ∃ before r after, ranges = before ++ r :: after ∧ Undecided before width base size ∧
      r.Decides width base size := by
  classical
  cases found : ranges.find? fun r => decide (r.Decides width base size) with
  | none =>
    exact absurd (fun r member => by simpa using List.find?_eq_none.1 found r member) decided
  | some r =>
    obtain ⟨decides, before, after, split, clear⟩ := List.find?_eq_some_iff_append.1 found
    exact ⟨before, r, after, split, fun s member => by simpa using clear s member,
      of_decide_eq_true decides⟩

/-- Types among which none stands against another are of one kind, or the strongest is
write-through. -/
theorem types_of_yields {types : Set MemoryType}
    (yields : ∀ s ∈ types, ∀ t ∈ types, Yields s t ∨ Yields t s) :
    types = ∅ ∨ (.writeThrough ∈ types ∧ types ⊆ {.writeThrough, .writeBack}) ∨
      ∃ t, types = {t} := by
  by_cases through : .writeThrough ∈ types
  · refine .inr (.inl ⟨through, fun s member => ?_⟩)
    rcases yields s member _ through with (same | ⟨back, _⟩) | (same | ⟨other, _⟩)
    · exact .inl same
    · exact .inr back
    · exact .inl same.symm
    · cases other
  rcases types.eq_empty_or_nonempty with none | ⟨t, found⟩
  · exact .inl none
  refine .inr (.inr ⟨t, Set.eq_singleton_iff_unique_mem.2 ⟨found, fun s member => ?_⟩⟩)
  rcases yields s member t found with (same | ⟨_, rfl⟩) | (same | ⟨_, rfl⟩)
  · exact same
  · exact absurd found through
  · exact same.symm
  · exact absurd member through

/-- In every list of ranges of which some decide, one of those comes first. -/
theorem exists_first_of_mem_iff (decided : ¬ Undecided ranges width base size)
    (same : ∀ r, r ∈ ranges' ↔ r ∈ ranges) :
    ∃ before r after, ranges' = before ++ r :: after ∧ Undecided before width base size ∧
      r ∈ ranges ∧ r.Decides width base size := by
  have decided' : ¬ Undecided ranges' width base size := by
    simpa only [Undecided, same] using decided
  obtain ⟨before, r, after, rfl, clear, decides⟩ := exists_first_of_not_undecided decided'
  exact ⟨before, r, after, rfl, clear, (same r).1 (by simp), decides⟩

theorem Undecided.exists_assigns (undecided : Undecided ranges width base size)
    (yields : ∀ s ∈ coveringTypes ranges width base size,
      ∀ t ∈ coveringTypes ranges width base size, Yields s t ∨ Yields t s)
    (fallback : MemoryType) :
    ∃ t, ∀ ranges', (∀ r, r ∈ ranges' ↔ r ∈ ranges) →
      Assigns ranges' width base size fallback t := by
  have stays {ranges' : List VariableRange} (same : ∀ r, r ∈ ranges' ↔ r ∈ ranges) :
      Undecided ranges' width base size ∧
        coveringTypes ranges' width base size = coveringTypes ranges width base size := by
    simp only [Undecided, coveringTypes, same]
    exact ⟨undecided, trivial⟩
  rcases types_of_yields yields with none | ⟨some, only⟩ | ⟨t, only⟩
  · exact ⟨fallback, fun _ same => .default (stays same).1 ((stays same).2.trans none)⟩
  · exact ⟨.writeThrough, fun _ same =>
      .writeThrough (stays same).1 ((stays same).2 ▸ some) ((stays same).2 ▸ only)⟩
  · exact ⟨t, fun _ same => .single (stays same).1 ((stays same).2.trans only)⟩

/-- The precedence assigns the same type to all lists of the same orderly ranges. -/
theorem Orderly.exists_assigns (orderly : Orderly ranges width base size)
    (fallback : MemoryType) :
    ∃ t, ∀ ranges', (∀ r, r ∈ ranges' ↔ r ∈ ranges) →
      Assigns ranges' width base size fallback t := by
  by_cases undecided : Undecided ranges width base size
  · exact undecided.exists_assigns (orderly.undecided undecided) fallback
  by_cases divided : ∃ r ∈ ranges, r.Divides width base size
  · obtain ⟨r, member, divides⟩ := divided
    refine ⟨.unspecified, fun ranges' same => ?_⟩
    obtain ⟨before, s, after, split, clear, found, decides⟩ :=
      exists_first_of_mem_iff undecided same
    rcases decides with divides' | ⟨covers, type⟩
    · exact .divided split clear divides'
    · exact absurd type (orderly.decided r member divides s found covers)
  · refine ⟨.uncacheable, fun ranges' same => ?_⟩
    obtain ⟨before, s, after, split, clear, found, decides⟩ :=
      exists_first_of_mem_iff undecided same
    rcases decides with divides | ⟨covers, type⟩
    · exact absurd ⟨s, found, divides⟩ divided
    · exact .uncacheable split clear covers type

theorem exists_prefer {candidate : Option MemoryType} {s : MemoryType} (known : s ≠ .unspecified) :
    ∃ t, prefer candidate s = some t ∧ Yields s t := by
  unfold prefer
  split
  · exact absurd rfl known
  · exact ⟨_, rfl, .inr ⟨rfl, rfl⟩⟩
  · exact ⟨_, rfl, .inl rfl⟩
  · exact ⟨_, rfl, .inl rfl⟩

/-- Where no range decides, a range can be put last, and its type yields to the result. -/
theorem exists_perm_yields (aligned : size.Aligned base)
    (undecided : Undecided ranges width base size) {s : MemoryType}
    (found : s ∈ coveringTypes ranges width base size) (fallback : MemoryType) :
    ∃ ranges' : List VariableRange, ranges'.Perm ranges ∧
      Yields s (scan (comparedBits width) base size fallback 0 none ranges').type := by
  obtain ⟨known, r, member, covers, rfl⟩ := found
  have cached : r.type ≠ .uncacheable := fun type => undecided r member (.inr ⟨covers, type⟩)
  refine ⟨ranges.erase r ++ [r],
    (List.perm_append_singleton r _).trans (List.perm_cons_erase member).symm, ?_⟩
  rw [scan_append_of_undecided aligned fun x rest => undecided x (List.mem_of_mem_erase rest),
    scan_of_covers aligned covers cached, scan]
  obtain ⟨t, preferred, yields⟩ := exists_prefer known
  rw [preferred]
  exact yields

/-- Only of orderly ranges does the scan make the same in every order. -/
theorem orderly_of_perm (aligned : size.Aligned base) (fallback type : MemoryType)
    (always : ∀ ranges' : List VariableRange, ranges'.Perm ranges →
      (scan (comparedBits width) base size fallback 0 none ranges').type = type) :
    Orderly ranges width base size := by
  constructor
  case decided =>
    intro r member divides s other covers uncacheable
    have divided := always _ (List.perm_cons_erase member).symm
    have covered := always _ (List.perm_cons_erase other).symm
    rw [type_scan_of_divides aligned divides] at divided
    rw [scan_of_uncacheable aligned covers uncacheable] at covered
    cases divided.trans covered.symm
  case undecided =>
    intro undecided s found t found'
    obtain ⟨_, perm, yields⟩ := exists_perm_yields aligned undecided found fallback
    obtain ⟨_, perm', yields'⟩ := exists_perm_yields aligned undecided found' fallback
    rw [always _ perm] at yields
    rw [always _ perm'] at yields'
    rcases yields with rfl | ⟨rfl, rfl⟩
    · exact .inr yields'
    · rcases yields' with rfl | ⟨rfl, -⟩
      · exact .inl (.inr ⟨rfl, rfl⟩)
      · exact .inl (.inl rfl)

end Ranges

section Slots

variable {p : Processor} {ranges : List VariableRange}

theorem length_of_perm (reordered : ranges.Perm p.variableRanges) :
    ranges.length = p.rangeCapability.variableCount.toNat := by
  rw [reordered.length_eq, Processor.variableRanges, List.length_map, List.length_range]

variable (few : p.rangeCapability.variableCount.toNat ≤ 127)

include few

theorem resolve_program {base : Word} (scans : Scans p base)
    (reordered : ranges.Perm p.variableRanges) (width : Nat) (size : Granularity) :
    resolve (p.program ranges) width base size =
      (scan (comparedBits width) (size.pageBase base) size p.rangeDefault.type 0 none
        ranges).type := by
  have all := length_of_perm reordered
  have small : ranges.length ≤ 127 := all ▸ few
  have scans' : Scans (p.program ranges) base :=
    early?_eq_none_iff.1 ((p.early?_program small base).trans (early?_eq_none_iff.2 scans))
  rw [resolve_of_scans scans', p.variableRanges_program small all, p.rangeDefault_program small]

/-- Of ranges that are not orderly, the order matters. -/
theorem orderly_of_resolveCached_program {base : Word} {size : Granularity}
    (scans : Scans p base) (cache : WidthCache)
    (always : ∀ ranges : List VariableRange, ranges.Perm p.variableRanges →
      (resolveCached (p.program ranges) cache base size).1 = (resolveCached p cache base size).1) :
    Orderly p.variableRanges (cache.fetch p).1 (size.pageBase base) size := by
  refine orderly_of_perm (size.aligned_pageBase base) p.rangeDefault.type
    (resolveCached p cache base size).1 fun ranges reordered => ?_
  rw [← always ranges reordered, fst_resolveCached]
  exact (resolve_program few scans reordered _ size).symm

/--
With at most 127 pairs, so that they stay clear of the register of the default type, and with
an orderly page, resolution does not depend on the slots that the pairs are in.
-/
theorem resolveCached_program (reordered : ranges.Perm p.variableRanges) (cache : WidthCache)
    (base : Word) (size : Granularity)
    (orderly : Scans p base →
      Orderly p.variableRanges (cache.fetch p).1 (size.pageBase base) size) :
    (resolveCached (p.program ranges) cache base size).1 = (resolveCached p cache base size).1 := by
  have width : cache.fetch (p.program ranges) = cache.fetch p := Processor.fetch_congr rfl cache
  rw [fst_resolveCached, fst_resolveCached, width]
  by_cases scans : Scans p base
  · obtain ⟨t, assigns⟩ := (orderly scans).exists_assigns p.rangeDefault.type
    have aligned := size.aligned_pageBase base
    rw [resolve_program few scans reordered, resolve_of_scans scans,
      type_scan_of_assigns aligned (assigns _ fun _ => reordered.mem_iff),
      type_scan_of_assigns aligned (assigns _ fun _ => Iff.rfl)]
  · obtain ⟨v, early⟩ := Option.ne_none_iff_exists'.1 (mt early?_eq_none_iff.1 scans)
    have small : ranges.length ≤ 127 := length_of_perm reordered ▸ few
    rw [resolve, resolve, verdict, verdict, p.early?_program small, early]

end Slots

/-- Range registers that are zero so far, with write-back as the default type. -/
def pairsProcessor (count : Word) : Processor where
  msr register :=
    if register = .mtrrCapability then count
    else if register = .mtrrDefaultType then 0x806
    else 0
  cpuid leaf _ := if leaf = 1 then { edx := 0x1000 } else {}

/-- Both match the second gigabyte, one as write-back and the other as write-through. -/
def gigabyteRanges : List VariableRange :=
  [⟨0x40000006, 0xFC0000800⟩, ⟨0x40000004, 0xFC0000800⟩]

theorem resolveCached_program_write_through :
    (resolveCached ((pairsProcessor 2).program gigabyteRanges |>.program gigabyteRanges.reverse)
      none 0x40000000 .page2M).1 = .writeThrough := by
  have ranges : ((pairsProcessor 2).program gigabyteRanges).variableRanges = gigabyteRanges := by
    decide
  have covers (r : VariableRange) (member : r ∈ gigabyteRanges) :
      r.Covers 36 0x40000000 .page2M := by
    have each : ∀ r ∈ gigabyteRanges,
        r.overlap (comparedBits 36) 0x40000000 .page2M = .covers r.type := by decide
    exact (VariableRange.covers_iff (by decide)).2 (each r member)
  have orderly : Orderly gigabyteRanges 36 0x40000000 .page2M := by
    constructor
    case decided => exact fun r member divides => absurd (covers r member) divides.2
    case undecided =>
      rintro - s ⟨_, r, here, _, rfl⟩ t ⟨_, r', there, _, rfl⟩
      rcases List.mem_pair.1 here with rfl | rfl <;> rcases List.mem_pair.1 there with rfl | rfl
      · exact .inl (.inl rfl)
      · exact .inl (.inr ⟨rfl, rfl⟩)
      · exact .inr (.inr ⟨rfl, rfl⟩)
      · exact .inl (.inl rfl)
  refine (resolveCached_program (by decide) (ranges ▸ List.reverse_perm _) none _ _
    fun _ => ?_).trans (by decide)
  rw [ranges]
  exact orderly

/-- The first two match the second gigabyte, the third matches the third one as uncacheable, and
the last only 4 KiB of it. -/
def clashingRanges : List VariableRange :=
  [⟨0x40000006, 0xFC0000800⟩, ⟨0x40000001, 0xFC0000800⟩, ⟨0x80000000, 0xFC0000800⟩,
    ⟨0x80000000, 0xFFFFFF800⟩]

def clashingProcessor : Processor :=
  (pairsProcessor 4).program clashingRanges

/-- Of unrelated types the last one counts, and of the ranges that decide the first. -/
theorem resolveCached_program_clashing :
    (clashingRanges.reverse.Perm clashingProcessor.variableRanges ∧
      clashingProcessor.rangeCapability.variableCount.toNat ≤ 127) ∧
    ((resolveCached clashingProcessor none 0x40000000 .page2M).1 = .writeCombining ∧
      (resolveCached (clashingProcessor.program clashingRanges.reverse) none 0x40000000
        .page2M).1 = .writeBack) ∧
    (resolveCached clashingProcessor none 0x80000000 .page2M).1 = .uncacheable ∧
      (resolveCached (clashingProcessor.program clashingRanges.reverse) none 0x80000000
        .page2M).1 = .unspecified := by
  decide

end Caching

end NestedVisor
