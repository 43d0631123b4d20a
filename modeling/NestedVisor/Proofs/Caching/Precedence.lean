import NestedVisor.Proofs.Caching.Coverage

/-!
# Precedence among the ranges

The first range in index order that divides a page, or that covers it as uncacheable, decides
its type.  Where none decides, the types of the ranges that cover the page are weighed against
each other.  The scan computes this from masks, with a running candidate.
-/

namespace NestedVisor.Caching

section

variable (ranges : List VariableRange) (width : Nat) (base : Word) (size : Granularity)

open Classical in
/-- The ranges that match some address of a page. -/
noncomputable def touching : List VariableRange :=
  ranges.filter fun r => ¬ r.Misses width base size

open Classical in
noncomputable def covering : List VariableRange :=
  ranges.filter (·.Covers width base size)

/-- The types of the ranges that cover a page, without the reserved ones. -/
def coveringTypes : Set MemoryType :=
  {t | t ≠ .unspecified ∧ ∃ r ∈ ranges, r.Covers width base size ∧ r.type = t}

def VariableRange.Decides (r : VariableRange) : Prop :=
  r.Divides width base size ∨ r.Covers width base size ∧ r.type = .uncacheable

def Undecided : Prop :=
  ∀ r ∈ ranges, ¬ r.Decides width base size

/-- The architectural precedence among ranges, as far as it is defined. -/
inductive Assigns (fallback : MemoryType) : MemoryType → Prop
  | divided {before after : List VariableRange} {r : VariableRange}
      (split : ranges = before ++ r :: after) (undecided : Undecided before width base size)
      (divides : r.Divides width base size) : Assigns fallback .unspecified
  | uncacheable {before after : List VariableRange} {r : VariableRange}
      (split : ranges = before ++ r :: after) (undecided : Undecided before width base size)
      (covers : r.Covers width base size) (type : r.type = .uncacheable) :
      Assigns fallback .uncacheable
  | default (undecided : Undecided ranges width base size)
      (none : coveringTypes ranges width base size = ∅) : Assigns fallback fallback
  | writeThrough (undecided : Undecided ranges width base size)
      (some : .writeThrough ∈ coveringTypes ranges width base size)
      (only : coveringTypes ranges width base size ⊆ {.writeThrough, .writeBack}) :
      Assigns fallback .writeThrough
  | single {t : MemoryType} (undecided : Undecided ranges width base size)
      (only : coveringTypes ranges width base size = {t}) : Assigns fallback t

end

/-! ## The candidate -/

/-- A range of type `s` does not stand against `t`. -/
def Yields (s t : MemoryType) : Prop :=
  s = t ∨ s = .writeBack ∧ t = .writeThrough

theorem prefer_of_yields {candidate : Option MemoryType} {s t : MemoryType}
    (yields : Yields s t) (held : candidate = some t) : prefer candidate s = some t := by
  subst held
  rcases yields with rfl | ⟨rfl, rfl⟩
  · cases s <;> rfl
  · rfl

theorem prefer_self {candidate : Option MemoryType} {t : MemoryType} (known : t ≠ .unspecified)
    (weaker : ∀ s ∈ candidate, Yields s t) : prefer candidate t = some t := by
  cases candidate with
  | none => cases t <;> first | rfl | exact absurd rfl known
  | some s =>
    rcases weaker s rfl with rfl | ⟨rfl, rfl⟩
    · cases s <;> rfl
    · rfl

theorem yields_of_prefer {candidate : Option MemoryType} {s t u : MemoryType}
    (weaker : ∀ s ∈ candidate, Yields s t) (yields : s ≠ .unspecified → Yields s t)
    (preferred : u ∈ prefer candidate s) : Yields u t := by
  unfold prefer at preferred
  split at preferred
  · exact weaker u preferred
  · exact weaker u preferred
  · exact weaker u preferred
  · next known _ _ =>
    cases preferred
    exact yields known

theorem foldl_prefer_eq_some {types : List MemoryType} {candidate : Option MemoryType}
    {t : MemoryType} (known : t ≠ .unspecified) (weaker : ∀ s ∈ candidate, Yields s t)
    (yields : ∀ s ∈ types, s ≠ .unspecified → Yields s t)
    (found : candidate = some t ∨ t ∈ types) : types.foldl prefer candidate = some t := by
  induction types generalizing candidate with
  | nil => simpa using found
  | cons s types ih =>
    -- the type that the list starts with cannot displace `t`, and is displaced by it
    have here := yields s List.mem_cons_self
    refine ih (fun u => yields_of_prefer weaker here)
      (fun u member => yields u (List.mem_cons_of_mem s member)) ?_
    by_cases reserved : s = .unspecified
    · subst reserved
      simpa [prefer, known] using found
    rcases found with held | member
    · exact .inl (prefer_of_yields (here reserved) held)
    rcases List.mem_cons.1 member with rfl | later
    · exact .inl (prefer_self known weaker)
    · exact .inr later

theorem foldl_prefer_of_reserved {types : List MemoryType} {candidate : Option MemoryType}
    (reserved : ∀ s ∈ types, s = .unspecified) : types.foldl prefer candidate = candidate := by
  induction types with
  | nil => rfl
  | cons s types ih =>
    rw [reserved s List.mem_cons_self]
    exact ih fun u member => reserved u (List.mem_cons_of_mem s member)

/-! ## The scan -/

section Scan

variable {width : Nat} {base : Word} {size : Granularity} {fallback : MemoryType} {index : Nat}
  {candidate : Option MemoryType} {r : VariableRange} {ranges : List VariableRange}

theorem scan_of_misses (aligned : size.Aligned base) (misses : r.Misses width base size) :
    scan (comparedBits width) base size fallback index candidate (r :: ranges) =
      scan (comparedBits width) base size fallback (index + 1) candidate ranges := by
  rw [scan, (VariableRange.misses_iff aligned).1 misses]

theorem scan_of_covers (aligned : size.Aligned base) (covers : r.Covers width base size)
    (cached : r.type ≠ .uncacheable) :
    scan (comparedBits width) base size fallback index candidate (r :: ranges) =
      scan (comparedBits width) base size fallback (index + 1) (prefer candidate r.type)
        ranges := by
  rw [scan, (VariableRange.covers_iff aligned).1 covers]
  cases type : r.type <;> first | rfl | exact absurd type cached

theorem scan_of_uncacheable (aligned : size.Aligned base) (covers : r.Covers width base size)
    (type : r.type = .uncacheable) :
    scan (comparedBits width) base size fallback index candidate (r :: ranges) =
      .settled .uncacheable := by
  rw [scan, (VariableRange.covers_iff aligned).1 covers, type]

theorem type_scan_of_divides (aligned : size.Aligned base) (divides : r.Divides width base size) :
    (scan (comparedBits width) base size fallback index candidate (r :: ranges)).type =
      .unspecified := by
  obtain ⟨mask, overlap⟩ := (VariableRange.divides_iff aligned).1 divides
  rw [scan, overlap]
  rfl

theorem misses_or_covers_of_not_decides (undecided : ¬ r.Decides width base size) :
    r.Misses width base size ∨ r.Covers width base size ∧ r.type ≠ .uncacheable := by
  by_cases misses : r.Misses width base size
  · exact .inl misses
  by_cases covers : r.Covers width base size
  · exact .inr ⟨covers, fun type => undecided (.inr ⟨covers, type⟩)⟩
  · exact absurd (.inl ⟨misses, covers⟩) undecided

/-- Ranges that do not decide leave a candidate to the rest of the scan. -/
theorem scan_append_of_undecided (aligned : size.Aligned base)
    (undecided : Undecided ranges width base size) (rest : List VariableRange) :
    scan (comparedBits width) base size fallback index candidate (ranges ++ rest) =
      scan (comparedBits width) base size fallback (index + ranges.length)
        (((covering ranges width base size).map (·.type)).foldl prefer candidate) rest := by
  induction ranges generalizing index candidate with
  | nil => rfl
  | cons r ranges ih =>
    have later := fun s member => undecided s (List.mem_cons_of_mem r member)
    rw [List.cons_append, List.length_cons, Nat.add_comm ranges.length, ← Nat.add_assoc]
    rcases misses_or_covers_of_not_decides (undecided r List.mem_cons_self) with
      misses | ⟨covers, cached⟩
    · have aside : ¬ r.Covers width base size :=
        fun covers => VariableRange.not_misses_of_covers covers misses
      rw [scan_of_misses aligned misses, ih later, covering, covering,
        List.filter_cons_of_neg (by simpa using aside)]
    · rw [scan_of_covers aligned covers cached, ih later, covering, covering,
        List.filter_cons_of_pos (by simpa using covers), List.map_cons, List.foldl_cons]

theorem scan_of_undecided (aligned : size.Aligned base)
    (undecided : Undecided ranges width base size) :
    scan (comparedBits width) base size fallback index none ranges =
      .settled ((((covering ranges width base size).map (·.type)).foldl prefer none).getD
        fallback) := by
  have whole : scan (comparedBits width) base size fallback index none (ranges ++ []) = _ :=
    scan_append_of_undecided aligned undecided []
  rwa [List.append_nil, scan] at whole

theorem mem_coveringTypes {t : MemoryType} : t ∈ coveringTypes ranges width base size ↔
    t ≠ .unspecified ∧ t ∈ (covering ranges width base size).map (·.type) := by
  simp [coveringTypes, covering, and_assoc]

theorem type_scan_of_winner {t : MemoryType} (aligned : size.Aligned base)
    (undecided : Undecided ranges width base size)
    (found : t ∈ coveringTypes ranges width base size)
    (yields : ∀ s ∈ coveringTypes ranges width base size, Yields s t) :
    (scan (comparedBits width) base size fallback index none ranges).type = t := by
  obtain ⟨known, member⟩ := mem_coveringTypes.1 found
  rw [scan_of_undecided aligned undecided, foldl_prefer_eq_some known (by simp)
    (fun s listed reserved => yields s (mem_coveringTypes.2 ⟨reserved, listed⟩)) (.inr member)]
  rfl

theorem type_scan_of_assigns {t : MemoryType} (aligned : size.Aligned base)
    (assigns : Assigns ranges width base size fallback t) :
    (scan (comparedBits width) base size fallback index none ranges).type = t := by
  cases assigns with
  | divided split undecided divides =>
    rw [split, scan_append_of_undecided aligned undecided]
    exact type_scan_of_divides aligned divides
  | uncacheable split undecided covers type =>
    rw [split, scan_append_of_undecided aligned undecided,
      scan_of_uncacheable aligned covers type]
    rfl
  | default undecided none =>
    rw [scan_of_undecided aligned undecided, foldl_prefer_of_reserved]
    · rfl
    · intro s listed
      by_contra known
      exact Set.notMem_empty s (none ▸ mem_coveringTypes.2 ⟨known, listed⟩)
  | writeThrough undecided some only =>
    refine type_scan_of_winner aligned undecided some fun s member => ?_
    rcases only member with rfl | rfl
    · exact .inl rfl
    · exact .inr ⟨rfl, rfl⟩
  | single undecided only =>
    refine type_scan_of_winner aligned undecided (only ▸ rfl) fun s member => ?_
    rw [only] at member
    exact .inl member

/-- The ranges that miss a page leave no trace in its type. -/
theorem type_scan_touching (aligned : size.Aligned base) (index index' : Nat) :
    (scan (comparedBits width) base size fallback index candidate
        (touching ranges width base size)).type =
      (scan (comparedBits width) base size fallback index' candidate ranges).type := by
  induction ranges generalizing index index' candidate with
  | nil => rfl
  | cons r ranges ih =>
    by_cases misses : r.Misses width base size
    · rw [scan_of_misses aligned misses, touching, List.filter_cons_of_neg (by simpa using misses)]
      exact ih index (index' + 1)
    · rw [touching, List.filter_cons_of_pos (by simpa using misses)]
      by_cases covers : r.Covers width base size
      · by_cases type : r.type = .uncacheable
        · rw [scan_of_uncacheable aligned covers type, scan_of_uncacheable aligned covers type]
        · rw [scan_of_covers aligned covers type, scan_of_covers aligned covers type]
          exact ih (index + 1) (index' + 1)
      · rw [type_scan_of_divides aligned ⟨misses, covers⟩,
          type_scan_of_divides aligned ⟨misses, covers⟩]

end Scan

/-! ## Resolution -/

def RangeDefault.type (d : RangeDefault) : MemoryType :=
  .ofCode (d.typeCode.setWidth 64)

/-- The variable ranges rule at `base`. -/
structure Scans (p : Processor) (base : Word) : Prop where
  supported : p.hasRangeRegisters
  enabled : p.rangeDefault.enabled
  unfixed : ¬ (p.rangeCapability.hasFixedRanges ∧ p.rangeDefault.fixedEnabled ∧
    base < fixedRangeLimit)

section Resolution

variable {p q : Processor} {base : Word} {size : Granularity}

theorem early?_eq_none_iff : early? p base = none ↔ Scans p base := by
  rw [early?]
  split
  · next unsupported => exact iff_of_false nofun fun scans => unsupported scans.supported
  split
  · next disabled => exact iff_of_false nofun fun scans => disabled scans.enabled
  split
  · next fixed => exact iff_of_false nofun fun scans => scans.unfixed fixed
  · next supported enabled unfixed =>
    exact iff_of_true rfl ⟨of_not_not supported, of_not_not enabled, unfixed⟩

instance (p : Processor) (base : Word) : Decidable (Scans p base) :=
  decidable_of_iff _ early?_eq_none_iff

theorem resolve_of_scans (scans : Scans p base) (width : Nat) (size : Granularity) :
    resolve p width base size = (scan (comparedBits width) (size.pageBase base) size
      p.rangeDefault.type 0 none p.variableRanges).type := by
  rw [resolve, verdict, early?_eq_none_iff.2 scans]
  rfl

/--
Where the variable ranges rule, an aligned page has the type that the precedence among them
assigns to it, and a processor on which the same ranges touch the page gives it the same type.
-/
theorem resolveCached_precedence (aligned : size.Aligned base) (scans : Scans p base)
    (cache : WidthCache) :
    (∀ t, Assigns p.variableRanges (cache.fetch p).1 base size p.rangeDefault.type t →
      (resolveCached p cache base size).1 = t) ∧
    ∀ q cache', Scans q base → (cache'.fetch q).1 = (cache.fetch p).1 →
      q.rangeDefault.type = p.rangeDefault.type →
      touching q.variableRanges (cache.fetch p).1 base size =
        touching p.variableRanges (cache.fetch p).1 base size →
      (resolveCached q cache' base size).1 = (resolveCached p cache base size).1 := by
  simp only [fst_resolveCached]
  constructor
  case left =>
    intro t assigns
    rw [resolve_of_scans scans, Granularity.pageBase_of_aligned aligned]
    exact type_scan_of_assigns aligned assigns
  case right =>
    intro q cache' scans' width default same
    rw [resolve_of_scans scans, resolve_of_scans scans', width, default,
      Granularity.pageBase_of_aligned aligned, ← type_scan_touching aligned 0 0, same,
      type_scan_touching aligned 0 0]

end Resolution

/--
The first range matches the addresses with bit 30 and without bit 33, and makes them
write-through; the second makes those from 4 GiB to 8 GiB uncacheable.
-/
def scatteredProcessor (count : Word) : Processor where
  msr register :=
    if register = .mtrrCapability then count
    else if register = .mtrrDefaultType then 0x806
    else if register = 0x200 then 0x40000004
    else if register = 0x201 then 0x240000800
    else if register = 0x202 then 0x100000000
    else if register = 0x203 then 0xF00000800
    else 0
  cpuid leaf _ := if leaf = 1 then { edx := 0x1000 } else {}

theorem resolveCached_precedence_scattered :
    (resolveCached (scatteredProcessor 2) none 0x40000000 .page1G).1 = .writeThrough ∧
      (resolveCached (scatteredProcessor 1) none 0x40000000 .page1G).1 =
        (resolveCached (scatteredProcessor 2) none 0x40000000 .page1G).1 := by
  have aligned : Granularity.page1G.Aligned 0x40000000 := by decide
  have two : (scatteredProcessor 2).variableRanges =
      [⟨0x40000004, 0x240000800⟩, ⟨0x100000000, 0xF00000800⟩] := by decide
  have one : (scatteredProcessor 1).variableRanges = [⟨0x40000004, 0x240000800⟩] := by decide
  have covers : VariableRange.Covers ⟨0x40000004, 0x240000800⟩ 36 0x40000000 .page1G :=
    (VariableRange.covers_iff aligned).2 (by decide)
  have misses : VariableRange.Misses ⟨0x100000000, 0xF00000800⟩ 36 0x40000000 .page1G :=
    (VariableRange.misses_iff aligned).2 (by decide)
  have apart : ¬ VariableRange.Covers ⟨0x100000000, 0xF00000800⟩ 36 0x40000000 .page1G :=
    fun covers => VariableRange.not_misses_of_covers covers misses
  have width : (WidthCache.fetch none (scatteredProcessor 2)).1 = 36 := by decide
  obtain ⟨precedence, others⟩ := resolveCached_precedence aligned
    (p := scatteredProcessor 2) (by decide) none
  rw [width, two] at precedence others
  constructor
  · refine precedence _ (.single (fun r member decides => ?_) (Set.ext fun t => ⟨?_, ?_⟩))
    · rcases List.mem_pair.1 member with rfl | rfl
      · exact decides.elim (·.2 covers) fun ⟨_, type⟩ => absurd type (by decide)
      · exact decides.elim (·.1 misses) (apart ·.1)
    · rintro ⟨_, r, member, found, rfl⟩
      rcases List.mem_pair.1 member with rfl | rfl
      · rfl
      · exact absurd found apart
    · rintro rfl
      exact ⟨by decide, _, List.mem_cons_self, covers, by decide⟩
  · refine others (scatteredProcessor 1) none (by decide) (by decide) (by decide) ?_
    simp only [one, touching, List.filter_cons, misses, not_true, decide_false,
      Bool.false_eq_true, if_false]

end NestedVisor.Caching
