import NestedVisor.Caching.Resolution
import NestedVisor.Proofs.Paging.Mapping

/-!
# The addresses that a range matches

A variable range matches an address that agrees with its base wherever its mask has one of the
compared bits, and the mask need not be contiguous.  The scan never looks at an address: it
compares a base and two parts of a mask.  On an aligned page the two readings are the same.
-/

namespace NestedVisor

theorem and_eq_and_iff {a b mask : Word} :
    a &&& mask = b &&& mask ↔ ∀ i, mask.getLsbD i = true → a.getLsbD i = b.getLsbD i := by
  constructor
  · intro same i set
    have bit := congrArg (·.getLsbD i) same
    simpa [set] using bit
  · intro agree
    apply BitVec.eq_of_getLsbD_eq
    intro i _
    cases set : mask.getLsbD i with
    | false => simp [set]
    | true => simp [set, agree i set]

theorem and_eq_zero_iff {a mask : Word} :
    a &&& mask = 0 ↔ ∀ i, mask.getLsbD i = true → a.getLsbD i = false := by
  have zero : (0 : Word) &&& mask = 0 := BitVec.zero_and
  rw [← zero, and_eq_and_iff]
  simp

namespace Granularity

variable {size : Granularity} {base address : Word}

theorem getLsbD_offsetMask (size : Granularity) (i : Nat) :
    size.offsetMask.getLsbD i = decide (i < size.bits) := by
  have mask : size.offsetMask = BitVec.ofNat 64 (2 ^ size.bits - 1) := by
    cases size <;> rfl
  have small : size.bits ≤ 30 := by
    cases size <;> decide
  rw [mask, BitVec.getLsbD_ofNat, Nat.testBit_two_pow_sub_one, ← Bool.decide_and]
  exact decide_eq_decide.2 (by omega)

theorem getLsbD_and_not_offsetMask (size : Granularity) (w : Word) (i : Nat) :
    (w &&& ~~~size.offsetMask).getLsbD i = (w.getLsbD i && decide (size.bits ≤ i)) := by
  by_cases bound : i < 64
  · rw [BitVec.getLsbD_and, BitVec.getLsbD_not, getLsbD_offsetMask]
    simp only [bound, decide_true, Bool.true_and, ← decide_not, Nat.not_lt]
  · rw [BitVec.getLsbD_of_ge _ _ (Nat.le_of_not_lt bound),
      BitVec.getLsbD_of_ge w _ (Nat.le_of_not_lt bound), Bool.false_and]

theorem getLsbD_of_aligned (aligned : size.Aligned base) {i : Nat} (low : i < size.bits) :
    base.getLsbD i = false :=
  and_eq_zero_iff.1 aligned i (by simp [getLsbD_offsetMask, low])

theorem pageBase_of_aligned (aligned : size.Aligned base) : size.pageBase base = base := by
  apply BitVec.eq_of_getLsbD_eq
  intro i bound
  rw [pageBase, getLsbD_and_not_offsetMask]
  by_cases low : i < size.bits
  · simp only [getLsbD_of_aligned aligned low, Bool.false_and]
  · simp only [Nat.le_of_not_lt low, decide_true, Bool.and_true]

/-- The addresses of a page differ in the bits below its size. -/
theorem holds_iff_getLsbD (aligned : size.Aligned base) :
    size.Holds base address ↔ ∀ i, size.bits ≤ i → address.getLsbD i = base.getLsbD i := by
  rw [Paging.holds_iff aligned, Paging.pageNumber, Paging.pageNumber,
    ← Paging.bits_eq_levelShift]
  constructor
  · intro same i high
    have bit := congrArg (·.testBit (i - size.bits)) same
    simpa [Nat.testBit_div_two_pow, BitVec.testBit_toNat, Nat.sub_add_cancel high] using bit
  · intro same
    apply Nat.eq_of_testBit_eq
    intro i
    simp [Nat.testBit_div_two_pow, BitVec.testBit_toNat, same]

end Granularity

namespace Caching

theorem getLsbD_comparedBits (width i : Nat) :
    (comparedBits width).getLsbD i = decide (i < 64 ∧ 12 ≤ i ∧ i < width) := by
  have ones : ((1 <<< width : Word) - 1) = BitVec.ofNat 64 (2 ^ width - 1) := by
    have positive := Nat.two_pow_pos width
    apply BitVec.eq_of_toNat_eq
    simp [BitVec.toNat_sub, Nat.shiftLeft_eq]
    omega
  have low : (0xFFF : Word) = BitVec.ofNat 64 (2 ^ 12 - 1) := rfl
  rw [comparedBits, ones, low, BitVec.getLsbD_and, BitVec.getLsbD_not, BitVec.getLsbD_ofNat,
    BitVec.getLsbD_ofNat, Nat.testBit_two_pow_sub_one, Nat.testBit_two_pow_sub_one]
  rw [Bool.eq_iff_iff]
  simp only [Bool.and_eq_true, Bool.not_eq_true', Bool.and_eq_false_iff, decide_eq_true_eq,
    decide_eq_false_iff_not]
  omega

namespace VariableRange

variable {r : VariableRange} {width : Nat} {base address : Word} {size : Granularity}

/-! ## Addresses -/

/-- The bits of the mask that count: from bit 12 up to the address width. -/
def comparison (r : VariableRange) (width : Nat) : Word :=
  (r.mask.extractLsb' 12 (width - 12)).setWidth 64 <<< 12

def Matches (r : VariableRange) (width : Nat) (address : Word) : Prop :=
  r.valid ∧ address &&& r.comparison width = r.base &&& r.comparison width

section

variable (r : VariableRange) (width : Nat) (base : Word) (size : Granularity)

def Misses : Prop :=
  ∀ address, size.Holds base address → ¬ r.Matches width address

def Covers : Prop :=
  ∀ address, size.Holds base address → r.Matches width address

/-- The range matches a part of the page, and not the rest. -/
def Divides : Prop :=
  ¬ r.Misses width base size ∧ ¬ r.Covers width base size

end

def type (r : VariableRange) : MemoryType :=
  .ofCode (r.typeCode.setWidth 64)

theorem not_misses_of_covers (covers : r.Covers width base size) : ¬ r.Misses width base size :=
  fun misses => misses base Paging.holds_self (covers base Paging.holds_self)

theorem matches_iff : r.Matches width address ↔ r.valid ∧
    ∀ i, (r.comparison width).getLsbD i = true → address.getLsbD i = r.base.getLsbD i := by
  rw [Matches, and_eq_and_iff]

/-! ## Masks -/

theorem comparison_eq (r : VariableRange) (width : Nat) :
    r.mask &&& comparedBits width = r.comparison width := by
  apply BitVec.eq_of_getLsbD_eq
  intro i bound
  rw [comparison, BitVec.getLsbD_and, getLsbD_comparedBits, BitVec.getLsbD_shiftLeft,
    BitVec.getLsbD_setWidth, BitVec.getLsbD_extractLsb']
  by_cases low : i < 12
  · simp [low]
  · have high : 12 + (i - 12) = i := by omega
    have inside : i - 12 < width - 12 ↔ i < width := by omega
    simp [bound, low, high, inside, Nat.le_of_not_lt low, Bool.and_comm]
    omega

/-- The range and the page agree on the bits of the mask above the page. -/
def Meets (r : VariableRange) (width : Nat) (base : Word) (size : Granularity) : Prop :=
  ∀ i, size.bits ≤ i → (r.comparison width).getLsbD i = true →
    base.getLsbD i = r.base.getLsbD i

theorem meets_iff :
    base &&& (r.comparison width &&& ~~~size.offsetMask) =
        r.base &&& comparedBits width &&& (r.comparison width &&& ~~~size.offsetMask) ↔
      r.Meets width base size := by
  rw [and_eq_and_iff, Meets]
  refine forall_congr' fun i => ?_
  rw [Granularity.getLsbD_and_not_offsetMask, BitVec.getLsbD_and, Bool.and_eq_true,
    decide_eq_true_eq, and_comm, and_imp]
  refine imp_congr_right fun high => imp_congr_right fun set => ?_
  -- a bit of the mask that counts is compared
  rw [← comparison_eq, BitVec.getLsbD_and, Bool.and_eq_true] at set
  rw [set.2, Bool.and_true]

/-- The mask has no bit that counts inside the page. -/
def Above (r : VariableRange) (width : Nat) (size : Granularity) : Prop :=
  ∀ i, (r.comparison width).getLsbD i = true → size.bits ≤ i

theorem above_iff : r.comparison width &&& size.offsetMask = 0 ↔ r.Above width size := by
  rw [BitVec.and_comm, and_eq_zero_iff, Above]
  simp only [Granularity.getLsbD_offsetMask, decide_eq_false_iff_not, Nat.not_lt]

theorem misses_of_not_meets (aligned : size.Aligned base) (apart : ¬ r.Meets width base size) :
    r.Misses width base size := by
  intro address holds found
  refine apart fun i high set => ?_
  rw [← (Granularity.holds_iff_getLsbD aligned).1 holds i high]
  exact (matches_iff.1 found).2 i set

theorem covers_of_meets (aligned : size.Aligned base) (valid : r.valid)
    (meets : r.Meets width base size) (above : r.Above width size) :
    r.Covers width base size := by
  intro address holds
  refine matches_iff.2 ⟨valid, fun i set => ?_⟩
  rw [(Granularity.holds_iff_getLsbD aligned).1 holds i (above i set)]
  exact meets i (above i set) set

/-- Where the mask reaches into the page, its low bits can be chosen to match or not to. -/
theorem divides_of_meets (aligned : size.Aligned base) (valid : r.valid)
    (meets : r.Meets width base size) (reaches : ¬ r.Above width size) :
    r.Divides width base size := by
  simp only [Above, not_forall, Nat.not_le] at reaches
  obtain ⟨i, set, inside⟩ := reaches
  have bits (low : Word) (i : Nat) : (base ||| (low &&& size.offsetMask)).getLsbD i =
      if i < size.bits then low.getLsbD i else base.getLsbD i := by
    by_cases below : i < size.bits
    · simp [Granularity.getLsbD_offsetMask, below, Granularity.getLsbD_of_aligned aligned below]
    · simp [Granularity.getLsbD_offsetMask, below]
  have held (low : Word) : size.Holds base (base ||| (low &&& size.offsetMask)) := by
    refine (Granularity.holds_iff_getLsbD aligned).2 fun i high => ?_
    rw [bits, if_neg (Nat.not_lt.2 high)]
  constructor
  · intro misses
    refine misses _ (held r.base) (matches_iff.2 ⟨valid, fun j set => ?_⟩)
    rw [bits]
    split
    · rfl
    · next high => exact meets j (Nat.le_of_not_lt high) set
  · intro covers
    have bit := (matches_iff.1 (covers _ (held (~~~r.base)))).2 i set
    have bound : i < 64 := BitVec.lt_of_getLsbD set
    rw [bits, if_pos inside] at bit
    simp [bound] at bit

/-! ## What the comparison of masks says -/

/-- How a range lies to a page, address by address. -/
inductive Lies (r : VariableRange) (width : Nat) (base : Word) (size : Granularity) :
    Overlap → Prop
  | apart (misses : r.Misses width base size) : Lies r width base size .apart
  | partly (mask : Word) (divides : r.Divides width base size) :
      Lies r width base size (.partly mask)
  | covers (covers : r.Covers width base size) : Lies r width base size (.covers r.type)

theorem lies_overlap (r : VariableRange) (width : Nat) (aligned : size.Aligned base) :
    r.Lies width base size (r.overlap (comparedBits width) base size) := by
  rw [overlap]
  by_cases valid : r.valid
  · rw [if_neg (not_not_intro valid)]
    dsimp only
    rw [comparison_eq]
    by_cases meets : r.Meets width base size
    · rw [if_neg (not_not_intro (meets_iff.2 meets))]
      by_cases above : r.Above width size
      · rw [if_neg (not_not_intro (above_iff.2 above))]
        exact .covers (covers_of_meets aligned valid meets above)
      · rw [if_pos (mt above_iff.1 above)]
        exact .partly _ (divides_of_meets aligned valid meets above)
    · rw [if_pos (mt meets_iff.1 meets)]
      exact .apart (misses_of_not_meets aligned meets)
  · rw [if_pos valid]
    exact .apart fun _ _ found => valid found.1

theorem misses_iff (aligned : size.Aligned base) :
    r.Misses width base size ↔ r.overlap (comparedBits width) base size = .apart := by
  have lies := r.lies_overlap width aligned
  generalize r.overlap (comparedBits width) base size = overlap at lies
  cases lies with
  | apart misses => exact iff_of_true misses rfl
  | partly mask divides => exact iff_of_false divides.1 nofun
  | covers covers => exact iff_of_false (not_misses_of_covers covers) nofun

theorem divides_iff (aligned : size.Aligned base) : r.Divides width base size ↔
    ∃ mask, r.overlap (comparedBits width) base size = .partly mask := by
  have lies := r.lies_overlap width aligned
  generalize r.overlap (comparedBits width) base size = overlap at lies
  cases lies with
  | apart misses => exact iff_of_false (fun divides => divides.1 misses) nofun
  | partly mask divides => exact iff_of_true divides ⟨mask, rfl⟩
  | covers covers => exact iff_of_false (fun divides => divides.2 covers) nofun

theorem covers_iff (aligned : size.Aligned base) : r.Covers width base size ↔
    r.overlap (comparedBits width) base size = .covers r.type := by
  have lies := r.lies_overlap width aligned
  generalize r.overlap (comparedBits width) base size = overlap at lies
  cases lies with
  | apart misses => exact iff_of_false (fun covers => not_misses_of_covers covers misses) nofun
  | partly mask divides => exact iff_of_false divides.2 nofun
  | covers covers => exact iff_of_true covers rfl

end VariableRange

end Caching

end NestedVisor
