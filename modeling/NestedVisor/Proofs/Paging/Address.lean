import Mathlib.Algebra.Group.Nat.Defs
import Mathlib.Data.Nat.Basic
import NestedVisor.Paging.Ept

/-!
# Page numbers and slot indices

The number of the page that holds an address is what a walk down to a level has read of that
address: two addresses below the translated limit share their path down to a level exactly when
they lie in one page of that level.
-/

namespace NestedVisor

theorem Granularity.aligned_iff (size : Granularity) (address : Word) :
    size.Aligned address ↔ address.toNat % 2 ^ size.bits = 0 := by
  have mask : size.offsetMask.toNat = 2 ^ size.bits - 1 := by
    cases size <;> rfl
  rw [Aligned, ← BitVec.toNat_inj, BitVec.toNat_and, mask, Nat.and_two_pow_sub_one_eq_mod]
  rfl

end NestedVisor

namespace NestedVisor.Paging

/-! ## Leaf levels -/

theorem bits_eq_levelShift (size : Granularity) : size.bits = levelShift (leafLevel size) := by
  cases size <;> rfl

theorem leafLevel_pos (size : Granularity) : 1 ≤ leafLevel size := by
  cases size <;> decide

theorem leafLevel_le (size : Granularity) : leafLevel size ≤ 3 := by
  cases size <;> decide

theorem leafLevel_inj {first second : Granularity} (h : leafLevel first = leafLevel second) :
    first = second := by
  cases first <;> cases second <;> first | rfl | cases h

theorem exists_leafLevel_eq {level : Nat} (hpos : 1 ≤ level) (hle : level ≤ 3) :
    ∃ size, leafLevel size = level := by
  obtain rfl | rfl | rfl : level = 1 ∨ level = 2 ∨ level = 3 := by omega
  · exact ⟨.page4K, rfl⟩
  · exact ⟨.page2M, rfl⟩
  · exact ⟨.page1G, rfl⟩

theorem levelShift_succ {level : Nat} (h : 1 ≤ level) :
    levelShift (level + 1) = levelShift level + 9 := by
  simp only [levelShift]
  omega

/-! ## Page numbers -/

/-- The number of the page that holds `address`, among the pages of slots at `level`. -/
def pageNumber (address : Word) (level : Nat) : Nat :=
  address.toNat / 2 ^ levelShift level

theorem toNat_slotIndex (address : Word) (level : Nat) :
    (slotIndex address level).toNat = pageNumber address level % 512 := by
  simp [slotIndex, pageNumber, Nat.shiftRight_eq_div_pow]

theorem pageNumber_succ (address : Word) {level : Nat} (h : 1 ≤ level) :
    pageNumber address (level + 1) = pageNumber address level / 512 := by
  rw [pageNumber, pageNumber, levelShift_succ h, Nat.pow_add, Nat.div_div_eq_div_mul]

theorem pageNumber_five {address : Word} (h : address.toNat < guestPhysicalLimit) :
    pageNumber address 5 = 0 :=
  Nat.div_eq_of_lt h

theorem pageNumber_eq_iff {a b : Word} {level : Nat} (h : 1 ≤ level) :
    pageNumber a level = pageNumber b level ↔
      slotIndex a level = slotIndex b level ∧
        pageNumber a (level + 1) = pageNumber b (level + 1) := by
  rw [pageNumber_succ a h, pageNumber_succ b h, ← BitVec.toNat_inj, toNat_slotIndex,
    toNat_slotIndex]
  omega

theorem pageNumber_congr {a b : Word} {low high : Nat} (hlow : 1 ≤ low) (hle : low ≤ high)
    (h : pageNumber a low = pageNumber b low) : pageNumber a high = pageNumber b high := by
  induction hle with
  | refl => exact h
  | step hle ih => exact ((pageNumber_eq_iff (Nat.le_trans hlow hle)).1 ih).2

theorem exists_address_in_slot {a : Word} (ha : a.toNat < guestPhysicalLimit) {level : Nat}
    (hpos : 1 ≤ level) (hle : level ≤ 4) (i : SlotIndex) :
    ∃ b : Word, b.toNat < guestPhysicalLimit ∧
      pageNumber b (level + 1) = pageNumber a (level + 1) ∧ slotIndex b level = i := by
  let start := (pageNumber a (level + 1) * 512 + i.toNat) * 2 ^ levelShift level
  have hi : i.toNat < 512 := i.isLt
  have bound : start < guestPhysicalLimit := by
    obtain rfl | rfl | rfl | rfl : level = 1 ∨ level = 2 ∨ level = 3 ∨ level = 4 := by omega
    all_goals
      simp only [start, pageNumber, levelShift, guestPhysicalLimit] at ha ⊢
      omega
  have value : (BitVec.ofNat 64 start).toNat = start := by
    rw [BitVec.toNat_ofNat]
    exact Nat.mod_eq_of_lt (Nat.lt_trans bound (by decide))
  have number :
      pageNumber (BitVec.ofNat 64 start) level = pageNumber a (level + 1) * 512 + i.toNat := by
    rw [pageNumber, value]
    exact Nat.mul_div_cancel _ (Nat.two_pow_pos _)
  refine ⟨BitVec.ofNat 64 start, by rwa [value], ?_, ?_⟩
  · rw [pageNumber_succ _ hpos, number]
    omega
  · rw [← BitVec.toNat_inj, toNat_slotIndex, number]
    omega

/-! ## Offsets inside a page -/

theorem toNat_pageOffset (address : Word) {level : Nat} (h : level ≤ 4) :
    (pageOffset address level).toNat = address.toNat % 2 ^ levelShift level := by
  have mask : ((((1 <<< levelShift level : Nat) : Word)) - 1).toNat = 2 ^ levelShift level - 1 := by
    obtain rfl | rfl | rfl | rfl | rfl :
        level = 0 ∨ level = 1 ∨ level = 2 ∨ level = 3 ∨ level = 4 := by omega
    all_goals rfl
  rw [pageOffset, BitVec.toNat_and, mask, Nat.and_two_pow_sub_one_eq_mod]

end NestedVisor.Paging
