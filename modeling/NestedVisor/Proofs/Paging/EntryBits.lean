import Mathlib.Algebra.Group.Nat.Defs
import NestedVisor.Paging.Entry

/-!
# What an entry says about its target

A page entry and a table entry differ in the large bit and in the level they stand on; both name
their target by the bits 51 to 12 of its address.  Lower bits are no part of an aligned address,
and higher bits are lost.
-/

namespace NestedVisor.Paging.Entry

/-! ## Writing the frame number -/

theorem frameNumber_withFrameNumber (e : Entry) (n : Word) :
    (e.withFrameNumber n).frameNumber = n.setWidth 40 :=
  extractLsb'_setField_self e.word 12 (n.setWidth 40) (by decide)

theorem present_withFrameNumber (e : Entry) (n : Word) :
    (e.withFrameNumber n).present = e.present := by
  rw [present, present, withFrameNumber,
    extractLsb'_setField_of_disjoint e.word 12 (n.setWidth 40) 0 3 (by decide)]

theorem large_withFrameNumber (e : Entry) (n : Word) :
    (e.withFrameNumber n).large = e.large := by
  rw [large, withFrameNumber, getLsbD_setField]
  rfl

theorem getLsbD_withFrameNumber_of_lt (e : Entry) (n : Word) {i : Nat} (low : i < 12) :
    (e.withFrameNumber n).word.getLsbD i = e.word.getLsbD i := by
  rw [withFrameNumber, getLsbD_setField, if_neg (by omega)]

theorem memoryType_withFrameNumber (e : Entry) (n : Word) :
    (e.withFrameNumber n).memoryType = e.memoryType :=
  extractLsb'_setField_of_disjoint e.word 12 (n.setWidth 40) 3 3 (by decide)

/-- An aligned address comes back without its bits above bit 51. -/
theorem address_withFrameNumber (e : Entry) {physical : Word}
    (aligned : physical.toNat % 4096 = 0) :
    (e.withFrameNumber (physical >>> 12)).address = (physical.setWidth 52).setWidth 64 := by
  rw [address, frameNumber_withFrameNumber]
  apply BitVec.eq_of_toNat_eq
  simp [Nat.shiftRight_eq_div_pow, Nat.shiftLeft_eq]
  omega

/-! ## Table entries -/

theorem present_toTable (frame : Word) : (toTable frame).present = true :=
  present_withFrameNumber _ _

theorem large_toTable (frame : Word) : (toTable frame).large = false :=
  large_withFrameNumber _ _

theorem address_toTable {frame : Word} (aligned : frame.toNat % 4096 = 0)
    (bound : frame.toNat < 2 ^ 52) : (toTable frame).address = frame := by
  rw [toTable, address_withFrameNumber _ aligned]
  apply BitVec.eq_of_toNat_eq
  simp
  omega

/-! ## Page entries -/

theorem present_toPage (backing : Word) (type : MemoryType) (isLarge : Bool) :
    (toPage backing type isLarge).present = true := by
  rw [toPage, present_withFrameNumber]
  cases type <;> cases isLarge <;> rfl

theorem large_toPage (backing : Word) (type : MemoryType) (isLarge : Bool) :
    (toPage backing type isLarge).large = isLarge := by
  rw [toPage, large_withFrameNumber]
  cases type <;> cases isLarge <;> rfl

theorem fullAccess_toPage (backing : Word) (type : MemoryType) (isLarge : Bool) :
    (toPage backing type isLarge).readable = true ∧ (toPage backing type isLarge).writable = true ∧
      (toPage backing type isLarge).executable = true := by
  rw [readable, writable, executable, toPage, getLsbD_withFrameNumber_of_lt _ _ (by decide),
    getLsbD_withFrameNumber_of_lt _ _ (by decide), getLsbD_withFrameNumber_of_lt _ _ (by decide)]
  cases type <;> cases isLarge <;> decide

theorem memoryType_toPage (backing : Word) (type : MemoryType) (isLarge : Bool) :
    (toPage backing type isLarge).memoryType = type.code.setWidth 3 := by
  rw [toPage, memoryType_withFrameNumber]
  cases type <;> cases isLarge <;> rfl

theorem address_toPage {backing : Word} (type : MemoryType) (isLarge : Bool)
    (aligned : backing.toNat % 4096 = 0) :
    (toPage backing type isLarge).address = (backing.setWidth 52).setWidth 64 :=
  address_withFrameNumber _ aligned

theorem toPage_setWidth (backing : Word) (type : MemoryType) (isLarge : Bool) :
    toPage ((backing.setWidth 52).setWidth 64) type isLarge = toPage backing type isLarge := by
  rw [toPage, toPage, withFrameNumber, withFrameNumber]
  congr 2
  apply BitVec.eq_of_toNat_eq
  simp [Nat.shiftRight_eq_div_pow]
  omega

end NestedVisor.Paging.Entry
