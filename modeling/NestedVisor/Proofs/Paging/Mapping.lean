import Mathlib.Data.Finset.Filter
import NestedVisor.Proofs.Paging.Address
import NestedVisor.Proofs.Paging.EntryBits

/-!
# An address space as a set of mappings

What the page tables stand for: a finite set of pages, each with the host address it is mapped
to and its memory type.  Pages are compared by their numbers, and their contents by their entries.
-/

namespace NestedVisor

/-- Whether the page of this size at `base` holds `address`. -/
def Granularity.Holds (size : Granularity) (base address : Word) : Prop :=
  base.toNat ≤ address.toNat ∧ address.toNat < base.toNat + 2 ^ size.bits

instance (size : Granularity) (base address : Word) : Decidable (size.Holds base address) :=
  inferInstanceAs (Decidable (_ ∧ _))

end NestedVisor

namespace NestedVisor.Paging

structure Mapping where
  base : Word
  size : Granularity
  /-- The low 52 bits of the host address. -/
  backing : BitVec 52
  type : MemoryType
  deriving DecidableEq, Repr

namespace Mapping

def Covers (m : Mapping) (address : Word) : Prop :=
  m.size.Holds m.base address

instance (m : Mapping) (address : Word) : Decidable (m.Covers address) :=
  inferInstanceAs (Decidable (m.size.Holds m.base address))

def physical (m : Mapping) (address : Word) : Word :=
  m.backing.setWidth 64 + (address - m.base)

def entry (m : Mapping) : Entry :=
  .toPage (m.backing.setWidth 64) m.type (leafLevel m.size > 1)

structure Valid (m : Mapping) : Prop where
  aligned : m.size.Aligned m.base
  inRange : m.base.toNat < guestPhysicalLimit
  backingAligned : m.size.Aligned (m.backing.setWidth 64)
  typed : m.type ≠ .unspecified

end Mapping

def without (s : Finset Mapping) (base : Word) (size : Granularity) : Finset Mapping :=
  s.filter fun m => ¬ (m.base = base ∧ m.size = size)

theorem mem_without {s : Finset Mapping} {base : Word} {size : Granularity} {m : Mapping} :
    m ∈ without s base size ↔ m ∈ s ∧ ¬ (m.base = base ∧ m.size = size) :=
  Finset.mem_filter

/-! ## Pages and page numbers -/

theorem holds_iff {size : Granularity} {base : Word} (aligned : size.Aligned base)
    (address : Word) :
    size.Holds base address ↔
      pageNumber address (leafLevel size) = pageNumber base (leafLevel size) := by
  rw [Granularity.aligned_iff] at aligned
  rw [Granularity.Holds, pageNumber, pageNumber, ← bits_eq_levelShift]
  have split := Nat.div_add_mod base.toNat (2 ^ size.bits)
  have splitAddress := Nat.div_add_mod address.toNat (2 ^ size.bits)
  have small := Nat.mod_lt address.toNat (Nat.two_pow_pos size.bits)
  rw [aligned, Nat.add_zero] at split
  constructor
  · rintro ⟨hle, hlt⟩
    apply Nat.div_eq_of_lt_le
    · rw [Nat.mul_comm, split]
      exact hle
    · rw [Nat.add_mul, Nat.mul_comm, split, Nat.one_mul]
      exact hlt
  · intro same
    rw [same, split] at splitAddress
    omega

theorem holds_self {size : Granularity} {base : Word} : size.Holds base base := by
  have := Nat.two_pow_pos size.bits
  exact ⟨Nat.le_refl _, by omega⟩

theorem base_eq_of_pageNumber_eq {size : Granularity} {first second : Word}
    (hfirst : size.Aligned first) (hsecond : size.Aligned second)
    (same : pageNumber first (leafLevel size) = pageNumber second (leafLevel size)) :
    first = second := by
  rw [Granularity.aligned_iff] at hfirst hsecond
  rw [pageNumber, pageNumber, ← bits_eq_levelShift] at same
  apply BitVec.eq_of_toNat_eq
  rw [← Nat.div_add_mod first.toNat (2 ^ size.bits), same, hfirst, ← hsecond]
  exact Nat.div_add_mod second.toNat (2 ^ size.bits)

theorem lt_limit_of_holds {size : Granularity} {base address : Word}
    (aligned : size.Aligned base) (inRange : base.toNat < guestPhysicalLimit)
    (h : size.Holds base address) : address.toNat < guestPhysicalLimit := by
  have same := pageNumber_congr (leafLevel_pos size)
    (Nat.le_trans (leafLevel_le size) (by decide : 3 ≤ 5)) ((holds_iff aligned address).1 h)
  rw [pageNumber_five inRange] at same
  exact (Nat.div_eq_zero_iff_lt (by decide)).1 same

/-- Of two aligned pages that overlap, the larger holds the smaller. -/
theorem exists_holds_iff {small large : Granularity} {base other : Word}
    (aligned : small.Aligned base) (aligned' : large.Aligned other)
    (hle : leafLevel small ≤ leafLevel large) :
    (∃ a, small.Holds base a ∧ large.Holds other a) ↔
      pageNumber base (leafLevel large) = pageNumber other (leafLevel large) := by
  constructor
  · rintro ⟨a, inside, outside⟩
    have same := pageNumber_congr (leafLevel_pos small) hle ((holds_iff aligned a).1 inside)
    exact same.symm.trans ((holds_iff aligned' a).1 outside)
  · intro same
    exact ⟨base, holds_self, (holds_iff aligned' base).2 same⟩

namespace Mapping

variable {m n : Mapping} {address : Word}

theorem Valid.covers_iff (valid : m.Valid) :
    m.Covers address ↔
      pageNumber address (leafLevel m.size) = pageNumber m.base (leafLevel m.size) :=
  holds_iff valid.aligned address

theorem Valid.lt_limit (valid : m.Valid) (h : m.Covers address) :
    address.toNat < guestPhysicalLimit :=
  lt_limit_of_holds valid.aligned valid.inRange h

/-! ## Entries of mappings -/

theorem Valid.backing_mod (valid : m.Valid) :
    (m.backing.setWidth 64).toNat % 2 ^ levelShift (leafLevel m.size) = 0 := by
  rw [← bits_eq_levelShift]
  exact (Granularity.aligned_iff _ _).1 valid.backingAligned

theorem Valid.backing_mod_4096 (valid : m.Valid) : (m.backing.setWidth 64).toNat % 4096 = 0 := by
  have := valid.backing_mod
  cases hsize : m.size <;> simp only [hsize, leafLevel, levelShift] at this <;> omega

theorem Valid.address_entry (valid : m.Valid) : m.entry.address = m.backing.setWidth 64 := by
  rw [entry, Entry.address_toPage _ _ valid.backing_mod_4096]
  apply BitVec.eq_of_toNat_eq
  simp

theorem Valid.address_add_pageOffset (valid : m.Valid) (h : m.Covers address) :
    m.entry.address + pageOffset address (leafLevel m.size) = m.physical address := by
  rw [valid.address_entry, physical]
  congr 1
  have aligned := (Granularity.aligned_iff _ _).1 valid.aligned
  obtain ⟨hle, hlt⟩ := h
  apply BitVec.eq_of_toNat_eq
  rw [toNat_pageOffset _ (Nat.le_trans (leafLevel_le m.size) (by decide)), ← bits_eq_levelShift,
    BitVec.toNat_sub_of_le (BitVec.le_def.2 hle)]
  have offset : address.toNat = m.base.toNat + (address.toNat - m.base.toNat) := by omega
  rw [offset, Nat.add_mod, aligned, Nat.zero_add, Nat.mod_mod,
    Nat.mod_eq_of_lt (by omega)]
  omega

theorem eq_of_entry_eq (hm : m.Valid) (hn : n.Valid) (base : m.base = n.base)
    (size : m.size = n.size) (same : m.entry = n.entry) : m = n := by
  have backing : m.backing = n.backing := by
    have := congrArg Entry.address same
    rw [hm.address_entry, hn.address_entry] at this
    have := congrArg (BitVec.setWidth 52) this
    simpa using this
  have type : m.type = n.type := by
    have := congrArg Entry.memoryType same
    rw [entry, entry, Entry.memoryType_toPage, Entry.memoryType_toPage] at this
    cases hm : m.type <;> cases hn : n.type <;> simp_all [MemoryType.code]
  cases m
  cases n
  simp_all

end Mapping

end NestedVisor.Paging
