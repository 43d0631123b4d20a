import NestedVisor.Proofs.Paging.Answer

/-!
# Two readers of the tables

`translate?` goes down to the first page on the path of an address, and `leaf?` looks for a page
of one size there.  In the tables of any history they agree on the addresses that four levels
translate.  Beyond these `translate?` refuses an address, while `leaf?` goes by its low bits and
finds whatever is mapped there.
-/

namespace NestedVisor.Paging

/-- What the readers have to say of an address so that either can be trusted for the other. -/
structure Ept.ReadersAgree (e : Ept) (a : Word) : Prop where
  mapped : (e.translate? a).isSome ↔ ∃! size, (e.leaf? a size).isSome
  bare : e.translate? a = none ↔ ∀ size, e.leaf? a size = none
  leaf : ∀ size entry, e.leaf? a size = some entry → entry.present = true ∧
    ∃ physical, e.translate? a = some physical ∧
      physical.toNat = entry.address.toNat + a.toNat % size.size.toNat ∧
      physical.toNat % 4096 = a.toNat % 4096

variable {held : List Word} {e : Ept} {s : Finset Mapping} {m : Mapping} {a : Word}

/-! ## A mapped address -/

/-- The offset goes into the low bits of the backing, which are clear, and overflows nothing. -/
theorem Mapping.Valid.toNat_address_add_pageOffset (valid : m.Valid) (a : Word) :
    (m.entry.address + pageOffset a (leafLevel m.size)).toNat =
        m.entry.address.toNat + a.toNat % m.size.size.toNat ∧
      m.entry.address.toNat % 4096 = 0 := by
  have size : m.size.size.toNat = 2 ^ levelShift (leafLevel m.size) := by
    cases m.size <;> rfl
  have short : m.size.size.toNat ≤ 2 ^ 30 := by
    cases m.size <;> decide
  have pos : 0 < m.size.size.toNat := by
    cases m.size <;> decide
  have offset := toNat_pageOffset a (Nat.le_trans (leafLevel_le m.size) (by decide : 3 ≤ 4))
  rw [← size] at offset
  have inside := Nat.mod_lt a.toNat pos
  rw [valid.address_entry]
  refine ⟨?_, valid.backing_mod_4096⟩
  have backing := m.backing.isLt
  rw [BitVec.toNat_add, offset, BitVec.toNat_setWidth]
  omega

theorem mod_size_mod_4096 (size : Granularity) (n : Nat) :
    n % size.size.toNat % 4096 = n % 4096 := by
  cases size <;> exact Nat.mod_mod_of_dvd n (by decide)

/-! ## Every address -/

theorem Tracks.readersAgree (t : Tracks e s) (ha : a.toNat < guestPhysicalLimit) :
    e.ReadersAgree a := by
  have reads : e.translate? a = (e.slots (slotIndex a 4)).translate? a 4 := if_pos ha
  have down {size : Granularity} {entry : Entry} (leaf : e.leaf? a size = some entry) :
      e.translate? a = some (entry.address + pageOffset a (leafLevel size)) :=
    reads.trans (Slot.translate?_of_leaf? leaf)
  have up {x : Word} (translated : e.translate? a = some x) :
      ∃ size entry, e.leaf? a size = some entry :=
    Slot.exists_leaf?_of_translate? (t.wellFormed _) (reads.symm.trans translated)
  constructor
  case mapped =>
    constructor
    · intro some
      obtain ⟨x, translated⟩ := Option.isSome_iff_exists.1 some
      obtain ⟨size, entry, leaf⟩ := up translated
      refine ⟨size, Option.isSome_of_eq_some leaf, fun other found => ?_⟩
      obtain ⟨entry', leaf'⟩ := Option.isSome_iff_exists.1 found
      exact leafLevel_inj (Slot.leaf?_target_unique leaf' leaf)
    · rintro ⟨size, found, -⟩
      obtain ⟨entry, leaf⟩ := Option.isSome_iff_exists.1 found
      exact Option.isSome_of_eq_some (down leaf)
  case bare =>
    constructor
    · intro none size
      refine Option.eq_none_iff_forall_ne_some.2 fun entry leaf => ?_
      exact absurd (none.symm.trans (down leaf)) nofun
    · intro none
      refine Option.eq_none_iff_forall_ne_some.2 fun x translated => ?_
      obtain ⟨size, entry, leaf⟩ := up translated
      exact absurd ((none size).symm.trans leaf) nofun
  case leaf =>
    intro size entry leaf
    obtain ⟨m, listed, rfl, covers⟩ := t.listed a size entry ha leaf
    obtain rfl := Option.some.inj (leaf.symm.trans (t.leaf?_of_covers listed covers))
    obtain ⟨sum, aligned⟩ := (t.valid m listed).toNat_address_add_pageOffset a
    refine ⟨Entry.present_toPage .., _, down leaf, sum, ?_⟩
    rw [sum, Nat.add_mod, aligned, Nat.zero_add, Nat.mod_mod, mod_size_mod_4096]

/-- An address that is not translated is agreed upon when `leaf?` finds nothing either. -/
theorem Ept.readersAgree_of_limit_le (ha : ¬ a.toNat < guestPhysicalLimit) :
    e.ReadersAgree a ↔ ∀ size, e.leaf? a size = none := by
  have refused : e.translate? a = none := if_neg ha
  constructor
  · exact fun agree => agree.bare.1 refused
  · intro none
    exact ⟨by simp [refused, none], by simp [refused, none], by simp [none]⟩

/--
The readers agree on every address below the limit, and on an address beyond it exactly when
nothing is mapped at its low 48 bits.
-/
theorem History.readersAgree_iff (h : History held e s) (a : Word) :
    e.ReadersAgree a ↔
      a.toNat < guestPhysicalLimit ∨ e.translate? ((a.setWidth 48).setWidth 64) = none := by
  have low : ((a.setWidth 48).setWidth 64 : Word).toNat < guestPhysicalLimit := by
    simp [guestPhysicalLimit]
    omega
  by_cases ha : a.toNat < guestPhysicalLimit
  · exact iff_of_true (h.tracks.readersAgree ha) (.inl ha)
  · rw [Ept.readersAgree_of_limit_le ha, or_iff_right ha, (h.tracks.readersAgree low).bare]
    simp only [e.leaf?_setWidth]

/-- A small page next to a large one, read at the small one, and beyond the limit beside it. -/
theorem History.readersAgree_iff_small_page :
    ∃ e s, History [] e s ∧ (e.leaf? 0x205123 .page4K).isSome ∧
      (0x205123#64).toNat < guestPhysicalLimit ∧ e.ReadersAgree 0x205123 ∧
      e.translate? 0x206123 = none ∧ e.ReadersAgree 0x1000000206123 := by
  have start := History.ofRun 0x100000 16 (by decide) (by decide) (by decide)
  have small := start.committed 0x205000 .page4K 0x7000 .writeBack rfl
  have h := small.committed 0x400000 .page2M 0x800000 .uncacheable rfl
  exact ⟨_, _, h, rfl, by decide, (h.readersAgree_iff 0x205123).2 (.inl (by decide)), rfl,
    (h.readersAgree_iff 0x1000000206123).2 (.inr rfl)⟩

/-- Beyond the limit, with the low bits of an address in a small page. -/
theorem History.readers_disagree_beyond_limit :
    ∃ e s, History [] e s ∧ e.translate? 0x1000000205123 = none ∧
      e.leaf? 0x1000000205123 .page4K = some (.toPage 0x7000 .writeBack false) ∧
      ¬ e.ReadersAgree 0x1000000205123 := by
  have start := History.ofRun 0x100000 16 (by decide) (by decide) (by decide)
  have h := start.committed 0x205000 .page4K 0x7000 .writeBack rfl
  refine ⟨_, _, h, rfl, rfl, fun agree => ?_⟩
  exact absurd (agree.bare.1 rfl .page4K) nofun

end NestedVisor.Paging
