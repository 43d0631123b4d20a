import NestedVisor.Proofs.Paging.Address

/-!
# Paths through the tree

`SamePath a b low high` says that two addresses choose the same slots on the levels from `low`
up to but not including `high`.  Reading a slot at level `high` down to level `low` sees no more
of an address than that.  Reading ends at one page, so one address has a leaf of at most one
size, and in a well-formed tree every table leads to some page.
-/

namespace NestedVisor.Paging

def SamePath (a b : Word) (low high : Nat) : Prop :=
  ∀ level, low ≤ level → level < high → slotIndex a level = slotIndex b level

instance (a b : Word) (low high : Nat) : Decidable (SamePath a b low high) :=
  decidable_of_iff (∀ level < high, low ≤ level → slotIndex a level = slotIndex b level)
    ⟨fun h level hlow hhigh => h level hhigh hlow, fun h level hhigh hlow => h level hlow hhigh⟩

theorem samePath_self_level (a b : Word) (level : Nat) : SamePath a b level level := by
  intro l hlow hhigh
  omega

theorem samePath_succ {a b : Word} {low high : Nat} (h : low ≤ high) :
    SamePath a b low (high + 1) ↔
      slotIndex a high = slotIndex b high ∧ SamePath a b low high := by
  constructor
  · intro same
    exact ⟨same high h (Nat.lt_succ_self high),
      fun l hlow hhigh => same l hlow (Nat.lt_succ_of_lt hhigh)⟩
  · rintro ⟨top, below⟩ l hlow hhigh
    rcases Nat.lt_succ_iff_lt_or_eq.1 hhigh with h | rfl
    · exact below l hlow h
    · exact top

theorem samePath_iff_pageNumber_eq {a b : Word} (ha : a.toNat < guestPhysicalLimit)
    (hb : b.toNat < guestPhysicalLimit) {level : Nat} (hpos : 1 ≤ level) (hle : level ≤ 5) :
    SamePath a b level 5 ↔ pageNumber a level = pageNumber b level := by
  -- downwards from the region above the root
  obtain ⟨depth, rfl⟩ : ∃ depth, level = 5 - depth := ⟨5 - level, by omega⟩
  induction depth with
  | zero =>
      rw [Nat.sub_zero, pageNumber_five ha, pageNumber_five hb]
      exact iff_of_true (samePath_self_level a b 5) rfl
  | succ depth ih =>
      have next : 5 - (depth + 1) + 1 = 5 - depth := by omega
      rw [pageNumber_eq_iff hpos, next, ← ih (by omega) (by omega)]
      constructor
      · intro same
        exact ⟨same _ (Nat.le_refl _) (by omega), fun l hlow => same l (by omega)⟩
      · rintro ⟨here, above⟩ l hlow hhigh
        by_cases h : l = 5 - (depth + 1)
        · rw [h]
          exact here
        · exact above l (by omega) hhigh

namespace Slot

/-! ## Reading a page -/

theorem le_of_leaf? {a : Word} {target level : Nat} {slot : Slot} {e : Entry}
    (h : leaf? a target level slot = some e) : target ≤ level := by
  induction slot generalizing level with
  | empty => simp [leaf?] at h
  | page entry =>
      simp only [leaf?] at h
      split at h
      · omega
      · contradiction
  | table frame slots ih =>
      simp only [leaf?] at h
      split at h
      · contradiction
      · have := ih _ h
        omega

theorem leaf?_target_unique {a : Word} {first second level : Nat} {slot : Slot} {e f : Entry}
    (hfirst : leaf? a first level slot = some e) (hsecond : leaf? a second level slot = some f) :
    first = second := by
  induction slot generalizing level with
  | empty => simp [leaf?] at hfirst
  | page entry =>
      simp only [leaf?, Option.ite_none_right_eq_some] at hfirst hsecond
      omega
  | table frame slots ih =>
      simp only [leaf?, Option.ite_none_left_eq_some] at hfirst hsecond
      exact ih _ hfirst.2 hsecond.2

theorem leaf?_congr {a b : Word} {target level : Nat} {slot : Slot} (hle : target ≤ level)
    (same : SamePath a b target level) : leaf? a target level slot = leaf? b target level slot := by
  induction slot generalizing level with
  | empty => rfl
  | page entry => rfl
  | table frame slots ih =>
      simp only [leaf?]
      by_cases h : level = target
      · rw [if_pos h, if_pos h]
      · rw [if_neg h, if_neg h, same (level - 1) (by omega) (by omega)]
        exact ih _ (by omega) fun l hlow hhigh => same l hlow (by omega)

theorem translate?_of_leaf? {a : Word} {target level : Nat} {slot : Slot} {e : Entry}
    (h : leaf? a target level slot = some e) :
    translate? a level slot = some (e.address + pageOffset a target) := by
  induction slot generalizing level with
  | empty => simp [leaf?] at h
  | page entry =>
      simp only [leaf?, Option.ite_none_right_eq_some, Option.some.injEq] at h
      obtain ⟨rfl, rfl⟩ := h
      rfl
  | table frame slots ih =>
      simp only [leaf?, Option.ite_none_left_eq_some] at h
      exact ih _ h.2

/-! ## Well-formed slots -/

/--
The shape of a slot at a level: pages stand on the levels 1 to 3 with the large bit on the levels
2 and 3, tables stand above them, and no table is without a page.
-/
inductive WellFormed : Nat → Slot → Prop
  | empty (level : Nat) : WellFormed level .empty
  | page {level : Nat} {e : Entry} (pos : 1 ≤ level) (le : level ≤ 3)
      (present : e.present = true) (large : e.large = decide (1 < level)) :
      WellFormed level (.page e)
  | table {level : Nat} {slots : SlotIndex → Slot} (frame : Word) (pos : 1 ≤ level)
      (used : ∃ i, slots i ≠ .empty) (below : ∀ i, WellFormed level (slots i)) :
      WellFormed (level + 1) (.table frame slots)

theorem exists_leaf?_of_translate? {a x : Word} {level : Nat} {slot : Slot}
    (wf : slot.WellFormed level) (h : translate? a level slot = some x) :
    ∃ size e, leaf? a (leafLevel size) level slot = some e := by
  induction wf with
  | empty level => simp [translate?] at h
  | page pos le present large =>
      obtain ⟨size, rfl⟩ := exists_leafLevel_eq pos le
      exact ⟨size, _, if_pos rfl⟩
  | table frame pos used below ih =>
      obtain ⟨size, e, he⟩ := ih _ h
      have := le_of_leaf? he
      exact ⟨size, e, by rw [leaf?, if_neg (by omega)]; exact he⟩

theorem exists_leaf?_of_ne_empty {a : Word} (ha : a.toNat < guestPhysicalLimit) {level : Nat}
    {slot : Slot} (wf : slot.WellFormed level) (hle : level ≤ 5) (inUse : slot ≠ .empty) :
    ∃ b size e, b.toNat < guestPhysicalLimit ∧ pageNumber b level = pageNumber a level ∧
      leaf? b (leafLevel size) level slot = some e := by
  induction wf generalizing a with
  | empty level => contradiction
  | page pos le present large =>
      obtain ⟨size, rfl⟩ := exists_leafLevel_eq pos le
      exact ⟨a, size, _, ha, rfl, if_pos rfl⟩
  | @table level slots frame pos used below ih =>
      obtain ⟨i, hi⟩ := used
      obtain ⟨b, hb, region, index⟩ := exists_address_in_slot ha pos (by omega) i
      obtain ⟨c, size, e, hc, number, he⟩ := ih i hb (by omega) hi
      have same := (pageNumber_eq_iff pos).1 number
      have := le_of_leaf? he
      refine ⟨c, size, e, hc, same.2.trans region, ?_⟩
      rw [leaf?, if_neg (by omega), Nat.add_sub_cancel, same.1, index]
      exact he

/-! ## Tables on a path -/

/-- Whether the slot at level `target` on the path of `a` refers to a table. -/
def hasTable (a : Word) (target : Nat) : Nat → Slot → Bool
  | level, .table _ slots =>
      level == target || hasTable a target (level - 1) (slots (slotIndex a (level - 1)))
  | _, _ => false

theorem le_of_hasTable {a : Word} {target level : Nat} {slot : Slot}
    (h : hasTable a target level slot = true) : target ≤ level := by
  induction slot generalizing level with
  | empty => simp [hasTable] at h
  | page entry => simp [hasTable] at h
  | table frame slots ih =>
      rw [hasTable, Bool.or_eq_true, beq_iff_eq] at h
      rcases h with h | h
      · omega
      · have := ih _ h
        omega

theorem hasTable_of_leaf? {a b : Word} {low target level : Nat} {slot : Slot} {e : Entry}
    (h : leaf? b low level slot = some e) (hlow : low < target) (hle : target ≤ level)
    (same : SamePath a b target level) : hasTable a target level slot = true := by
  induction slot generalizing level with
  | empty => simp [leaf?] at h
  | page entry =>
      simp only [leaf?, Option.ite_none_right_eq_some] at h
      omega
  | table frame slots ih =>
      simp only [leaf?, Option.ite_none_left_eq_some] at h
      rw [hasTable, Bool.or_eq_true, beq_iff_eq]
      by_cases here : level = target
      · exact .inl here
      · right
        rw [same (level - 1) (by omega) (by omega)]
        exact ih _ h.2 (by omega) fun l hl hh => same l hl (by omega)

theorem exists_leaf?_of_hasTable {a : Word} (ha : a.toNat < guestPhysicalLimit)
    {target level : Nat} {slot : Slot} (wf : slot.WellFormed level) (hpos : 1 ≤ target)
    (hle : level ≤ 5) (h : hasTable a target level slot = true) :
    ∃ b size e, b.toNat < guestPhysicalLimit ∧ pageNumber b target = pageNumber a target ∧
      leafLevel size < target ∧ leaf? b (leafLevel size) level slot = some e := by
  have wfSlot := wf
  induction wf with
  | empty level => simp [hasTable] at h
  | page pos le present large => simp [hasTable] at h
  | @table level slots frame pos used below ih =>
      rw [hasTable, Bool.or_eq_true, beq_iff_eq, Nat.add_sub_cancel] at h
      rcases h with rfl | h
      · obtain ⟨b, size, e, hb, number, he⟩ := exists_leaf?_of_ne_empty ha wfSlot hle (by simp)
        have found := he
        rw [leaf?, Option.ite_none_left_eq_some] at found
        have := le_of_leaf? he
        exact ⟨b, size, e, hb, number, by omega, he⟩
      · obtain ⟨b, size, e, hb, number, hlow, he⟩ := ih _ (by omega) h (below _)
        have := le_of_hasTable h
        have index := ((pageNumber_eq_iff pos).1 (pageNumber_congr hpos this number)).1
        refine ⟨b, size, e, hb, number, hlow, ?_⟩
        rw [leaf?, if_neg (by omega), Nat.add_sub_cancel, index]
        exact he

end Slot

end NestedVisor.Paging
