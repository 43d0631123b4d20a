import NestedVisor.Proofs.Paging.Memory

/-!
# The tables refine a set of mappings

A commit looks at single entries: whether a larger page stands on its path, or a table where its
page would go.  As no table is without a page, these entries say whether a mapping of another
size overlaps.
-/

namespace NestedVisor.Paging

/-- A mapping of another size overlaps the page of this size at `base`. -/
def Conflicts (s : Finset Mapping) (base : Word) (size : Granularity) : Prop :=
  ∃ m ∈ s, m.size ≠ size ∧ ∃ a, m.Covers a ∧ size.Holds base a

namespace Tracks

variable {e : Ept} {s : Finset Mapping} {m : Mapping} {a base : Word} {size : Granularity}
  {backing : Word} {type : MemoryType}

theorem hasTable_iff (t : Tracks e s) (ha : a.toNat < guestPhysicalLimit) {level : Nat}
    (hpos : 1 ≤ level) (hle : level ≤ 4) :
    (e.slots (slotIndex a 4)).hasTable a level 4 = true ↔
      ∃ m ∈ s, leafLevel m.size < level ∧ pageNumber m.base level = pageNumber a level := by
  have path {b : Word} (hb : b.toNat < guestPhysicalLimit)
      (same : pageNumber b level = pageNumber a level) :
      slotIndex a 4 = slotIndex b 4 ∧ SamePath a b level 4 :=
    (samePath_succ hle).1
      ((samePath_iff_pageNumber_eq ha hb hpos (Nat.le_succ_of_le hle)).2 same.symm)
  constructor
  · intro table
    -- no table is empty, so there is a page somewhere below
    obtain ⟨b, small, entry, hb, same, below, leaf⟩ :=
      Slot.exists_leaf?_of_hasTable ha (t.wellFormed _) hpos (by decide) table
    rw [(path hb same).1] at leaf
    obtain ⟨m, hm, rfl, covers⟩ := t.listed b small entry hb leaf
    have number := pageNumber_congr (leafLevel_pos m.size) (Nat.le_of_lt below)
      ((t.valid m hm).covers_iff.1 covers)
    exact ⟨m, hm, below, number.symm.trans same⟩
  · rintro ⟨m, hm, below, same⟩
    obtain ⟨top, rest⟩ := path (t.valid m hm).inRange same
    rw [top]
    exact Slot.hasTable_of_leaf? (t.mapped m hm) below hle rest

theorem insertion_holdsSmaller_iff (t : Tracks e s) (h : Acceptable base size backing type) :
    (e.insertion base size backing type).outcome = .error .holdsSmaller ↔
      ∃ m ∈ s, leafLevel m.size < leafLevel size ∧
        pageNumber m.base (leafLevel size) = pageNumber base (leafLevel size) := by
  rw [Ept.insertion, Slot.insert_holdsSmaller_iff, Ept.leafLevel_add_depth]
  exact t.hasTable_iff h.inRange (leafLevel_pos size)
    (Nat.le_trans (leafLevel_le size) (by decide))

theorem insertion_coveredByLarger_iff (t : Tracks e s) (h : Acceptable base size backing type) :
    (∃ level, (e.insertion base size backing type).outcome = .error (.coveredByLarger level)) ↔
      ∃ m ∈ s, leafLevel size < leafLevel m.size ∧ m.Covers base := by
  rw [Ept.insertion, Slot.insert_coveredByLarger_iff, Ept.leafLevel_add_depth]
  constructor
  · rintro ⟨level, entry, above, leaf⟩
    obtain ⟨m, hm, rfl, covers⟩ := t.exists_of_leaf?_level h.inRange leaf
    exact ⟨m, hm, above, covers⟩
  · rintro ⟨m, hm, above, covers⟩
    exact ⟨leafLevel m.size, m.entry, above, t.leaf?_of_covers hm covers⟩

theorem conflicts_iff (t : Tracks e s) (aligned : size.Aligned base) :
    Conflicts s base size ↔
      (∃ m ∈ s, leafLevel m.size < leafLevel size ∧
        pageNumber m.base (leafLevel size) = pageNumber base (leafLevel size)) ∨
      (∃ m ∈ s, leafLevel size < leafLevel m.size ∧ m.Covers base) := by
  constructor
  · rintro ⟨m, hm, other, a, covers, holds⟩
    have valid := t.valid m hm
    rcases Nat.lt_or_gt_of_ne (mt leafLevel_inj other) with below | above
    · left
      exact ⟨m, hm, below, (exists_holds_iff valid.aligned aligned (Nat.le_of_lt below)).1
        ⟨a, covers, holds⟩⟩
    · right
      exact ⟨m, hm, above, valid.covers_iff.2
        ((exists_holds_iff aligned valid.aligned (Nat.le_of_lt above)).1 ⟨a, holds, covers⟩)⟩
  · rintro (⟨m, hm, below, same⟩ | ⟨m, hm, above, covers⟩)
    · exact ⟨m, hm, fun h => Nat.ne_of_lt below (congrArg leafLevel h), m.base, holds_self,
        (holds_iff aligned _).2 same⟩
    · exact ⟨m, hm, fun h => Nat.ne_of_gt above (congrArg leafLevel h), base, covers,
        holds_self⟩

theorem insertion_conflicts_iff (t : Tracks e s) (h : Acceptable base size backing type) :
    Conflicts s base size ↔
      (e.insertion base size backing type).outcome = .error .holdsSmaller ∨
        ∃ level, (e.insertion base size backing type).outcome =
          .error (.coveredByLarger level) := by
  rw [t.conflicts_iff h.aligned, t.insertion_holdsSmaller_iff h,
    t.insertion_coveredByLarger_iff h]

theorem commit_outcome (t : Tracks e s) (h : Acceptable base size backing type) :
    (Conflicts s base size ∧
        (e.commit base size backing type).outcome = .error (.mappingConflict base)) ∨
      (¬ Conflicts s base size ∧ e.pool.supplies (e.missing base size) = false ∧
        (e.commit base size backing type).outcome = .error .outOfResources) ∨
      (¬ Conflicts s base size ∧ e.pool.supplies (e.missing base size) = true ∧
        (e.commit base size backing type).outcome = .ok ()) := by
  have conflicts := t.insertion_conflicts_iff h
  have exhausted := @Ept.insertion_exhausted_iff e base size backing type
  cases result : (e.insertion base size backing type).outcome with
  | ok =>
      right
      right
      simp only [result, reduceCtorEq, exists_const, or_self, iff_false] at conflicts
      simp only [result, reduceCtorEq, false_iff, Bool.not_eq_false] at exhausted
      rw [Ept.commit_of_ok h result]
      exact ⟨conflicts, exhausted, rfl⟩
  | error obstacle =>
      obtain ⟨taken, between, _, restored⟩ := Ept.commit_of_obstacle t.wellFormed h result
      rw [restored]
      cases obstacle with
      | coveredByLarger level =>
          exact .inl ⟨conflicts.2 (.inr ⟨level, result⟩), rfl⟩
      | holdsSmaller =>
          exact .inl ⟨conflicts.2 (.inl result), rfl⟩
      | exhausted =>
          right
          left
          simp only [result, reduceCtorEq, Except.error.injEq, exists_const, or_self,
            iff_false] at conflicts
          exact ⟨conflicts, exhausted.1 result, rfl⟩

end Tracks

/--
Through every history the tables refine the set of mappings, also as the processor reads them;
the mappings stay apart; and a commit is refused for a conflict exactly when one overlaps.
-/
theorem History.refines {held : List Word} {e : Ept} {s : Finset Mapping}
    (h : History held e s) :
    (∀ a : Word, a.toNat < guestPhysicalLimit → e.walk? a 4 e.root = e.translate? a) ∧
    (∀ a, (∀ m ∈ s, m.Covers a → e.translate? a = some (m.physical a)) ∧
      ((∀ m ∈ s, ¬ m.Covers a) → e.translate? a = none)) ∧
    (∀ m ∈ s, ∀ n ∈ s, ∀ a, m.Covers a → n.Covers a → m = n) ∧
    ∀ base size backing type, Acceptable base size backing type →
      ((e.commit base size backing type).outcome = .error (.mappingConflict base) ↔
        Conflicts s base size) ∧
      (¬ Conflicts s base size →
        (e.commit base size backing type).outcome = .ok () ∨
          (e.commit base size backing type).outcome = .error .outOfResources) := by
  have t := h.tracks
  refine ⟨fun a ha => h.accounts.walk?_root t.wellFormed ha,
    fun a => ⟨fun m hm covers => t.translate?_of_covers hm covers,
    t.translate?_eq_none⟩, fun m hm n hn a => t.eq_of_covers hm hn, ?_⟩
  intro base size backing type acceptable
  rcases t.commit_outcome acceptable with ⟨conflict, outcome⟩ | ⟨free, _, outcome⟩ |
    ⟨free, _, outcome⟩
  · exact ⟨iff_of_true outcome conflict, fun h => absurd conflict h⟩
  · exact ⟨iff_of_false (by simp [outcome]) free, fun _ => .inr outcome⟩
  · exact ⟨iff_of_false (by simp [outcome]) free, fun _ => .inl outcome⟩

theorem History.refines_small_page :
    ∃ e s, History [] e s ∧
      e.translate? 0x205123 = some 0x7123 ∧ e.translate? 0x206000 = none ∧
      (e.commit 0x200000 .page2M 0x400000 .writeBack).outcome =
        .error (.mappingConflict 0x200000) := by
  obtain ⟨e, h⟩ : ∃ e, History [] e {⟨0x205000, .page4K, 0x7000, .writeBack⟩} :=
    ⟨_, (History.ofRun 0x100000 16 (by decide) (by decide) (by decide)).committed
      0x205000 .page4K 0x7000 .writeBack rfl⟩
  obtain ⟨_, readings, _, commits⟩ := h.refines
  refine ⟨e, _, h, ?_, ?_, ?_⟩
  · rw [(readings 0x205123).1 _ (Finset.mem_singleton_self _) (by decide)]
    decide
  · refine (readings _).2 fun m hm => ?_
    rw [Finset.mem_singleton.1 hm]
    decide
  · refine (commits _ _ _ _ ⟨by decide, by decide, by decide, by decide⟩).1.2 ?_
    exact ⟨_, Finset.mem_singleton_self _, by decide, 0x205000, by decide, by decide⟩

end NestedVisor.Paging
