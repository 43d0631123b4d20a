import NestedVisor.Proofs.Paging.Path
import NestedVisor.Proofs.Paging.Supply

/-!
# Changing one slot of the tree

A successful `insert` changes what is read at one size inside one page, and `erase` followed by
`prune` takes a page away again together with the tables that held nothing else.  Neither
touches any other reading.  `insert` fails exactly where another size is in the way or the pool
ends, and then `prune` takes back all that it linked.
-/

namespace NestedVisor.Paging

theorem replaceSlot_eq_self (slots : SlotIndex → Slot) (i : SlotIndex) :
    replaceSlot slots i (slots i) = slots := by
  funext j
  by_cases h : j = i
  · rw [h, replaceSlot_self]
  · rw [replaceSlot_of_ne slots _ h]

@[simp] theorem replaceSlot_replaceSlot (slots : SlotIndex → Slot) (i : SlotIndex) (s t : Slot) :
    replaceSlot (replaceSlot slots i s) i t = replaceSlot slots i t := by
  funext j
  by_cases h : j = i <;> simp [replaceSlot, h]

namespace Slot

variable {a b : Word} {target level depth : Nat} {entry : Entry} {slot : Slot} {pool : PagePool}

/-! ## Replacing the slot on a path -/

/-- A change of the readings below one slot is the same change of the readings above it. -/
theorem leaf?_table_replaceSlot {slots : SlotIndex → Slot} {s : Slot} {value : Option Entry}
    {t : Nat} (frame : Word) (hle : target ≤ level)
    (below : leaf? a t level s =
      if t = target ∧ SamePath a b target level then value
      else leaf? a t level (slots (slotIndex b level))) :
    leaf? a t (level + 1) (.table frame (replaceSlot slots (slotIndex b level) s)) =
      if t = target ∧ SamePath a b target (level + 1) then value
      else leaf? a t (level + 1) (.table frame slots) := by
  simp only [leaf?, Nat.add_sub_cancel, samePath_succ hle]
  by_cases above : level + 1 = t
  · have apart : t ≠ target := by omega
    simp [above, apart]
  · rw [if_neg above, if_neg above]
    by_cases index : slotIndex a level = slotIndex b level
    · rw [index, replaceSlot_self, below]
      simp
    · rw [replaceSlot_of_ne slots s index]
      simp [index]

theorem wellFormed_replaceSlot {slots : SlotIndex → Slot} {i : SlotIndex} {s : Slot}
    (wf : ∀ j, (slots j).WellFormed level) (hs : s.WellFormed level) (j : SlotIndex) :
    (replaceSlot slots i s j).WellFormed level := by
  by_cases h : j = i
  · rwa [h, replaceSlot_self]
  · rw [replaceSlot_of_ne slots s h]
    exact wf j

/-! ## Inserting -/

theorem leaf?_insert (ok : (insert b target entry depth slot pool).outcome = .ok ()) (t : Nat) :
    leaf? a t (target + depth) (insert b target entry depth slot pool).slot =
      if t = target ∧ SamePath a b target (target + depth) then some entry
      else leaf? a t (target + depth) slot := by
  induction depth generalizing slot pool with
  | zero =>
      have same := samePath_self_level a b target
      cases slot with
      | table frame slots => simp [insert] at ok
      | empty => simp [insert, leaf?, same, eq_comm]
      | page old =>
          by_cases h : t = target
          · simp [insert, leaf?, same, h]
          · simp [insert, leaf?, h, Ne.symm h]
  | succ depth ih =>
      cases slot with
      | page old => simp [insert] at ok
      | table frame slots =>
          exact leaf?_table_replaceSlot frame (Nat.le_add_right _ _) (ih ok)
      | empty =>
          rw [insert] at ok ⊢
          cases grant : pool.allocate with
          | mk page? rest =>
              cases page? with
              | none => simp [grant] at ok
              | some frame =>
                  simp only [grant] at ok ⊢
                  have fresh := @leaf?_table_replaceSlot a b target (target + depth)
                    (fun _ => .empty) _ _ t frame (Nat.le_add_right _ _) (ih ok)
                  rw [Nat.add_succ, fresh]
                  simp [leaf?]

theorem wellFormed_insert (ok : (insert b target entry depth slot pool).outcome = .ok ())
    (leaf : (page entry).WellFormed target) (wf : slot.WellFormed (target + depth)) :
    (insert b target entry depth slot pool).slot.WellFormed (target + depth) ∧
      (insert b target entry depth slot pool).slot ≠ .empty := by
  have hpos : 1 ≤ target := by
    cases leaf
    assumption
  induction depth generalizing slot pool with
  | zero =>
      cases slot with
      | table frame slots => simp [insert] at ok
      | empty => exact ⟨leaf, by simp [insert]⟩
      | page old => exact ⟨leaf, by simp [insert]⟩
  | succ depth ih =>
      cases slot with
      | page old => simp [insert] at ok
      | table frame slots =>
          cases wf with
          | table _ pos used wf =>
              obtain ⟨below, inUse⟩ := ih ok (wf _)
              refine ⟨.table frame pos ⟨slotIndex b (target + depth), ?_⟩
                (wellFormed_replaceSlot wf below), by simp [insert]⟩
              rwa [replaceSlot_self]
      | empty =>
          rw [insert] at ok ⊢
          cases grant : pool.allocate with
          | mk page? rest =>
              cases page? with
              | none => simp [grant] at ok
              | some frame =>
                  simp only [grant] at ok ⊢
                  obtain ⟨below, inUse⟩ := ih ok (.empty _)
                  refine ⟨.table frame (Nat.le_add_right_of_le hpos)
                    ⟨slotIndex b (target + depth), ?_⟩
                    (wellFormed_replaceSlot (fun _ => .empty _) below), by simp⟩
                  rwa [replaceSlot_self]

/-! ## Obstacles -/

theorem insert_empty_obstacle {obstacle : Obstacle}
    (h : (insert b target entry depth .empty pool).outcome = .error obstacle) :
    obstacle = .exhausted := by
  induction depth generalizing pool with
  | zero => simp [insert] at h
  | succ depth ih =>
      rw [insert] at h
      cases grant : pool.allocate with
      | mk page? rest =>
          cases page? with
          | none =>
              simp only [grant, Except.error.injEq] at h
              exact h.symm
          | some frame =>
              simp only [grant] at h
              exact ih h

theorem insert_holdsSmaller_iff :
    (insert b target entry depth slot pool).outcome = .error .holdsSmaller ↔
      hasTable b target (target + depth) slot = true := by
  induction depth generalizing slot pool with
  | zero => cases slot <;> simp [insert, hasTable]
  | succ depth ih =>
      cases slot with
      | page old => simp [insert, hasTable]
      | table frame slots =>
          have above : ¬ target + (depth + 1) = target := by omega
          rw [hasTable, Bool.or_eq_true, beq_iff_eq, or_iff_right above]
          exact ih
      | empty =>
          simp only [hasTable, Bool.false_eq_true, iff_false]
          intro h
          cases insert_empty_obstacle h

theorem insert_coveredByLarger_iff :
    (∃ l, (insert b target entry depth slot pool).outcome = .error (.coveredByLarger l)) ↔
      ∃ t e, target < t ∧ leaf? b t (target + depth) slot = some e := by
  induction depth generalizing slot pool with
  | zero =>
      constructor
      · rintro ⟨l, h⟩
        cases slot <;> simp [insert] at h
      · rintro ⟨t, e, hlt, he⟩
        have := le_of_leaf? he
        omega
  | succ depth ih =>
      cases slot with
      | page old =>
          exact iff_of_true ⟨_, rfl⟩ ⟨_, old, by omega, if_pos rfl⟩
      | table frame slots =>
          refine ih.trans (exists₂_congr fun t e => and_congr_right fun hlt => ?_)
          rw [leaf?]
          constructor
          · intro he
            have := le_of_leaf? he
            rwa [if_neg (by omega)]
          · intro he
            exact (Option.ite_none_left_eq_some.1 he).2
      | empty =>
          constructor
          · rintro ⟨l, h⟩
            cases insert_empty_obstacle h
          · rintro ⟨t, e, hlt, he⟩
            simp [leaf?] at he

/-! ## Pruning -/

theorem allEmpty_empty : allEmpty (fun _ => Slot.empty) = true :=
  (allEmpty_iff _).2 fun _ => rfl

theorem not_allEmpty {slots : SlotIndex → Slot} (used : ∃ i, slots i ≠ .empty) :
    ¬ allEmpty slots = true := by
  rw [allEmpty_iff, not_forall]
  exact used

theorem prune_table (frame : Word) (slots : SlotIndex → Slot) :
    prune a (level + 1) (.table frame slots) =
      if allEmpty (replaceSlot slots (slotIndex a level)
          (prune a level (slots (slotIndex a level))).1) then
        (.empty, (prune a level (slots (slotIndex a level))).2 ++ [frame])
      else
        (.table frame (replaceSlot slots (slotIndex a level)
          (prune a level (slots (slotIndex a level))).1),
          (prune a level (slots (slotIndex a level))).2) :=
  rfl

theorem prune_of_wellFormed (wf : slot.WellFormed level) : prune a level slot = (slot, []) := by
  induction wf with
  | empty level => rfl
  | page pos le present large => rfl
  | @table level slots frame pos used below ih =>
      rw [prune_table, ih, replaceSlot_eq_self, if_neg (not_allEmpty used)]

theorem prune_table_of_prune_slot {slots : SlotIndex → Slot} {s below : Slot}
    {released : List Word} (frame : Word) (h : prune b level s = (below, released)) :
    prune b (level + 1) (.table frame (replaceSlot slots (slotIndex b level) s)) =
      if allEmpty (replaceSlot slots (slotIndex b level) below) then
        (.empty, released ++ [frame])
      else (.table frame (replaceSlot slots (slotIndex b level) below), released) := by
  rw [prune_table, replaceSlot_self, h, replaceSlot_replaceSlot]

/-- After a failed `insert`, `prune` restores the slot and gives back what was taken for it. -/
theorem prune_insert_of_error {obstacle : Obstacle} (wf : slot.WellFormed (target + depth))
    (failed : (insert b target entry depth slot pool).outcome = .error obstacle) :
    ∃ taken, pool.Takes taken (insert b target entry depth slot pool).pool ∧
      prune b (target + depth) (insert b target entry depth slot pool).slot =
        (slot, taken.reverse) := by
  induction depth generalizing slot pool with
  | zero =>
      cases slot with
      | table frame slots => exact ⟨[], .nothing pool, prune_of_wellFormed wf⟩
      | empty => simp [insert] at failed
      | page old => simp [insert] at failed
  | succ depth ih =>
      cases slot with
      | page old => exact ⟨[], .nothing pool, rfl⟩
      | table frame slots =>
          cases wf with
          | table _ pos used below =>
              obtain ⟨taken, takes, pruned⟩ := ih (below _) failed
              refine ⟨taken, takes, (prune_table_of_prune_slot frame pruned).trans ?_⟩
              -- a table that stood before has another slot in use, or this one
              rw [replaceSlot_eq_self, if_neg (not_allEmpty used)]
      | empty =>
          rw [insert] at failed ⊢
          cases grant : pool.allocate with
          | mk page? rest =>
              cases page? with
              | none => exact ⟨[], .refused grant (.nothing rest), rfl⟩
              | some frame =>
                  simp only [grant] at failed ⊢
                  obtain ⟨taken, takes, pruned⟩ := ih (.empty _) failed
                  -- the new table held nothing but this slot, and goes with it
                  refine ⟨frame :: taken, .page grant takes, ?_⟩
                  refine (prune_table_of_prune_slot frame pruned).trans ?_
                  have empty : allEmpty (replaceSlot (fun _ => .empty)
                      (slotIndex b (target + depth)) .empty) = true := by
                    rw [replaceSlot_eq_self (fun _ => Slot.empty)]
                    exact allEmpty_empty
                  rw [if_pos empty, List.reverse_cons]

/-! ## Erasing -/

def withdraw (b : Word) (target depth : Nat) (slot : Slot) : Slot × List Word :=
  prune b (target + depth) (erase b target depth slot)

theorem withdraw_table (frame : Word) (slots : SlotIndex → Slot) :
    withdraw b target (depth + 1) (.table frame slots) =
      let below := withdraw b target depth (slots (slotIndex b (target + depth)))
      let kept := replaceSlot slots (slotIndex b (target + depth)) below.1
      if allEmpty kept then (.empty, below.2 ++ [frame]) else (.table frame kept, below.2) :=
  prune_table_of_prune_slot frame rfl

theorem leaf?_withdraw {e : Entry} (mapped : leaf? b target (target + depth) slot = some e)
    (t : Nat) :
    leaf? a t (target + depth) (withdraw b target depth slot).1 =
      if t = target ∧ SamePath a b target (target + depth) then none
      else leaf? a t (target + depth) slot := by
  induction depth generalizing slot with
  | zero =>
      have same := samePath_self_level a b target
      cases slot with
      | empty => simp [withdraw, erase, prune, leaf?]
      | table frame slots => simp [leaf?] at mapped
      | page old =>
          by_cases h : t = target
          · simp [withdraw, erase, prune, leaf?, same, h]
          · simp [withdraw, erase, prune, leaf?, h, Ne.symm h]
  | succ depth ih =>
      cases slot with
      | empty => simp [leaf?] at mapped
      | page old =>
          simp only [leaf?, Option.ite_none_right_eq_some] at mapped
          omega
      | table frame slots =>
          rw [leaf?, Option.ite_none_left_eq_some] at mapped
          have below := leaf?_table_replaceSlot frame (Nat.le_add_right _ _) (ih mapped.2)
          rw [withdraw_table]
          dsimp only
          split
          · next empty =>
              -- an unlinked table and one with nothing in it read alike
              rw [Nat.add_succ, ← below, leaf?, leaf?, (allEmpty_iff _).1 empty]
              simp [leaf?]
          · exact below

theorem wellFormed_withdraw (wf : slot.WellFormed (target + depth)) :
    (withdraw b target depth slot).1.WellFormed (target + depth) := by
  induction depth generalizing slot with
  | zero => exact .empty _
  | succ depth ih =>
      cases wf with
      | empty => exact .empty _
      | page pos le present large => exact .page pos le present large
      | table frame pos used wf =>
          rw [withdraw_table]
          dsimp only
          split
          · exact .empty _
          · next used =>
              rw [allEmpty_iff, not_forall] at used
              exact .table frame pos used (wellFormed_replaceSlot wf (ih (wf _)))

end Slot

end NestedVisor.Paging
