import Mathlib.Data.List.Nodup
import NestedVisor.Proofs.Paging.Update

/-!
# The pages that a change of the tree takes and releases

A successful `insert` takes one page for every table missing on the path, and nothing else;
`withdraw` releases one page for every table that it leaves missing.  In both the tables before
and after differ by exactly these pages.  The pool runs out in an `insert` exactly when it cannot
supply the missing tables.
-/

namespace NestedVisor.Paging

theorem SlotIndex.nodup_all : SlotIndex.all.Nodup := by
  refine List.Nodup.map_on (fun x hx y hy same => ?_) List.nodup_range
  have := congrArg BitVec.toNat same
  rw [List.mem_range] at hx hy
  simp only [BitVec.toNat_ofNat] at this
  omega

namespace Slot

variable {a b : Word} {target level depth : Nat} {entry : Entry} {slot : Slot} {pool : PagePool}

/-! ## Frames of a table -/

theorem frames_empty : frames .empty = [] :=
  rfl

theorem frames_table (frame : Word) (slots : SlotIndex → Slot) :
    frames (.table frame slots) =
      SlotIndex.all.flatMap (fun i => frames (slots i)) ++ [frame] :=
  rfl

theorem frames_table_of_allEmpty {slots : SlotIndex → Slot} (frame : Word)
    (h : allEmpty slots = true) : frames (.table frame slots) = [frame] := by
  rw [frames_table, List.flatMap_eq_nil_iff.2, List.nil_append]
  intro i _
  rw [(allEmpty_iff slots).1 h i, frames_empty]

theorem frames_replaceSlot_perm (frame : Word) (slots : SlotIndex → Slot) (i : SlotIndex)
    (s : Slot) :
    (frames (.table frame (replaceSlot slots i s)) ++ frames (slots i)).Perm
      (frames (.table frame slots) ++ frames s) := by
  have others : (SlotIndex.all.erase i).flatMap (fun j => frames (replaceSlot slots i s j)) =
      (SlotIndex.all.erase i).flatMap (fun j => frames (slots j)) := by
    apply List.flatMap_congr
    intro j hj
    rw [replaceSlot_of_ne slots s (SlotIndex.nodup_all.mem_erase_iff.1 hj).1]
  have first (slots : SlotIndex → Slot) : (frames (.table frame slots)).Perm
      (frames (slots i) ++ ((SlotIndex.all.erase i).flatMap (fun j => frames (slots j)) ++
        [frame])) := by
    rw [frames_table, ← List.append_assoc]
    exact ((List.perm_cons_erase (SlotIndex.mem_all i)).flatMap_right _).append_right _
  have changed := first (replaceSlot slots i s)
  rw [replaceSlot_self, others] at changed
  refine (changed.append_right _).trans (List.Perm.trans ?_ ((first slots).append_right _).symm)
  rw [List.append_assoc]
  exact List.perm_append_comm.trans (List.perm_append_comm.append_right _)

theorem frames_replaceSlot_of_more {slots : SlotIndex → Slot} {i : SlotIndex} {s : Slot}
    {more : List Word} (frame : Word) (h : (frames s).Perm (more ++ frames (slots i))) :
    (frames (.table frame (replaceSlot slots i s))).Perm (more ++ frames (.table frame slots)) := by
  have exchange := frames_replaceSlot_perm frame slots i s
  rw [List.perm_iff_count] at h exchange ⊢
  intro page
  have below := h page
  have whole := exchange page
  simp only [List.count_append] at below whole ⊢
  omega

theorem frames_replaceSlot_of_less {slots : SlotIndex → Slot} {i : SlotIndex} {s : Slot}
    {less : List Word} (frame : Word) (h : (less ++ frames s).Perm (frames (slots i))) :
    (less ++ frames (.table frame (replaceSlot slots i s))).Perm (frames (.table frame slots)) := by
  -- the slot before the change is put back
  have put : (frames (slots i)).Perm (less ++ frames (replaceSlot slots i s i)) := by
    rw [replaceSlot_self]
    exact h.symm
  have back := frames_replaceSlot_of_more frame put
  rw [replaceSlot_replaceSlot, replaceSlot_eq_self] at back
  exact back.symm

/-! ## Tables missing on a path -/

/-- How many tables an `insert` has to link on the path of `b` down to level `target`. -/
def missing (b : Word) (target : Nat) : Nat → Slot → Nat
  | depth + 1, .empty => depth + 1
  | depth + 1, .table _ slots => missing b target depth (slots (slotIndex b (target + depth)))
  | _, _ => 0

theorem missing_empty (b : Word) (target depth : Nat) : missing b target depth .empty = depth := by
  cases depth <;> rfl

theorem insert_exhausted_iff :
    (insert b target entry depth slot pool).outcome = .error .exhausted ↔
      pool.supplies (missing b target depth slot) = false := by
  induction depth generalizing slot pool with
  | zero => cases slot <;> simp [insert, missing, PagePool.supplies]
  | succ depth ih =>
      cases slot with
      | page old => simp [insert, missing, PagePool.supplies]
      | table frame slots => exact ih
      | empty =>
          rw [insert, missing, PagePool.supplies]
          cases grant : pool.allocate with
          | mk page? rest =>
              cases page? with
              | none => simp
              | some frame =>
                  have below := @ih .empty rest
                  rw [missing_empty] at below
                  simpa using below

theorem insert_takes (ok : (insert b target entry depth slot pool).outcome = .ok ()) :
    ∃ taken, pool.Takes taken (insert b target entry depth slot pool).pool ∧
      (frames (insert b target entry depth slot pool).slot).Perm (taken ++ frames slot) ∧
      taken.length = missing b target depth slot := by
  induction depth generalizing slot pool with
  | zero =>
      cases slot with
      | table frame slots => simp [insert] at ok
      | empty => exact ⟨[], .nothing pool, .refl _, rfl⟩
      | page old => exact ⟨[], .nothing pool, .refl _, rfl⟩
  | succ depth ih =>
      cases slot with
      | page old => simp [insert] at ok
      | table frame slots =>
          obtain ⟨taken, takes, perm, length⟩ := ih ok
          exact ⟨taken, takes, frames_replaceSlot_of_more frame perm, length⟩
      | empty =>
          rw [insert] at ok ⊢
          cases grant : pool.allocate with
          | mk page? rest =>
              cases page? with
              | none => simp [grant] at ok
              | some frame =>
                  simp only [grant] at ok ⊢
                  obtain ⟨taken, takes, perm, length⟩ := ih ok
                  refine ⟨frame :: taken, .page grant takes, ?_, ?_⟩
                  · -- the new table is the old one with the slot on the path replaced
                    have new := @frames_replaceSlot_of_more (fun _ => .empty)
                      (slotIndex b (target + depth)) _ taken frame perm
                    rw [frames_table_of_allEmpty frame allEmpty_empty] at new
                    rw [frames_empty, List.append_nil]
                    exact new.trans (List.perm_append_singleton frame taken)
                  · rw [List.length_cons, length, missing_empty, missing]

theorem withdraw_releases {e : Entry} (mapped : leaf? b target (target + depth) slot = some e) :
    ((withdraw b target depth slot).2 ++ frames (withdraw b target depth slot).1).Perm
        (frames slot) ∧
      (withdraw b target depth slot).2.length =
        missing b target depth (withdraw b target depth slot).1 := by
  induction depth generalizing slot with
  | zero =>
      cases slot with
      | empty => simp [leaf?] at mapped
      | table frame slots => simp [leaf?] at mapped
      | page old => exact ⟨.refl _, rfl⟩
  | succ depth ih =>
      cases slot with
      | empty => simp [leaf?] at mapped
      | page old =>
          simp only [leaf?, Option.ite_none_right_eq_some] at mapped
          omega
      | table frame slots =>
          rw [leaf?, Option.ite_none_left_eq_some] at mapped
          obtain ⟨perm, length⟩ := ih mapped.2
          rw [Nat.add_succ, Nat.add_one_sub_one] at perm length
          have kept := frames_replaceSlot_of_less frame perm
          rw [withdraw_table]
          dsimp only
          split
          · next empty =>
              dsimp only
              rw [frames_table_of_allEmpty frame empty] at kept
              have gone := (allEmpty_iff _).1 empty (slotIndex b (target + depth))
              rw [replaceSlot_self] at gone
              rw [gone, missing_empty] at length
              rw [frames_empty, List.append_nil, missing_empty, List.length_append, length]
              exact ⟨kept, rfl⟩
          · dsimp only
            rw [missing, replaceSlot_self]
            exact ⟨kept, length⟩

end Slot

end NestedVisor.Paging
