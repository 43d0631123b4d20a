import NestedVisor.Proofs.Paging.History

/-!
# Commits that are taken back

A commit links the tables that are missing on its path and puts a page below them.  When there
was no page before, an uncommit of the same page unlinks exactly these tables: a table that held
something before still holds it, and a new one held the page alone.
-/

namespace NestedVisor.Paging

namespace Slot

variable {b : Word} {target depth : Nat} {entry : Entry} {slot : Slot} {pool : PagePool}

theorem withdraw_insert (wf : slot.WellFormed (target + depth))
    (ok : (insert b target entry depth slot pool).outcome = .ok ())
    (bare : leaf? b target (target + depth) slot = none) :
    ∃ taken, pool.Takes taken (insert b target entry depth slot pool).pool ∧
      withdraw b target depth (insert b target entry depth slot pool).slot =
        (slot, taken.reverse) := by
  induction depth generalizing slot pool with
  | zero =>
      cases slot with
      | table frame slots => simp [insert] at ok
      | empty => exact ⟨[], .nothing pool, rfl⟩
      | page old => simp [leaf?] at bare
  | succ depth ih =>
      cases slot with
      | page old => simp [insert] at ok
      | table frame slots =>
          cases wf with
          | table _ pos used below =>
              have above : ¬ target + depth + 1 = target := by omega
              rw [Nat.add_succ, leaf?, if_neg above] at bare
              obtain ⟨taken, takes, withdrawn⟩ := ih (below _) ok bare
              refine ⟨taken, takes, ?_⟩
              rw [insert, withdraw_table, replaceSlot_self, withdrawn]
              dsimp only
              -- the slot is what it was before, and some slot was in use
              rw [replaceSlot_replaceSlot, replaceSlot_eq_self, if_neg (not_allEmpty used)]
      | empty =>
          rw [insert] at ok ⊢
          cases grant : pool.allocate with
          | mk page? rest =>
              cases page? with
              | none => simp [grant] at ok
              | some frame =>
                  simp only [grant] at ok ⊢
                  obtain ⟨taken, takes, withdrawn⟩ := ih (.empty _) ok rfl
                  refine ⟨frame :: taken, .page grant takes, ?_⟩
                  rw [withdraw_table, replaceSlot_self, withdrawn]
                  dsimp only
                  rw [replaceSlot_replaceSlot, replaceSlot_eq_self (fun _ => Slot.empty),
                    if_pos allEmpty_empty, List.reverse_cons]

end Slot

namespace Ept

variable {e : Ept} {base : Word} {size : Granularity} {backing : Word} {type : MemoryType}

/-- The uncommit gives back what the commit took, the deepest table first. -/
theorem uncommit_commit_eq (wf : e.WellFormed) (bare : e.leaf? base size = none)
    (ok : (e.commit base size backing type).outcome = .ok ()) :
    ∃ taken between, e.pool.Takes taken between ∧
      (e.commit base size backing type).ept.uncommit base size =
        ⟨{ e with pool := between.freeAll taken.reverse }, .ok (),
          taken.reverse.map .released ++ [.uncommitted base size]⟩ := by
  obtain ⟨acceptable, inserted⟩ := acceptable_of_commit_ok ok
  have mapped := leaf?_of_commit_ok ok acceptable.inRange size
  rw [if_pos ⟨rfl, holds_self⟩] at mapped
  obtain ⟨taken, takes, withdrawn⟩ :=
    Slot.withdraw_insert (wf.slot base size) inserted ((e.leaf?_slot base size).trans bare)
  have released : (e.commit base size backing type).ept.withdrawal base size =
      (e.slots (slotIndex base 4), taken.reverse) := by
    rw [commit_of_ok acceptable inserted, withdrawal, replace]
    dsimp only
    rw [replaceSlot_self]
    exact withdrawn
  refine ⟨taken, _, takes, ?_⟩
  rw [uncommit_of_some acceptable.aligned acceptable.inRange mapped, released,
    commit_of_ok acceptable inserted]
  simp only [replace, replaceSlot_replaceSlot, replaceSlot_eq_self]
  rfl

end Ept

/--
An uncommit takes back the commit of a page that was not mapped before: the same pages are in use
as before the commit, with the same words, and a second uncommit finds nothing.
-/
theorem History.uncommit_commit {held : List Word} {e : Ept} {s : Finset Mapping}
    (h : History held e s) {base : Word} {size : Granularity} {backing : Word}
    {type : MemoryType} (bare : e.leaf? base size = none)
    (ok : (e.commit base size backing type).outcome = .ok ()) :
    let undone := (e.commit base size backing type).ept.uncommit base size
    undone.outcome = .ok () ∧
      (undone.ept.pool.live = e.pool.live ∧ undone.ept.image = e.image) ∧
      (undone.ept.uncommit base size).outcome = .ok () ∧
      (undone.ept.uncommit base size).ept = undone.ept := by
  obtain ⟨taken, between, takes, undone⟩ := Ept.uncommit_commit_eq h.tracks.wellFormed bare ok
  obtain ⟨acceptable, -⟩ := Ept.acceptable_of_commit_ok ok
  have again := Ept.uncommit_of_none (e := { e with pool := between.freeAll taken.reverse })
    acceptable.aligned acceptable.inRange bare
  dsimp only
  rw [undone, again]
  exact ⟨rfl, ⟨PagePool.live_freeAll_append _ _ takes.live, rfl⟩, rfl, rfl⟩

/-- Of the three tables on the path of the second page, a neighbour uses the uppermost. -/
theorem History.uncommit_commit_neighbour :
    ∃ e s, History [] e s ∧
      let change := e.commit 0x40000000 .page4K 0x9000 .writeBack
      let undone := change.ept.uncommit 0x40000000 .page4K
      (e.leaf? 0x40000000 .page4K = none ∧ change.outcome = .ok () ∧
        change.ept.pool.live.length = e.pool.live.length + 2) ∧
      undone.outcome = .ok () ∧
      (undone.ept.pool.live = e.pool.live ∧ undone.ept.image = e.image) ∧
      (undone.ept.uncommit 0x40000000 .page4K).outcome = .ok () ∧
      (undone.ept.uncommit 0x40000000 .page4K).ept = undone.ept := by
  have start := History.ofRun 0x100000 16 (by decide) (by decide) (by decide)
  have h := start.committed 0x205000 .page4K 0x7000 .writeBack rfl
  refine ⟨_, _, h, ⟨rfl, rfl, rfl⟩, ?_⟩
  exact @History.uncommit_commit _ _ _ h _ _ 0x9000 .writeBack rfl rfl

end NestedVisor.Paging
