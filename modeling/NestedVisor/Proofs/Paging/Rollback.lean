import NestedVisor.Proofs.Paging.PageCount

/-!
# Requests that come to nothing

A commit links tables before it can meet an obstacle or run out of pages.  What it linked, it
takes back: afterwards the same pages are in use, with the same words in all tables.

Translation is unchanged even in tables that no history leads to, where more may be taken back
than was linked.
-/

namespace NestedVisor.Paging

namespace Slot

variable {b : Word} {target depth : Nat} {entry : Entry} {slot : Slot} {pool : PagePool}

theorem translate?_table_replaceSlot (a : Word) (level : Nat) (frame : Word)
    {slots : SlotIndex → Slot} {i : SlotIndex} {s : Slot}
    (same : translate? a (level - 1) s = translate? a (level - 1) (slots i)) :
    translate? a level (.table frame (replaceSlot slots i s)) =
      translate? a level (.table frame slots) := by
  rw [translate?, translate?]
  by_cases here : slotIndex a (level - 1) = i
  · rw [here, replaceSlot_self, same]
  · rw [replaceSlot_of_ne slots s here]

theorem translate?_prune (a : Word) (level : Nat) (slot : Slot) :
    translate? a level (prune b level slot).1 = translate? a level slot := by
  induction slot generalizing level with
  | empty => rfl
  | page old => rfl
  | table frame slots ih =>
      have kept := translate?_table_replaceSlot a level frame
        (ih (slotIndex b (level - 1)) (level - 1))
      rw [prune]
      dsimp only
      split
      · next none =>
          -- a table that holds nothing translates nothing
          rw [← kept, translate?, translate?, (allEmpty_iff _).1 none, translate?]
      · exact kept

theorem translate?_insert_of_error (a : Word) {obstacle : Obstacle}
    (failed : (insert b target entry depth slot pool).outcome = .error obstacle) :
    translate? a (target + depth) (insert b target entry depth slot pool).slot =
      translate? a (target + depth) slot := by
  induction depth generalizing slot pool with
  | zero =>
      cases slot with
      | table frame slots => rfl
      | empty => simp [insert] at failed
      | page old => simp [insert] at failed
  | succ depth ih =>
      cases slot with
      | page old => rfl
      | table frame slots => exact translate?_table_replaceSlot a _ frame (ih failed)
      | empty =>
          rw [insert] at failed ⊢
          cases grant : pool.allocate with
          | mk page? rest =>
              cases page? with
              | none => rfl
              | some frame =>
                  simp only [grant] at failed ⊢
                  refine (translate?_table_replaceSlot a _ frame (ih failed)).trans ?_
                  rw [translate?, translate?, translate?]

end Slot

namespace Ept

variable {e : Ept} {base : Word}

theorem translate?_replace (a : Word) {slot : Slot} {pool : PagePool}
    (same : slot.translate? a 4 = (e.slots (slotIndex base 4)).translate? a 4) :
    (e.replace base slot pool).translate? a = e.translate? a :=
  congrArg (fun found => if a.toNat < guestPhysicalLimit then found else none)
    (Slot.translate?_table_replaceSlot a 5 e.root same)

/-- What a commit comes to after its checks is what the walk comes to. -/
theorem outcome_commit {size : Granularity} {backing : Word} {type : MemoryType}
    (h : Acceptable base size backing type) :
    (e.commit base size backing type).outcome =
      (e.insertion base size backing type).outcome.mapError (Obstacle.fault base) := by
  cases result : (e.insertion base size backing type).outcome with
  | ok =>
      rw [commit_of_ok h result]
      rfl
  | error obstacle =>
      unfold insertion at result
      simp [commit, h.aligned, h.backingAligned, h.inRange, h.typed, result, Except.mapError]

/-- An uncommit that passes its checks succeeds, with or without a page to take away. -/
theorem outcome_uncommit {size : Granularity} (aligned : size.Aligned base)
    (inRange : base.toNat < guestPhysicalLimit) : (e.uncommit base size).outcome = .ok () := by
  cases leaf : e.leaf? base size with
  | none => rw [uncommit_of_none aligned inRange leaf]
  | some entry => rw [uncommit_of_some aligned inRange leaf]

theorem translate?_of_error (a : Word) {r : Request} {fault : PagingFault}
    (failed : (e.serve r).outcome = .error fault) :
    (e.serve r).ept.translate? a = e.translate? a := by
  cases refused : r.refusal? with
  | some fault => rw [serve_of_refusal refused]
  | none =>
      cases r with
      | uncommit base size =>
          obtain ⟨aligned, inRange⟩ := Request.refusal?_uncommit_eq_none_iff.1 refused
          cases failed.symm.trans (outcome_uncommit aligned inRange)
      | commit base size backing type =>
          have h := Request.refusal?_commit_eq_none_iff.1 refused
          have outcome := failed.symm.trans (outcome_commit h)
          cases result : (e.insertion base size backing type).outcome with
          | ok =>
              rw [result] at outcome
              cases outcome
          | error obstacle =>
              have linked := Slot.translate?_insert_of_error a result
              rw [leafLevel_add_depth] at linked
              have tables : (e.commit base size backing type).ept =
                  ((e.replace base (e.insertion base size backing type).slot
                    (e.insertion base size backing type).pool).prune base).1 := by
                unfold insertion at result
                simp [commit, h.aligned, h.backingAligned, h.inRange, h.typed, result, replace,
                  insertion]
              rw [serve, tables]
              exact (translate?_replace a (Slot.translate?_prune a 4 _)).trans
                (translate?_replace a linked)

end Ept

namespace Ept.Serves

variable {e : Ept} {r : Request} {c : Change}

theorem unchanged_of_error (h : e.Serves r c) {fault : PagingFault}
    (failed : c.outcome = .error fault) :
    c.ept.tree = e.tree ∧ c.ept.pool.live = e.pool.live := by
  cases h with
  | refused r fault => exact ⟨rfl, rfl⟩
  | stopped acceptable obstacle takes =>
      exact ⟨rfl, PagePool.live_freeAll_append _ _ takes.live⟩
  | committed => cases failed
  | absent => cases failed
  | uncommitted => cases failed

theorem unchanged_of_absent {s : Finset Mapping} (t : Tracks e s) {base : Word}
    {size : Granularity} (h : e.Serves (.uncommit base size) c)
    (absent : ∀ m ∈ s, ¬ (m.base = base ∧ m.size = size)) :
    c.ept.tree = e.tree ∧ c.ept.pool.live = e.pool.live := by
  cases h with
  | refused r fault => exact ⟨rfl, rfl⟩
  | absent none => exact ⟨rfl, rfl⟩
  | uncommitted aligned inRange mapped =>
      obtain ⟨m, hm, same⟩ := t.exists_of_mapped aligned inRange mapped
      exact absurd same (absent m hm)

end Ept.Serves

/--
A request that fails, and an uncommit without a mapping of its page and size, leave the pages in
use and every word of every table as they were.
-/
theorem History.unchanged {held : List Word} {e : Ept} {s : Finset Mapping}
    (h : History held e s) (r : Request)
    (idle : (∃ fault, (e.serve r).outcome = .error fault) ∨
      ∃ base size, r = .uncommit base size ∧ ∀ m ∈ s, ¬ (m.base = base ∧ m.size = size)) :
    (e.serve r).ept.pool.live = e.pool.live ∧ (e.serve r).ept.image = e.image := by
  have serves := h.tracks.wellFormed.serves r
  have same : (e.serve r).ept.tree = e.tree ∧ (e.serve r).ept.pool.live = e.pool.live := by
    rcases idle with ⟨fault, failed⟩ | ⟨base, size, rfl, absent⟩
    · exact serves.unchanged_of_error failed
    · exact serves.unchanged_of_absent h.tracks absent
  exact ⟨same.2, congrArg Slot.image same.1⟩

/-- The third page for a 4 KiB mapping is refused when two tables are already linked. -/
theorem History.unchanged_three_pages :
    ∃ e s, History [] e s ∧ tablesNeeded s 0x205000 .page4K = 3 ∧ e.pool.supplies 2 = true ∧
      (e.commit 0x205000 .page4K 0x7000 .writeBack).outcome = .error .outOfResources ∧
      (e.commit 0x205000 .page4K 0x7000 .writeBack).ept.pool.live = e.pool.live ∧
      (e.commit 0x205000 .page4K 0x7000 .writeBack).ept.image = e.image := by
  obtain ⟨e, h, two, three⟩ : ∃ e, History [] e ∅ ∧ e.pool.supplies 2 = true ∧
      e.pool.supplies (e.missing 0x205000 .page4K) = false :=
    ⟨_, History.ofRun 0x100000 3 (by decide) (by decide) (by decide), rfl, rfl⟩
  have acceptable : Acceptable 0x205000 .page4K 0x7000 .writeBack :=
    ⟨by decide, by decide, by decide, by decide⟩
  have lacking : (e.commit 0x205000 .page4K 0x7000 .writeBack).outcome =
      .error .outOfResources := by
    rcases h.tracks.commit_outcome acceptable with ⟨⟨m, hm, _⟩, _⟩ | ⟨_, _, lacking⟩ |
      ⟨_, enough, _⟩
    · exact absurd hm (Finset.notMem_empty m)
    · exact lacking
    · rw [three] at enough
      cases enough
  exact ⟨e, ∅, h, by decide, two, lacking,
    h.unchanged (.commit 0x205000 .page4K 0x7000 .writeBack) (.inl ⟨_, lacking⟩)⟩

end NestedVisor.Paging
