import NestedVisor.Proofs.Paging.Frames
import NestedVisor.Proofs.Paging.History

/-!
# Accounting of pages

Every request is balanced: the pages it takes from the pool and the tables before it are the
pages it gives back and the tables after it.  So the pages in use stay the tables of the tree,
each once, next to those that others hold.
-/

namespace NestedVisor.Paging

namespace Ept

variable {e : Ept} {base : Word} {size : Granularity} {backing : Word} {type : MemoryType}

def missing (e : Ept) (base : Word) (size : Granularity) : Nat :=
  Slot.missing base (leafLevel size) (4 - leafLevel size) (e.slots (slotIndex base 4))

theorem insertion_exhausted_iff :
    (e.insertion base size backing type).outcome = .error .exhausted ↔
      e.pool.supplies (e.missing base size) = false :=
  Slot.insert_exhausted_iff

theorem insertion_takes (ok : (e.insertion base size backing type).outcome = .ok ())
    (pool : PagePool) :
    ∃ taken, e.pool.Takes taken (e.insertion base size backing type).pool ∧
      (e.replace base (e.insertion base size backing type).slot pool).tree.frames.Perm
        (taken ++ e.tree.frames) ∧
      taken.length = e.missing base size := by
  obtain ⟨taken, takes, perm, length⟩ := Slot.insert_takes ok
  exact ⟨taken, takes, Slot.frames_replaceSlot_of_more e.root perm, length⟩

theorem withdrawal_releases {entry : Entry} (mapped : e.leaf? base size = some entry)
    (pool : PagePool) :
    ((e.withdrawal base size).2 ++
        (e.replace base (e.withdrawal base size).1 pool).tree.frames).Perm e.tree.frames ∧
      (e.withdrawal base size).2.length =
        (e.replace base (e.withdrawal base size).1 pool).missing base size := by
  obtain ⟨perm, length⟩ := Slot.withdraw_releases ((e.leaf?_slot base size).trans mapped)
  refine ⟨Slot.frames_replaceSlot_of_less e.root perm, ?_⟩
  simp only [missing, replace, replaceSlot_self]
  exact length

end Ept

/--
The pool's part in a change from `e` to `c.ept`: it hands out `taken`, then gets the released
pages back while they are in use, and the tables differ by just these pages.
-/
structure Balanced (e : Ept) (c : Change) (taken : List Word) (between : PagePool) : Prop where
  takes : e.pool.Takes taken between
  frees : between.Frees c.released c.ept.pool
  tables : (c.released ++ c.ept.tree.frames).Perm (taken ++ e.tree.frames)

theorem Balanced.of_released {e : Ept} {c : Change} {taken released : List Word}
    {between : PagePool} (h : c.released = released) (takes : e.pool.Takes taken between)
    (frees : between.Frees released c.ept.pool)
    (tables : (released ++ c.ept.tree.frames).Perm (taken ++ e.tree.frames)) :
    Balanced e c taken between := by
  subst h
  exact ⟨takes, frees, tables⟩

/-- The pages in use are the tables of the tree and those in use by others. -/
structure Accounts (held : List Word) (e : Ept) : Prop where
  honest : e.pool.Honest
  live : e.pool.live.Perm (e.tree.frames ++ held)
  nodup : e.tree.frames.Nodup
  fresh : ∀ page ∈ e.tree.frames, PagePool.Fresh held page

namespace Accounts

variable {held : List Word} {e : Ept}

theorem balanced (a : Accounts held e) {r : Request} {c : Change} (h : e.Serves r c) :
    ∃ taken between, Balanced e c taken between := by
  cases h with
  | refused r fault =>
      exact ⟨[], e.pool, .of_released rfl (.nothing _) (.nothing _) (.refl _)⟩
  | absent none =>
      exact ⟨[], e.pool, .of_released rfl (.nothing _) (.nothing _) (.refl _)⟩
  | @committed base size backing type acceptable ok =>
      obtain ⟨taken, takes, tables, _⟩ :=
        Ept.insertion_takes ok (e.insertion base size backing type).pool
      refine ⟨taken, _, @Balanced.of_released e _ taken [] _ rfl takes (.nothing _) ?_⟩
      rw [List.nil_append]
      exact tables
  | @stopped base size backing type obstacle taken between acceptable failed takes =>
      have used : between.live.Perm (taken.reverse ++ e.pool.live) := .of_eq takes.live
      refine ⟨taken, between, .of_released ?_ takes (PagePool.frees_freeAll used)
        ((List.reverse_perm taken).append_right _)⟩
      rw [Change.released]
      cases obstacle <;> simp [Obstacle.notes]
  | @uncommitted base size entry aligned inRange mapped =>
      have tables := (Ept.withdrawal_releases mapped
        (e.pool.freeAll (e.withdrawal base size).2)).1
      have used := a.live.trans (tables.symm.append_right held)
      rw [List.append_assoc] at used
      refine ⟨[], e.pool, .of_released ?_ (.nothing _) (PagePool.frees_freeAll used) ?_⟩
      · rw [Change.released, List.filterMap_append, filterMap_released]
        exact List.append_nil _
      · rw [List.nil_append]
        exact tables

theorem apart (a : Accounts held e) {taken : List Word} {between : PagePool}
    (takes : e.pool.Takes taken between) :
    ∀ page ∈ taken, page ∉ e.tree.frames ∧ PagePool.Fresh held page := by
  intro page h
  obtain ⟨unused, usable⟩ := (takes.fresh a.honest).2 page h
  rw [a.live.mem_iff, List.mem_append, not_or] at unused
  exact ⟨unused.1, unused.2, usable⟩

theorem nodup_taken (a : Accounts held e) {taken : List Word} {between : PagePool}
    (takes : e.pool.Takes taken between) : (taken ++ e.tree.frames).Nodup := by
  refine List.nodup_append.2 ⟨(takes.fresh a.honest).1, a.nodup, ?_⟩
  intro page h other h' same
  exact (a.apart takes page h).1 (same ▸ h')

theorem of_balanced (a : Accounts held e) {c : Change} {taken : List Word} {between : PagePool}
    (b : Balanced e c taken between) : Accounts held c.ept := by
  constructor
  case honest => exact a.honest.of_supply_eq (b.frees.supply.trans b.takes.supply)
  case live =>
    have := b.frees.live
    rw [b.takes.live] at this
    have flow := (this.symm.trans ((List.reverse_perm taken).append a.live)).trans
      (.of_eq (List.append_assoc _ _ _).symm)
    have := flow.trans (b.tables.symm.append_right held)
    rw [List.append_assoc] at this
    exact (List.perm_append_left_iff _).1 this
  case nodup =>
    exact (List.nodup_append.1 (b.tables.nodup_iff.2 (a.nodup_taken b.takes))).2.1
  case fresh =>
    intro page h
    have := b.tables.mem_iff.1 (List.mem_append_right _ h)
    rcases List.mem_append.1 this with h | h
    · exact (a.apart b.takes page h).2
    · exact a.fresh page h

end Accounts

theorem History.accounts {held : List Word} {e : Ept} {s : Finset Mapping}
    (h : History held e s) : Accounts held e := by
  induction h with
  | created honest live made =>
      obtain ⟨page, grant, rfl⟩ := Ept.create_eq_ok made
      obtain ⟨offer, supply, taken⟩ := PagePool.allocate_eq_some grant
      have frames (pool : PagePool) :
          (Ept.tree ⟨page, fun _ => .empty, pool⟩).frames = [page] :=
        Slot.frames_table_of_allEmpty page Slot.allEmpty_empty
      refine ⟨honest.of_supply_eq supply, ?_, ?_, ?_⟩
      · rw [frames, taken, live]
        exact .refl _
      · rw [frames]
        exact List.nodup_singleton page
      · rw [frames, ← live]
        intro other h
        rw [List.mem_singleton.1 h]
        exact honest _ _ _ offer
  | served before r ih =>
      obtain ⟨taken, between, balanced⟩ := ih.balanced (before.tracks.wellFormed.serves r)
      exact ih.of_balanced balanced
  | resupplied before supply honest ih => exact ⟨honest, ih.live, ih.nodup, ih.fresh⟩

end NestedVisor.Paging
