import Mathlib.Algebra.Group.Nat.Defs
import NestedVisor.Paging.Pool

/-!
# Taking pages from a pool and giving them back

`Honest` is what the page tables rely on: a page that is handed out is in use nowhere else.
`Takes` and `Frees` follow a pool through a row of requests and a row of returns.  Every return
that `Frees` admits is of a page in use at that moment, so that a page given back twice, or never
taken, has no place in it.
-/

namespace NestedVisor.Paging.PagePool

variable {p q r : PagePool} {page : Word} {pages : List Word}

theorem allocate_eq_none (h : p.allocate = (none, q)) :
    p.supply p.requests p.live = none ∧ q.supply = p.supply ∧ q.live = p.live := by
  unfold allocate at h
  split at h
  · cases h
    exact ⟨‹_›, rfl, rfl⟩
  · cases h

theorem allocate_eq_some (h : p.allocate = (some page, q)) :
    p.supply p.requests p.live = some page ∧ q.supply = p.supply ∧ q.live = page :: p.live := by
  unfold allocate at h
  split at h
  · cases h
  · cases h
    exact ⟨‹_›, rfl, rfl⟩

def Fresh (live : List Word) (page : Word) : Prop :=
  page ∉ live ∧ page.toNat % 4096 = 0 ∧ page.toNat < 2 ^ 52

/-- Only unused, 4 KiB aligned pages below `2 ^ 52` are handed out. -/
def Honest (p : PagePool) : Prop :=
  ∀ n live page, p.supply n live = some page → Fresh live page

theorem Honest.of_supply_eq (honest : p.Honest) (h : q.supply = p.supply) : q.Honest := by
  unfold Honest
  rw [h]
  exact honest

theorem toNat_pageAt (base : Word) (i : Nat) (h : base.toNat + i * 4096 < 2 ^ 52) :
    (pageAt base i).toNat = base.toNat + i * 4096 := by
  rw [pageAt, BitVec.toNat_add, BitVec.toNat_ofNat]
  omega

theorem honest_ofRun {base : Word} {limit : Nat} (aligned : base.toNat % 4096 = 0)
    (bound : base.toNat + limit * 4096 ≤ 2 ^ 52) : (ofRun base limit).Honest := by
  intro n live page offer
  change lowestFree base limit live = some page at offer
  unfold lowestFree at offer
  split at offer
  · next room =>
      obtain ⟨i, hi, free⟩ := List.exists_of_findSome?_eq_some offer
      rw [List.mem_range] at hi
      split at free
      · cases free
      · next unused =>
          cases free
          have number := toNat_pageAt base i (by omega)
          refine ⟨unused, ?_, ?_⟩ <;> omega
  · cases offer

theorem allocate_ofRun {base : Word} {limit : Nat} (room : 0 < limit) :
    (ofRun base limit).allocate =
      (some base, ⟨(ofRun base limit).supply, 1, [base]⟩) := by
  have first : lowestFree base limit [] = some base := by
    simp [lowestFree, room, pageAt]
  unfold allocate
  simp [ofRun, first]

/-! ## Taking -/

/-- Requests to `p` handed out `pages`, in this order, and left `q`. -/
inductive Takes : PagePool → List Word → PagePool → Prop
  | nothing (p : PagePool) : Takes p [] p
  | page {p q r : PagePool} {page : Word} {pages : List Word} :
      p.allocate = (some page, q) → Takes q pages r → Takes p (page :: pages) r
  | refused {p q r : PagePool} {pages : List Word} :
      p.allocate = (none, q) → Takes q pages r → Takes p pages r

theorem Takes.live (h : Takes p pages q) : q.live = pages.reverse ++ p.live := by
  induction h with
  | nothing p => rfl
  | page grant _ ih =>
      rw [ih, (allocate_eq_some grant).2.2]
      simp
  | refused refusal _ ih => rw [ih, (allocate_eq_none refusal).2.2]

theorem Takes.supply (h : Takes p pages q) : q.supply = p.supply := by
  induction h with
  | nothing p => rfl
  | page grant _ ih => rw [ih, (allocate_eq_some grant).2.1]
  | refused refusal _ ih => rw [ih, (allocate_eq_none refusal).2.1]

theorem Takes.fresh (h : Takes p pages q) (honest : p.Honest) :
    pages.Nodup ∧ ∀ page ∈ pages, Fresh p.live page := by
  induction h with
  | nothing p => simp
  | page grant _ ih =>
      obtain ⟨offer, supply, live⟩ := allocate_eq_some grant
      obtain ⟨nodup, fresh⟩ := ih (honest.of_supply_eq supply)
      rw [live] at fresh
      constructor
      · exact List.nodup_cons.2 ⟨fun h => (fresh _ h).1 (by simp), nodup⟩
      · intro other h
        rcases List.mem_cons.1 h with rfl | h
        · exact honest _ _ _ offer
        · exact ⟨fun h' => (fresh _ h).1 (List.mem_cons_of_mem _ h'), (fresh _ h).2⟩
  | refused refusal _ ih =>
      obtain ⟨_, supply, live⟩ := allocate_eq_none refusal
      rw [← live]
      exact ih (honest.of_supply_eq supply)

/-- Whether the next `n` requests are all granted. -/
def supplies : Nat → PagePool → Bool
  | 0, _ => true
  | n + 1, p =>
      match p.allocate with
      | (none, _) => false
      | (some _, q) => supplies n q

/-! ## Giving back -/

/-- `p` got `pages` back, in this order and each while it was in use, and `q` is left. -/
inductive Frees : PagePool → List Word → PagePool → Prop
  | nothing (p : PagePool) : Frees p [] p
  | page {p q : PagePool} {page : Word} {pages : List Word} :
      page ∈ p.live → Frees (p.free page) pages q → Frees p (page :: pages) q

theorem Frees.live (h : Frees p pages q) : p.live.Perm (pages ++ q.live) := by
  induction h with
  | nothing p => rfl
  | page used _ ih => exact (List.perm_cons_erase used).trans (ih.cons _)

theorem Frees.supply (h : Frees p pages q) : q.supply = p.supply := by
  induction h with
  | nothing p => rfl
  | page used _ ih => exact ih

theorem frees_freeAll {rest : List Word} (h : p.live.Perm (pages ++ rest)) :
    p.Frees pages (p.freeAll pages) := by
  induction pages generalizing p with
  | nil => exact .nothing p
  | cons page pages ih =>
      refine .page (h.mem_iff.2 (by simp)) (ih ?_)
      have := h.erase page
      rwa [List.cons_append, List.erase_cons_head] at this

theorem live_freeAll_append (pages rest : List Word) (h : p.live = pages ++ rest) :
    (p.freeAll pages).live = rest := by
  induction pages generalizing p with
  | nil => exact h
  | cons page pages ih =>
      apply ih
      rw [live_free, h, List.cons_append, List.erase_cons_head]

end NestedVisor.Paging.PagePool
