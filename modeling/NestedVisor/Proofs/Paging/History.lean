import Mathlib.Data.Finset.Insert
import NestedVisor.Proofs.Paging.Request

/-!
# Histories of an address space

A history starts with an empty address space over a pool that keeps its promise, and goes on with
requests in any order; between requests the pool may change what it supplies.  Beside the tables
it keeps the set of mappings that the successful requests add up to.  `Tracks` is the invariant:
what the tables read is what the set says.
-/

namespace NestedVisor.Paging

def Request.apply (s : Finset Mapping) : Request → Finset Mapping
  | .commit base size backing type =>
      insert ⟨base, size, backing.setWidth 52, type⟩ (without s base size)
  | .uncommit base size => without s base size

/-- A request that fails leaves the mappings alone. -/
def Request.settle (r : Request) (s : Finset Mapping) : Except PagingFault Unit → Finset Mapping
  | .ok () => r.apply s
  | .error _ => s

/--
The tables `e` and the mappings `s` after some row of requests to an address space that was made
from a pool of which the pages `held` were in use by others.
-/
inductive History (held : List Word) : Ept → Finset Mapping → Prop
  | created {pool rest : PagePool} {e : Ept} (honest : pool.Honest) (live : pool.live = held)
      (made : Ept.create pool = (.ok e, rest)) : History held e ∅
  | served {e : Ept} {s : Finset Mapping} (before : History held e s) (r : Request) :
      History held (e.serve r).ept (r.settle s (e.serve r).outcome)
  | resupplied {e : Ept} {s : Finset Mapping} (before : History held e s)
      (supply : Nat → List Word → Option Word)
      (honest : { e.pool with supply := supply }.Honest) :
      History held { e with pool := { e.pool with supply := supply } } s

theorem History.committed {held : List Word} {e : Ept} {s : Finset Mapping}
    (h : History held e s) (base : Word) (size : Granularity) (backing : Word)
    (type : MemoryType) (ok : (e.commit base size backing type).outcome = .ok ()) :
    History held (e.commit base size backing type).ept
      (insert ⟨base, size, backing.setWidth 52, type⟩ (without s base size)) := by
  have next := h.served (.commit base size backing type)
  rw [Ept.serve, ok] at next
  exact next

theorem History.ofRun (base : Word) (limit : Nat) (aligned : base.toNat % 4096 = 0)
    (bound : base.toNat + limit * 4096 ≤ 2 ^ 52) (room : 0 < limit) :
    History [] ⟨base, fun _ => .empty, ⟨(PagePool.ofRun base limit).supply, 1, [base]⟩⟩ ∅ := by
  have made : Ept.create (PagePool.ofRun base limit) =
      (.ok ⟨base, fun _ => .empty, ⟨(PagePool.ofRun base limit).supply, 1, [base]⟩⟩,
        ⟨(PagePool.ofRun base limit).supply, 1, [base]⟩) := by
    rw [Ept.create, PagePool.allocate_ofRun room]
  exact .created (PagePool.honest_ofRun aligned bound) rfl made

/-- The tables map the pages that the set lists, and no others. -/
structure Tracks (e : Ept) (s : Finset Mapping) : Prop where
  wellFormed : e.WellFormed
  valid : ∀ m ∈ s, m.Valid
  mapped : ∀ m ∈ s, e.leaf? m.base m.size = some m.entry
  listed : ∀ (a : Word) (size : Granularity) (entry : Entry), a.toNat < guestPhysicalLimit →
    e.leaf? a size = some entry → ∃ m ∈ s, m.size = size ∧ m.Covers a

namespace Tracks

variable {e : Ept} {s : Finset Mapping} {m n : Mapping} {a : Word}

/-! ## Readings of tracked tables -/

theorem leaf?_congr (e : Ept) {a b : Word} (ha : a.toNat < guestPhysicalLimit)
    (hb : b.toNat < guestPhysicalLimit) {size : Granularity}
    (same : pageNumber a (leafLevel size) = pageNumber b (leafLevel size)) :
    e.leaf? a size = e.leaf? b size := by
  have hle := Nat.le_trans (leafLevel_le size) (by decide : 3 ≤ 5)
  rw [← Ept.leaf?_tree, ← Ept.leaf?_tree]
  exact Slot.leaf?_congr hle
    ((samePath_iff_pageNumber_eq ha hb (leafLevel_pos size) hle).2 same)

theorem leaf?_of_covers (t : Tracks e s) (hm : m ∈ s) (covers : m.Covers a) :
    e.leaf? a m.size = some m.entry := by
  have valid := t.valid m hm
  rw [leaf?_congr e (valid.lt_limit covers) valid.inRange (valid.covers_iff.1 covers)]
  exact t.mapped m hm

theorem eq_of_covers (t : Tracks e s) (hm : m ∈ s) (hn : n ∈ s) (covers : m.Covers a)
    (covers' : n.Covers a) : m = n := by
  have first := t.leaf?_of_covers hm covers
  have second := t.leaf?_of_covers hn covers'
  have size := leafLevel_inj (Slot.leaf?_target_unique first second)
  have base : m.base = n.base := by
    have left := (t.valid m hm).covers_iff.1 covers
    have right := (t.valid n hn).covers_iff.1 covers'
    rw [← size] at right
    exact base_eq_of_pageNumber_eq (t.valid m hm).aligned (size ▸ (t.valid n hn).aligned)
      (left.symm.trans right)
  rw [← size, first] at second
  exact Mapping.eq_of_entry_eq (t.valid m hm) (t.valid n hn) base size (Option.some.inj second)

theorem translate?_of_covers (t : Tracks e s) (hm : m ∈ s) (covers : m.Covers a) :
    e.translate? a = some (m.physical a) := by
  rw [Ept.translate?, if_pos ((t.valid m hm).lt_limit covers),
    Slot.translate?_of_leaf? (t.leaf?_of_covers hm covers),
    (t.valid m hm).address_add_pageOffset covers]

theorem translate?_eq_none (t : Tracks e s) (bare : ∀ m ∈ s, ¬ m.Covers a) :
    e.translate? a = none := by
  rw [Ept.translate?]
  split
  · next ha =>
      rw [Option.eq_none_iff_forall_ne_some]
      intro x hx
      obtain ⟨size, entry, leaf⟩ := Slot.exists_leaf?_of_translate? (t.wellFormed _) hx
      obtain ⟨m, hm, _, covers⟩ := t.listed a size entry ha leaf
      exact bare m hm covers
  · rfl

theorem exists_of_leaf?_level (t : Tracks e s) (ha : a.toNat < guestPhysicalLimit) {level : Nat}
    {entry : Entry} (leaf : (e.slots (slotIndex a 4)).leaf? a level 4 = some entry) :
    ∃ m ∈ s, leafLevel m.size = level ∧ m.Covers a := by
  obtain ⟨size, entry', leaf'⟩ :=
    Slot.exists_leaf?_of_translate? (t.wellFormed _) (Slot.translate?_of_leaf? leaf)
  obtain ⟨m, hm, rfl, covers⟩ := t.listed a size entry' ha leaf'
  exact ⟨m, hm, Slot.leaf?_target_unique leaf' leaf, covers⟩

theorem exists_of_mapped (t : Tracks e s) {base : Word} {size : Granularity} {entry : Entry}
    (aligned : size.Aligned base) (inRange : base.toNat < guestPhysicalLimit)
    (mapped : e.leaf? base size = some entry) : ∃ m ∈ s, m.base = base ∧ m.size = size := by
  obtain ⟨m, hm, rfl, covers⟩ := t.listed base size entry inRange mapped
  have valid := t.valid m hm
  exact ⟨m, hm, (base_eq_of_pageNumber_eq aligned valid.aligned
    (valid.covers_iff.1 covers)).symm, rfl⟩

theorem without_eq_self (t : Tracks e s) {base : Word} {size : Granularity}
    (h : e.leaf? base size = none) : without s base size = s := by
  apply Finset.filter_true_of_mem
  rintro m hm ⟨rfl, rfl⟩
  rw [t.mapped m hm] at h
  cases h

/-! ## Every request keeps the invariant -/

theorem of_leaf?_eq {e' : Ept} (t : Tracks e s) (wf : e'.WellFormed)
    (same : ∀ a size, e'.leaf? a size = e.leaf? a size) : Tracks e' s where
  wellFormed := wf
  valid := t.valid
  mapped := fun m hm => (same _ _).trans (t.mapped m hm)
  listed := fun a size entry ha h => t.listed a size entry ha ((same a size).symm.trans h)

theorem mapped_of_mem_without (t : Tracks e s) {base : Word} {size : Granularity} {e' : Ept}
    {value : Option Entry} (aligned : size.Aligned base)
    (readings : ∀ a other, a.toNat < guestPhysicalLimit → e'.leaf? a other =
      if other = size ∧ pageNumber a (leafLevel size) = pageNumber base (leafLevel size) then
        value
      else e.leaf? a other)
    (hm : m ∈ without s base size) : e'.leaf? m.base m.size = some m.entry := by
  obtain ⟨hm, other⟩ := mem_without.1 hm
  have valid := t.valid m hm
  rw [readings _ _ valid.inRange, if_neg, t.mapped m hm]
  rintro ⟨rfl, same⟩
  exact other ⟨base_eq_of_pageNumber_eq valid.aligned aligned same, rfl⟩

theorem listed_of_leaf? (t : Tracks e s) {base : Word} {size other : Granularity}
    (aligned : size.Aligned base) {entry : Entry} (ha : a.toNat < guestPhysicalLimit)
    (outside : ¬ (other = size ∧
      pageNumber a (leafLevel size) = pageNumber base (leafLevel size)))
    (leaf : e.leaf? a other = some entry) :
    ∃ m ∈ without s base size, m.size = other ∧ m.Covers a := by
  obtain ⟨m, hm, rfl, covers⟩ := t.listed a other entry ha leaf
  refine ⟨m, mem_without.2 ⟨hm, ?_⟩, rfl, covers⟩
  rintro ⟨rfl, rfl⟩
  exact outside ⟨rfl, (holds_iff aligned a).1 covers⟩

theorem withdrawal (t : Tracks e s) {base : Word} {size : Granularity} {entry : Entry}
    (aligned : size.Aligned base) (inRange : base.toNat < guestPhysicalLimit)
    (mapped : e.leaf? base size = some entry) (pool : PagePool) :
    Tracks (e.replace base (e.withdrawal base size).1 pool) (without s base size) := by
  have readings := fun (a : Word) other (ha : a.toNat < guestPhysicalLimit) =>
    Ept.leaf?_withdrawal inRange mapped pool ha other
  constructor
  case wellFormed =>
    exact Ept.wellFormed_replace t.wellFormed (Ept.wellFormed_withdrawal t.wellFormed) pool
  case valid => exact fun m hm => t.valid m (mem_without.1 hm).1
  case mapped => exact fun m hm => t.mapped_of_mem_without aligned readings hm
  case listed =>
    intro a other found ha h
    rw [readings a other ha, Option.ite_none_left_eq_some] at h
    exact t.listed_of_leaf? aligned ha h.1 h.2

theorem insertion (t : Tracks e s) {base : Word} {size : Granularity} {backing : Word}
    {type : MemoryType} (h : Acceptable base size backing type)
    (ok : (e.insertion base size backing type).outcome = .ok ()) :
    Tracks (e.replace base (e.insertion base size backing type).slot
        (e.insertion base size backing type).pool)
      (insert ⟨base, size, backing.setWidth 52, type⟩ (without s base size)) := by
  have readings := fun (a : Word) other (ha : a.toNat < guestPhysicalLimit) =>
    Ept.leaf?_insertion h.inRange ok ha other
  constructor
  case wellFormed =>
    exact Ept.wellFormed_replace t.wellFormed (Ept.wellFormed_insertion t.wellFormed ok) _
  case valid =>
    intro m hm
    rcases Finset.mem_insert.1 hm with rfl | hm
    · exact h.valid
    · exact t.valid m (mem_without.1 hm).1
  case mapped =>
    intro m hm
    rcases Finset.mem_insert.1 hm with rfl | hm
    · rw [readings _ _ h.inRange, if_pos ⟨rfl, rfl⟩, Mapping.entry, Entry.toPage_setWidth]
    · exact t.mapped_of_mem_without h.aligned readings hm
  case listed =>
    intro a other found ha leaf
    rw [readings a other ha] at leaf
    split at leaf
    · next inside =>
        obtain ⟨rfl, same⟩ := inside
        exact ⟨_, Finset.mem_insert_self _ _, rfl, (holds_iff h.aligned a).2 same⟩
    · next outside =>
        obtain ⟨m, hm, rest⟩ := t.listed_of_leaf? h.aligned ha outside leaf
        exact ⟨m, Finset.mem_insert_of_mem hm, rest⟩

theorem of_serves (t : Tracks e s) {r : Request} {c : Change} (h : e.Serves r c) :
    Tracks c.ept (r.settle s c.outcome) := by
  cases h with
  | refused r fault => exact t
  | committed acceptable ok => exact t.insertion acceptable ok
  | stopped => exact t.of_leaf?_eq t.wellFormed fun _ _ => rfl
  | absent none =>
      rw [Request.settle, Request.apply, t.without_eq_self none]
      exact t
  | uncommitted aligned inRange mapped => exact t.withdrawal aligned inRange mapped _

end Tracks

theorem Ept.create_eq_ok {pool rest : PagePool} {e : Ept} (h : Ept.create pool = (.ok e, rest)) :
    ∃ page, pool.allocate = (some page, rest) ∧ e = ⟨page, fun _ => .empty, rest⟩ := by
  unfold create at h
  cases grant : pool.allocate with
  | mk page? left =>
      cases page? with
      | none => simp [grant] at h
      | some page =>
          simp only [grant, Prod.mk.injEq, Except.ok.injEq] at h
          obtain ⟨rfl, rfl⟩ := h
          exact ⟨page, rfl, rfl⟩

theorem History.tracks {held : List Word} {e : Ept} {s : Finset Mapping} (h : History held e s) :
    Tracks e s := by
  induction h with
  | created honest live made =>
      obtain ⟨page, _, rfl⟩ := Ept.create_eq_ok made
      exact ⟨fun _ => .empty _, by simp, by simp, fun a size entry _ h => by cases h⟩
  | served before r ih => exact ih.of_serves (ih.wellFormed.serves r)
  | resupplied before supply honest ih => exact ih.of_leaf?_eq ih.wellFormed fun _ _ => rfl

end NestedVisor.Paging
