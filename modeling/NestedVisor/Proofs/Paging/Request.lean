import NestedVisor.Proofs.Paging.Mapping
import NestedVisor.Proofs.Paging.Update

/-!
# Requests to the page tables

`Serves` lists the ways in which a commit or an uncommit can end: refused before the walk, carried
out, without a mapping to take away, or stopped by an obstacle and taken back.  Later modules do
not look into `commit` and `uncommit`.
-/

namespace NestedVisor.Paging

inductive Request where
  | commit (base : Word) (size : Granularity) (backing : Word) (type : MemoryType)
  | uncommit (base : Word) (size : Granularity)
  deriving DecidableEq, Repr

/-- The checks that a commit makes before it walks the tables. -/
structure Acceptable (base : Word) (size : Granularity) (backing : Word) (type : MemoryType) :
    Prop where
  aligned : size.Aligned base
  backingAligned : size.Aligned backing
  inRange : base.toNat < guestPhysicalLimit
  typed : type ≠ .unspecified

theorem Acceptable.valid {base : Word} {size : Granularity} {backing : Word} {type : MemoryType}
    (h : Acceptable base size backing type) :
    Mapping.Valid ⟨base, size, backing.setWidth 52, type⟩ := by
  refine ⟨h.aligned, h.inRange, ?_, h.typed⟩
  have := (Granularity.aligned_iff _ _).1 h.backingAligned
  rw [Granularity.aligned_iff]
  cases size <;> simp [Granularity.bits] at this ⊢ <;> omega

/-- Why a request is refused, whatever is mapped. -/
def Request.refusal? : Request → Option PagingFault
  | .commit base size backing type =>
      if ¬ size.Aligned base then some (.misaligned base)
      else if ¬ size.Aligned backing then some (.misaligned backing)
      else if ¬ base.toNat < guestPhysicalLimit then some (.outOfRange base)
      else if type = .unspecified then some (.invalidMemoryType type.code)
      else none
  | .uncommit base size =>
      if ¬ size.Aligned base then some (.misaligned base)
      else if ¬ base.toNat < guestPhysicalLimit then some (.outOfRange base)
      else none

theorem Request.refusal?_commit_eq_none_iff {base : Word} {size : Granularity} {backing : Word}
    {type : MemoryType} :
    (commit base size backing type).refusal? = none ↔ Acceptable base size backing type := by
  simp only [refusal?, ite_eq_iff, reduceCtorEq, and_false, false_or, not_not, and_true]
  exact ⟨fun ⟨aligned, backingAligned, inRange, typed⟩ => ⟨aligned, backingAligned, inRange, typed⟩,
    fun h => ⟨h.aligned, h.backingAligned, h.inRange, h.typed⟩⟩

theorem Request.refusal?_uncommit_eq_none_iff {base : Word} {size : Granularity} :
    (uncommit base size).refusal? = none ↔
      size.Aligned base ∧ base.toNat < guestPhysicalLimit := by
  simp only [refusal?, ite_eq_iff, reduceCtorEq, and_false, false_or, not_not, and_true]

def Change.released (c : Change) : List Word :=
  c.notes.filterMap fun
    | .released frame => some frame
    | _ => none

theorem filterMap_released (pages : List Word) :
    (pages.map Note.released).filterMap (fun
      | .released frame => some frame
      | _ => none) = pages := by
  induction pages with
  | nil => rfl
  | cons page pages ih =>
      rw [List.map_cons, List.filterMap_cons, ih]

namespace Ept

variable {e : Ept} {base : Word} {size : Granularity} {backing : Word} {type : MemoryType}

def serve (e : Ept) : Request → Change
  | .commit base size backing type => e.commit base size backing type
  | .uncommit base size => e.uncommit base size

theorem serve_of_refusal {r : Request} {fault : PagingFault}
    (h : r.refusal? = some fault) : e.serve r = ⟨e, .error fault, []⟩ := by
  cases r with
  | commit base size backing type =>
      simp only [Request.refusal?] at h
      rw [serve, commit]
      split_ifs at h with misaligned backingMisaligned outOfRange untyped
      all_goals
        cases h
        simp [*]
  | uncommit base size =>
      simp only [Request.refusal?] at h
      rw [serve, uncommit]
      split_ifs at h with misaligned outOfRange
      all_goals
        cases h
        simp [*]

/-- Every slot of the root table is well formed; the root alone may be empty. -/
def WellFormed (e : Ept) : Prop :=
  ∀ i, (e.slots i).WellFormed 4

/-! ## The slot of the root on the path of an address -/

theorem leafLevel_add_depth (size : Granularity) : leafLevel size + (4 - leafLevel size) = 4 := by
  cases size <;> rfl

theorem WellFormed.slot (wf : e.WellFormed) (base : Word) (size : Granularity) :
    (e.slots (slotIndex base 4)).WellFormed (leafLevel size + (4 - leafLevel size)) := by
  rw [leafLevel_add_depth]
  exact wf _

theorem leaf?_slot (e : Ept) (base : Word) (size : Granularity) :
    (e.slots (slotIndex base 4)).leaf? base (leafLevel size)
      (leafLevel size + (4 - leafLevel size)) = e.leaf? base size := by
  rw [leafLevel_add_depth, leaf?]

def insertion (e : Ept) (base : Word) (size : Granularity) (backing : Word) (type : MemoryType) :
    Slot.Insertion :=
  (e.slots (slotIndex base 4)).insert base (leafLevel size)
    (.toPage backing type (leafLevel size > 1)) (4 - leafLevel size) e.pool

def withdrawal (e : Ept) (base : Word) (size : Granularity) : Slot × List Word :=
  (e.slots (slotIndex base 4)).withdraw base (leafLevel size) (4 - leafLevel size)

def replace (e : Ept) (base : Word) (slot : Slot) (pool : PagePool) : Ept :=
  { e with slots := replaceSlot e.slots (slotIndex base 4) slot, pool }

/-! ## Commit -/

theorem commit_of_not_acceptable (h : ¬ Acceptable base size backing type) :
    ∃ fault, e.commit base size backing type = ⟨e, .error fault, []⟩ := by
  obtain ⟨fault, refused⟩ :=
    Option.ne_none_iff_exists'.1 (mt Request.refusal?_commit_eq_none_iff.1 h)
  exact ⟨fault, serve_of_refusal refused⟩

theorem commit_of_ok (h : Acceptable base size backing type)
    (ok : (e.insertion base size backing type).outcome = .ok ()) :
    e.commit base size backing type =
      ⟨e.replace base (e.insertion base size backing type).slot
          (e.insertion base size backing type).pool,
        .ok (), [.committing base backing size type]⟩ := by
  unfold insertion at ok
  simp [commit, h.aligned, h.backingAligned, h.inRange, h.typed, ok, replace, insertion]

theorem acceptable_of_commit_ok (ok : (e.commit base size backing type).outcome = .ok ()) :
    Acceptable base size backing type ∧
      (e.insertion base size backing type).outcome = .ok () := by
  by_cases h : Acceptable base size backing type
  · refine ⟨h, ?_⟩
    cases result : (e.insertion base size backing type).outcome with
    | ok => rfl
    | error obstacle =>
        unfold insertion at result
        simp only [gt_iff_lt] at result
        simp [commit, h.aligned, h.backingAligned, h.inRange, h.typed, result] at ok
  · obtain ⟨fault, refused⟩ := commit_of_not_acceptable (e := e) h
    rw [refused] at ok
    cases ok

/-- A commit that meets an obstacle gives back what it took and leaves the tables alone. -/
theorem commit_of_obstacle (wf : e.WellFormed) (h : Acceptable base size backing type)
    {obstacle : Obstacle}
    (failed : (e.insertion base size backing type).outcome = .error obstacle) :
    ∃ taken between, e.pool.Takes taken between ∧
      e.commit base size backing type =
        ⟨{ e with pool := between.freeAll taken.reverse }, .error (obstacle.fault base),
          .committing base backing size type :: obstacle.notes base ++
            taken.reverse.map .released⟩ := by
  obtain ⟨taken, takes, pruned⟩ := Slot.prune_insert_of_error (wf.slot base size) failed
  rw [leafLevel_add_depth] at pruned
  refine ⟨taken, _, takes, ?_⟩
  unfold insertion at failed
  simp only [gt_iff_lt] at failed pruned ⊢
  simp [commit, h.aligned, h.backingAligned, h.inRange, h.typed, failed, prune, pruned,
    replaceSlot_eq_self]

/-! ## Uncommit -/

theorem uncommit_of_refused (h : ¬ (size.Aligned base ∧ base.toNat < guestPhysicalLimit)) :
    ∃ fault, e.uncommit base size = ⟨e, .error fault, []⟩ := by
  obtain ⟨fault, refused⟩ :=
    Option.ne_none_iff_exists'.1 (mt Request.refusal?_uncommit_eq_none_iff.1 h)
  exact ⟨fault, serve_of_refusal refused⟩

theorem uncommit_of_none (aligned : size.Aligned base)
    (inRange : base.toNat < guestPhysicalLimit) (h : e.leaf? base size = none) :
    e.uncommit base size = ⟨e, .ok (), [.notCommitted base size]⟩ := by
  simp [uncommit, aligned, inRange, h]

theorem uncommit_of_some (aligned : size.Aligned base)
    (inRange : base.toNat < guestPhysicalLimit) {entry : Entry}
    (h : e.leaf? base size = some entry) :
    e.uncommit base size =
      ⟨e.replace base (e.withdrawal base size).1 (e.pool.freeAll (e.withdrawal base size).2),
        .ok (), (e.withdrawal base size).2.map .released ++ [.uncommitted base size]⟩ := by
  have level := leafLevel_add_depth size
  simp [uncommit, aligned, inRange, h, prune, replace, withdrawal, Slot.withdraw, level]

/-! ## The ways in which a request ends -/

/-- What a request to `e` can come to. -/
inductive Serves (e : Ept) : Request → Change → Prop
  | refused (r : Request) (fault : PagingFault) : Serves e r ⟨e, .error fault, []⟩
  | committed {base : Word} {size : Granularity} {backing : Word} {type : MemoryType}
      (acceptable : Acceptable base size backing type)
      (ok : (e.insertion base size backing type).outcome = .ok ()) :
      Serves e (.commit base size backing type)
        ⟨e.replace base (e.insertion base size backing type).slot
            (e.insertion base size backing type).pool,
          .ok (), [.committing base backing size type]⟩
  | stopped {base : Word} {size : Granularity} {backing : Word} {type : MemoryType}
      {obstacle : Obstacle} {taken : List Word} {between : PagePool}
      (acceptable : Acceptable base size backing type)
      (failed : (e.insertion base size backing type).outcome = .error obstacle)
      (takes : e.pool.Takes taken between) :
      Serves e (.commit base size backing type)
        ⟨{ e with pool := between.freeAll taken.reverse }, .error (obstacle.fault base),
          .committing base backing size type :: obstacle.notes base ++
            taken.reverse.map .released⟩
  | absent {base : Word} {size : Granularity} (none : e.leaf? base size = none) :
      Serves e (.uncommit base size) ⟨e, .ok (), [.notCommitted base size]⟩
  | uncommitted {base : Word} {size : Granularity} {entry : Entry}
      (aligned : size.Aligned base) (inRange : base.toNat < guestPhysicalLimit)
      (mapped : e.leaf? base size = some entry) :
      Serves e (.uncommit base size)
        ⟨e.replace base (e.withdrawal base size).1 (e.pool.freeAll (e.withdrawal base size).2),
          .ok (), (e.withdrawal base size).2.map .released ++ [.uncommitted base size]⟩

theorem WellFormed.serves (wf : e.WellFormed) (r : Request) : e.Serves r (e.serve r) := by
  cases r with
  | commit base size backing type =>
      rw [serve]
      by_cases h : Acceptable base size backing type
      · cases result : (e.insertion base size backing type).outcome with
        | ok =>
            rw [commit_of_ok h result]
            exact .committed h result
        | error obstacle =>
            obtain ⟨taken, between, takes, restored⟩ := commit_of_obstacle wf h result
            rw [restored]
            exact .stopped h result takes
      · obtain ⟨fault, refused⟩ := commit_of_not_acceptable (e := e) h
        rw [refused]
        exact .refused _ fault
  | uncommit base size =>
      rw [serve]
      by_cases h : size.Aligned base ∧ base.toNat < guestPhysicalLimit
      · cases leaf : e.leaf? base size with
        | none =>
            rw [uncommit_of_none h.1 h.2 leaf]
            exact .absent leaf
        | some entry =>
            rw [uncommit_of_some h.1 h.2 leaf]
            exact .uncommitted h.1 h.2 leaf
      · obtain ⟨fault, refused⟩ := uncommit_of_refused (e := e) h
        rw [refused]
        exact .refused _ fault

/-! ## Readings after a request -/

theorem leaf?_tree (e : Ept) (address : Word) (size : Granularity) :
    e.tree.leaf? address (leafLevel size) 5 = e.leaf? address size := by
  have := leafLevel_le size
  rw [tree, Slot.leaf?, if_neg (by omega)]
  rfl

theorem leaf?_replace {address : Word} {slot : Slot} {pool : PagePool} {value : Option Entry}
    {other : Granularity} (ha : address.toNat < guestPhysicalLimit)
    (hb : base.toNat < guestPhysicalLimit)
    (below : slot.leaf? address (leafLevel other) 4 =
      if leafLevel other = leafLevel size ∧ SamePath address base (leafLevel size) 4 then value
      else (e.slots (slotIndex base 4)).leaf? address (leafLevel other) 4) :
    (e.replace base slot pool).leaf? address other =
      if other = size ∧
          pageNumber address (leafLevel size) = pageNumber base (leafLevel size) then value
      else e.leaf? address other := by
  have whole := Slot.leaf?_table_replaceSlot e.root
    (Nat.le_trans (leafLevel_le size) (by decide : 3 ≤ 4)) below
  have path := samePath_iff_pageNumber_eq ha hb (leafLevel_pos size)
    (Nat.le_trans (leafLevel_le size) (by decide : 3 ≤ 5))
  have level : leafLevel other = leafLevel size ↔ other = size :=
    ⟨leafLevel_inj, congrArg leafLevel⟩
  simp only [path, level] at whole
  rw [← leaf?_tree, ← leaf?_tree]
  exact whole

theorem leaf?_insertion (inRange : base.toNat < guestPhysicalLimit)
    (ok : (e.insertion base size backing type).outcome = .ok ()) {address : Word}
    (ha : address.toNat < guestPhysicalLimit) (other : Granularity) :
    (e.replace base (e.insertion base size backing type).slot
        (e.insertion base size backing type).pool).leaf? address other =
      if other = size ∧
          pageNumber address (leafLevel size) = pageNumber base (leafLevel size) then
        some (.toPage backing type (leafLevel size > 1))
      else e.leaf? address other := by
  have below := Slot.leaf?_insert (a := address) ok (leafLevel other)
  rw [leafLevel_add_depth] at below
  exact leaf?_replace ha inRange below

theorem leaf?_of_commit_ok (ok : (e.commit base size backing type).outcome = .ok ())
    {address : Word} (ha : address.toNat < guestPhysicalLimit) (other : Granularity) :
    (e.commit base size backing type).ept.leaf? address other =
      if other = size ∧ size.Holds base address then
        some (.toPage backing type (leafLevel size > 1))
      else e.leaf? address other := by
  obtain ⟨h, inserted⟩ := acceptable_of_commit_ok ok
  simp only [commit_of_ok h inserted, leaf?_insertion h.inRange inserted ha, holds_iff h.aligned]

/-- A page that was committed translates to its backing, without the bits above bit 51. -/
theorem translate?_of_commit_ok (ok : (e.commit base size backing type).outcome = .ok ())
    {address : Word} (inside : size.Holds base address) :
    (e.commit base size backing type).ept.translate? address =
      some ((backing.setWidth 52).setWidth 64 + (address - base)) := by
  obtain ⟨h, inserted⟩ := acceptable_of_commit_ok ok
  have ha := lt_limit_of_holds h.aligned h.inRange inside
  have leaf := leaf?_insertion h.inRange inserted ha size
  rw [if_pos ⟨rfl, (holds_iff h.aligned address).1 inside⟩, ← Entry.toPage_setWidth] at leaf
  rw [commit_of_ok h inserted, translate?, if_pos ha, Slot.translate?_of_leaf? leaf]
  exact congrArg some (h.valid.address_add_pageOffset inside)

theorem leaf?_withdrawal (inRange : base.toNat < guestPhysicalLimit) {entry : Entry}
    (mapped : e.leaf? base size = some entry) (pool : PagePool) {address : Word}
    (ha : address.toNat < guestPhysicalLimit) (other : Granularity) :
    (e.replace base (e.withdrawal base size).1 pool).leaf? address other =
      if other = size ∧
          pageNumber address (leafLevel size) = pageNumber base (leafLevel size) then none
      else e.leaf? address other := by
  have below := Slot.leaf?_withdraw (a := address) ((e.leaf?_slot base size).trans mapped)
    (leafLevel other)
  rw [leafLevel_add_depth] at below
  exact leaf?_replace ha inRange below

/-! ## The shape after a request -/

theorem wellFormed_replace (wf : e.WellFormed) {slot : Slot} (hs : slot.WellFormed 4)
    (pool : PagePool) : (e.replace base slot pool).WellFormed :=
  Slot.wellFormed_replaceSlot wf hs

theorem wellFormed_toPage (backing : Word) (type : MemoryType) (size : Granularity) :
    (Slot.page (.toPage backing type (leafLevel size > 1))).WellFormed (leafLevel size) :=
  .page (leafLevel_pos size) (leafLevel_le size) (Entry.present_toPage _ _ _)
    (Entry.large_toPage _ _ _)

theorem wellFormed_insertion (wf : e.WellFormed)
    (ok : (e.insertion base size backing type).outcome = .ok ()) :
    (e.insertion base size backing type).slot.WellFormed 4 := by
  have below := Slot.wellFormed_insert ok (wellFormed_toPage backing type size) (wf.slot base size)
  rw [leafLevel_add_depth] at below
  exact below.1

theorem wellFormed_withdrawal (wf : e.WellFormed) :
    (e.withdrawal base size).1.WellFormed 4 := by
  have below := Slot.wellFormed_withdraw (b := base) (wf.slot base size)
  rw [leafLevel_add_depth] at below
  exact below

theorem Serves.wellFormed {r : Request} {c : Change} (h : e.Serves r c) (wf : e.WellFormed) :
    c.ept.WellFormed := by
  cases h with
  | committed acceptable ok => exact wellFormed_replace wf (wellFormed_insertion wf ok) _
  | uncommitted => exact wellFormed_replace wf (wellFormed_withdrawal wf) _
  | _ => exact wf

/-- Every page of `e'` is a page of `e`, with the same entry. -/
def PagesIn (e' e : Ept) : Prop :=
  ∀ (address : Word) (size : Granularity) (entry : Entry), address.toNat < guestPhysicalLimit →
    e'.leaf? address size = some entry → e.leaf? address size = some entry

theorem pagesIn_of_slots_eq {e' : Ept} (same : e'.slots = e.slots) : e'.PagesIn e := by
  intro address size entry _ leaf
  rwa [leaf?, same] at leaf

/-- Only a commit that succeeds brings a page. -/
theorem Serves.pagesIn_of_idle {r : Request} {c : Change} (h : e.Serves r c)
    (idle : ∀ base size backing type, r = .commit base size backing type → c.outcome ≠ .ok ()) :
    c.ept.PagesIn e := by
  cases h with
  | committed => exact absurd rfl (idle _ _ _ _ rfl)
  | uncommitted aligned inRange mapped =>
      intro address size entry ha leaf
      rw [leaf?_withdrawal inRange mapped _ ha, Option.ite_none_left_eq_some] at leaf
      exact leaf.2
  | _ => exact pagesIn_of_slots_eq rfl

end Ept

end NestedVisor.Paging
