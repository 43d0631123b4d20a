import Mathlib.Data.Finset.Card
import Mathlib.Tactic.SplitIfs
import NestedVisor.Proofs.Paging.Refinement

/-!
# Counting pages

How many tables there are is a matter of the mappings alone: one for the root, and one for each
region of 512 GiB, 1 GiB or 2 MiB that holds a page smaller than itself.  A commit adds, and an
uncommit removes, the tables over the regions that hold nothing else.
-/

namespace NestedVisor.Paging

/-! ## Regions with smaller pages -/

/-- The regions, each under one slot at `level`, that hold a smaller page. -/
def regions (s : Finset Mapping) (level : Nat) : Finset Nat :=
  (s.filter fun m => leafLevel m.size < level).image fun m => pageNumber m.base level

def tableCount (s : Finset Mapping) : Nat :=
  1 + (regions s 4).card + (regions s 3).card + (regions s 2).card

/-- How many tables are yet to be made for the page of this size at `base`. -/
def tablesNeeded (s : Finset Mapping) (base : Word) (size : Granularity) : Nat :=
  [2, 3, 4].countP fun level => leafLevel size < level ∧ pageNumber base level ∉ regions s level

variable {s : Finset Mapping} {m : Mapping} {level : Nat}

theorem mem_regions {region : Nat} :
    region ∈ regions s level ↔
      ∃ m ∈ s, leafLevel m.size < level ∧ pageNumber m.base level = region := by
  simp [regions, and_assoc]

theorem regions_insert (m : Mapping) (s : Finset Mapping) (level : Nat) :
    regions (insert m s) level =
      if leafLevel m.size < level then insert (pageNumber m.base level) (regions s level)
      else regions s level := by
  rw [regions, Finset.filter_insert]
  split
  · rw [Finset.image_insert, regions]
  · rw [regions]

theorem card_regions_insert (m : Mapping) (s : Finset Mapping) (level : Nat) :
    (regions (insert m s) level).card =
      (regions s level).card +
        if leafLevel m.size < level ∧ pageNumber m.base level ∉ regions s level then 1 else 0 := by
  rw [regions_insert]
  by_cases below : leafLevel m.size < level
  · by_cases old : pageNumber m.base level ∈ regions s level
    · simp [below, old]
    · simp [below, old, Finset.card_insert_of_notMem old]
  · simp [below]

theorem tableCount_insert (m : Mapping) (s : Finset Mapping) :
    tableCount (insert m s) = tableCount s + tablesNeeded s m.base m.size := by
  simp only [tableCount, tablesNeeded, card_regions_insert, List.countP_cons, List.countP_nil,
    decide_eq_true_eq]
  omega

theorem regions_insert_without (m : Mapping) (s : Finset Mapping) (level : Nat) :
    regions (insert m (without s m.base m.size)) level = regions (insert m s) level := by
  ext region
  rw [mem_regions, mem_regions]
  constructor
  · rintro ⟨n, hn, rest⟩
    rcases Finset.mem_insert.1 hn with rfl | hn
    · exact ⟨n, Finset.mem_insert_self _ _, rest⟩
    · exact ⟨n, Finset.mem_insert_of_mem (mem_without.1 hn).1, rest⟩
  · rintro ⟨n, hn, rest⟩
    by_cases same : n.base = m.base ∧ n.size = m.size
    · rw [same.1, same.2] at rest
      exact ⟨m, Finset.mem_insert_self _ _, rest⟩
    · have old : n ∈ s := Finset.mem_of_mem_insert_of_ne hn fun h => same (h ▸ ⟨rfl, rfl⟩)
      exact ⟨n, Finset.mem_insert_of_mem (mem_without.2 ⟨old, same⟩), rest⟩

theorem tableCount_insert_without (m : Mapping) (s : Finset Mapping) :
    tableCount (insert m (without s m.base m.size)) = tableCount (insert m s) := by
  rw [tableCount, tableCount, regions_insert_without, regions_insert_without,
    regions_insert_without]

theorem tableCount_eq (s : Finset Mapping) :
    tableCount s = 1 + (s.image fun m : Mapping => m.base >>> 39).card +
      ((s.filter fun m => m.size ≠ .page1G).image fun m : Mapping => m.base >>> 30).card +
      ((s.filter fun m => m.size = .page4K).image fun m : Mapping => m.base >>> 21).card := by
  have numbers (t : Finset Mapping) (level : Nat) :
      (t.image fun m => pageNumber m.base level).card =
        (t.image fun m : Mapping => m.base >>> levelShift level).card := by
    have : (fun m : Mapping => pageNumber m.base level) =
        BitVec.toNat ∘ fun m : Mapping => m.base >>> levelShift level := by
      funext m
      simp [pageNumber, Nat.shiftRight_eq_div_pow]
    rw [this, ← Finset.image_image]
    exact Finset.card_image_of_injective _ fun _ _ => BitVec.eq_of_toNat_eq
  have all : (s.filter fun m => leafLevel m.size < 4) = s :=
    Finset.filter_true_of_mem fun m _ => Nat.lt_succ_of_le (leafLevel_le m.size)
  have notLargest : (s.filter fun m => leafLevel m.size < 3) =
      s.filter fun m => m.size ≠ .page1G := by
    apply Finset.filter_congr
    intro m _
    cases m.size <;> simp [leafLevel]
  have smallest : (s.filter fun m => leafLevel m.size < 2) =
      s.filter fun m => m.size = .page4K := by
    apply Finset.filter_congr
    intro m _
    cases m.size <;> simp [leafLevel]
  rw [tableCount, regions, regions, regions, numbers, numbers, numbers, all, notLargest,
    smallest]
  rfl

namespace Slot

theorem missing_eq_countP {b : Word} {target depth : Nat} {slot : Slot}
    (bare : ∀ t e, target < t → leaf? b t (target + depth) slot ≠ some e) :
    missing b target depth slot =
      (List.range depth).countP fun l => !hasTable b (target + l + 1) (target + depth) slot := by
  induction depth generalizing slot with
  | zero => cases slot <;> rfl
  | succ depth ih =>
      cases slot with
      | page e => exact absurd (if_pos rfl) (bare (target + (depth + 1)) e (by omega))
      | empty => simp [missing_empty, hasTable]
      -- the table at the top is there already, so only lower ones can be missing
      | table frame slots =>
          have below := @ih (slots (slotIndex b (target + depth))) fun t e above leaf => by
            have := le_of_leaf? leaf
            refine bare t e above ?_
            rw [leaf?, if_neg (by omega)]
            exact leaf
          rw [missing, below, List.range_succ, List.countP_append]
          have top : hasTable b (target + depth + 1) (target + (depth + 1)) (.table frame slots) =
              true := by
            rw [hasTable, Nat.add_assoc, beq_self_eq_true, Bool.true_or]
          rw [List.countP_singleton, top]
          refine List.countP_congr fun l hl => ?_
          rw [List.mem_range] at hl
          have apart : (target + (depth + 1) == target + l + 1) = false := by
            rw [beq_eq_false_iff_ne]
            omega
          rw [hasTable, apart, Bool.false_or]
          rfl

end Slot

namespace Tracks

variable {e : Ept} {base : Word} {size : Granularity}

theorem missing_eq (t : Tracks e s) (inRange : base.toNat < guestPhysicalLimit)
    (bare : ∀ m ∈ s, leafLevel size < leafLevel m.size → ¬ m.Covers base) :
    e.missing base size = tablesNeeded s base size := by
  have pages : ∀ t entry, leafLevel size < t →
      (e.slots (slotIndex base 4)).leaf? base t (leafLevel size + (4 - leafLevel size)) ≠
        some entry := by
    intro level entry above leaf
    rw [Ept.leafLevel_add_depth] at leaf
    obtain ⟨m, hm, rfl, covers⟩ := t.exists_of_leaf?_level inRange leaf
    exact bare m hm above covers
  have tables (level : Nat) (hpos : 1 ≤ level) (hle : level ≤ 4) :
      (e.slots (slotIndex base 4)).hasTable base level 4 =
        decide (pageNumber base level ∈ regions s level) := by
    rw [Bool.eq_iff_iff, decide_eq_true_iff, mem_regions]
    exact t.hasTable_iff inRange hpos hle
  rw [Ept.missing, Slot.missing_eq_countP pages, Ept.leafLevel_add_depth, tablesNeeded]
  cases size <;> simp [leafLevel, List.range_succ, List.countP_cons, tables]

theorem not_covers_of_insertion_ok (t : Tracks e s) {backing : Word} {type : MemoryType}
    (acceptable : Acceptable base size backing type)
    (ok : (e.insertion base size backing type).outcome = .ok ()) :
    ∀ m ∈ s, leafLevel size < leafLevel m.size → ¬ m.Covers base := by
  intro m hm above covers
  obtain ⟨level, covered⟩ :=
    (t.insertion_coveredByLarger_iff acceptable).2 ⟨m, hm, above, covers⟩
  rw [ok] at covered
  cases covered

theorem length_frames_of_serves (t : Tracks e s) (count : e.tree.frames.length = tableCount s)
    {r : Request} {c : Change} (h : e.Serves r c) :
    c.ept.tree.frames.length = tableCount (r.settle s c.outcome) := by
  cases h with
  | refused r fault => exact count
  | stopped => exact count
  | absent none =>
      rw [Request.settle, Request.apply, t.without_eq_self none]
      exact count
  | @committed base size backing type acceptable ok =>
      obtain ⟨taken, _, tables, length⟩ :=
        Ept.insertion_takes ok (e.insertion base size backing type).pool
      have needed := t.missing_eq acceptable.inRange (t.not_covers_of_insertion_ok acceptable ok)
      have after := tableCount_insert ⟨base, size, backing.setWidth 52, type⟩ s
      rw [← tableCount_insert_without] at after
      rw [tables.length_eq, List.length_append, length, count, needed, Nat.add_comm]
      exact after.symm
  | @uncommitted base size entry aligned inRange mapped =>
      obtain ⟨m, hm, rfl, rfl⟩ := t.exists_of_mapped aligned inRange mapped
      obtain ⟨tables, length⟩ := Ept.withdrawal_releases mapped
        (e.pool.freeAll (e.withdrawal m.base m.size).2)
      have bare : ∀ n ∈ without s m.base m.size, leafLevel m.size < leafLevel n.size →
          ¬ n.Covers m.base := by
        intro n hn above covers'
        rw [t.eq_of_covers hm (mem_without.1 hn).1 holds_self covers'] at above
        exact Nat.lt_irrefl _ above
      have needed := (t.withdrawal aligned inRange mapped
        (e.pool.freeAll (e.withdrawal m.base m.size).2)).missing_eq inRange bare
      -- the mapping put back needs the tables that were released
      have before := tableCount_insert m (without s m.base m.size)
      rw [tableCount_insert_without, Finset.insert_eq_of_mem hm, ← count, ← needed, ← length,
        ← tables.length_eq, List.length_append, Nat.add_comm] at before
      exact Nat.add_right_cancel before

end Tracks

theorem History.length_frames {held : List Word} {e : Ept} (h : History held e s) :
    e.tree.frames.length = tableCount s := by
  induction h with
  | created honest live made =>
      obtain ⟨page, _, rfl⟩ := Ept.create_eq_ok made
      rw [Ept.tree, Slot.frames_table_of_allEmpty page Slot.allEmpty_empty]
      rfl
  | served before r ih =>
      exact before.tracks.length_frames_of_serves ih (before.tracks.wellFormed.serves r)
  | resupplied before supply honest ih => exact ih

structure Exact (e : Ept) (s : Finset Mapping) : Prop where
  /-- The pages in use are the tables that the entries in memory lead to. -/
  live : ∀ page, page ∈ e.pool.live ↔ ∃ level, e.TableAt level page
  nodup : e.pool.live.Nodup
  root : ∀ frame i, ¬ e.Refers frame i e.root
  referred : ∀ page ∈ e.pool.live, page ≠ e.root →
    ∃! entry : Word × SlotIndex, e.Refers entry.1 entry.2 page
  used : ∀ page ∈ e.pool.live, page ≠ e.root →
    ∃ words i, e.words? page = some words ∧ Entry.present ⟨words i⟩ = true
  count : e.pool.live.length = 1 + (s.image fun m : Mapping => m.base >>> 39).card +
    ((s.filter fun m => m.size ≠ .page1G).image fun m : Mapping => m.base >>> 30).card +
    ((s.filter fun m => m.size = .page4K).image fun m : Mapping => m.base >>> 21).card
  /-- A commit without a conflict fails for lack of pages only when it really lacks one. -/
  exhausted : ∀ base size backing type, Acceptable base size backing type →
    ¬ Conflicts s base size →
      ((e.commit base size backing type).outcome = .error .outOfResources ↔
        1 ≤ tablesNeeded s base size ∧ e.pool.supplies (tablesNeeded s base size) = false)
  /-- What a request releases was in use and is no table afterwards. -/
  balanced : ∀ r, ∃ taken between, Balanced e (e.serve r) taken between ∧
    ((e.serve r).released ++ (e.serve r).ept.tree.frames).Nodup
  disposed : e.pool.Frees e.tree.frames e.dispose ∧ e.tree.frames.Perm e.pool.live ∧
    e.dispose.live = []

/-- After every history the accounts are exact. -/
theorem History.exact {e : Ept} (h : History [] e s) : Exact e s := by
  have a := h.accounts
  have t := h.tracks
  have wf := t.wellFormed
  have live : e.pool.live.Perm e.tree.frames := by
    rw [← List.append_nil e.tree.frames]
    exact a.live
  have found (page : Word) : page ∈ e.pool.live ↔ ∃ level, e.TableAt level page :=
    live.mem_iff.trans (a.exists_tableAt_iff wf).symm
  constructor
  case live => exact found
  case nodup => exact live.nodup_iff.2 a.nodup
  case root => exact fun frame i => a.not_refers_root wf i
  case referred =>
    intro page used below
    obtain ⟨level, table⟩ := (found page).1 used
    exact a.existsUnique_refers wf table below
  case used =>
    intro page used below
    obtain ⟨level, table⟩ := (found page).1 used
    exact a.exists_present wf table below
  case count =>
    rw [live.length_eq, h.length_frames]
    exact tableCount_eq s
  case exhausted =>
    intro base size backing type acceptable free
    have bare : ∀ m ∈ s, leafLevel size < leafLevel m.size → ¬ m.Covers base :=
      fun m hm above covers =>
        free ((t.conflicts_iff acceptable.aligned).2 (.inr ⟨m, hm, above, covers⟩))
    have needed := t.missing_eq acceptable.inRange bare
    rcases t.commit_outcome acceptable with ⟨conflict, _⟩ | ⟨_, lacking, outcome⟩ |
      ⟨_, enough, outcome⟩
    · exact absurd conflict free
    · rw [needed] at lacking
      refine iff_of_true outcome ⟨Nat.pos_of_ne_zero fun none => ?_, lacking⟩
      rw [none] at lacking
      cases lacking
    · rw [needed] at enough
      refine iff_of_false (by simp [outcome]) ?_
      rintro ⟨_, lacking⟩
      rw [enough] at lacking
      cases lacking
  case balanced =>
    intro r
    obtain ⟨taken, between, balanced⟩ := a.balanced (wf.serves r)
    exact ⟨taken, between, balanced,
      balanced.tables.nodup_iff.2 (a.nodup_taken balanced.takes)⟩
  case disposed =>
    have all : e.pool.live.Perm (e.tree.frames ++ []) := a.live
    have frees := PagePool.frees_freeAll all
    refine ⟨frees, live.symm, ?_⟩
    have rest := frees.live.symm.trans all
    exact List.perm_nil.1 ((List.perm_append_left_iff _).1 rest)

theorem History.exact_four_pages :
    ∃ e s, History [] e s ∧ e.pool.live.length = 4 ∧
      (e.commit 0x40000000 .page4K 0x9000 .writeBack).outcome = .error .outOfResources := by
  have start := History.ofRun 0x100000 4 (by decide) (by decide) (by decide)
  have h := start.committed 0x205000 .page4K 0x7000 .writeBack rfl
  have exact := h.exact
  refine ⟨_, _, h, ?_, ?_⟩
  · rw [exact.count]
    decide
  · refine (exact.exhausted _ _ _ _ ⟨by decide, by decide, by decide, by decide⟩ ?_).2 ?_
    · rintro ⟨m, hm, other, _⟩
      rcases Finset.mem_insert.1 hm with rfl | hm
      · exact other rfl
      · exact absurd (mem_without.1 hm).1 (Finset.notMem_empty m)
    · exact ⟨by decide, by rfl⟩

end NestedVisor.Paging
