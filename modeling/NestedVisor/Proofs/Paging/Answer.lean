import NestedVisor.Proofs.Paging.PageCount

/-!
# What a request answers

As long as pages do not run out, the answer to a request depends on the mappings alone, and so
does everything that can be read afterwards: tables that track the same mappings read alike and
use the same number of pages, whatever pages these are.
-/

namespace NestedVisor.Paging

/-! ## Conflicts can be computed -/

theorem exists_holds_and_holds_iff {first second : Granularity} {base other : Word} :
    (∃ a, first.Holds base a ∧ second.Holds other a) ↔
      base.toNat < other.toNat + 2 ^ second.bits ∧ other.toNat < base.toNat + 2 ^ first.bits := by
  constructor
  · rintro ⟨a, ⟨_, _⟩, ⟨_, _⟩⟩
    omega
  · rintro ⟨left, right⟩
    -- the later of the two starts lies in both pages
    rcases Nat.le_total base.toNat other.toNat with h | h
    · exact ⟨other, ⟨h, right⟩, holds_self⟩
    · exact ⟨base, holds_self, ⟨h, left⟩⟩

instance (s : Finset Mapping) (base : Word) (size : Granularity) :
    Decidable (Conflicts s base size) :=
  decidable_of_iff
    (∃ m ∈ s, m.size ≠ size ∧ m.base.toNat < base.toNat + 2 ^ size.bits ∧
      base.toNat < m.base.toNat + 2 ^ m.size.bits)
    (exists_congr fun _ => and_congr_right fun _ => and_congr_right fun _ =>
      exists_holds_and_holds_iff.symm)

/-! ## Answers -/

/-- What a request to tables with the mappings `s` comes to while there are pages. -/
def Request.answer (s : Finset Mapping) (r : Request) : Except PagingFault Unit :=
  match r.refusal? with
  | some fault => .error fault
  | none =>
      match r with
      | .commit base size _ _ =>
          if Conflicts s base size then .error (.mappingConflict base) else .ok ()
      | .uncommit .. => .ok ()

def Request.next (s : Finset Mapping) (r : Request) : Finset Mapping :=
  r.settle s (r.answer s)

variable {e e' : Ept} {s : Finset Mapping} {r : Request}

theorem Request.answer_of_refusal {fault : PagingFault} (h : r.refusal? = some fault) :
    r.answer s = .error fault := by
  simp [answer, h]

theorem Request.next_of_refusal {fault : PagingFault} (h : r.refusal? = some fault) :
    r.next s = s := by
  simp [next, answer_of_refusal h, settle]

theorem Tracks.outcome_eq_answer (t : Tracks e s)
    (ample : (e.serve r).outcome ≠ .error .outOfResources) :
    (e.serve r).outcome = r.answer s := by
  cases refusal : r.refusal? with
  | some fault => rw [Ept.serve_of_refusal refusal, Request.answer_of_refusal refusal]
  | none =>
      cases r with
      | commit base size backing type =>
          have acceptable := Request.refusal?_commit_eq_none_iff.1 refusal
          simp only [Request.answer, refusal, Ept.serve] at ample ⊢
          rcases t.commit_outcome acceptable with ⟨conflict, outcome⟩ | ⟨_, _, lacking⟩ |
            ⟨free, _, outcome⟩
          · simpa [conflict] using outcome
          · exact absurd lacking ample
          · simpa [free] using outcome
      | uncommit base size =>
          obtain ⟨aligned, inRange⟩ := Request.refusal?_uncommit_eq_none_iff.1 refusal
          simp only [Request.answer, refusal, Ept.serve]
          cases leaf : e.leaf? base size with
          | none => rw [Ept.uncommit_of_none aligned inRange leaf]
          | some entry => rw [Ept.uncommit_of_some aligned inRange leaf]

/-! ## Tables that track the same mappings -/

theorem Ept.leaf?_setWidth (e : Ept) (a : Word) (size : Granularity) :
    e.leaf? ((a.setWidth 48).setWidth 64) size = e.leaf? a size := by
  have hle := leafLevel_le size
  rw [← leaf?_tree, ← leaf?_tree]
  refine Slot.leaf?_congr (by omega) fun level hlow hhigh => ?_
  have hpos := leafLevel_pos size
  rw [← BitVec.toNat_inj, toNat_slotIndex, toNat_slotIndex, pageNumber, pageNumber]
  obtain rfl | rfl | rfl | rfl : level = 1 ∨ level = 2 ∨ level = 3 ∨ level = 4 := by omega
  all_goals
    simp [levelShift]
    omega

theorem Tracks.leaf?_eq (t : Tracks e s) (t' : Tracks e' s) (a : Word) (size : Granularity) :
    e.leaf? a size = e'.leaf? a size := by
  rw [← e.leaf?_setWidth, ← e'.leaf?_setWidth]
  have ha : ((a.setWidth 48).setWidth 64 : Word).toNat < guestPhysicalLimit := by
    simp [guestPhysicalLimit]
    omega
  generalize (a.setWidth 48).setWidth 64 = low at ha ⊢
  by_cases mapped : ∃ m ∈ s, m.size = size ∧ m.Covers low
  · obtain ⟨m, hm, rfl, covers⟩ := mapped
    rw [t.leaf?_of_covers hm covers, t'.leaf?_of_covers hm covers]
  · have bare : ∀ {e : Ept}, Tracks e s → e.leaf? low size = none := fun t =>
      Option.eq_none_iff_forall_ne_some.2 fun entry leaf => mapped (t.listed low size entry ha leaf)
    rw [bare t, bare t']

theorem Tracks.translate?_eq (t : Tracks e s) (t' : Tracks e' s) (a : Word) :
    e.translate? a = e'.translate? a := by
  by_cases mapped : ∃ m ∈ s, m.Covers a
  · obtain ⟨m, hm, covers⟩ := mapped
    rw [t.translate?_of_covers hm covers, t'.translate?_of_covers hm covers]
  · push Not at mapped
    rw [t.translate?_eq_none mapped, t'.translate?_eq_none mapped]

theorem History.length_live {held : List Word} (h : History held e s) :
    e.pool.live.length = tableCount s + held.length := by
  rw [h.accounts.live.length_eq, List.length_append, h.length_frames]

end NestedVisor.Paging
