/-!
Sets of characters, given as ranges of code points.

The ranges of a table ascend and do not touch, so that a search may stop at the first range above
the code point.  `covers_iff` says that nothing is missed by stopping.
-/

namespace NestedVisor.Text

/-- First and last code point of each range. -/
abbrev CodeRanges := List (Nat × Nat)

namespace CodeRanges

/-- Whether a range holds the code point; the search stops at the first range above it. -/
def covers : CodeRanges → Nat → Bool
  | [], _ => false
  | (first, last) :: rest, n => first ≤ n && (n ≤ last || covers rest n)

/-- No range is empty, all start at `low` or above, and there is a gap between any two. -/
def AscendingFrom (low : Nat) : CodeRanges → Prop
  | [] => True
  | (first, last) :: rest => low ≤ first ∧ first ≤ last ∧ AscendingFrom (last + 2) rest

instance decidableAscendingFrom : (low : Nat) → (rs : CodeRanges) → Decidable (rs.AscendingFrom low)
  | _, [] => .isTrue trivial
  | _, (_, last) :: rest =>
      have := decidableAscendingFrom (last + 2) rest
      inferInstanceAs (Decidable (_ ∧ _ ∧ _))

abbrev Ascending (rs : CodeRanges) : Prop := rs.AscendingFrom 0

theorem AscendingFrom.le_of_mem {rs : CodeRanges} {low : Nat} (h : rs.AscendingFrom low)
    {r : Nat × Nat} (hr : r ∈ rs) : low ≤ r.1 := by
  induction rs generalizing low with
  | nil => simp at hr
  | cons head rest ih =>
      obtain ⟨first, last⟩ := head
      obtain ⟨hlow, hlast, hrest⟩ := h
      rcases List.mem_cons.mp hr with rfl | hr
      · exact hlow
      · have := ih hrest hr
        omega

theorem covers_iff {rs : CodeRanges} {low : Nat} (h : rs.AscendingFrom low) (n : Nat) :
    rs.covers n = true ↔ ∃ r ∈ rs, r.1 ≤ n ∧ n ≤ r.2 := by
  induction rs generalizing low with
  | nil => simp [covers]
  | cons head rest ih =>
      obtain ⟨first, last⟩ := head
      obtain ⟨_, hlast, hrest⟩ := h
      simp only [covers, Bool.and_eq_true, Bool.or_eq_true, decide_eq_true_eq, ih hrest,
        List.mem_cons, exists_eq_or_imp]
      constructor
      · rintro ⟨hfirst, hn | hn⟩
        · exact Or.inl ⟨hfirst, hn⟩
        · exact Or.inr hn
      · rintro (⟨hfirst, hn⟩ | ⟨r, hr, hfirst, hn⟩)
        · exact ⟨hfirst, Or.inl hn⟩
        · have := hrest.le_of_mem hr
          exact ⟨by omega, Or.inr ⟨r, hr, hfirst, hn⟩⟩

end CodeRanges

end NestedVisor.Text
