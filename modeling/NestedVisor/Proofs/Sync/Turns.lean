import NestedVisor.Sync.Schedule

/-!
# The turns of a run

A turn is one step of one member, with what the member and the shared state were before it.  What
is said of a run together with its turns is shown by one induction, turn by turn.
-/

namespace NestedVisor.Sync

structure Turn (σ τ : Type) where
  index : Nat
  member : τ
  shared : σ

/-- What the turns in the list show of one kind, each with its member's index. -/
def shown {σ τ β : Type} (kind : τ → Option β) (turns : List (Turn σ τ)) : List (Nat × β) :=
  turns.filterMap fun t => (kind t.member).map (t.index, ·)

theorem shown_concat {σ τ β : Type} (kind : τ → Option β) (turns : List (Turn σ τ))
    (t : Turn σ τ) :
    shown kind (turns ++ [t]) = shown kind turns ++ ((kind t.member).map (t.index, ·)).toList := by
  rw [shown, List.filterMap_append]
  cases found : kind t.member <;> simp [shown, found]

namespace Crew

variable {σ τ : Type} {step : τ → σ → τ × σ} {c : Crew σ τ}

/-- The turns of a run, the oldest first; a member that does not exist takes none. -/
def turns (step : τ → σ → τ × σ) (c : Crew σ τ) : List Nat → List (Turn σ τ)
  | [] => []
  | i :: rest =>
      (c.members[i]?.map (⟨i, ·, c.shared⟩)).toList ++ (c.stepAt step i).turns step rest

theorem stepAt_of_getElem? {i : Nat} {k : τ} (at_i : c.members[i]? = some k) :
    c.stepAt step i = ⟨(step k c.shared).2, c.members.set i (step k c.shared).1⟩ := by
  simp [stepAt, at_i]

theorem stepAt_of_none {i : Nat} (nobody : c.members[i]? = none) : c.stepAt step i = c := by
  simp [stepAt, nobody]

/-- The member that took the turn has its new state, and every other member the old one. -/
theorem getElem?_set_cases {members : List τ} {i j : Nat} {k k' : τ}
    (found : (members.set i k)[j]? = some k') :
    (j = i ∧ k' = k) ∨ (j ≠ i ∧ members[j]? = some k') := by
  by_cases same : j = i
  · subst same
    rw [List.getElem?_set_self'] at found
    cases old : members[j]? with
    | none => simp [old] at found
    | some k₀ => exact .inl ⟨rfl, by simpa [old] using found.symm⟩
  · exact .inr ⟨same, by rwa [List.getElem?_set_ne (Ne.symm same)] at found⟩

/-- What each turn keeps holds after the run, of the crew and of the turns that led to it. -/
theorem run_induction {P : List (Turn σ τ) → Crew σ τ → Prop} (start : P [] c)
    (turn : ∀ before d i k, P before d → d.members[i]? = some k →
      P (before ++ [⟨i, k, d.shared⟩]) ⟨(step k d.shared).2, d.members.set i (step k d.shared).1⟩)
    (schedule : List Nat) : P (c.turns step schedule) (c.run step schedule) := by
  suffices kept : ∀ before d, P before d →
      P (before ++ d.turns step schedule) (d.run step schedule) by
    simpa using kept [] c start
  induction schedule with
  | nil => exact fun before d held => by simpa [turns] using held
  | cons i rest ih =>
      intro before d held
      change P (before ++ d.turns step (i :: rest)) ((d.stepAt step i).run step rest)
      cases at_i : d.members[i]? with
      | none =>
          rw [turns, at_i, stepAt_of_none at_i]
          exact ih before d held
      | some k =>
          have next := ih _ _ (turn before d i k held at_i)
          rw [turns, at_i, stepAt_of_getElem? at_i]
          simpa using next

theorem length_members_run (step : τ → σ → τ × σ) (c : Crew σ τ) (schedule : List Nat) :
    (c.run step schedule).members.length = c.members.length :=
  run_induction (P := fun _ d => d.members.length = c.members.length) rfl
    (fun _ _ _ _ same _ => List.length_set.trans same) schedule

end Crew

end NestedVisor.Sync
