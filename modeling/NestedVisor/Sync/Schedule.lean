/-!
Interleaved runs of several participants over one shared state.

A participant takes one atomic step at a time, and a schedule says whose step is next; every
interleaving is a schedule.
-/

namespace NestedVisor.Sync

/-- A shared state and the participants' own states. -/
structure Crew (σ τ : Type) where
  shared : σ
  members : List τ

namespace Crew

variable {σ τ : Type}

/-- Lets one member take a step; a member that does not exist does nothing. -/
def stepAt (step : τ → σ → τ × σ) (c : Crew σ τ) (i : Nat) : Crew σ τ :=
  match c.members[i]? with
  | none => c
  | some member =>
      let (member', shared') := step member c.shared
      ⟨shared', c.members.set i member'⟩

def run (step : τ → σ → τ × σ) (c : Crew σ τ) (schedule : List Nat) : Crew σ τ :=
  schedule.foldl (stepAt step) c

/-- Lets every member step once, in turn, until all are done or the rounds are used up. -/
def roundRobin (step : τ → σ → τ × σ) (done : τ → Bool) : Nat → Crew σ τ → Crew σ τ
  | 0, c => c
  | rounds + 1, c =>
      if c.members.all done then c
      else roundRobin step done rounds (c.run step (List.range c.members.length))

@[simp] theorem run_nil (step : τ → σ → τ × σ) (c : Crew σ τ) : c.run step [] = c := rfl

theorem run_append (step : τ → σ → τ × σ) (c : Crew σ τ) (s t : List Nat) :
    c.run step (s ++ t) = (c.run step s).run step t := by
  simp [run]

end Crew

end NestedVisor.Sync
