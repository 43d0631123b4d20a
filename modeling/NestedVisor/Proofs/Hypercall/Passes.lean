import Mathlib.Order.Monotone.Basic
import NestedVisor.Hypercall.Relay

/-!
# The passes of a repeated call

A repeated call is a loop around one call to the host, and a `Turn` is all that one pass of it
can do.  The counter of the loop has 16 bits and follows `progress`, which counts the elements
done without a bound; neither the remaining elements nor the next count wrap around.
-/

namespace NestedVisor.Hypercall

/-! ## What the host answers -/

/-- The result of the call number `k` from here on. -/
def Host.results (h : Host) (k : Nat) : Result :=
  (h.queue[k]?.getD h.fallback).result

theorem Host.result_serve (h : Host) (call : Call) : (h.serve call).1.result = h.results 0 := by
  cases queue : h.queue <;> simp [serve, next, results, queue]

theorem Host.results_serve (h : Host) (call : Call) (k : Nat) :
    (h.serve call).2.results k = h.results (k + 1) := by
  cases queue : h.queue <;> simp [serve, next, results, queue]

/-- A success that reports some progress. -/
def Result.Works (result : Result) : Prop :=
  result.isSuccess ∧ result.repsCompleted ≠ 0

instance (result : Result) : Decidable result.Works :=
  inferInstanceAs (Decidable (_ ∧ _))

/-! ## The elements done -/

section

variable {total n : Nat} {results : Nat → Result}

/-- How many of `total` elements are done after `k` calls; no call does more than are left. -/
def progress (total : Nat) (results : Nat → Result) : Nat → Nat
  | 0 => 0
  | k + 1 =>
      progress total results k +
        min (results k).repsCompleted.toNat (total - progress total results k)

theorem progress_le (total : Nat) (results : Nat → Result) (k : Nat) :
    progress total results k ≤ total := by
  induction k with
  | zero => exact Nat.zero_le total
  | succ k ih =>
      rw [progress]
      omega

theorem progress_mono (total : Nat) (results : Nat → Result) :
    Monotone (progress total results) :=
  monotone_nat_of_le_succ fun _ => Nat.le_add_right _ _

/-- The first `n` calls all had something to do, and did some of it. -/
def Worked (total : Nat) (results : Nat → Result) (n : Nat) : Prop :=
  ∀ k < n, progress total results k < total ∧ (results k).Works

theorem Worked.succ (worked : Worked total results n) (pending : progress total results n < total)
    (works : (results n).Works) : Worked total results (n + 1) := by
  intro k before
  rcases Nat.lt_succ_iff_lt_or_eq.1 before with earlier | rfl
  · exact worked k earlier
  · exact ⟨pending, works⟩

theorem Worked.le_progress (worked : Worked total results n) : n ≤ progress total results n := by
  induction n with
  | zero => exact Nat.zero_le _
  | succ n ih =>
      have before := ih fun k earlier => worked k (Nat.lt_succ_of_lt earlier)
      obtain ⟨pending, _, some⟩ := worked n (Nat.lt_succ_self n)
      have positive : 0 < (results n).repsCompleted.toNat :=
        Nat.pos_of_ne_zero fun zero => some (BitVec.eq_of_toNat_eq zero)
      rw [progress]
      omega

end

namespace Relay

variable {r : Relay} {l : RepList}

/-! ## The counter -/

theorem toNat_repsDone (result : Result) (remaining : BitVec 16) :
    (repsDone result remaining).toNat = min result.repsCompleted.toNat remaining.toNat := by
  have narrow : (result.repsCompleted.setWidth 16).toNat = result.repsCompleted.toNat :=
    BitVec.toNat_setWidth_of_le (by decide)
  rw [repsDone]
  split
  · next within =>
      rw [BitVec.le_def, narrow] at within
      omega
  · next beyond =>
      rw [BitVec.le_def, narrow] at beyond
      omega

section

variable {completed count : BitVec 16} (le : completed ≤ count)

include le

theorem usubOverflow_count : BitVec.usubOverflow count completed = false :=
  decide_eq_false (Nat.not_lt.2 le)

theorem toNat_remaining : (count - completed).toNat = count.toNat - completed.toNat :=
  BitVec.toNat_sub_of_le le

theorem uaddOverflow_repsDone (result : Result) :
    BitVec.uaddOverflow completed (repsDone result (count - completed)) = false := by
  have bound := count.isLt
  rw [BitVec.uaddOverflow, toNat_repsDone, toNat_remaining le, decide_eq_false_iff_not]
  rw [BitVec.le_def] at le
  omega

theorem toNat_add_repsDone (result : Result) :
    (completed + repsDone result (count - completed)).toNat =
      completed.toNat + min result.repsCompleted.toNat (count.toNat - completed.toNat) := by
  rw [BitVec.toNat_add_of_not_uaddOverflow (by simp [uaddOverflow_repsDone le]), toNat_repsDone,
    toNat_remaining le]

end

/-! ## One pass -/

/-- Where the loop stands when it comes to its condition. -/
structure Pass where
  completed : BitVec 16
  host : Host

def after (r : Relay) (l : RepList) (s : Pass) : Pass where
  completed := s.completed + repsDone (s.host.results 0) (l.count - s.completed)
  host := (s.host.serve (r.repCall l s.completed)).2

def runFrom (r : Relay) (l : RepList) (s : Pass) : RepRun :=
  r.callReps l s.completed s.host

/-- What a pass makes of the rest of the run. -/
inductive Turn (r : Relay) (l : RepList) (s : Pass) (run : RepRun) : Prop
  | done (ended : ¬ s.completed < l.count) (outcome : run.outcome = .ok s.completed)
      (calls : run.calls = [])
  | failed (pending : s.completed < l.count) (failing : ¬ (s.host.results 0).isSuccess)
      (outcome : run.outcome = .error (s.host.results 0).status)
      (calls : run.calls = [r.repCall l s.completed])
  | stalled (pending : s.completed < l.count) (success : (s.host.results 0).isSuccess)
      (idle : (s.host.results 0).repsCompleted = 0) (outcome : run.outcome = .error .timeout)
      (calls : run.calls = [r.repCall l s.completed])
  | resumed (pending : s.completed < l.count) (works : (s.host.results 0).Works)
      (outcome : run.outcome = (r.runFrom l (r.after l s)).outcome)
      (calls : run.calls = r.repCall l s.completed :: (r.runFrom l (r.after l s)).calls)

theorem repsDone_eq_zero_iff {result : Result} {completed count : BitVec 16}
    (pending : completed < count) :
    repsDone result (count - completed) = 0 ↔ result.repsCompleted = 0 := by
  have remaining := toNat_remaining (BitVec.le_of_lt pending)
  rw [BitVec.lt_def] at pending
  rw [← BitVec.toNat_inj, ← BitVec.toNat_inj, toNat_repsDone, remaining]
  change min _ _ = 0 ↔ _ = 0
  omega

theorem turn_runFrom (r : Relay) (l : RepList) (s : Pass) : Turn r l s (r.runFrom l s) := by
  have answer := s.host.result_serve (r.repCall l s.completed)
  rw [runFrom, callReps]
  by_cases pending : s.completed < l.count
  · rw [dif_pos pending]
    dsimp only
    rw [answer]
    by_cases success : (s.host.results 0).isSuccess
    · rw [if_neg (not_not_intro success)]
      by_cases idle : (s.host.results 0).repsCompleted = 0
      · rw [dif_pos ((repsDone_eq_zero_iff pending).2 idle)]
        exact .stalled pending success idle rfl rfl
      · rw [dif_neg (mt (repsDone_eq_zero_iff pending).1 idle)]
        exact .resumed pending ⟨success, idle⟩ rfl rfl
    · rw [if_pos success]
      exact .failed pending success rfl rfl
  · rw [dif_neg pending]
    exact .done pending rfl rfl

/-! ## All passes -/

/-- The pass number `k` from `s` on, if the loop comes to it. -/
def pass? (r : Relay) (l : RepList) : Nat → Pass → Option Pass
  | 0, s => some s
  | k + 1, s =>
      if s.completed < l.count ∧ (s.host.results 0).Works then pass? r l k (r.after l s) else none

/-- The loop stands where `k` calls with these results have brought it. -/
structure Pass.Stands (s : Pass) (total : Nat) (results : Nat → Result) (k : Nat) : Prop where
  completed : s.completed.toNat = progress total results k
  results : ∀ j, s.host.results j = results (k + j)

section

variable {s t : Pass} {results : Nat → Result} {j k : Nat}

theorem Pass.Stands.le (stands : s.Stands l.count.toNat results k) : s.completed ≤ l.count := by
  rw [BitVec.le_def, stands.completed]
  exact progress_le _ _ k

theorem Pass.Stands.pending_iff (stands : s.Stands l.count.toNat results k) :
    s.completed < l.count ↔ progress l.count.toNat results k < l.count.toNat := by
  rw [BitVec.lt_def, stands.completed]

theorem Pass.Stands.result (stands : s.Stands l.count.toNat results k) :
    s.host.results 0 = results k :=
  stands.results 0

theorem Pass.Stands.after (stands : s.Stands l.count.toNat results k) :
    (r.after l s).Stands l.count.toNat results (k + 1) where
  completed := by
    rw [Relay.after, toNat_add_repsDone stands.le, stands.completed, stands.results]
    rfl
  results := fun j => by
    rw [Relay.after, Host.results_serve, stands.results, Nat.add_right_comm, Nat.add_assoc]

theorem Pass.Stands.of_pass? (stands : s.Stands l.count.toNat results j)
    (reached : r.pass? l k s = some t) : t.Stands l.count.toNat results (j + k) := by
  induction k generalizing s j with
  | zero =>
      cases reached
      exact stands
  | succ k ih =>
      rw [pass?, Option.ite_none_right_eq_some] at reached
      have next := ih stands.after reached.2
      rwa [Nat.add_right_comm] at next

/-- The call of a pass that the loop comes to. -/
theorem getElem?_calls_runFrom (r : Relay) (l : RepList) (k : Nat) (s : Pass) :
    (r.runFrom l s).calls[k]? =
      (r.pass? l k s).bind fun t =>
        if t.completed < l.count then some (r.repCall l t.completed) else none := by
  induction k generalizing s with
  | zero =>
      rw [pass?, Option.bind_some]
      cases r.turn_runFrom l s with
      | done ended _ calls => rw [calls, if_neg ended]; rfl
      | failed pending _ _ calls => rw [calls, if_pos pending]; rfl
      | stalled pending _ _ _ calls => rw [calls, if_pos pending]; rfl
      | resumed pending _ _ calls => rw [calls, if_pos pending]; rfl
  | succ k ih =>
      rw [pass?]
      cases r.turn_runFrom l s with
      | done ended _ calls => simp [calls, ended]
      | failed _ failing _ calls => simp [calls, Result.Works, failing]
      | stalled _ _ idle _ calls => simp [calls, Result.Works, idle]
      | resumed pending works _ calls =>
          rw [calls, List.getElem?_cons_succ, if_pos ⟨pending, works⟩]
          exact ih (r.after l s)

end

/-! ## The end -/

/-- How a repeated call over `total` elements ends after `n` calls. -/
inductive Ends (total : BitVec 16) (results : Nat → Result) :
    Nat → Except Status (BitVec 16) → Prop
  | complete {n : Nat} (worked : Worked total.toNat results n)
      (all : progress total.toNat results n = total.toNat) : Ends total results n (.ok total)
  | failed {n : Nat} (worked : Worked total.toNat results n)
      (pending : progress total.toNat results n < total.toNat)
      (failing : ¬ (results n).isSuccess) :
      Ends total results (n + 1) (.error (results n).status)
  | stalled {n : Nat} (worked : Worked total.toNat results n)
      (pending : progress total.toNat results n < total.toNat)
      (success : (results n).isSuccess) (idle : (results n).repsCompleted = 0) :
      Ends total results (n + 1) (.error .timeout)

theorem ends_runFrom {s : Pass} {results : Nat → Result} {k : Nat}
    (stands : s.Stands l.count.toNat results k) (worked : Worked l.count.toNat results k) :
    Ends l.count results (k + (r.runFrom l s).calls.length) (r.runFrom l s).outcome := by
  -- by the calls that are still to come: after one that worked there is one less
  induction course : (r.runFrom l s).calls generalizing s k with
  | nil =>
      cases r.turn_runFrom l s with
      | done ended outcome _ =>
          have all : s.completed = l.count := BitVec.le_antisymm stands.le (BitVec.not_lt.1 ended)
          have whole := stands.completed
          rw [all] at whole
          rw [outcome, all]
          exact .complete worked whole.symm
      | failed _ _ _ calls => cases course.symm.trans calls
      | stalled _ _ _ _ calls => cases course.symm.trans calls
      | resumed _ _ _ calls => cases course.symm.trans calls
  | cons call rest ih =>
      cases r.turn_runFrom l s with
      | done _ _ calls => cases course.symm.trans calls
      | failed pending failing outcome calls =>
          cases course.symm.trans calls
          rw [stands.result] at failing outcome
          rw [outcome]
          exact .failed worked (stands.pending_iff.1 pending) failing
      | stalled pending success idle outcome calls =>
          cases course.symm.trans calls
          rw [stands.result] at success idle
          rw [outcome]
          exact .stalled worked (stands.pending_iff.1 pending) success idle
      | resumed pending works outcome calls =>
          rw [stands.result] at works
          have worked := worked.succ (stands.pending_iff.1 pending) works
          obtain ⟨rfl, rfl⟩ := List.cons.inj (course.symm.trans calls)
          rw [outcome, List.length_cons, Nat.add_comm _ 1, ← Nat.add_assoc]
          exact ih stands.after worked rfl

end Relay

end NestedVisor.Hypercall
