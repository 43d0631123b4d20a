import Mathlib.Algebra.Order.BigOperators.Group.List
import Mathlib.Algebra.Order.Ring.Nat
import NestedVisor.Proofs.Sync.Turns
import NestedVisor.Sync.SpinLock

/-!
# Mutual exclusion

Any number of threads run any programs over one lock.  The flag counts the guards, of which there
is never more than one, and only the thread that has it gets to the value; so what a thread finds
when it takes the lock is what the last one left.
-/

namespace NestedVisor.Sync

theorem Crew.sum_map_set {τ : Type} {members : List τ} {i : Nat} {k : τ} (f : τ → Nat)
    (at_i : members[i]? = some k) (k' : τ) :
    ((members.set i k').map f).sum + f k = (members.map f).sum + f k' := by
  induction members generalizing i with
  | nil => cases at_i
  | cons first rest ih =>
      cases i with
      | zero =>
          obtain rfl : first = k := by simpa using at_i
          simp only [List.set_cons_zero, List.map_cons, List.sum_cons]
          omega
      | succ i =>
          have rest' := ih (i := i) (by simpa using at_i)
          simp only [List.set_cons_succ, List.map_cons, List.sum_cons]
          omega

namespace SpinLock

variable {α β : Type}

abbrev Threads (α β : Type) :=
  Crew (SpinLock α) (Thread α β)

abbrev Turns (α β : Type) :=
  List (Turn (SpinLock α) (Thread α β))

/-- How many guards there are. -/
def Threads.guards (c : Threads α β) : Nat :=
  (c.members.map (·.guards)).sum

theorem Threads.le_guards {c : Threads α β} {i : Nat} {k : Thread α β}
    (at_i : c.members[i]? = some k) : k.guards ≤ c.guards :=
  List.le_sum_of_mem (List.mem_map_of_mem (List.mem_of_getElem? at_i))

theorem Threads.guards_set {c : Threads α β} {i : Nat} {k : Thread α β}
    (at_i : c.members[i]? = some k) (l : SpinLock α) (k' : Thread α β) :
    Threads.guards ⟨l, c.members.set i k'⟩ + k.guards = c.guards + k'.guards :=
  Crew.sum_map_set _ at_i k'

/-! ## Kinds of turns -/

namespace Thread

/-- Whether the next step is a compare-and-swap of the flag. -/
def attempts (t : Thread α β) : Bool :=
  match t.program, t.stage with
  | .lock _, .attempting _ => true
  | .tryLock .., _ => true
  | _, _ => false

/-- Whether the next step drops a guard. -/
def releases (t : Thread α β) : Bool :=
  match t.program with
  | .release _ => t.guards ≠ 0
  | _ => false

/-- What a step does to the guards, the flag and the value. -/
inductive Deed (t : Thread α β) (l : SpinLock α) (t' : Thread α β) (l' : SpinLock α) : Prop
  | acquires (attempts : t.attempts = true) (keeps : t.releases = false) (free : l.locked = false)
      (guards : t'.guards = t.guards + 1) (lock : l' = { l with locked := true })
  | releases (keeps : t.attempts = false) (releases : t.releases = true)
      (guards : t'.guards + 1 = t.guards) (lock : l' = { l with locked := false })
  | other (refused : t.attempts = true → l.locked = true) (keeps : t.releases = false)
      (guards : t'.guards = t.guards) (flag : l'.locked = l.locked)
      (value : t.guards = 0 → l'.value = l.value)

theorem deed_step (t : Thread α β) (l : SpinLock α) : Deed t l (t.step l).1 (t.step l).2 := by
  obtain ⟨program, guards, stage, answers⟩ := t
  obtain ⟨locked, value⟩ := l
  cases program with
  | done | answer => exact .other nofun rfl rfl rfl fun _ => rfl
  | lock next =>
      cases stage with
      | attempting delay =>
          cases locked with
          | false => exact .acquires rfl rfl rfl rfl rfl
          | true => exact .other (fun _ => rfl) rfl rfl rfl fun _ => rfl
      | watching delay => cases locked <;> exact .other nofun rfl rfl rfl fun _ => rfl
  | tryLock got missed =>
      cases locked with
      | false => exact .acquires rfl rfl rfl rfl rfl
      | true => exact .other (fun _ => rfl) rfl rfl rfl fun _ => rfl
  | read next => cases guards <;> exact .other nofun rfl rfl rfl fun _ => rfl
  | write value' next =>
      cases guards with
      | zero => exact .other nofun rfl rfl rfl fun _ => rfl
      | succ n => exact .other nofun rfl rfl rfl nofun
  | release next =>
      cases guards with
      | zero => exact .other nofun rfl rfl rfl fun _ => rfl
      | succ n => exact .releases rfl rfl rfl rfl

end Thread

/-- Whether the turn takes the lock. -/
def Turns.acquires (t : Turn (SpinLock α) (Thread α β)) : Bool :=
  t.member.attempts && !t.shared.locked

/-- The value as the last release among the turns left it. -/
def Turns.left (initial : α) : Turns α β → α
  | [] => initial
  | t :: rest => left (if t.member.releases then t.shared.value else initial) rest

/-- Each acquisition finds the value as the release before it left it. -/
def Turns.HandedOver (initial : α) : Turns α β → Prop
  | [] => True
  | t :: rest => (acquires t → t.shared.value = initial) ∧
      HandedOver (if t.member.releases then t.shared.value else initial) rest

theorem Turns.left_concat (initial : α) (turns : Turns α β)
    (t : Turn (SpinLock α) (Thread α β)) :
    left initial (turns ++ [t]) =
      if t.member.releases then t.shared.value else left initial turns := by
  induction turns generalizing initial with
  | nil => rfl
  | cons first rest ih => exact ih _

theorem Turns.HandedOver.concat {initial : α} {turns : Turns α β}
    {t : Turn (SpinLock α) (Thread α β)} (before : HandedOver initial turns)
    (now : acquires t → t.shared.value = left initial turns) :
    HandedOver initial (turns ++ [t]) := by
  induction turns generalizing initial with
  | nil => exact ⟨now, trivial⟩
  | cons first rest ih => exact ⟨before.1, ih before.2 now⟩

/-! ## Runs -/

/-- What holds of every run: of its turns, and of what they led to. -/
structure Exclusive (initial : α) (turns : Turns α β) (c : Threads α β) : Prop where
  guards_le : c.guards ≤ 1
  locked_iff : c.shared.locked = true ↔ c.guards = 1
  tryLock_iff : c.shared.tryLock.1 = true ↔ c.guards = 0
  handedOver : turns.HandedOver initial

/-- A free lock, and threads without guards. -/
def threads (initial : α) (programs : List (Program α β)) : Threads α β :=
  ⟨{ value := initial }, programs.map fun program => { program }⟩

/-- The invariant: the flag counts the guards. -/
structure Counted (initial : α) (turns : Turns α β) (c : Threads α β) : Prop where
  guards : c.guards = c.shared.locked.toNat
  value : c.shared.locked = false → c.shared.value = turns.left initial
  handedOver : turns.HandedOver initial

namespace Counted

variable {initial : α} {turns : Turns α β} {c : Threads α β}

theorem start (initial : α) (programs : List (Program α β)) :
    Counted initial [] (threads initial programs) where
  guards := by simp [Threads.guards, threads, Function.comp_def]
  value _ := rfl
  handedOver := trivial

theorem guards_le (n : Counted initial turns c) : c.guards ≤ 1 := by
  rw [n.guards]
  exact Bool.toNat_le _

/-- Nobody has a guard of a free lock, and nobody else when one thread has it. -/
theorem guards_eq_zero {i j : Nat} {k k' : Thread α β} (n : Counted initial turns c)
    (at_i : c.members[i]? = some k) (at_j : c.members[j]? = some k') (other : j ≠ i)
    (alone : c.shared.locked = false ∨ k.guards = 1) : k'.guards = 0 := by
  rcases alone with free | guard
  · have flag := n.guards
    rw [free, Bool.toNat_false] at flag
    exact Nat.le_zero.1 (flag ▸ Threads.le_guards at_j)
  · -- without that thread there is no guard
    let without : Threads α β := ⟨c.shared, c.members.set i { k with guards := 0 }⟩
    have sum : without.guards + k.guards = c.guards + 0 := Threads.guards_set at_i _ _
    have kept : without.members[j]? = some k' := by
      rw [← at_j]
      exact List.getElem?_set_ne other.symm
    have le := Threads.le_guards kept
    have total := n.guards_le
    omega

theorem turn {i : Nat} {k : Thread α β} (n : Counted initial turns c)
    (at_i : c.members[i]? = some k) :
    Counted initial (turns ++ [⟨i, k, c.shared⟩])
      ⟨(k.step c.shared).2, c.members.set i (k.step c.shared).1⟩ := by
  have sum := Threads.guards_set at_i (k.step c.shared).2 (k.step c.shared).1
  have own := Threads.le_guards at_i
  have flag := n.guards
  cases k.deed_step c.shared with
  | acquires attempts keeps free guards lock =>
      have left := n.value free
      refine ⟨?_, fun clear => ?_, n.handedOver.concat fun _ => left⟩
      · change _ = (k.step c.shared).2.locked.toNat
        have taken : (k.step c.shared).2.locked.toNat = 1 := by rw [lock, Bool.toNat_true]
        rw [free, Bool.toNat_false] at flag
        omega
      · rw [lock] at clear
        cases clear
  | releases keeps releases guards lock =>
      refine ⟨?_, fun _ => ?_, n.handedOver.concat fun acquires => ?_⟩
      · change _ = (k.step c.shared).2.locked.toNat
        have clear : (k.step c.shared).2.locked.toNat = 0 := by rw [lock, Bool.toNat_false]
        have le := n.guards_le
        omega
      · rw [Turns.left_concat, if_pos releases, lock]
      · simp [Turns.acquires, keeps] at acquires
  | other refused keeps guards same value =>
      refine ⟨?_, fun clear => ?_, n.handedOver.concat fun acquires => ?_⟩
      · change _ = (k.step c.shared).2.locked.toNat
        rw [← same] at flag
        omega
      · -- whoever writes has the guard, and the lock would not be free
        rw [same] at clear
        rw [clear, Bool.toNat_false] at flag
        rw [Turns.left_concat, if_neg (by simp [keeps]), value (by omega), n.value clear]
      · obtain ⟨attempts, free⟩ : k.attempts = true ∧ c.shared.locked = false := by
          simpa [Turns.acquires] using acquires
        exact absurd (refused attempts) (by simp [free])

theorem exclusive (n : Counted initial turns c) : Exclusive initial turns c where
  guards_le := n.guards_le
  locked_iff := by rw [n.guards, Bool.toNat_eq_one]
  tryLock_iff := by rw [n.guards, fst_tryLock, Bool.toNat_eq_zero]; simp
  handedOver := n.handedOver

end Counted

theorem counted_run (initial : α) (programs : List (Program α β)) (schedule : List Nat) :
    Counted initial ((threads initial programs).turns Thread.step schedule)
      ((threads initial programs).run Thread.step schedule) :=
  Crew.run_induction (.start initial programs) (fun _ _ _ _ n at_i => n.turn at_i) schedule

end SpinLock

end NestedVisor.Sync
