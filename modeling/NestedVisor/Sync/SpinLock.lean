import NestedVisor.Word.Basic
import NestedVisor.Sync.Backoff
import NestedVisor.Sync.Schedule

/-!
A spin lock around a value.

The lock has two atomic operations: `tryLock`, one compare-and-swap of the flag, and `release`,
one store.  A `Thread` runs a program of calls; its steps are the atomic steps of taking the lock,
of using the value and of letting go.  A `Session` is what is done under one guard.
-/

namespace NestedVisor.Sync

structure SpinLock (α : Type) where
  locked : Bool := false
  value : α
  deriving DecidableEq, Repr

namespace SpinLock

variable {α β : Type}

/-- Sets the flag when it is clear, and says whether it was. -/
def tryLock (l : SpinLock α) : Bool × SpinLock α :=
  if l.locked then (false, l) else (true, { l with locked := true })

def release (l : SpinLock α) : SpinLock α :=
  { l with locked := false }

/-- An operation on the value by the holder of the lock. -/
def access (l : SpinLock α) (operation : α → β × α) : β × SpinLock α :=
  let (answer, value) := operation l.value
  (answer, { l with value })

/-- Takes a free lock, applies an operation and lets go. -/
def withLock (l : SpinLock α) (operation : α → β × α) : β × SpinLock α :=
  let (answer, l) := l.tryLock.2.access operation
  (answer, l.release)

theorem fst_tryLock (l : SpinLock α) : l.tryLock.1 = !l.locked := by
  unfold tryLock
  split <;> simp_all

@[simp] theorem locked_tryLock (l : SpinLock α) : l.tryLock.2.locked = true := by
  unfold tryLock
  split <;> simp_all

@[simp] theorem value_tryLock (l : SpinLock α) : l.tryLock.2.value = l.value := by
  unfold tryLock
  split <;> rfl

@[simp] theorem locked_release (l : SpinLock α) : l.release.locked = false := rfl

@[simp] theorem value_release (l : SpinLock α) : l.release.value = l.value := rfl

/-! ## Threads -/

/-- What a thread does: calls of the lock, and uses of the value through its guard. -/
inductive Program (α β : Type) where
  | done
  | lock (next : Program α β)
  /-- One attempt, and how to go on with a guard and without. -/
  | tryLock (got missed : Program α β)
  | read (next : α → Program α β)
  | write (value : α) (next : Program α β)
  /-- Drops the guard. -/
  | release (next : Program α β)
  | answer (value : β) (next : Program α β)

/-- Where a thread stands that wants the lock. -/
inductive Stage where
  /-- About to attempt the compare-and-swap. -/
  | attempting (delay : Backoff)
  /-- Waiting for the flag to look clear. -/
  | watching (delay : Backoff)
  deriving DecidableEq, Repr

structure Thread (α β : Type) where
  program : Program α β
  /-- How many guards the thread has. -/
  guards : Nat := 0
  stage : Stage := .attempting {}
  /-- The newest first. -/
  answers : List β := []

namespace Thread

def done (t : Thread α β) : Bool :=
  match t.program with
  | .done => true
  | _ => false

/-- One atomic step.  Without a guard a thread does not get to the value, or past a release. -/
def step (t : Thread α β) (l : SpinLock α) : Thread α β × SpinLock α :=
  match t.program with
  | .done => (t, l)
  | .lock next =>
      match t.stage with
      | .attempting delay =>
          match l.tryLock with
          | (true, l) =>
              ({ t with program := next, guards := t.guards + 1, stage := .attempting {} }, l)
          | (false, l) => ({ t with stage := .watching delay }, l)
      | .watching delay =>
          if l.locked then ({ t with stage := .watching delay.spin }, l)
          else ({ t with stage := .attempting delay }, l)
  | .tryLock got missed =>
      match l.tryLock with
      | (true, l) => ({ t with program := got, guards := t.guards + 1 }, l)
      | (false, l) => ({ t with program := missed }, l)
  | .read next =>
      if t.guards = 0 then (t, l) else ({ t with program := next l.value }, l)
  | .write value next =>
      if t.guards = 0 then (t, l) else ({ t with program := next }, { l with value })
  | .release next =>
      if t.guards = 0 then (t, l)
      else ({ t with program := next, guards := t.guards - 1 }, l.release)
  | .answer value next => ({ t with program := next, answers := value :: t.answers }, l)

end Thread

/-! ## Sessions -/

/-- What is done with the value under one guard. -/
inductive Session (α β : Type) where
  | return (answer : β)
  | read (next : α → Session α β)
  | write (value : α) (next : Session α β)

namespace Session

/-- The session as one operation on the value. -/
def run : Session α β → α → β × α
  | .return answer, value => (answer, value)
  | .read next, value => (next value).run value
  | .write value next, _ => next.run value

/-- The steps of the session; the guard is dropped before the answer is returned. -/
def program (next : Program α β) : Session α β → Program α β
  | .return answer => .release (.answer answer next)
  | .read rest => .read fun value => (rest value).program next
  | .write value rest => .write value (rest.program next)

/-- One session after another, each under a guard of its own. -/
def serve : List (Session α β) → Program α β
  | [] => .done
  | session :: rest => .lock (session.program (serve rest))

end Session

/-- Several threads that each add one to a counter, a number of times. -/
def adders (threads adds : Nat) (value : Word) : Crew (SpinLock Word) (Thread Word Unit) :=
  let addOne : Session Word Unit := .read fun n => .write (n + 1) (.return ())
  ⟨{ value }, List.replicate threads { program := Session.serve (List.replicate adds addOne) }⟩

/--
The counter after all threads are done, under the fair schedule that serves them in turn.  An
addition takes at most eight rounds once the lock is free.
-/
def contend (threads adds : Nat) (value : Word) : Word :=
  ((adders threads adds value).roundRobin Thread.step Thread.done
    (8 * (threads * adds + 1))).shared.value

end SpinLock

end NestedVisor.Sync
