import NestedVisor.Paging.Store
import NestedVisor.Proofs.Sync.Exclusion

/-!
# Serial order

Threads that use the value in sessions only, each under a guard of its own, do together what they
would do one session after another, in the order in which they took the lock.  The serial run is
kept beside the interleaved one: it carries a session out at once when a thread takes the lock, so
that while the lock is taken it is ahead by what the holder has still to do.
-/

namespace NestedVisor.Sync

/-! ## One after another -/

/-- Calls to be carried out in order, and the answers so far, the newest first. -/
structure Queue (γ β : Type) where
  pending : List γ
  answers : List β := []

variable {α β γ : Type}

def Queue.step (perform : γ → α → β × α) (q : Queue γ β) (value : α) : Queue γ β × α :=
  match q.pending with
  | [] => (q, value)
  | call :: rest =>
      let (answer, value) := perform call value
      (⟨rest, answer :: q.answers⟩, value)

def queues (initial : α) (work : List (List γ)) : Crew α (Queue γ β) :=
  ⟨initial, work.map fun calls => { pending := calls }⟩

/-- The calls one after another; the order says whose turn it is. -/
def serially (perform : γ → α → β × α) (initial : α) (work : List (List γ)) (order : List Nat) :
    Crew α (Queue γ β) :=
  (queues initial work).run (Queue.step perform) order

theorem serially_concat (perform : γ → α → β × α) (initial : α) (work : List (List γ))
    (order : List Nat) (i : Nat) :
    serially perform initial work (order ++ [i]) =
      (serially perform initial work order).stepAt (Queue.step perform) i := by
  rw [serially, Crew.run_append]
  rfl

namespace SpinLock

/-- The order in which threads took the lock. -/
def Turns.order (turns : Turns α β) : List Nat :=
  (turns.filter acquires).map (·.index)

theorem Turns.order_concat (turns : Turns α β) (t : Turn (SpinLock α) (Thread α β)) :
    order (turns ++ [t]) = if acquires t then turns.order ++ [t.index] else turns.order := by
  rw [order, List.filter_append, List.map_append]
  cases took : acquires t <;> simp [order, took]

/-- Threads that carry out calls, each in a session. -/
def workers (session : γ → Session α β) (initial : α) (work : List (List γ)) : Threads α β :=
  threads initial (work.map fun calls => Session.serve (calls.map session))

/-! ## Where a thread stands -/

variable {session : γ → Session α β} {l l' : SpinLock α} {final final' : α} {k : Thread α β}
  {q : Queue γ β}

/-- Where a thread stands, next to its queue; `final` is the value in the serial run. -/
inductive Stands (session : γ → Session α β) (l : SpinLock α) (final : α) :
    Thread α β → Queue γ β → Prop where
  | between (calls : List γ) {stage : Stage} {answers : List β} :
      Stands session l final ⟨Session.serve (calls.map session), 0, stage, answers⟩
        ⟨calls, answers⟩
  | within {s : Session α β} {calls : List γ} {stage : Stage} {answers : List β} {answer : β}
      (held : l.locked = true) (run : s.run l.value = (answer, final)) :
      Stands session l final ⟨s.program (Session.serve (calls.map session)), 1, stage, answers⟩
        ⟨calls, answer :: answers⟩
  | returning {calls : List γ} {stage : Stage} {answers : List β} {answer : β} :
      Stands session l final
        ⟨.answer answer (Session.serve (calls.map session)), 0, stage, answers⟩
        ⟨calls, answer :: answers⟩

/-- A thread without a guard does not stand on the lock or on the value. -/
theorem Stands.of_guards_eq_zero (stands : Stands session l final k q) (none : k.guards = 0) :
    Stands session l' final' k q := by
  cases stands with
  | between calls => exact .between calls
  | within => cases none
  | returning => exact .returning

theorem Stands.answers_suffix (stands : Stands session l final k q) :
    k.answers <:+ q.answers ∧ q.answers.length ≤ k.answers.length + 1 := by
  cases stands with
  | between => exact ⟨List.suffix_rfl, Nat.le_succ _⟩
  | within | returning => exact ⟨List.suffix_cons .., Nat.le_refl _⟩

theorem Stands.eq_of_done (stands : Stands session l final k q) (done : k.done = true) :
    k.guards = 0 ∧ q = ⟨[], k.answers⟩ := by
  cases stands with
  | @between calls =>
      cases calls with
      | nil => exact ⟨rfl, rfl⟩
      | cons => cases done
  | @within s => cases s <;> cases done
  | returning => cases done

/-- What a step of a thread comes to; `q'` and `final'` are those of the serial run. -/
structure Advances (session : γ → Session α β) (l : SpinLock α) (final : α) (k : Thread α β)
    (q' : Queue γ β) (final' : α) : Prop where
  stands : Stands session (k.step l).2 final' (k.step l).1 q'
  free : (k.step l).2.locked = false → (k.step l).2.value = final'
  /-- Who stands on the lock or the value is not affected, or there is nobody else. -/
  alone : ((k.step l).2 = l ∧ final' = final) ∨ l.locked = false ∨ k.guards = 1

/-- The serial run carries the next call out when the thread takes the lock, and waits else. -/
theorem Stands.advances (stands : Stands session l final k q)
    (free : l.locked = false → l.value = final) :
    if k.attempts && !l.locked then
      Advances session l final k (q.step (fun call => (session call).run) final).1
        (q.step (fun call => (session call).run) final).2
    else Advances session l final k q final := by
  obtain ⟨locked, value⟩ := l
  cases stands with
  | @between calls stage =>
      cases calls with
      | nil => exact ⟨.between [], free, .inl ⟨rfl, rfl⟩⟩
      | cons call rest =>
          cases stage with
          | attempting delay =>
              cases locked with
              | true => exact ⟨.between (call :: rest), free, .inl ⟨rfl, rfl⟩⟩
              | false =>
                  obtain rfl : value = final := free rfl
                  exact ⟨.within rfl rfl, nofun, .inr (.inl rfl)⟩
          | watching delay =>
              cases locked <;>
                exact ⟨.between (call :: rest), free, .inl ⟨rfl, rfl⟩⟩
  | @within s calls stage answers answer held run =>
      obtain rfl : locked = true := held
      cases s with
      | «return» answer' =>
          obtain ⟨rfl, rfl⟩ := Prod.mk.inj run
          exact ⟨.returning, fun _ => rfl, .inr (.inr rfl)⟩
      | read next => exact ⟨.within rfl run, nofun, .inr (.inr rfl)⟩
      | write value' next => exact ⟨.within rfl run, nofun, .inr (.inr rfl)⟩
  | returning => exact ⟨.between _, free, .inl ⟨rfl, rfl⟩⟩

/-! ## Runs -/

/-- The interleaved run `c` and the serial run `d`. -/
structure Follows (session : γ → Session α β) (c : Threads α β) (d : Crew α (Queue γ β)) :
    Prop where
  free : c.shared.locked = false → c.shared.value = d.shared
  stands : ∀ (i : Nat) (k : Thread α β), c.members[i]? = some k →
    ∃ q, d.members[i]? = some q ∧ Stands session c.shared d.shared k q

namespace Follows

variable {c : Threads α β} {d : Crew α (Queue γ β)} {initial : α} {turns : Turns α β}

theorem start (session : γ → Session α β) (initial : α) (work : List (List γ)) :
    Follows session (workers session initial work) (queues initial work) where
  free _ := rfl
  stands i k at_i := by
    rw [workers, threads, List.map_map, List.getElem?_map, Option.map_eq_some_iff] at at_i
    obtain ⟨calls, given, rfl⟩ := at_i
    exact ⟨{ pending := calls }, by simp [queues, given], .between calls⟩

/-- One thread advances; the others have no guard when that changes anything. -/
theorem of_advances {i : Nat} {k : Thread α β} {q' : Queue γ β} {final' : α}
    (f : Follows session c d) (n : Counted initial turns c) (at_i : c.members[i]? = some k)
    (advances : Advances session c.shared d.shared k q' final') {d' : Crew α (Queue γ β)}
    (shared : d'.shared = final') (own : d'.members[i]? = some q')
    (others : ∀ j ≠ i, d'.members[j]? = d.members[j]?) :
    Follows session ⟨(k.step c.shared).2, c.members.set i (k.step c.shared).1⟩ d' := by
  subst shared
  refine ⟨advances.free, fun j k' at_j => ?_⟩
  rcases Crew.getElem?_set_cases at_j with ⟨rfl, rfl⟩ | ⟨other, at_j'⟩
  · exact ⟨q', own, advances.stands⟩
  obtain ⟨q, queued, stands⟩ := f.stands j k' at_j'
  refine ⟨q, (others j other).trans queued, ?_⟩
  rcases advances.alone with ⟨same, same'⟩ | alone
  · rw [same, same']
    exact stands
  · exact stands.of_guards_eq_zero (n.guards_eq_zero at_i at_j' other alone)

theorem turn {i : Nat} {k : Thread α β} {work : List (List γ)}
    (f : Follows session c (serially (fun call => (session call).run) initial work turns.order))
    (n : Counted initial turns c) (at_i : c.members[i]? = some k) :
    Follows session ⟨(k.step c.shared).2, c.members.set i (k.step c.shared).1⟩
      (serially (fun call => (session call).run) initial work
        (Turns.order (turns ++ [⟨i, k, c.shared⟩]))) := by
  obtain ⟨q, queued, stands⟩ := f.stands i k at_i
  have advances := stands.advances f.free
  rw [Turns.order_concat, Turns.acquires]
  split at advances
  · next took =>
      rw [if_pos took, serially_concat, Crew.stepAt_of_getElem? queued]
      refine f.of_advances n at_i advances rfl ?_ fun j other => List.getElem?_set_ne other.symm
      rw [List.getElem?_set_self', queued]
      rfl
  · next waits =>
      rw [if_neg waits]
      exact f.of_advances n at_i advances rfl queued fun _ _ => rfl

theorem run (session : γ → Session α β) (initial : α) (work : List (List γ))
    (schedule : List Nat) :
    Follows session ((workers session initial work).run Thread.step schedule)
      (serially (fun call => (session call).run) initial work
        (Turns.order ((workers session initial work).turns Thread.step schedule))) := by
  have both := Crew.run_induction
    (P := fun turns c => Counted initial turns c ∧
      Follows session c (serially (fun call => (session call).run) initial work
        (Turns.order turns)))
    ⟨Counted.start initial _, start session initial work⟩
    (fun before d i k held at_i => ⟨held.1.turn at_i, held.2.turn held.1 at_i⟩) schedule
  exact both.2

end Follows

/-- What threads have done together is what their calls do in the order of this run. -/
structure Serialized (perform : γ → α → β × α) (initial : α) (work : List (List γ))
    (turns : Turns α β) (c : Threads α β) : Prop where
  free : c.shared.locked = false →
    c.shared.value = (serially perform initial work turns.order).shared
  members : ∀ (i : Nat) (k : Thread α β), c.members[i]? = some k →
    ∃ q, (serially perform initial work turns.order).members[i]? = some q ∧
      k.answers <:+ q.answers ∧ q.answers.length ≤ k.answers.length + 1 ∧
      (k.done = true → q = ⟨[], k.answers⟩)
  done : (∀ k ∈ c.members, k.done = true) → c.shared.locked = false

theorem serialized_run (session : γ → Session α β) (initial : α) (work : List (List γ))
    (schedule : List Nat) :
    Serialized (fun call => (session call).run) initial work
      ((workers session initial work).turns Thread.step schedule)
      ((workers session initial work).run Thread.step schedule) := by
  have follows := Follows.run session initial work schedule
  have counted := counted_run initial (work.map fun calls => Session.serve (calls.map session))
    schedule
  refine ⟨follows.free, fun i k at_i => ?_, fun all => ?_⟩
  · obtain ⟨q, queued, stands⟩ := follows.stands i k at_i
    exact ⟨q, queued, stands.answers_suffix.1, stands.answers_suffix.2,
      fun done => (stands.eq_of_done done).2⟩
  · have none : Threads.guards ((workers session initial work).run Thread.step schedule) = 0 := by
      refine List.sum_eq_zero fun guards listed => ?_
      obtain ⟨k, member, rfl⟩ := List.mem_map.1 listed
      obtain ⟨i, at_i⟩ := List.getElem?_of_mem member
      obtain ⟨q, -, stands⟩ := follows.stands i k at_i
      exact (stands.eq_of_done (all k member)).1
    exact Bool.toNat_eq_zero.1 (counted.guards.symm.trans none)

/-! ## Counting -/

/-- While calls add one each, what was added is what is no longer pending. -/
def Counts (initial : Word) (total : Nat) (d : Crew Word (Queue Unit Unit)) : Prop :=
  ∃ n, d.shared = initial + BitVec.ofNat 64 n ∧
    n + (d.members.map (·.pending.length)).sum = total

theorem Counts.turn {initial : Word} {total i : Nat} {d : Crew Word (Queue Unit Unit)}
    {q : Queue Unit Unit} (counts : Counts initial total d) (at_i : d.members[i]? = some q) :
    Counts initial total ⟨(q.step (fun _ n => ((), n + 1)) d.shared).2,
      d.members.set i (q.step (fun _ n => ((), n + 1)) d.shared).1⟩ := by
  obtain ⟨n, value, total⟩ := counts
  have sum := Crew.sum_map_set (·.pending.length) at_i (q.step (fun _ n => ((), n + 1)) d.shared).1
  obtain ⟨pending, answers⟩ := q
  cases pending with
  | nil => exact ⟨n, value, (congrArg (n + ·) (Nat.add_right_cancel sum)).trans total⟩
  | cons call rest =>
      refine ⟨n + 1, ?_, ?_⟩
      · change d.shared + 1 = _
        rw [value, BitVec.add_assoc, BitVec.ofNat_add]
        rfl
      · simp only [Queue.step, List.length_cons] at sum ⊢
        omega

theorem counts_serially (initial : Word) (work : List (List Unit)) (order : List Nat) :
    Counts initial (work.map List.length).sum
      (serially (fun _ n => ((), n + 1)) initial work order) := by
  refine Crew.run_induction (P := fun _ d => Counts initial (work.map List.length).sum d) ?_
    (fun _ _ _ _ counts at_i => counts.turn at_i) order
  exact ⟨0, by simp [queues], by simp [queues, Function.comp_def]⟩

theorem pending_of_done (session : γ → Session α β) (initial : α) (work : List (List γ))
    (schedule : List Nat)
    (done : ∀ k ∈ ((workers session initial work).run Thread.step schedule).members,
      k.done = true) :
    ∀ q ∈ (serially (fun call => (session call).run) initial work (Turns.order
      ((workers session initial work).turns Thread.step schedule))).members, q.pending = [] := by
  intro q member
  obtain ⟨i, queued⟩ := List.getElem?_of_mem member
  -- there is a thread for each queue
  have length : i < ((workers session initial work).run Thread.step schedule).members.length := by
    have small := (List.getElem?_eq_some_iff.1 queued).1
    rw [serially, Crew.length_members_run] at small
    rw [Crew.length_members_run]
    simpa [queues, workers, threads] using small
  have at_i := List.getElem?_eq_getElem length
  obtain ⟨q', queued', -, -, finished⟩ :=
    (serialized_run session initial work schedule).members i _ at_i
  obtain rfl : q' = q := Option.some.inj (queued'.symm.trans queued)
  rw [finished (done _ (List.getElem_mem length))]

/-- No addition is lost, under any schedule that serves all threads to the end. -/
theorem value_adders (threads adds : Nat) (initial : Word) (schedule : List Nat)
    (done : ∀ k ∈ ((adders threads adds initial).run Thread.step schedule).members,
      k.done = true) :
    ((adders threads adds initial).run Thread.step schedule).shared.value =
      initial + BitVec.ofNat 64 (threads * adds) := by
  let addOne : Session Word Unit := .read fun n => .write (n + 1) (.return ())
  let work := List.replicate threads (List.replicate adds ())
  have same : adders threads adds initial = workers (fun _ => addOne) initial work := by
    simp [adders, workers, SpinLock.threads, work, addOne, List.map_replicate]
  rw [same] at done ⊢
  have serialized := serialized_run (fun _ : Unit => addOne) initial work schedule
  rw [serialized.free (serialized.done done)]
  obtain ⟨n, value, total⟩ := counts_serially initial work
    (Turns.order ((workers (fun _ => addOne) initial work).turns Thread.step schedule))
  have none : ((serially (fun _ n => ((), n + 1)) initial work (Turns.order
      ((workers (fun _ => addOne) initial work).turns Thread.step schedule))).members.map
      (·.pending.length)).sum = 0 := by
    refine List.sum_eq_zero fun length listed => ?_
    obtain ⟨q, member, rfl⟩ := List.mem_map.1 listed
    rw [pending_of_done (fun _ => addOne) initial work schedule done q member]
    rfl
  have sum : (work.map List.length).sum = threads * adds := by simp [work]
  rw [none, sum, Nat.add_zero] at total
  exact total ▸ value

/--
Whatever threads do with a lock, it excludes; and when they use the value in sessions, or page
tables through the calls of the store, they do what the calls do one after another.
-/
theorem exclusive_and_serialized :
    (∀ (α β : Type) (initial : α) (programs : List (Program α β)) (schedule : List Nat),
      Exclusive initial ((threads initial programs).turns Thread.step schedule)
        ((threads initial programs).run Thread.step schedule)) ∧
    (∀ (α β : Type) (initial : α) (work : List (List (Session α β))) (schedule : List Nat),
      Serialized Session.run initial work
        ((workers id initial work).turns Thread.step schedule)
        ((workers id initial work).run Thread.step schedule)) ∧
    ∀ (e : Paging.Ept) (work : List (List Paging.StoreCall)) (schedule : List Nat),
      Serialized Paging.StoreCall.perform e work
        ((workers Paging.StoreCall.session e work).turns Thread.step schedule)
        ((workers Paging.StoreCall.session e work).run Thread.step schedule) := by
  refine ⟨fun _ _ initial programs schedule => (counted_run initial programs schedule).exclusive,
    fun _ _ => serialized_run id, fun e work schedule => ?_⟩
  have serialized := serialized_run Paging.StoreCall.session e work schedule
  rwa [funext Paging.StoreCall.run_session] at serialized

end SpinLock

end NestedVisor.Sync
