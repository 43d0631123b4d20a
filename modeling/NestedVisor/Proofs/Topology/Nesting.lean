import Mathlib.Tactic.Choose
import NestedVisor.Proofs.Topology.Uniformity
import NestedVisor.Topology.Job

/-!
# Nested work

Work on a processor may itself run work on one or on every processor, and so on to any depth.
A `Task` is any program of that kind.  Whatever it does, its moves pair up: each piece of work
starts where it was asked to, and is left for the processor that it was entered from.
-/

namespace NestedVisor.Topology

/--
A program that looks where it is, keeps a state, and waits for the result of the work it has
done elsewhere.
-/
inductive Task (σ : Type) where
  | finish (result : Except Fault Unit)
  | look (next : (count : BitVec 32) → (current : ProcessorId) → σ → Task σ)
  | put (s : σ) (next : Task σ)
  | on (processor : ProcessorId) (body : Task σ) (next : Except Fault Unit → Task σ)
  | onEach (body : ProcessorId → Task σ) (next : Except Fault Unit → Task σ)

variable {σ : Type}

/-- Runs a task.  That work starts on a processor is noted among the moves. -/
def Task.run : Task σ → Work σ Unit
  | .finish result => fun a s => (result, a, s)
  | .look next => fun a s => (next a.count a.current s).run a s
  | .put s next => fun a _ => next.run a s
  | .on p body next => fun a s =>
      match onProcessor p (visit p [] body.run) a s with
      | (result, a, s) => (next result).run a s
  | .onEach body next => fun a s =>
      match Topology.onEach (fun p => visit p [] (body p).run) a s with
      | (result, a, s) => (next result).run a s

/-! ## Jobs are tasks -/

mutual

def Job.task : Job → (Except Fault Unit → Task Unit) → Task Unit
  | .on p failing inner, next =>
      .on p (if failing.contains p then .finish (.error .terminating) else jobsTask inner) next
  | .onEach failing inner, next =>
      .onEach (fun p =>
        if failing.contains p then .finish (.error .terminating) else jobsTask inner) next

def jobsTask : List Job → Task Unit
  | [] => .finish (.ok ())
  | job :: rest => job.task fun
      | .error fault => .finish (.error fault)
      | .ok () => jobsTask rest

end

theorem visit_nil_run (p : ProcessorId) (failing : List ProcessorId) (t : Task σ) :
    visit p [] (if failing.contains p then Task.finish (.error .terminating) else t).run =
      visit p failing t.run := by
  funext a s
  by_cases fails : p ∈ failing <;> simp [visit, fails, Task.run]

mutual

theorem Job.run_task (job : Job) (next : Except Fault Unit → Task Unit) (a : Affinity) :
    (job.task next).run a () = (next (job.run a ()).1).run (job.run a ()).2.1 () := by
  match job with
  | .on p failing inner => simp only [Job.task, Job.run, Task.run, visit_nil_run, run_jobsTask]
  | .onEach failing inner => simp only [Job.task, Job.run, Task.run, visit_nil_run, run_jobsTask]

theorem run_jobsTask (jobs : List Job) : (jobsTask jobs).run = runJobs jobs := by
  match jobs with
  | [] => rfl
  | job :: rest =>
      funext a s
      rw [jobsTask, Job.run_task job]
      rcases ran : job.run a () with ⟨fault | ok, after, s'⟩ <;> simp only [ran, runJobs]
      · rfl
      · exact congrFun (congrFun (run_jobsTask rest) after) s'

end

theorem Job.run_eq_task (job : Job) : job.run = (job.task .finish).run := by
  funext a s
  exact (job.run_task .finish a).symm

/-! ## Brackets -/

/-- The moves of one piece of work: there, its start, the moves inside it, and back. -/
def bracket (saved p : ProcessorId) (inner : List Move) : List Move :=
  .pin p :: .visit p p :: (inner ++ [.restore saved])

/--
Follows moves with a stack of the processors still to go back to.  Work has to start where it was
asked to, while the caller is there, and a restore to go where the last open pin came from.
-/
def replay : ProcessorId → List ProcessorId → List Move → Option (ProcessorId × List ProcessorId)
  | current, saved, [] => some (current, saved)
  | current, saved, .pin p :: rest => replay p (current :: saved) rest
  | current, saved, .visit asked seen :: rest =>
      if asked = current ∧ seen = current then replay current saved rest else none
  | _, [], .restore _ :: _ => none
  | _, last :: saved, .restore p :: rest => if p = last then replay p saved rest else none

/-- Moves that any replay passes over, as it comes back to where it was. -/
def Balanced (current : ProcessorId) (moves : List Move) : Prop :=
  ∀ saved rest, replay current saved (moves ++ rest) = replay current saved rest

variable {c p : ProcessorId} {moves inner : List Move}

theorem Balanced.nil : Balanced c [] := fun _ _ => rfl

theorem Balanced.append {left right : List Move} (hl : Balanced c left) (hr : Balanced c right) :
    Balanced c (left ++ right) := by
  intro saved rest
  rw [List.append_assoc, hl, hr]

theorem Balanced.bracket (h : Balanced p inner) : Balanced c (bracket c p inner) := by
  intro saved rest
  simp [Topology.bracket, replay, h (c :: saved)]

theorem Balanced.replay_eq (h : Balanced c moves) : replay c [] moves = some (c, []) := by
  simpa [replay] using h [] []

-- left for another processor than the one that it was entered from
example : replay 0 [] [.pin 1, .visit 1 1, .pin 2, .visit 2 2, .restore 0, .restore 1] = none := rfl

/-! ## What a task performs -/

/-- The moves of work on the processors 0, 1, and so on up to `n`. -/
def brackets (c : ProcessorId) (inner : Nat → List Move) (n : Nat) : List Move :=
  (List.range n).flatMap fun i => bracket c (BitVec.ofNat 32 i) (inner i)

theorem brackets_succ (c : ProcessorId) (inner : Nat → List Move) (n : Nat) :
    brackets c inner (n + 1) = brackets c inner n ++ bracket c (BitVec.ofNat 32 n) (inner n) := by
  simp [brackets, List.range_succ]

theorem Balanced.brackets {inner : Nat → List Move} {n : Nat}
    (h : ∀ i < n, Balanced (BitVec.ofNat 32 i) (inner i)) : Balanced c (brackets c inner n) := by
  induction n with
  | zero => exact .nil
  | succ n ih =>
      rw [brackets_succ]
      exact (ih fun i below => h i (Nat.lt_succ_of_lt below)).append (h n n.lt_succ_self).bracket

/--
From processor `c` of `count`, a task with a state makes moves, has a result and leaves a state.
Of work on every processor, `states i` is the state before that on processor `i`, and `inner i`
are the moves inside it.
-/
inductive Task.Performs (count : BitVec 32) :
    ProcessorId → Task σ → σ → List Move → Except Fault Unit → σ → Prop where
  | finish {c r s} : Performs count c (.finish r) s [] r s
  | look {c next s moves r s'} (rest : Performs count c (next count c s) s moves r s') :
      Performs count c (.look next) s moves r s'
  | put {c new next s moves r s'} (rest : Performs count c next new moves r s') :
      Performs count c (.put new next) s moves r s'
  | absent {c p body next s moves r s'} (above : ¬ p < count)
      (rest : Performs count c (next (.error (.invalidProcessor p))) s moves r s') :
      Performs count c (.on p body next) s moves r s'
  | on {c p body next s inner result middle moves r s'} (present : p < count)
      (work : Performs count p body s inner result middle)
      (rest : Performs count c (next result) middle moves r s') :
      Performs count c (.on p body next) s (bracket c p inner ++ moves) r s'
  | onEach {c body next moves r s'} (inner : Nat → List Move) (states : Nat → σ)
      (work : ∀ i < count.toNat, Performs count (BitVec.ofNat 32 i) (body (BitVec.ofNat 32 i))
        (states i) (inner i) (.ok ()) (states (i + 1)))
      (rest : Performs count c (next (.ok ())) (states count.toNat) moves r s') :
      Performs count c (.onEach body next) (states 0)
        (brackets c inner count.toNat ++ moves) r s'
  | upTo {c body next last fault middle moves r s'} (n : Nat) (inner : Nat → List Move)
      (states : Nat → σ) (below : n < count.toNat)
      (work : ∀ i < n, Performs count (BitVec.ofNat 32 i) (body (BitVec.ofNat 32 i))
        (states i) (inner i) (.ok ()) (states (i + 1)))
      (failed : Performs count (BitVec.ofNat 32 n) (body (BitVec.ofNat 32 n))
        (states n) last (.error fault) middle)
      (rest : Performs count c (next (.error fault)) middle moves r s') :
      Performs count c (.onEach body next) (states 0)
        (brackets c inner n ++ (bracket c (BitVec.ofNat 32 n) last ++ moves)) r s'

variable {t : Task σ} {a b d : Affinity} {s s' : σ} {r : Except Fault Unit}

theorem Task.Performs.balanced {count : BitVec 32} (h : t.Performs count c s moves r s') :
    Balanced c moves := by
  induction h with
  | finish => exact .nil
  | look _ ih => exact ih
  | put _ ih => exact ih
  | absent _ _ ih => exact ih
  | on _ _ _ work rest => exact work.bracket.append rest
  | onEach inner states _ _ work rest => exact (Balanced.brackets work).append rest
  | upTo n inner states _ _ _ _ work failed rest =>
      exact (Balanced.brackets work).append (failed.bracket.append rest)

/-! ## One piece of work -/

/-- The caller is where it was, after more moves. -/
structure Affinity.Extends (a : Affinity) (moves : List Move) (after : Affinity) : Prop where
  moves_eq : after.moves.toList = a.moves.toList ++ moves
  current_eq : after.current = a.current
  count_eq : after.count = a.count

theorem Affinity.Extends.refl (a : Affinity) : a.Extends [] a :=
  ⟨(List.append_nil _).symm, rfl, rfl⟩

theorem Affinity.Extends.trans {left right : List Move} (hl : a.Extends left b)
    (hr : b.Extends right d) : a.Extends (left ++ right) d := by
  constructor
  · rw [hr.moves_eq, hl.moves_eq, List.append_assoc]
  · exact hr.current_eq.trans hl.current_eq
  · exact hr.count_eq.trans hl.count_eq

/-- Where a piece of work on `p` begins, its start noted. -/
def Affinity.started (a : Affinity) (p : ProcessorId) : Affinity :=
  { a.movedTo p with moves := (a.movedTo p).moves.push (.visit p p) }

theorem onProcessor_visit (present : p < a.count) (body : Work σ Unit) (s : σ) :
    onProcessor p (visit p [] body) a s = ((body (a.started p) s).1,
      (body (a.started p) s).2.1.restore a.current, (body (a.started p) s).2.2) := by
  rw [onProcessor_of_lt present]
  rfl

theorem Affinity.Extends.restore (h : (a.started p).Extends inner b) :
    a.Extends (bracket a.current p inner) (b.restore a.current) := by
  constructor
  · simp [Affinity.restore, h.moves_eq, started, movedTo, log, bracket]
  · rfl
  · exact h.count_eq

/-- Every run of the task is one that it performs. -/
def Task.Sound (t : Task σ) : Prop :=
  ∀ a s, ∃ moves, t.Performs a.count a.current s moves (t.run a s).1 (t.run a s).2.2 ∧
    a.Extends moves (t.run a s).2.1

theorem Task.Sound.work (sound : t.Sound) (present : p < a.count)
    (ran : onProcessor p (visit p [] t.run) a s = (r, b, s')) :
    ∃ inner, t.Performs a.count p s inner r s' ∧ a.Extends (bracket a.current p inner) b := by
  obtain ⟨inner, performs, made⟩ := sound (a.started p) s
  rw [onProcessor_visit present, Prod.mk.injEq, Prod.mk.injEq] at ran
  obtain ⟨rfl, rfl, rfl⟩ := ran
  exact ⟨inner, performs, made.restore⟩

/-- What a task does after more moves is part of what it does from the start. -/
theorem Task.Sound.after (sound : t.Sound) (h : a.Extends moves b) (s : σ) :
    ∃ later, t.Performs a.count a.current s later (t.run b s).1 (t.run b s).2.2 ∧
      a.Extends (moves ++ later) (t.run b s).2.1 := by
  obtain ⟨later, performs, made⟩ := sound b s
  rw [h.count_eq, h.current_eq] at performs
  exact ⟨later, performs, h.trans made⟩

/-! ## Work on every processor -/

/--
Work on `n` processors from `first` on: `k` of them end well, one after the other, and then
either all are done or the next one fails.
-/
theorem onSpan_rounds (body : ProcessorId → Work σ Unit) (n first : Nat) (a : Affinity) (s : σ) :
    ∃ k, ∃ before : Nat → Affinity × σ, before 0 = (a, s) ∧
      (∀ i < k, onProcessor (BitVec.ofNat 32 (first + i)) (body (BitVec.ofNat 32 (first + i)))
        (before i).1 (before i).2 = (.ok (), before (i + 1))) ∧
      (k = n ∧ onSpan body n first a s = (.ok (), before k) ∨
        k < n ∧ ∃ fault after, onSpan body n first a s = (.error fault, after) ∧
          onProcessor (BitVec.ofNat 32 (first + k)) (body (BitVec.ofNat 32 (first + k)))
            (before k).1 (before k).2 = (.error fault, after)) := by
  induction n generalizing first a s with
  | zero => exact ⟨0, fun _ => (a, s), rfl, nofun, .inl ⟨rfl, rfl⟩⟩
  | succ n ih =>
      rcases round : onProcessor (BitVec.ofNat 32 first) (body (BitVec.ofNat 32 first)) a s with
        ⟨fault | ok, after, s'⟩
      · refine ⟨0, fun _ => (a, s), rfl, nofun, .inr ⟨n.succ_pos, fault, (after, s'), ?_, round⟩⟩
        simp only [onSpan, round]
      · obtain ⟨k, before, start, rounds, ending⟩ := ih (first + 1) after s'
        have later : onSpan body (n + 1) first a s = onSpan body n (first + 1) after s' := by
          simp only [onSpan, round]
        simp only [Nat.add_right_comm first 1] at rounds ending
        refine ⟨k + 1, Nat.rec (a, s) fun i _ => before i, rfl, ?_, ?_⟩
        · rintro (_ | i) below
          · exact round.trans (congrArg _ start.symm)
          · exact rounds i (Nat.lt_of_succ_lt_succ below)
        · rw [later]
          rcases ending with ⟨all, run⟩ | ⟨below, failed⟩
          · exact .inl ⟨congrArg (· + 1) all, run⟩
          · exact .inr ⟨Nat.succ_lt_succ below, failed⟩

theorem Affinity.ofNat_lt_count {i : Nat} (below : i < a.count.toNat) :
    BitVec.ofNat 32 i < a.count := by
  bv_omega

/-- What is done on the first processors, each from where the one before it was left. -/
theorem Task.Sound.rounds {body : ProcessorId → Task σ} (sound : ∀ p, (body p).Sound) {k : Nat}
    (inside : k ≤ a.count.toNat) {before : Nat → Affinity × σ} (start : (before 0).1 = a)
    (rounds : ∀ i < k, onProcessor (BitVec.ofNat 32 i)
      (visit (BitVec.ofNat 32 i) [] (body (BitVec.ofNat 32 i)).run) (before i).1 (before i).2 =
        (.ok (), before (i + 1))) :
    ∃ inner, (∀ i < k, (body (BitVec.ofNat 32 i)).Performs a.count (BitVec.ofNat 32 i)
        (before i).2 (inner i) (.ok ()) (before (i + 1)).2) ∧
      a.Extends (brackets a.current inner k) (before k).1 := by
  have round (i : Nat) (below : i < k) (reached : ∃ moves, a.Extends moves (before i).1) :
      ∃ inner, (body (BitVec.ofNat 32 i)).Performs a.count (BitVec.ofNat 32 i)
          (before i).2 inner (.ok ()) (before (i + 1)).2 ∧
        (before i).1.Extends (bracket a.current (BitVec.ofNat 32 i) inner) (before (i + 1)).1 := by
    obtain ⟨moves, soFar⟩ := reached
    rw [← soFar.count_eq, ← soFar.current_eq]
    exact (sound _).work (soFar.count_eq ▸ Affinity.ofNat_lt_count (Nat.lt_of_lt_of_le below inside))
      (rounds i below)
  have reached (i : Nat) (le : i ≤ k) : ∃ moves, a.Extends moves (before i).1 := by
    induction i with
    | zero => exact ⟨[], start ▸ .refl _⟩
    | succ i ih =>
        obtain ⟨moves, soFar⟩ := ih (Nat.le_of_succ_le le)
        obtain ⟨inner, -, more⟩ := round i le ⟨moves, soFar⟩
        exact ⟨_, soFar.trans more⟩
  choose! inner performs more using fun i below => round i below (reached i (Nat.le_of_lt below))
  refine ⟨inner, performs, ?_⟩
  have joined (n : Nat) (le : n ≤ k) : a.Extends (brackets a.current inner n) (before n).1 := by
    induction n with
    | zero => exact start ▸ .refl _
    | succ n ih =>
        rw [brackets_succ]
        exact (ih (Nat.le_of_succ_le le)).trans (more n le)
  exact joined k k.le_refl

/-! ## Every task -/

theorem Task.Sound.on {body : Task σ} {next : Except Fault Unit → Task σ} (sound : body.Sound)
    (soundNext : ∀ r, (next r).Sound) : (Task.on p body next).Sound := by
  intro a s
  by_cases present : p < a.count
  · rcases ran : onProcessor p (visit p [] body.run) a s with ⟨r, b, s'⟩
    obtain ⟨inner, work, made⟩ := sound.work present ran
    obtain ⟨later, rest, all⟩ := (soundNext r).after made s'
    simp only [run, ran]
    exact ⟨_, .on present work rest, all⟩
  · obtain ⟨moves, rest, made⟩ := soundNext (.error (.invalidProcessor p)) a s
    simp only [run, onProcessor, Affinity.pin, if_neg present]
    exact ⟨moves, .absent present rest, made⟩

theorem Task.Sound.onEach {body : ProcessorId → Task σ} {next : Except Fault Unit → Task σ}
    (sound : ∀ p, (body p).Sound) (soundNext : ∀ r, (next r).Sound) :
    (Task.onEach body next).Sound := by
  intro a s
  obtain ⟨k, before, start, rounds, ⟨rfl, ran⟩ | ⟨below, fault, ⟨b, s'⟩, ran, failed⟩⟩ :=
    onSpan_rounds (fun p => visit p [] (body p).run) a.count.toNat 0 a s
  all_goals
    simp only [Nat.zero_add] at rounds
    simp only [run, Topology.onEach, ran]
    obtain rfl : (before 0).2 = s := congrArg Prod.snd start
    have start := congrArg Prod.fst start
  · obtain ⟨inner, work, made⟩ := Sound.rounds sound (Nat.le_refl _) start rounds
    obtain ⟨later, rest, all⟩ := (soundNext (.ok ())).after made (before a.count.toNat).2
    exact ⟨_, .onEach inner (fun i => (before i).2) work rest, all⟩
  · obtain ⟨inner, work, made⟩ := Sound.rounds sound (Nat.le_of_lt below) start rounds
    rw [Nat.zero_add] at failed
    obtain ⟨last, lastWork, more⟩ := (sound (BitVec.ofNat 32 k)).work
      (made.count_eq ▸ Affinity.ofNat_lt_count below) failed
    rw [made.count_eq] at lastWork
    rw [made.current_eq] at more
    obtain ⟨later, rest, all⟩ := (soundNext (.error fault)).after (made.trans more) s'
    rw [List.append_assoc] at all
    exact ⟨_, .upTo k inner (fun i => (before i).2) below work lastWork rest, all⟩

theorem Task.sound (t : Task σ) : t.Sound := by
  induction t with
  | finish result => exact fun a s => ⟨[], .finish, .refl a⟩
  | look next ih =>
      intro a s
      obtain ⟨moves, performs, made⟩ := ih a.count a.current s a s
      exact ⟨moves, .look performs, made⟩
  | put new next ih =>
      intro a s
      obtain ⟨moves, performs, made⟩ := ih a new
      exact ⟨moves, .put performs, made⟩
  | on p body next ihBody ihNext => exact ihBody.on ihNext
  | onEach body next ihBody ihNext => exact .onEach ihBody ihNext

/--
Every task makes only moves of the kind it performs, which a replay passes through from first to
last with nothing left to go back to, and ends on the processor that it started on.
-/
theorem Task.run_bracketed (t : Task σ) (a : Affinity) (s : σ) : ∃ moves,
    (t.run a s).2.1.moves.toList = a.moves.toList ++ moves ∧
      t.Performs a.count a.current s moves (t.run a s).1 (t.run a s).2.2 ∧
      replay a.current [] moves = some (a.current, []) ∧
      (t.run a s).2.1.current = a.current := by
  obtain ⟨moves, performs, made⟩ := t.sound a s
  exact ⟨moves, made.moves_eq, performs, performs.balanced.replay_eq, made.current_eq⟩

end NestedVisor.Topology
