import Mathlib.Data.List.Basic
import NestedVisor.Proofs.Sync.Turns
import NestedVisor.Sync.OnceCell

/-!
# One initialization

Any number of calls race for a new cell, in any order of their steps.  How far the initialization
is, and whose call does it, determines the cell and where each call can stand.  At most one
initializer starts, that of the call whose compare-and-swap came first, and its value is the only
one that a call gets to see.
-/

namespace NestedVisor.Sync.OnceCell

variable {α : Type}

inductive Call (α : Type) where
  | getOrInit (initial : α)
  | get
  | isInitialized
  deriving DecidableEq, Repr

def Call.caller : Call α → Caller α
  | .getOrInit initial => .getOrInit initial
  | .get => .get
  | .isInitialized => .isInitialized

/-- A new cell and everybody who is going to call. -/
def callers (calls : List (Call α)) : Crew (OnceCell α) (Caller α) :=
  ⟨{}, calls.map Call.caller⟩

/-! ## Kinds of turns -/

namespace Stage

def claims? : Stage α → Option α
  | .claiming initial => some initial
  | _ => none

def starts? : Stage α → Option α
  | .initializing initial => some initial
  | _ => none

def writes? : Stage α → Option α
  | .writing value => some value
  | _ => none

end Stage

abbrev Turns (α : Type) :=
  List (Turn (OnceCell α) (Caller α))

/-- The calls that attempted the compare-and-swap, in the order of their attempts. -/
def Turns.claims (turns : Turns α) : List (Nat × α) :=
  shown (·.stage.claims?) turns

/-- The runs of initializers. -/
def Turns.starts (turns : Turns α) : List (Nat × α) :=
  shown (·.stage.starts?) turns

/-- The writes of the slot. -/
def Turns.writes (turns : Turns α) : List (Nat × α) :=
  shown (·.stage.writes?) turns

/-! ## How far the initialization is -/

/-- What the owner of the cell, the call that won it, has done. -/
inductive Progress (α : Type) where
  | untouched
  | claimed (owner : Nat) (initial : α)
  | started (owner : Nat) (value : α)
  | written (owner : Nat) (value : α)
  | published (owner : Nat) (value : α)

namespace Progress

variable {p p' : Progress α} {i j : Nat}

def cell : Progress α → OnceCell α
  | .untouched => {}
  | .claimed .. | .started .. => { flag := .running }
  | .written _ value => { flag := .running, slot := some value }
  | .published _ value => { flag := .complete, slot := some value }

def owner? : Progress α → Option (Nat × α)
  | .untouched => none
  | .claimed owner v | .started owner v | .written owner v | .published owner v => some (owner, v)

def starts : Progress α → List (Nat × α)
  | .untouched | .claimed .. => []
  | .started owner v | .written owner v | .published owner v => [(owner, v)]

def writes : Progress α → List (Nat × α)
  | .untouched | .claimed .. | .started .. => []
  | .written owner v | .published owner v => [(owner, v)]

theorem starts_prefix (p : Progress α) : p.starts <+: p.owner?.toList := by
  cases p <;> simp [starts, owner?]

theorem writes_prefix (p : Progress α) : p.writes <+: p.starts := by
  cases p <;> simp [starts, writes]

theorem flag_eq_complete_iff : p.cell.flag = .complete ↔ ∃ owner v, p = .published owner v := by
  cases p <;> simp [cell]

/-- What one step of a call does to the progress; only the owner gets it any further. -/
inductive Next (i : Nat) : Progress α → Progress α → Prop where
  | stay (p : Progress α) : Next i p p
  | claim (v : α) : Next i .untouched (.claimed i v)
  | start (v : α) : Next i (.claimed i v) (.started i v)
  | write (v : α) : Next i (.started i v) (.written i v)
  | publish (v : α) : Next i (.written i v) (.published i v)

theorem Next.eq_of_complete (next : p.Next i p') (complete : p.cell.flag = .complete) :
    p' = p := by
  obtain ⟨owner, v, rfl⟩ := flag_eq_complete_iff.1 complete
  cases next
  rfl

/-- Where a call can stand. -/
inductive Stands (p : Progress α) (i : Nat) : Call α → Stage α → Prop where
  | claiming {v : α} : Stands p i (.getOrInit v) (.claiming v)
  | initializing {v : α} (own : p = .claimed i v) : Stands p i (.getOrInit v) (.initializing v)
  | writing {v : α} (own : p = .started i v) : Stands p i (.getOrInit v) (.writing v)
  | publishing {v : α} (own : p = .written i v) : Stands p i (.getOrInit v) .publishing
  | waiting {v : α} {delay : Backoff} : Stands p i (.getOrInit v) (.waiting delay)
  | checking : Stands p i .get .checking
  | reading {call : Call α} {owner : Nat} {v : α} (done : p = .published owner v) :
      Stands p i call .reading
  | returned {call : Call α} {owner : Nat} {v : α} (done : p = .published owner v) :
      Stands p i call (.returned (some v))
  | without : Stands p i .get (.returned none)
  | asking : Stands p i .isInitialized .asking
  | answered {initialized : Bool} (told : initialized = true → p.cell.flag = .complete) :
      Stands p i .isInitialized (.answered initialized)

theorem stands_caller (p : Progress α) (i : Nat) (call : Call α) :
    Stands p i call call.caller.stage := by
  cases call with
  | getOrInit v => exact .claiming
  | get => exact .checking
  | isInitialized => exact .asking

theorem Stands.eq_getOrInit {call : Call α} {stage : Stage α} {v : α}
    (stands : Stands p i call stage) (claims : stage.claims? = some v) : call = .getOrInit v := by
  cases stands with
  | claiming => rw [Option.some.inj claims]
  | _ => cases claims

theorem Stands.complete_of_reading {call : Call α} {stage : Stage α}
    (stands : Stands p i call stage) (reading : stage = .reading) : p.cell.flag = .complete := by
  subst reading
  cases stands with
  | reading done => rw [done, cell]

theorem Stands.of_next {call : Call α} {stage : Stage α} (stands : Stands p j call stage)
    (next : p.Next i p') (other : j ≠ i) : Stands p' j call stage := by
  cases stands with
  | claiming => exact .claiming
  | initializing own =>
      subst own
      cases next with
      | stay => exact .initializing rfl
      | start => exact absurd rfl other
  | writing own =>
      subst own
      cases next with
      | stay => exact .writing rfl
      | write => exact absurd rfl other
  | publishing own =>
      subst own
      cases next with
      | stay => exact .publishing rfl
      | publish => exact absurd rfl other
  | waiting => exact .waiting
  | checking => exact .checking
  | reading done =>
      subst done
      cases next
      exact .reading rfl
  | returned done =>
      subst done
      cases next
      exact .returned rfl
  | without => exact .without
  | asking => exact .asking
  | answered told =>
      refine .answered fun yes => ?_
      rw [next.eq_of_complete (told yes)]
      exact told yes

/-- A step of a call takes the progress from the one to the other. -/
structure Takes (p p' : Progress α) (i : Nat) (call : Call α) (k : Caller α) : Prop where
  next : p.Next i p'
  cell : (k.step p.cell).2 = p'.cell
  stands : Stands p' i call (k.step p.cell).1.stage
  owner : p'.owner? = p.owner?.or (k.stage.claims?.map (i, ·))
  starts : p'.starts = p.starts ++ (k.stage.starts?.map (i, ·)).toList
  writes : p'.writes = p.writes ++ (k.stage.writes?.map (i, ·)).toList

/-- A step that is no compare-and-swap, no run of the initializer and no write. -/
theorem Takes.of_stay {call : Call α} {k : Caller α} (cell : (k.step p.cell).2 = p.cell)
    (stands : Stands p i call (k.step p.cell).1.stage) (claims : k.stage.claims? = none)
    (starts : k.stage.starts? = none) (writes : k.stage.writes? = none) : Takes p p i call k where
  next := .stay p
  cell := cell
  stands := stands
  owner := by simp [claims]
  starts := by simp [starts]
  writes := by simp [writes]

theorem Stands.takes {call : Call α} {k : Caller α} (stands : Stands p i call k.stage) :
    ∃ p', Takes p p' i call k := by
  obtain ⟨stage, runs⟩ := k
  cases stands with
  | claiming =>
      -- the compare-and-swap
      cases p with
      | untouched => exact ⟨_, .claim _, rfl, .initializing rfl, rfl, rfl, rfl⟩
      | claimed | started | written => exact ⟨_, .stay _, rfl, .waiting, rfl, rfl, rfl⟩
      | published => exact ⟨_, .stay _, rfl, .reading rfl, rfl, rfl, rfl⟩
  | initializing own => subst own; exact ⟨_, .start _, rfl, .writing rfl, rfl, rfl, rfl⟩
  | writing own => subst own; exact ⟨_, .write _, rfl, .publishing rfl, rfl, rfl, rfl⟩
  | publishing own => subst own; exact ⟨_, .publish _, rfl, .reading rfl, rfl, rfl, rfl⟩
  | waiting =>
      cases p with
      | untouched | claimed | started | written =>
          exact ⟨_, .of_stay rfl .waiting rfl rfl rfl⟩
      | published => exact ⟨_, .of_stay rfl (.reading rfl) rfl rfl rfl⟩
  | checking =>
      cases p with
      | untouched | claimed | started | written =>
          exact ⟨_, .of_stay rfl .without rfl rfl rfl⟩
      | published => exact ⟨_, .of_stay rfl (.reading rfl) rfl rfl rfl⟩
  | reading done => subst done; exact ⟨_, .of_stay rfl (.returned rfl) rfl rfl rfl⟩
  | returned done => exact ⟨_, .of_stay rfl (.returned done) rfl rfl rfl⟩
  | without => exact ⟨_, .of_stay rfl .without rfl rfl rfl⟩
  | asking => exact ⟨_, .of_stay rfl (.answered of_decide_eq_true) rfl rfl rfl⟩
  | answered told => exact ⟨_, .of_stay rfl (.answered told) rfl rfl rfl⟩

end Progress

/-! ## Runs -/

/-- A cell that is complete never changes again. -/
def Stays (cells : List (OnceCell α)) : Prop :=
  cells.Pairwise fun earlier later => earlier.flag = .complete → later = earlier

theorem stays_concat {cells : List (OnceCell α)} {c c' : OnceCell α} (stays : Stays (cells ++ [c]))
    (last : c.flag = .complete → c' = c) : Stays (cells ++ [c] ++ [c']) := by
  refine List.pairwise_append.2 ⟨stays, List.pairwise_singleton .., ?_⟩
  intro earlier listed later final complete
  rw [List.mem_singleton.1 final]
  rcases List.mem_append.1 listed with before | now
  · have same : c = earlier :=
      (List.pairwise_append.1 stays).2.2 earlier before c (List.mem_singleton.2 rfl) complete
    rw [← same] at complete ⊢
    exact last complete
  · rw [List.mem_singleton.1 now] at complete ⊢
    exact last complete

/-- How far a run of calls on a new cell is. -/
structure Progress.Reached (calls : List (Call α)) (p : Progress α) (turns : Turns α)
    (c : Crew (OnceCell α) (Caller α)) : Prop where
  cell : c.shared = p.cell
  stands : ∀ i k, c.members[i]? = some k →
    ∃ call, calls[i]? = some call ∧ Stands p i call k.stage
  owner : p.owner? = turns.claims.head?
  owned : ∀ own ∈ p.owner?, calls[own.1]? = some (.getOrInit own.2)
  starts : p.starts = turns.starts
  writes : p.writes = turns.writes
  reads : ∀ t ∈ turns, t.member.stage = .reading → t.shared.flag = .complete
  stays : Stays (turns.map (·.shared) ++ [c.shared])

namespace Progress.Reached

variable {calls : List (Call α)} {p : Progress α} {turns : Turns α}
  {c : Crew (OnceCell α) (Caller α)}

theorem start (calls : List (Call α)) :
    Reached calls .untouched [] (callers calls) where
  cell := rfl
  stands i k at_i := by
    rw [callers, List.getElem?_map, Option.map_eq_some_iff] at at_i
    obtain ⟨call, called, rfl⟩ := at_i
    exact ⟨call, called, stands_caller _ _ call⟩
  owner := rfl
  owned := nofun
  starts := rfl
  writes := rfl
  reads := nofun
  stays := List.pairwise_singleton ..

theorem turn {i : Nat} {k : Caller α} (r : Reached calls p turns c)
    (at_i : c.members[i]? = some k) :
    ∃ p', Reached calls p' (turns ++ [⟨i, k, c.shared⟩])
      ⟨(k.step c.shared).2, c.members.set i (k.step c.shared).1⟩ := by
  obtain ⟨call, called, stands⟩ := r.stands i k at_i
  obtain ⟨p', takes⟩ := stands.takes
  rw [r.cell]
  refine ⟨p', takes.cell, ?stands, ?owner, ?owned, ?starts, ?writes, ?reads, ?stays⟩
  case stands =>
    intro j k' at_j
    rcases Crew.getElem?_set_cases at_j with ⟨rfl, rfl⟩ | ⟨other, at_j⟩
    · exact ⟨call, called, takes.stands⟩
    · obtain ⟨call', called', stands'⟩ := r.stands j k' at_j
      exact ⟨call', called', stands'.of_next takes.next other⟩
  case owner =>
    rw [takes.owner, r.owner, Turns.claims, Turns.claims, shown_concat, List.head?_append,
      Option.head?_toList]
  case owned =>
    intro own owns
    rw [takes.owner, Option.mem_def, Option.or_eq_some_iff] at owns
    rcases owns with owns | ⟨-, owns⟩
    · exact r.owned own owns
    · obtain ⟨v, claims, rfl⟩ := Option.map_eq_some_iff.1 owns
      rw [called, stands.eq_getOrInit claims]
  case starts => rw [takes.starts, r.starts, Turns.starts, Turns.starts, shown_concat]
  case writes => rw [takes.writes, r.writes, Turns.writes, Turns.writes, shown_concat]
  case reads =>
    intro t listed reading
    rcases List.mem_append.1 listed with listed | listed
    · exact r.reads t listed reading
    · obtain rfl := List.mem_singleton.1 listed
      exact stands.complete_of_reading reading
  case stays =>
    rw [List.map_append, List.map_singleton]
    refine stays_concat (r.cell ▸ r.stays) fun complete => ?_
    rw [takes.cell, takes.next.eq_of_complete complete]

end Progress.Reached

/-- What holds of every run of calls on a new cell: of its turns, and of what they led to. -/
structure Once (calls : List (Call α)) (turns : Turns α) (c : Crew (OnceCell α) (Caller α)) :
    Prop where
  /-- Only the initializer of the first to attempt the compare-and-swap starts, and only once. -/
  starts : turns.starts <+: turns.claims.take 1
  /-- Only its value is written, and only once. -/
  writes : turns.writes <+: turns.starts
  reads : ∀ t ∈ turns, t.member.stage = .reading → t.shared.flag = .complete
  stays : Stays (turns.map (·.shared) ++ [c.shared])
  /-- A call returns the value of the one initializer, and only a get returns without one. -/
  returned : ∀ (i : Nat) (k : Caller α) value, c.members[i]? = some k → k.stage = .returned value →
    (∃ owner v, turns.starts = [(owner, v)] ∧ calls[owner]? = some (.getOrInit v) ∧
      value = some v) ∨ (calls[i]? = some .get ∧ value = none)
  answered : ∀ (i : Nat) (k : Caller α), c.members[i]? = some k → k.stage = .answered true →
    c.shared.flag = .complete

theorem Progress.Reached.once {calls : List (Call α)} {p : Progress α} {turns : Turns α}
    {c : Crew (OnceCell α) (Caller α)} (r : p.Reached calls turns c) : Once calls turns c where
  starts := by
    rw [← r.starts, List.take_one, ← r.owner]
    exact p.starts_prefix
  writes := by
    rw [← r.writes, ← r.starts]
    exact p.writes_prefix
  reads := r.reads
  stays := r.stays
  returned := by
    intro i k value at_i returned
    obtain ⟨call, called, stands⟩ := r.stands i k at_i
    rw [returned] at stands
    cases stands with
    | @returned _ owner v done =>
        subst done
        exact .inl ⟨owner, v, r.starts.symm, r.owned _ rfl, rfl⟩
    | without => exact .inr ⟨called, rfl⟩
  answered := by
    intro i k at_i answered
    obtain ⟨call, called, stands⟩ := r.stands i k at_i
    rw [answered] at stands
    cases stands with
    | answered told => exact r.cell ▸ told rfl

theorem Once.head?_claims {calls : List (Call α)} {turns : Turns α}
    {c : Crew (OnceCell α) (Caller α)} {own : Nat × α} (once : Once calls turns c)
    (started : turns.starts = [own]) : turns.claims.head? = some own := by
  have first := once.starts
  rw [started, List.take_one] at first
  cases claims : turns.claims.head? with
  | none => simp [claims] at first
  | some other =>
      rw [claims, Option.toList_some, List.cons_prefix_cons] at first
      exact congrArg some first.1.symm

theorem once_run (calls : List (Call α)) (schedule : List Nat) :
    Once calls ((callers calls).turns Caller.step schedule)
      ((callers calls).run Caller.step schedule) := by
  obtain ⟨p, reached⟩ := Crew.run_induction
    (P := fun turns c => ∃ p, Progress.Reached calls p turns c) ⟨_, .start calls⟩
    (fun before d i k reached at_i => reached.elim fun _ r => r.turn at_i) schedule
  exact reached.once

end NestedVisor.Sync.OnceCell
