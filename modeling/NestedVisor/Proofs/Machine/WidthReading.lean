import NestedVisor.Proofs.Exit.Course
import NestedVisor.Proofs.Sync.Initialization

/-!
# One reading of the address width

A process keeps the address width in a cell that is initialized once.  A resolution reads it when
it comes to the variable ranges, and a MOV to CR3 before it loads the register.  Whoever comes
first, on whatever processor, decides the width for everybody.
-/

namespace NestedVisor

open Machine Exit Caching Sync OnceCell

variable {m : Machine} {width : Nat}

/-! ## Handlers that leave the cache alone -/

def KeepsWidth {α : Type} (h : Handler α) : Prop :=
  ∀ m, (exec h m).2.width = m.width

namespace KeepsWidth

variable {α β : Type} {h : Handler α} {f : α → Handler β}

theorem bind (first : KeepsWidth h) (rest : ∀ a, KeepsWidth (f a)) : KeepsWidth (h >>= f) := by
  intro m
  have kept := first m
  rw [exec_bind]
  cases run : exec h m with
  | mk result m' =>
      rw [run] at kept
      cases result with
      | error fault => exact kept
      | ok a => exact (rest a m').trans kept

theorem writeField (field : VmcsField) (value : Word) :
    KeepsWidth (Machine.writeField field value) := by
  intro m
  rw [exec_writeField]
  cases m.vmcs.write field value <;> rfl

theorem writeFields (writes : List (VmcsField × Word)) :
    KeepsWidth (Machine.writeFields writes) := by
  induction writes with
  | nil => exact fun _ => rfl
  | cons write rest ih => exact bind (writeField _ _) fun _ => ih

theorem refuse (why : String) : KeepsWidth (Exit.refuse why) :=
  .bind (fun _ => rfl) fun _ => .bind (fun _ => rfl) fun _ =>
    .bind (.writeFields _) fun _ _ => rfl

end KeepsWidth

namespace Exit

/-- MOV to CR3 with the width known. -/
def movToCr3Under (width : Nat) (value : Word) : Handler Outcome :=
  if setFlag value noFlushBit false >>> width ≠ 0 then
    refuse "CR3 beyond the physical address width"
  else do
    writeField .cr3 (setFlag value noFlushBit false)
    if ¬ value.getLsbD noFlushBit then
      emit (.invalidateContext (← get).policy.vpid)
    return .advance

theorem exec_movToCr3 (value : Word) (m : Machine) :
    ∃ journal, exec (movToCr3 value) m =
      exec (movToCr3Under m.addressWidth value)
        (m.noting ⟨journal, some m.addressWidth, m.accesses⟩) := by
  have cached : (m.width.fetch m.processor).2.1 = some m.addressWidth :=
    (Knows.fetch (.inl rfl)).2
  rw [← cached]
  exact ⟨_, rfl⟩

theorem keepsWidth_movToCr3Under (width : Nat) (value : Word) :
    KeepsWidth (movToCr3Under width value) := by
  rw [movToCr3Under]
  split
  · exact .refuse _
  · refine .bind (.writeField _ _) fun _ => ?_
    by_cases keep : value.getLsbD noFlushBit
    · rw [if_neg (not_not_intro keep)]
      exact fun _ => rfl
    · rw [if_pos keep]
      exact fun _ => rfl

end Exit

/-! ## Uses -/

inductive WidthUse where
  | resolution (base : Word) (size : Granularity)
  | movToCr3 (value : Word)
  deriving DecidableEq, Repr

namespace WidthUse

/-- A resolution that is settled before the variable ranges does without the width. -/
def Reads (m : Machine) : WidthUse → Prop
  | .resolution base _ => early? m.processor base = none
  | .movToCr3 _ => True

instance (m : Machine) : DecidablePred (Reads m)
  | .resolution base _ => inferInstanceAs (Decidable (early? m.processor base = none))
  | .movToCr3 _ => inferInstanceAs (Decidable True)

/-- The use is served under this width, whatever the processor would report. -/
def Under (width : Nat) (m : Machine) : WidthUse → Prop
  | .resolution base size =>
      (exec (resolveType base size) m).1 = .ok (resolve m.processor width base size)
  | .movToCr3 value => ∃ journal cache,
      exec (Exit.movToCr3 value) m =
        exec (movToCr3Under width value) (m.noting ⟨journal, cache, m.accesses⟩)

/-- The cache that the use leaves. -/
def cacheAfter (m : Machine) : WidthUse → WidthCache
  | .resolution base size => (exec (resolveType base size) m).2.width
  | .movToCr3 value => (exec (Exit.movToCr3 value) m).2.width

theorem cacheAfter_resolution (m : Machine) (base : Word) (size : Granularity) :
    cacheAfter m (.resolution base size) = (resolveCached m.processor m.width base size).2.1 :=
  rfl

theorem under_addressWidth (m : Machine) (use : WidthUse) : use.Under m.addressWidth m := by
  cases use with
  | resolution base size =>
      exact congrArg Except.ok (fst_resolveCached m.processor m.width base size)
  | movToCr3 value =>
      obtain ⟨journal, run⟩ := exec_movToCr3 value m
      exact ⟨journal, _, run⟩

theorem under_of_not_reads {use : WidthUse} (settled : ¬ use.Reads m) (width : Nat) :
    use.Under width m := by
  cases use with
  | resolution base size =>
      obtain ⟨v, early⟩ := Option.ne_none_iff_exists'.1 settled
      have same (width' : Nat) : resolve m.processor width' base size = v.type := by
        rw [resolve, verdict, early]
      have served : (exec (resolveType base size) m).1 =
          .ok (resolve m.processor m.addressWidth base size) :=
        under_addressWidth m (.resolution base size)
      rw [Under, served, same, same]
  | movToCr3 value => exact absurd trivial settled

theorem cacheAfter_of_reads {use : WidthUse} (reads : use.Reads m) :
    use.cacheAfter m = some m.addressWidth := by
  cases use with
  | resolution base size =>
      have early : early? m.processor base = none := reads
      rw [cacheAfter_resolution, resolveCached, early]
      exact (Knows.fetch (.inl rfl)).2
  | movToCr3 value =>
      obtain ⟨journal, run⟩ := exec_movToCr3 value m
      rw [cacheAfter, run]
      exact keepsWidth_movToCr3Under _ _ _

theorem cacheAfter_of_not_reads {use : WidthUse} (settled : ¬ use.Reads m) :
    use.cacheAfter m = m.width := by
  cases use with
  | resolution base size =>
      obtain ⟨v, early⟩ := Option.ne_none_iff_exists'.1 settled
      rw [cacheAfter_resolution, resolveCached, early]
  | movToCr3 value => exact absurd trivial settled

/-! ## One after the other -/

/-- Uses by any machines, each with the cache that the use before it left. -/
def inTurn : WidthCache → List (Machine × WidthUse) → List (Machine × WidthUse)
  | _, [] => []
  | cache, (m, use) :: rest =>
      let m := { m with width := cache }
      (m, use) :: inTurn (use.cacheAfter m) rest

/-- Nobody reads a width that is known, and everybody is served under it. -/
theorem under_of_mem_inTurn_some {uses : List (Machine × WidthUse)} {u : Machine × WidthUse}
    (served : u ∈ inTurn (some width) uses) : u.2.Under width u.1 := by
  induction uses with
  | nil => exact absurd served List.not_mem_nil
  | cons first rest ih =>
      obtain ⟨m, use⟩ := first
      rcases List.mem_cons.1 served with rfl | later
      · exact under_addressWidth { m with width := some width } use
      · refine ih ?_
        by_cases reads : use.Reads { m with width := some width }
        · rwa [cacheAfter_of_reads reads] at later
        · rwa [cacheAfter_of_not_reads reads] at later

/-- All uses are served under the width of the first processor that had to be asked. -/
def OneWidthInTurn (uses : List (Machine × WidthUse)) : Prop :=
  ∃ width, ((uses.find? fun u => u.2.Reads u.1).map (·.1.processor.addressWidth)).getD width =
      width ∧
    ∀ u ∈ inTurn none uses, u.2.Under width u.1

theorem oneWidthInTurn (uses : List (Machine × WidthUse)) : OneWidthInTurn uses := by
  induction uses with
  | nil => exact ⟨0, rfl, fun _ served => absurd served List.not_mem_nil⟩
  | cons first rest ih =>
      obtain ⟨m, use⟩ := first
      -- the cache has no part in whether the width is read
      have same : use.Reads { m with width := none } ↔ use.Reads m := by
        cases use with
        | resolution => exact Iff.rfl
        | movToCr3 => exact Iff.rfl
      by_cases reads : use.Reads m
      · refine ⟨m.processor.addressWidth, by simp [reads], fun u served => ?_⟩
        rcases List.mem_cons.1 served with rfl | later
        · exact under_addressWidth { m with width := none } use
        · rw [cacheAfter_of_reads (same.2 reads)] at later
          exact under_of_mem_inTurn_some later
      · obtain ⟨width, first, served⟩ := ih
        refine ⟨width, by simpa [reads] using first, fun u member => ?_⟩
        rcases List.mem_cons.1 member with rfl | later
        · exact under_of_not_reads (mt same.1 reads) width
        · rw [cacheAfter_of_not_reads (mt same.1 reads)] at later
          exact served u later

/-! ## All at once -/

/-- The call by which a use gets the width. -/
def call (u : Machine × WidthUse) : Call Nat :=
  .getOrInit u.1.processor.addressWidth

/--
The uses whose calls have returned are all served under the width of the processor whose call was
the first to attempt the compare-and-swap.
-/
def OneWidthAtOnce (uses : List (Machine × WidthUse)) (schedule : List Nat) : Prop :=
  ∃ width, ((Turns.claims ((callers (uses.map call)).turns Caller.step schedule)).head?.map
      Prod.snd).getD width = width ∧
    ∀ (i : Nat) (u : Machine × WidthUse) (k : Caller Nat) (cache : WidthCache),
      uses[i]? = some u →
      ((callers (uses.map call)).run Caller.step schedule).members[i]? = some k →
      k.stage = .returned cache →
        cache = some width ∧ u.2.Under width { u.1 with width := cache }

theorem oneWidthAtOnce (uses : List (Machine × WidthUse)) (schedule : List Nat) :
    OneWidthAtOnce uses schedule := by
  have once := once_run (uses.map call) schedule
  obtain ⟨width, first⟩ : ∃ width, ((Turns.claims ((callers (uses.map call)).turns Caller.step
      schedule)).head?.map Prod.snd).getD width = width := by
    cases ((Turns.claims ((callers (uses.map call)).turns Caller.step schedule)).head?.map
      Prod.snd) with
    | none => exact ⟨0, rfl⟩
    | some width => exact ⟨width, rfl⟩
  refine ⟨width, first, fun i u k cache used at_i returned => ?_⟩
  rcases once.returned i k cache at_i returned with ⟨owner, v, started, -, rfl⟩ | ⟨gets, -⟩
  · rw [once.head?_claims started] at first
    obtain rfl : v = width := first
    exact ⟨rfl, under_addressWidth { u.1 with width := some v } u.2⟩
  · rw [List.getElem?_map, used] at gets
    cases gets

/-- A cell that nobody is initializing. -/
def cellOf : WidthCache → OnceCell Nat
  | none => {}
  | some width => { flag := .complete, slot := some width }

/-- A handler reads what its call would return, and leaves what the call would leave. -/
theorem runAlone_cellOf (p : Processor) (cache : WidthCache) :
    ((Caller.getOrInit p.addressWidth).runAlone (cellOf cache)).1.stage =
        .returned (some (cache.fetch p).1) ∧
      ((Caller.getOrInit p.addressWidth).runAlone (cellOf cache)).2 =
        cellOf (cache.fetch p).2.1 := by
  cases cache <;> exact ⟨rfl, rfl⟩

/--
A cell is initialized once, however its calls interleave; so all resolutions and all MOVs to CR3
are served under one width, that of the first reading, whether they come one after the other or
all at once.
-/
theorem initialized_once :
    (∀ (α : Type) (calls : List (Call α)) (schedule : List Nat),
      Once calls ((callers calls).turns Caller.step schedule)
        ((callers calls).run Caller.step schedule)) ∧
    (∀ uses schedule, OneWidthAtOnce uses schedule) ∧
    (∀ uses, OneWidthInTurn uses) ∧
    ∀ (p : Processor) (cache : WidthCache),
      ((Caller.getOrInit p.addressWidth).runAlone (cellOf cache)).1.stage =
          .returned (some (cache.fetch p).1) ∧
        ((Caller.getOrInit p.addressWidth).runAlone (cellOf cache)).2 =
          cellOf (cache.fetch p).2.1 :=
  ⟨fun _ => once_run, oneWidthAtOnce, oneWidthInTurn, runAlone_cellOf⟩

end WidthUse

end NestedVisor
