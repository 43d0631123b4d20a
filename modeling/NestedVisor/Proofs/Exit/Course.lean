import NestedVisor.Proofs.Exit.Emulation

/-!
# The course of a service

A service uses fields of the control structure, one after the other, and the first use that is
denied ends it with a fault.  Its `Course` lists these uses and says how it ends when none is
denied.  `Takes` joins the course of a handler with what the handler leaves behind, its record of
accesses included; the rules below build it along the steps of the handler.
-/

namespace NestedVisor

namespace Exit

structure Course where
  accesses : List Access
  /-- What the service comes to when no access is denied. -/
  ending : Except Fault Outcome

namespace Course

def ends (ending : Except Fault Outcome) : Course :=
  ⟨[], ending⟩

def after (access : Access) (c : Course) : Course :=
  ⟨access :: c.accesses, c.ending⟩

/-- The second course follows where the first one goes on after the instruction. -/
def followed (c next : Course) : Course :=
  match c.ending with
  | .ok .advance => ⟨c.accesses ++ next.accesses, next.ending⟩
  | _ => c

def result (c : Course) (v : Vmcs) : Except Fault Outcome :=
  match c.accesses.find? fun access => access.Denied v with
  | some access => .error (.fieldAccess access.field)
  | none => c.ending

@[elab_as_elim, induction_eliminator]
theorem induction {motive : Course → Prop} (ends : ∀ ending, motive (.ends ending))
    (after : ∀ access c, motive c → motive (.after access c)) (c : Course) : motive c := by
  obtain ⟨accesses, ending⟩ := c
  induction accesses with
  | nil => exact ends ending
  | cons access rest ih => exact after access ⟨rest, ending⟩ ih

/-- The accesses that are tried: the list up to the first that is denied. -/
def performed (c : Course) (v : Vmcs) : List Access :=
  c.accesses.take (c.accesses.findIdx (fun access => access.Denied v) + 1)

theorem performed_ends (ending : Except Fault Outcome) (v : Vmcs) : (ends ending).performed v = [] :=
  rfl

theorem performed_after (access : Access) (c : Course) (v : Vmcs) :
    (c.after access).performed v = access :: if access.Denied v then [] else c.performed v := by
  by_cases denied : access.Denied v <;> simp [performed, after, List.findIdx_cons, denied]

theorem exists_performed_denied (c : Course) (v : Vmcs) :
    (∃ access ∈ c.performed v, access.Denied v) ↔ ∃ access ∈ c.accesses, access.Denied v := by
  induction c with
  | ends ending => rfl
  | after access c ih =>
      rw [performed_after]
      by_cases denied : access.Denied v
      · simp [after, denied]
      · simpa [after, denied] using ih

theorem result_after (access : Access) (c : Course) (v : Vmcs) :
    (c.after access).result v =
      if access.Denied v then .error (.fieldAccess access.field) else c.result v := by
  by_cases denied : access.Denied v <;> simp [result, after, denied]

theorem result_after_of_denied {access : Access} {v : Vmcs} (c : Course)
    (denied : access.Denied v) :
    (c.after access).result v = .error (.fieldAccess access.field) := by
  rw [result_after, if_pos denied]

theorem result_after_of_not_denied {access : Access} {v : Vmcs} (c : Course)
    (granted : ¬ access.Denied v) : (c.after access).result v = c.result v := by
  rw [result_after, if_neg granted]

theorem result_of_granted {c : Course} {v : Vmcs}
    (granted : ∀ access ∈ c.accesses, ¬ access.Denied v) : c.result v = c.ending := by
  have none : c.accesses.find? (fun access => access.Denied v) = none := by
    simpa [List.find?_eq_none] using granted
  rw [result, none]

theorem result_of_denied {c : Course} {v : Vmcs} {access : Access} (used : access ∈ c.accesses)
    (denied : access.Denied v) :
    ∃ access' ∈ c.accesses, access'.Denied v ∧
      c.result v = .error (.fieldAccess access'.field) := by
  cases first : c.accesses.find? fun access => access.Denied v with
  | none => exact absurd (List.find?_eq_none.1 first access used) (by simpa using denied)
  | some access' =>
      refine ⟨access', List.mem_of_find?_eq_some first, ?_, ?_⟩
      · simpa using List.find?_some first
      · rw [result, first]

theorem ending_followed (c next : Course) :
    (c.followed next).ending =
      match c.ending with
      | .ok .advance => next.ending
      | stopped => stopped := by
  rw [followed]
  split <;> simp_all

theorem followed_after (access : Access) (c next : Course) :
    (c.after access).followed next = (c.followed next).after access := by
  obtain ⟨accesses, ending⟩ := c
  rcases ending with fault | outcome
  · rfl
  · cases outcome <;> rfl

theorem accesses_subset_followed (c next : Course) :
    c.accesses ⊆ (c.followed next).accesses := by
  rw [followed]
  split <;> simp

theorem followed_of_advance {c : Course} {v : Vmcs} (advances : c.result v = .ok .advance)
    (next : Course) : (c.followed next).result v = next.result v ∧
      (c.followed next).performed v = c.performed v ++ next.performed v := by
  induction c with
  | ends ending =>
      obtain rfl : ending = .ok .advance := advances
      exact ⟨rfl, rfl⟩
  | after access c ih =>
      by_cases denied : access.Denied v
      · simp [result_after_of_denied c denied] at advances
      · rw [result_after_of_not_denied c denied] at advances
        rw [followed_after, result_after_of_not_denied _ denied, performed_after, performed_after,
          if_neg denied, if_neg denied, (ih advances).1, (ih advances).2]
        exact ⟨rfl, rfl⟩

theorem followed_of_ne_advance {c : Course} {v : Vmcs} (stays : c.result v ≠ .ok .advance)
    (next : Course) : (c.followed next).result v = c.result v ∧
      (c.followed next).performed v = c.performed v := by
  induction c with
  | ends ending =>
      rcases ending with fault | outcome
      · exact ⟨rfl, rfl⟩
      · cases outcome with
        | advance => exact absurd rfl stays
        | _ => exact ⟨rfl, rfl⟩
  | after access c ih =>
      rw [followed_after, result_after, result_after, performed_after, performed_after]
      by_cases denied : access.Denied v
      · simp [denied]
      · rw [result_after_of_not_denied c denied] at stays
        simp [denied, ih stays]

end Course

end Exit

namespace Vmcs

theorem read_of_not_denied {v : Vmcs} {field : VmcsField}
    (granted : ¬ (Access.read field).Denied v) : v.read field = .ok (v.get field) :=
  if_neg granted

theorem read_of_denied {v : Vmcs} {field : VmcsField} (denied : (Access.read field).Denied v) :
    v.read field = .error (.fieldAccess field) :=
  if_pos denied

theorem write_of_not_denied {v : Vmcs} {field : VmcsField} (value : Word)
    (granted : ¬ (Access.write field).Denied v) : v.write field value = .ok (v.put field value) :=
  if_neg granted

theorem write_of_denied {v : Vmcs} {field : VmcsField} (value : Word)
    (denied : (Access.write field).Denied v) :
    v.write field value = .error (.fieldAccess field) :=
  if_pos denied

end Vmcs

namespace Machine

variable {α β : Type} {m m₁ core : Machine} {a : α} {b : β}

theorem exec_readField_of_denied {field : VmcsField} (denied : (Access.read field).Denied m.vmcs) :
    exec (readField field) m = (.error (.fieldAccess field), m.tried (.read field)) := by
  rw [exec_readField, Vmcs.read_of_denied denied]

theorem exec_readField_of_not_denied {field : VmcsField}
    (granted : ¬ (Access.read field).Denied m.vmcs) :
    exec (readField field) m = (.ok (m.vmcs.get field), m.tried (.read field)) := by
  rw [exec_readField, Vmcs.read_of_not_denied granted]

theorem exec_writeField_of_denied {field : VmcsField} {value : Word}
    (denied : (Access.write field).Denied m.vmcs) :
    exec (writeField field value) m =
      (.error (.fieldAccess field), m.tried (.write field)) := by
  rw [exec_writeField, Vmcs.write_of_denied value denied]

theorem exec_writeField_of_not_denied {field : VmcsField} {value : Word}
    (granted : ¬ (Access.write field).Denied m.vmcs) :
    exec (writeField field value) m =
      (.ok (), (m.tried (.write field)).withField field value) := by
  rw [exec_writeField, Vmcs.write_of_not_denied value granted]
  rfl

theorem Knows.fetch {width : WidthCache} (known : m.Knows width) :
    (width.fetch m.processor).1 = m.addressWidth ∧
      (width.fetch m.processor).2.1 = some m.addressWidth := by
  rcases known with rfl | rfl
  · cases cached : m.width <;> simp [addressWidth, WidthCache.fetch, cached]
  · simp

theorem Knows.resolveCached {width : WidthCache} (known : m.Knows width) (base : Word)
    (size : Granularity) :
    (Caching.resolveCached m.processor width base size).1 = m.typeOf base size ∧
      m.Knows (Caching.resolveCached m.processor width base size).2.1 := by
  constructor
  · rw [Caching.fst_resolveCached, known.fetch.1, typeOf]
  · unfold Caching.resolveCached
    split
    · exact known
    · exact .inr known.fetch.2

/-! ## Steps that use no field -/

/-- From `m` on, the handler gets to `core` with the answer `a`; it may log on the way. -/
def Reaches (m core : Machine) (h : Handler α) (a : α) : Prop :=
  ∀ notes : Notes, ∃ journal,
    exec h (m.noting notes) = (.ok a, core.noting { notes with journal })

namespace Reaches

theorem bind {first : Handler β} {next : β → Handler α} (start : Reaches m m₁ first b)
    (rest : Reaches m₁ core (next b) a) : Reaches m core (first >>= next) a := by
  intro notes
  obtain ⟨journal, start⟩ := start notes
  rw [exec_bind_of_ok start]
  exact rest { notes with journal }

theorem pure : Reaches m m (Pure.pure a) a :=
  fun notes => ⟨notes.journal, rfl⟩

theorem log (r : Record) : Reaches m m (Machine.log r) () :=
  fun _ => ⟨_, rfl⟩

theorem registers : Reaches m m getRegisters m.registers :=
  fun notes => ⟨notes.journal, rfl⟩

theorem readMsr (msr : Msr) : Reaches m m (Machine.readMsr msr) (m.processor.msr msr) :=
  fun notes => ⟨notes.journal, rfl⟩

theorem get {next : Machine → Handler α} (same : ∀ notes, next (m.noting notes) = next m)
    (rest : Reaches m core (next m) a) : Reaches m core (MonadState.get >>= next) a := by
  intro notes
  rw [exec_bind_of_ok (exec_get _), same]
  exact rest notes

theorem modifyRegisters (change : Registers → Registers) :
    Reaches m (m.withRegisters (change m.registers)) (Machine.modifyRegisters change) () :=
  fun notes => ⟨notes.journal, rfl⟩

theorem emit (event : Event) : Reaches m (m.withEvent event) (Machine.emit event) () :=
  fun notes => ⟨notes.journal, rfl⟩

theorem callHost (call : Hypercall.Call) :
    Reaches m (m.withHostCall call) (Machine.callHost call) (m.host.serve call).1 :=
  fun notes => ⟨notes.journal, rfl⟩

theorem changeEpt (change : Paging.Ept → Paging.Change) :
    Reaches m { m with ept := (change m.ept).ept } (Machine.changeEpt change)
      (change m.ept).outcome :=
  fun _ => ⟨_, rfl⟩

end Reaches

end Machine

namespace Exit

open Machine

/-! ## Handlers on their way -/

/--
A run that followed the course: its result, the accesses that it added to the record, and a machine
that may be left with this result.
-/
structure Course.Fits (c : Course) (v : Vmcs) (before : List Access)
    (leaves : Except Fault Outcome → Machine → Prop) (run : Except Fault Outcome × Machine) :
    Prop where
  result : run.1 = c.result v
  accesses : run.2.accesses = before ++ c.performed v
  leaves : leaves run.1 run.2

namespace Course.Fits

variable {c next : Course} {v : Vmcs} {before : List Access} {access : Access} {m' : Machine}
  {leaves leaves' : Except Fault Outcome → Machine → Prop}
  {run : Except Fault Outcome × Machine} {result : Except Fault Outcome}

theorem ends (ending : Except Fault Outcome) (recorded : m'.accesses = before)
    (left : leaves ending m') : (Course.ends ending).Fits v before leaves (ending, m') :=
  ⟨rfl, by rw [recorded, performed_ends, List.append_nil], left⟩

theorem refused (denied : access.Denied v) (recorded : m'.accesses = before ++ [access])
    (left : leaves (.error (.fieldAccess access.field)) m') :
    (c.after access).Fits v before leaves (.error (.fieldAccess access.field), m') :=
  ⟨(c.result_after_of_denied denied).symm, by rw [recorded, performed_after, if_pos denied], left⟩

theorem granted (granted : ¬ access.Denied v) (rest : c.Fits v (before ++ [access]) leaves run) :
    (c.after access).Fits v before leaves run where
  result := rest.result.trans (c.result_after_of_not_denied granted).symm
  accesses := by rw [rest.accesses, performed_after, if_neg granted, List.append_assoc]; rfl
  leaves := rest.leaves

theorem stays (fits : c.Fits v before leaves (result, m')) (stays : result ≠ .ok .advance)
    (left : leaves' result m') : (c.followed next).Fits v before leaves' (result, m') := by
  have ended : c.result v ≠ .ok .advance := fits.result ▸ stays
  obtain ⟨result, performed⟩ := followed_of_ne_advance ended next
  exact ⟨fits.result.trans result.symm, by rw [performed, fits.accesses], left⟩

theorem follows (fits : c.Fits v before leaves (.ok .advance, m'))
    (rest : next.Fits v m'.accesses leaves' run) :
    (c.followed next).Fits v before leaves' run := by
  obtain ⟨result, performed⟩ := followed_of_advance fits.result.symm next
  exact ⟨rest.result.trans result.symm,
    by rw [performed, rest.accesses, fits.accesses, List.append_assoc], rest.leaves⟩

end Course.Fits

/--
The service of `m` has got to `m₁`.  From there on the handler takes the course `c` and does what
the service may do, however far the notes are, as long as they know no other address width.
-/
def Takes (m : Machine) (service : Service) (h : Handler Outcome) (c : Course)
    (m₁ : Machine := m) : Prop :=
  ∀ notes, m.Knows notes.width → c.Fits m.vmcs notes.accesses (Behaves m service) (exec h (m₁.noting notes))

theorem Stops.denied_iff {m m₁ : Machine} (stops : Stops m m₁) (access : Access) :
    access.Denied m₁.vmcs ↔ access.Denied m.vmcs := by
  cases stops <;> rfl

namespace Takes

variable {α : Type} {m m₁ m₂ core : Machine} {service : Service} {c : Course}
  {h : Handler Outcome} {a : α}

/-! ## Steps that only look -/

theorem look {first : Handler α} {next : α → Handler Outcome} (run : Reaches m₁ m₂ first a)
    (rest : Takes m service (next a) c m₂) : Takes m service (first >>= next) c m₁ := by
  intro notes known
  obtain ⟨journal, first⟩ := run notes
  rw [exec_bind_of_ok first]
  exact rest { notes with journal } known

theorem log {next : Unit → Handler Outcome} (r : Record) (rest : Takes m service (next ()) c m₁) :
    Takes m service (Machine.log r >>= next) c m₁ :=
  look (.log r) rest

theorem getRegisters {next : Registers → Handler Outcome}
    (rest : Takes m service (next m₁.registers) c m₁) :
    Takes m service (Machine.getRegisters >>= next) c m₁ :=
  look .registers rest

theorem get {next : Machine → Handler Outcome} (same : ∀ notes, next (m₁.noting notes) = next m₁)
    (rest : Takes m service (next m₁) c m₁) :
    Takes m service (MonadState.get >>= next) c m₁ := by
  intro notes known
  rw [exec_bind_of_ok (exec_get _), same]
  exact rest notes known

theorem fetchWidth {next : Nat → Handler Outcome}
    (rest : Takes m service (next m.addressWidth) c) :
    Takes m service (Machine.fetchWidth >>= next) c := by
  intro notes known
  have run : exec Machine.fetchWidth (m.noting notes) =
      (.ok (notes.width.fetch m.processor).1,
        m.noting ⟨notes.journal ++ (notes.width.fetch m.processor).2.2,
          (notes.width.fetch m.processor).2.1, notes.accesses⟩) := rfl
  rw [exec_bind_of_ok run, known.fetch.1, known.fetch.2]
  exact rest ⟨_, some m.addressWidth, notes.accesses⟩ (.inr rfl)

theorem resolveType {next : MemoryType → Handler Outcome} {base : Word} {size : Granularity}
    (rest : Takes m service (next (m.typeOf base size)) c) :
    Takes m service (Machine.resolveType base size >>= next) c := by
  intro notes known
  have run : exec (Machine.resolveType base size) (m.noting notes) =
      (.ok (Caching.resolveCached m.processor notes.width base size).1,
        m.noting ⟨notes.journal ++ (Caching.resolveCached m.processor notes.width base size).2.2,
          (Caching.resolveCached m.processor notes.width base size).2.1, notes.accesses⟩) := rfl
  obtain ⟨type, known'⟩ := known.resolveCached base size
  rw [exec_bind_of_ok run, type]
  exact rest ⟨_, _, notes.accesses⟩ known'

/-! ## Accesses -/

theorem access {access : Access} {first : Handler α} {next : α → Handler Outcome}
    (stops : Stops m m₁)
    (refused : access.Denied m₁.vmcs → ∀ notes, exec first (m₁.noting notes) =
      (.error (.fieldAccess access.field), m₁.noting (notes.trying access)))
    (granted : ¬ access.Denied m₁.vmcs → ∀ notes, exec first (m₁.noting notes) =
      (.ok a, m₂.noting (notes.trying access)))
    (rest : Takes m service (next a) c m₂) :
    Takes m service (first >>= next) (c.after access) m₁ := by
  intro notes known
  rw [exec_bind]
  by_cases denied : access.Denied m.vmcs
  · rw [refused ((stops.denied_iff access).2 denied)]
    exact .refused denied rfl (.stopped _ stops known)
  · rw [granted (mt (stops.denied_iff access).1 denied)]
    exact .granted denied (rest (notes.trying access) known)

theorem read {next : Word → Handler Outcome} (field : VmcsField)
    (rest : Takes m service (next (m.vmcs.get field)) c) :
    Takes m service (readField field >>= next) (c.after (.read field)) :=
  access .untouched (fun denied notes => exec_readField_of_denied (m := m.noting notes) denied)
    (fun granted notes => exec_readField_of_not_denied (m := m.noting notes) granted) rest

theorem write {next : Unit → Handler Outcome} {field : VmcsField} {value : Word}
    (stops : Stops m m₁) (rest : Takes m service (next ()) c (m₁.withField field value)) :
    Takes m service (Machine.writeField field value >>= next) (c.after (.write field)) m₁ :=
  access stops (fun denied notes => exec_writeField_of_denied (m := m₁.noting notes) denied)
    (fun granted notes => exec_writeField_of_not_denied (m := m₁.noting notes) granted) rest

/-! ## Ends -/

theorem throw (fault : Fault) : Takes m service (throw fault) (.ends (.error fault)) :=
  fun notes known => .ends _ rfl (.stopped notes .untouched known)

theorem reached {outcome : Outcome} (run : Reaches m₁ core h outcome)
    (behaves : ∀ notes, m.Knows notes.width → Behaves m service (.ok outcome) (core.noting notes)) :
    Takes m service h (.ends (.ok outcome)) m₁ := by
  intro notes known
  obtain ⟨journal, run⟩ := run notes
  rw [run]
  exact .ends _ rfl (behaves _ known)

theorem emulated (deed : Emulates m service core) (run : Reaches m₁ core h .advance) :
    Takes m service h (.ends (.ok .advance)) m₁ :=
  reached run fun notes known => .advanced notes deed known

theorem writeField {next : Unit → Handler Outcome} {field : VmcsField} {value : Word}
    (deed : Emulates m service core)
    (run : Reaches (m.withField field value) core (next ()) .advance) :
    Takes m service (Machine.writeField field value >>= next)
      (.after (.write field) (.ends (.ok .advance))) :=
  write .untouched (emulated deed run)

end Takes

end Exit

end NestedVisor
