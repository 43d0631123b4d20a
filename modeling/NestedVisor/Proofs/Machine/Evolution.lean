import NestedVisor.Proofs.Exit.Store
import NestedVisor.Proofs.Machine.Typing

/-!
# Exits over time

`Evolves` is a run of the machine: exits are dispatched, and between two of them the guest runs
and anything may change but what the core alone decides about.  A property that every dispatch
keeps holds at the end of each run.  What one dispatch leaves in the control structure and in the
trace is said first.
-/

namespace NestedVisor.Machine

open Exit

variable {m m' : Machine}

/-! ## One exit -/

/-- The fields that the way back to the guest writes to. -/
def returnFields : List VmcsField :=
  [.rip, .entryInterruptionInfo, .entryErrorCode]

/-- What a dispatch writes before the way back: what an emulation stores, or half of it. -/
inductive Leaves (m : Machine) : List (VmcsField × Word) → Prop
  | nothing : Leaves m []
  | stored {reason : Reason} {writes : List (VmcsField × Word)} (opens : m.Opens reason)
      (stores : Stores (m.begun.captured reason) reason.service writes) : Leaves m writes
  | half {shadow : VmcsField} (value : Word)
      (first : shadow ∈ [VmcsField.cr0ReadShadow, .cr4ReadShadow])
      (ended : m.dispatch.1 = false) : Leaves m [(shadow, value)]

theorem leaves_dispatch (m : Machine) :
    ∃ writes, m.Leaves writes ∧ ∀ field ∉ returnFields,
      m.dispatch.2.vmcs.get field = (m.vmcs.putAll writes).get field := by
  rcases carriesOut_or_rests m with ⟨reason, core, carries⟩ | rests
  · obtain ⟨writes, stores, same⟩ := carries.deed.stores
    refine ⟨writes, .stored carries.opens stores, fun field other => ?_⟩
    have ne : field ≠ .rip := fun rip => other (rip ▸ List.mem_cons_self)
    rw [carries.follows.fields field ne, same]
    rfl
  rcases rests.fields with kept | ⟨ended, shadow, first, value, stored⟩
  · exact ⟨_, .nothing, fun field other => kept field (mt (List.mem_cons_of_mem _) other)⟩
  · exact ⟨_, .half value first ended, fun field _ => congrArg (·.get field) stored⟩

/-- Where the guest goes on, nothing was left half done. -/
theorem stores_of_dispatch (resumed : m.dispatch.1 = true) :
    ∃ reason writes, m.Opens reason ∧ Stores (m.begun.captured reason) reason.service writes ∧
      ∀ field ∉ returnFields, m.dispatch.2.vmcs.get field = (m.vmcs.putAll writes).get field := by
  obtain ⟨writes, leaves, get⟩ := leaves_dispatch m
  cases leaves with
  | nothing =>
      obtain ⟨reason, opens⟩ := opens_of_dispatch resumed
      exact ⟨reason, [], opens, .nothing, get⟩
  | half value first ended => simp [resumed] at ended
  | stored opens stores => exact ⟨_, writes, opens, stores, get⟩

/-- A field that is not the first of two keeps its value, or gets one that an emulation stores. -/
theorem get_dispatch_cases (m : Machine) {field : VmcsField}
    (other : field ∉ returnFields ++ [VmcsField.cr0ReadShadow, .cr4ReadShadow]) :
    m.dispatch.2.vmcs.get field = m.vmcs.get field ∨
      ∃ reason writes, Stores (m.begun.captured reason) reason.service writes ∧
        m.dispatch.2.vmcs.get field = (m.vmcs.putAll writes).get field := by
  rw [List.mem_append, not_or] at other
  obtain ⟨writes, leaves, get⟩ := leaves_dispatch m
  have kept := get field other.1
  cases leaves with
  | nothing => exact .inl kept
  | half value first ended =>
      refine .inl (kept.trans (m.vmcs.get_putAll_one_of_ne _ ?_))
      rintro rfl
      exact other.2 first
  | stored opens stores => exact .inr ⟨_, writes, stores, kept⟩

theorem trace_dispatch (m : Machine) :
    ∃ events, m.dispatch.2.trace = m.trace ++ events ∧ ∀ msr value,
      .writeMsr msr value ∈ events → classify msr = .hardware true ∧ accepts msr value = true := by
  rcases carriesOut_or_rests m with ⟨reason, core, carries⟩ | rests
  · rw [carries.follows.trace]
    exact carries.deed.trace_eq
  · exact ⟨[], rests.trace.trans (List.append_nil _).symm, by simp⟩

theorem dispatch_eq_true_iff : m.dispatch.1 = true ↔ m.dispatch.2.phase ≠ .terminating := by
  by_cases ended : m.phase = .terminating
  · simp [dispatch, ended]
  · obtain ⟨result, served, run⟩ : ∃ result served,
        serveExit.run.run { m with phase := .dispatching } = (result, served) := ⟨_, _, rfl⟩
    rw [dispatch, if_neg ended, run]
    rcases result with fault | outcome
    · simp
    · cases outcome <;> simp

/-! ## Any number of exits -/

variable {α : Type} {view : Machine → α} {start : Machine} {exits : List Machine}

/--
From `start` on exits are dispatched, of which the list has the machines before each, the newest
first.  Between two of them everything may change but what `view` shows, and a machine that has
ended is not revived.
-/
inductive Evolves (view : Machine → α) (start : Machine) : List Machine → Machine → Prop
  | start : Evolves view start [] start
  | between {exits : List Machine} {m m' : Machine} (run : Evolves view start exits m)
      (same : view m' = view m) (ended : m.phase = .terminating → m'.phase = .terminating) :
      Evolves view start exits m'
  | dispatched {exits : List Machine} {m : Machine} (run : Evolves view start exits m) :
      Evolves view start (m :: exits) m.dispatch.2

/-- What a view shows at the start and every dispatch keeps is shown all along. -/
theorem Evolves.invariant {P : α → Prop} (run : Evolves view start exits m)
    (initial : P (view start)) (step : ∀ x ∈ exits, P (view x) → P (view x.dispatch.2)) :
    P (view m) ∧ ∀ x ∈ exits, P (view x) := by
  induction run with
  | start => exact ⟨initial, by simp⟩
  | between run same ended ih =>
      rw [same]
      exact ih step
  | @dispatched exits x run ih =>
      obtain ⟨now, before⟩ := ih fun x old => step x (List.mem_cons_of_mem _ old)
      exact ⟨step x List.mem_cons_self now, List.forall_mem_cons.2 ⟨now, before⟩⟩

/-- In a run that has not ended every dispatch let the guest go on. -/
theorem Evolves.resumed (run : Evolves view start exits m) (alive : m.phase ≠ .terminating) :
    ∀ x ∈ exits, x.dispatch.1 = true := by
  induction run with
  | start => simp
  | between run same ended ih => exact ih (mt ended alive)
  | @dispatched exits x run ih =>
      have resumed : x.dispatch.1 = true := dispatch_eq_true_iff.2 alive
      exact List.forall_mem_cons.2 ⟨resumed, ih (alive_of_dispatch resumed)⟩

/-- The guest runs on and exits again. -/
def exitingNext (m : Machine) (reason qualification : Word) (registers : Registers) : Machine :=
  { m with
    vmcs := (m.vmcs.put .exitReason reason).put .exitQualification qualification
    registers }

end NestedVisor.Machine
