import NestedVisor.Proofs.Machine.Evolution
import NestedVisor.Proofs.Machine.Teardown

/-!
# The life cycle of a virtual CPU

A virtual CPU is asked for two things, to dispatch an exit and to note that its guest was entered
again.  `Cycles` is a run of these calls in any order.  Seen between two of them the virtual CPU
awaits an exit, is resumed, or has ended for good, and its counters say for each reason how many
exits it has dispatched.  They have 64 bits and wrap.
-/

namespace NestedVisor.Machine

open Exit

variable {m m' start : Machine} {exits : List Machine} {reason : Reason}

/-! ## Phases -/

theorem dispatch_of_ended (ended : m.phase = .terminating) : m.dispatch = (false, m) := by
  rw [dispatch, if_pos ended]

theorem phase_dispatch (m : Machine) :
    m.dispatch.2.phase = if m.dispatch.1 then .resumed else .terminating := by
  by_cases ended : m.phase = .terminating
  · simp [dispatch_of_ended ended, ended]
  · obtain ⟨result, served, run⟩ : ∃ result served,
        serveExit.run.run { m with phase := .dispatching } = (result, served) := ⟨_, _, rfl⟩
    rw [dispatch, if_neg ended, run]
    rcases result with fault | outcome
    · simp
    · cases outcome <;> simp

theorem dispatch_eq_true_iff_resumed : m.dispatch.1 = true ↔ m.dispatch.2.phase = .resumed := by
  cases answer : m.dispatch.1 <;> simp [phase_dispatch, answer]

theorem dispatch_eq_false_iff_terminating :
    m.dispatch.1 = false ↔ m.dispatch.2.phase = .terminating := by
  cases answer : m.dispatch.1 <;> simp [phase_dispatch, answer]

theorem phase_entered_ne (settled : m.phase ≠ .dispatching) : m.entered.phase ≠ .dispatching := by
  unfold entered
  split <;> simp [settled]

theorem counters_entered (m : Machine) : m.entered.counters = m.counters := by
  unfold entered
  split <;> rfl

/-! ## Counters -/

/-- A dispatch counts an exit once it knows the reason and has loaded the registers. -/
structure Counts (m : Machine) (reason : Reason) : Prop where
  alive : m.phase ≠ .terminating
  exits : m.ExitsFor reason
  readable : ∀ field ∈ [VmcsField.exitReason, .rip, .rsp, .rflags], field ∉ m.vmcs.unreadable

theorem counts_iff : m.Counts reason ↔ m.phase ≠ .terminating ∧ m.Opens reason :=
  ⟨fun counts => ⟨counts.alive, exitReason?_eq_some.2 counts.exits, counts.readable⟩,
    fun ⟨alive, opens⟩ => ⟨alive, exitReason?_eq_some.1 opens.known, opens.readable⟩⟩

theorem counts_iff_of_known {first : Reason} (alive : m.phase ≠ .terminating)
    (known : m.exitReason? = some first) (readable : m.vmcs.unreadable = []) :
    m.Counts reason ↔ first = reason := by
  rw [counts_iff]
  constructor
  · rintro ⟨-, opens⟩
    exact Option.some.inj (known.symm.trans opens.known)
  · rintro rfl
    exact ⟨alive, known, fun field _ => by simp [Access.Denied, readable]⟩

instance (m : Machine) (reason : Reason) : Decidable (m.ExitsFor reason) :=
  inferInstanceAs (Decidable (_ = _))

-- a list is searched here, since a field number has too many values to try them all
instance (m : Machine) (reason : Reason) : Decidable (m.Counts reason) :=
  decidable_of_iff
    (m.phase ≠ .terminating ∧ m.ExitsFor reason ∧
      [VmcsField.exitReason, .rip, .rsp, .rflags].all (!m.vmcs.unreadable.contains ·))
    ⟨fun ⟨alive, exits, readable⟩ => ⟨alive, exits, by simpa using readable⟩,
      fun counts => ⟨counts.alive, counts.exits, by simpa using counts.readable⟩⟩

theorem counters_captured (m : Machine) (first reason : Reason) :
    (m.captured first).counters reason =
      m.counters reason + if first = reason then 1 else 0 := by
  by_cases same : first = reason
  · simp [captured, same]
  · simp [captured, same, Ne.symm same]

/-- Whatever becomes of an exit, its service begins by counting it. -/
theorem Serves.counters_of_opens {result : Except Fault Outcome} (serves : m.Serves result m')
    (opens : m.Opens reason) : m'.counters = (m.captured reason).counters := by
  cases serves with
  | closed rip rsp rflags accesses closed => exact absurd opens (closed reason)
  | ended opens' stays ends behaves =>
      obtain rfl := opens'.unique opens
      exact behaves.counters_eq
  | advanced notes opens' deed =>
      obtain rfl := opens'.unique opens
      exact deed.counters_eq
  | stuck notes rip opens' deed =>
      obtain rfl := opens'.unique opens
      exact deed.counters_eq

theorem Serves.counters_of_closed {result : Except Fault Outcome} (serves : m.Serves result m')
    (closed : ∀ reason, ¬ m.Opens reason) : m'.counters = m.counters := by
  cases serves with
  | closed => rfl
  | ended opens => exact absurd opens (closed _)
  | advanced notes opens => exact absurd opens (closed _)
  | stuck notes rip opens => exact absurd opens (closed _)

theorem counters_dispatch (m : Machine) (reason : Reason) :
    m.dispatch.2.counters reason = m.counters reason + if m.Counts reason then 1 else 0 := by
  by_cases ended : m.phase = .terminating
  · simp [dispatch_of_ended ended, counts_iff, ended]
  obtain ⟨result, served, phase, journal, serves, _, after⟩ := serves_dispatch ended
  have counts : m.Counts reason ↔ m.begun.Opens reason := by
    rw [counts_iff, opens_begun, and_iff_right ended]
  rw [after]
  by_cases opens : ∃ first, m.begun.Opens first
  · obtain ⟨first, opens⟩ := opens
    change served.counters reason = m.begun.counters reason + _
    rw [serves.counters_of_opens opens, counters_captured]
    have named : first = reason ↔ m.Counts reason := by
      rw [counts]
      exact ⟨fun same => same ▸ opens, opens.unique⟩
    simp only [named]
  · rw [not_exists] at opens
    change served.counters reason = m.begun.counters reason + _
    rw [serves.counters_of_closed opens, if_neg (mt counts.1 (opens reason))]
    exact (BitVec.add_zero _).symm

/-! ## Runs -/

/--
A run of calls from `start` on, with the machines before each dispatch, the newest first.  Between
two calls everything may change but the phase and the counters, which belong to the core.
-/
inductive Cycles (start : Machine) : List Machine → Machine → Prop
  | start : Cycles start [] start
  | between {exits : List Machine} {m m' : Machine} (run : Cycles start exits m)
      (phase : m'.phase = m.phase) (counts : m'.counters = m.counters) : Cycles start exits m'
  | dispatched {exits : List Machine} {m : Machine} (run : Cycles start exits m) :
      Cycles start (m :: exits) m.dispatch.2
  | entered {exits : List Machine} {m : Machine} (run : Cycles start exits m) :
      Cycles start exits m.entered

theorem Cycles.settled (run : Cycles start exits m) (settled : start.phase ≠ .dispatching) :
    m.phase ≠ .dispatching := by
  induction run with
  | start => exact settled
  | between run phase counts ih => rwa [phase]
  | dispatched run ih =>
      rw [phase_dispatch]
      split <;> simp
  | entered run ih => exact phase_entered_ne ih

theorem Cycles.ended (run : Cycles start exits m) (ended : start.phase = .terminating) :
    m.phase = .terminating := by
  induction run with
  | start => exact ended
  | between run phase counts ih => rw [phase, ih]
  | dispatched run ih => rw [dispatch_of_ended ih, ih]
  | entered run ih => simp [Machine.entered, ih]

theorem Cycles.counters_eq (run : Cycles start exits m) (reason : Reason) :
    m.counters reason =
      start.counters reason + .ofNat 64 (exits.countP fun exit => exit.Counts reason) := by
  induction run with
  | start => exact (BitVec.add_zero _).symm
  | between run phase counts ih => rw [counts, ih]
  | @dispatched exits x run ih =>
      rw [counters_dispatch, ih, List.countP_cons, BitVec.ofNat_add, BitVec.add_assoc]
      by_cases counts : x.Counts reason <;> simp [counts]
  | entered run ih => rw [counters_entered, ih]

theorem Cycles.exitCounts_eq (run : Cycles start exits m) (fresh : start.counters = fun _ => 0)
    (reason : Reason) :
    m.exitCounts reason = (exits.countP fun exit => exit.Counts reason) % 2 ^ 64 := by
  rw [exitCounts, run.counters_eq, fresh, BitVec.toNat_add, BitVec.toNat_ofNat]
  simp

/-- What holds between two calls of a run with these exits. -/
structure LifeCycle (exits : List Machine) (m : Machine) : Prop where
  settled : m.phase ≠ .dispatching
  resumes : m.dispatch.1 = true ↔ m.dispatch.2.phase = .resumed
  ends : m.dispatch.1 = false ↔ m.dispatch.2.phase = .terminating
  enters : m.entered = { m with phase := if m.phase = .resumed then .awaitingExit else m.phase }
  absorbs : m.phase = .terminating → ∀ later m', Cycles m later m' →
    m'.phase = .terminating ∧ m'.dispatch = (false, m')
  counted : ∀ reason,
    m.exitCounts reason = (exits.countP fun exit => exit.Counts reason) % 2 ^ 64
  unwrapped : exits.length < 2 ^ 64 → ∀ reason,
    m.exitCounts reason = exits.countP fun exit => exit.Counts reason

/-- A virtual CPU that was created, and called in any way since then, keeps to its life cycle. -/
theorem Cycles.lifeCycle {policy : Policy} {processor : Processor} {vmcs : Vmcs}
    {ept : Paging.Ept} {host : Hypercall.Host}
    (run : Cycles (create policy processor vmcs ept host) exits m) : LifeCycle exits m := by
  constructor
  case settled => exact run.settled nofun
  case resumes => exact dispatch_eq_true_iff_resumed
  case ends => exact dispatch_eq_false_iff_terminating
  case enters =>
    unfold Machine.entered
    split <;> rfl
  case absorbs =>
    intro ended later m' run'
    have ended' := run'.ended ended
    exact ⟨ended', dispatch_of_ended ended'⟩
  case counted => exact run.exitCounts_eq rfl
  case unwrapped =>
    intro short reason
    rw [run.exitCounts_eq rfl]
    exact Nat.mod_eq_of_lt (Nat.lt_of_le_of_lt List.countP_le_length short)

/-- A guest whose first exit is a CPUID, and whose next one a HLT of no length. -/
def identifying : Machine :=
  create {} .blank (exitingFor 10 2).vmcs (exitingFor 10 2).ept {}

def haltingShort : Machine :=
  { identifying.dispatch.2.entered with vmcs := (exitingFor 12 0).vmcs }

theorem Cycles.lifeCycle_short_halt :
    Cycles identifying [haltingShort.dispatch.2, haltingShort, identifying]
      haltingShort.dispatch.2.dispatch.2 ∧
    (identifying.dispatch.1 = true ∧ haltingShort.dispatch.1 = false) ∧
    haltingShort.dispatch.2.dispatch = (false, haltingShort.dispatch.2) ∧
    haltingShort.dispatch.2.dispatch.2.exitCounts .cpuid = 1 ∧
    haltingShort.dispatch.2.dispatch.2.exitCounts .hlt = 1 := by
  have short : Cycles identifying [haltingShort, identifying] haltingShort.dispatch.2 :=
    .dispatched (.between (.entered (.dispatched .start)) rfl rfl)
  have run : Cycles identifying [haltingShort.dispatch.2, haltingShort, identifying]
      haltingShort.dispatch.2.dispatch.2 := .dispatched short
  have ended : haltingShort.dispatch.2.phase = .terminating := rfl
  have first (reason : Reason) : identifying.Counts reason ↔ .cpuid = reason :=
    counts_iff_of_known nofun rfl rfl
  have second (reason : Reason) : haltingShort.Counts reason ↔ .hlt = reason :=
    counts_iff_of_known nofun rfl rfl
  have third (reason : Reason) : ¬ haltingShort.dispatch.2.Counts reason :=
    fun counts => counts.alive ended
  refine ⟨run, ⟨rfl, rfl⟩, (short.lifeCycle.absorbs ended [] _ .start).2, ?_, ?_⟩
  · rw [run.lifeCycle.counted]
    simp [first, second, third]
  · rw [run.lifeCycle.counted]
    simp [first, second, third]

end NestedVisor.Machine
