import NestedVisor.Proofs.Exit.Blindness
import NestedVisor.Proofs.Machine.Evolution

/-!
# Nested virtualization is invisible

Machines that are alike stay alike when they dispatch an exit and when the same happens to them
between two exits.  So what can be seen of them is the same at every step, from the moment they
are created.
-/

namespace NestedVisor.Machine

variable {m n : Machine}

/-- The second machine is the first one on a processor that is alike. -/
def Alike (m n : Machine) : Prop :=
  ∃ q, m.processor.Alike q ∧ n = m.on q

/-! ## What can be seen -/

/-- The machine with everything in it but what its processor tells about nested virtualization. -/
def seen (m : Machine) : Machine :=
  m.on m.processor.masked

theorem Alike.seen_eq (alike : m.Alike n) : m.seen = n.seen := by
  obtain ⟨q, processor, rfl⟩ := alike
  exact congrArg m.on processor.masked_eq

/-! ## One exit -/

theorem Alike.dispatch (alike : m.Alike n) :
    m.dispatch.1 = n.dispatch.1 ∧ m.dispatch.2.Alike n.dispatch.2 := by
  obtain ⟨q, processor, rfl⟩ := alike
  by_cases ended : m.phase = .terminating
  · rw [Machine.dispatch, Machine.dispatch, if_pos ended,
      if_pos (show (m.on q).phase = _ from ended)]
    exact ⟨rfl, q, processor, rfl⟩
  obtain ⟨q', processor', second⟩ := Exit.blind_serveExit.exec_on (m := m.begun) processor
  cases first : exec serveExit m.begun with
  | mk result served =>
      rw [first] at processor' second
      change serveExit.run.run { m with phase := .dispatching } = _ at first
      change serveExit.run.run { m.on q with phase := .dispatching } = _ at second
      rw [Machine.dispatch, Machine.dispatch, if_neg ended,
        if_neg (show (m.on q).phase ≠ _ from ended), first, second]
      cases result with
      | error fault => exact ⟨rfl, q', processor', rfl⟩
      | ok outcome => cases outcome <;> exact ⟨rfl, q', processor', rfl⟩

/-! ## Any number of exits -/

/--
What happens between two exits.  The guest, and whoever else can see the machine, may change
everything but the processor, of which they write registers.
-/
structure Interlude where
  act : Machine → Machine
  writes : Machine → List (Msr × Word)

def Interlude.play (i : Interlude) (m : Machine) : Machine :=
  (i.act m.seen).on (m.processor.writeAll (i.writes m.seen))

theorem Alike.play (alike : m.Alike n) (i : Interlude) : (i.play m).Alike (i.play n) := by
  rw [Interlude.play, Interlude.play, alike.seen_eq]
  obtain ⟨q, processor, rfl⟩ := alike
  exact ⟨_, processor.writeAll _, rfl⟩

/-- The answers to exits, each with what can be seen after it. -/
def observations (m : Machine) : List Interlude → List (Bool × Machine)
  | [] => []
  | i :: rest =>
      let (goesOn, after) := (i.play m).dispatch
      (goesOn, after.seen) :: after.observations rest

theorem Alike.observations_eq (alike : m.Alike n) (interludes : List Interlude) :
    m.observations interludes = n.observations interludes := by
  induction interludes generalizing m n with
  | nil => rfl
  | cons i rest ih =>
      obtain ⟨goesOn, after⟩ := (alike.play i).dispatch
      simp only [observations, goesOn, after.seen_eq, ih after]

/--
Two virtual CPUs on processors that differ in nested virtualization only, and are otherwise
created alike, can never be told apart.
-/
theorem observations_create_eq {p q : Processor} (alike : p.Alike q) (policy : Policy)
    (vmcs : Vmcs) (ept : Paging.Ept) (host : Hypercall.Host) (registers : Registers)
    (width : WidthCache) (interludes : List Interlude) :
    observations { create policy p vmcs ept host with registers, width } interludes =
      observations { create policy q vmcs ept host with registers, width } interludes := by
  refine Alike.observations_eq ⟨q, alike, ?_⟩ interludes
  rw [create, create, alike.query_eq]
  rfl

/-- A processor that can run virtual machines and lies under a host that offers more. -/
def nestedProcessor : Processor where
  msr register := if register = .featureControl then 5 else 0
  cpuid leaf _ :=
    if leaf = 1 then { ecx := 0x80000020, edx := 0x1000 }
    else if leaf = 0x40000004 then { eax := 0x4001 }
    else if leaf = 0x4000000A then { eax := 0xE0E }
    else {}

/-- The guest asks for two leaves and the register that locks VMX. -/
def probing : List Interlude :=
  [⟨fun m => m.exitingNext 10 0 { rax := 1 }, fun _ => []⟩,
    ⟨fun m => m.exitingNext 10 0 { rax := 0x40000004 }, fun _ => []⟩,
    ⟨fun m => m.exitingNext 31 0 { rcx := 0x3A }, fun _ => []⟩]

theorem observations_create_eq_probing :
    (nestedProcessor.Alike nestedProcessor.masked ∧
      (nestedProcessor.cpuid 1 0).ecx ≠ (nestedProcessor.masked.cpuid 1 0).ecx ∧
      nestedProcessor.msr .featureControl ≠ nestedProcessor.masked.msr .featureControl) ∧
    observations (create {} nestedProcessor (exitingFor 10 2).vmcs (exitingFor 10 2).ept {})
        probing =
      observations (create {} nestedProcessor.masked (exitingFor 10 2).vmcs (exitingFor 10 2).ept {})
        probing ∧
    (observations (create {} nestedProcessor (exitingFor 10 2).vmcs (exitingFor 10 2).ept {})
        probing).map (fun o => (o.1, o.2.registers.rax, o.2.registers.rcx)) =
      [(true, 0, 0x80000000), (true, 1, 0), (true, 1, 0x3A)] :=
  ⟨⟨nestedProcessor.alike_masked, by decide, by decide⟩,
    observations_create_eq nestedProcessor.alike_masked {} (exitingFor 10 2).vmcs
      (exitingFor 10 2).ept {} {} none probing,
    by decide⟩

end NestedVisor.Machine
