import Mathlib.Logic.Basic
import NestedVisor.Proofs.Caching.Dependence
import NestedVisor.Proofs.GuestCall.Commit

/-!
# Memory types over the life of a partition

A page is given its memory type when it is committed, and keeps it.  The type stays right because
nothing that a guest can do changes what resolution reads.  `Life` is a run of the machine with a
log of the commits that it carried out, the newest first.
-/

namespace NestedVisor

open Exit

/-- Whether an address is read from this commit, when it is looked up as a page of `size`. -/
def Commit.Gives (c : Commit) (address : Word) (size : Granularity) : Prop :=
  size = c.size ∧ c.size.Holds c.base address

instance (c : Commit) (address : Word) (size : Granularity) : Decidable (c.Gives address size) :=
  inferInstanceAs (Decidable (_ ∧ _))

namespace Machine

variable {m m' : Machine} {c : Commit}

/-! ## What resolution reads -/

/-- Nothing changed that a memory type depends on. -/
structure KeepsTypes (m m' : Machine) : Prop where
  processor : m'.processor.Agree m.processor
  knows : m.Knows m'.width

theorem KeepsTypes.addressWidth_eq (keeps : KeepsTypes m m') :
    m'.addressWidth = m.addressWidth :=
  (congrArg Prod.fst (Processor.fetch_congr keeps.processor.addressWidth_eq _)).trans
    keeps.knows.fetch.1

theorem KeepsTypes.typeOf_eq (keeps : KeepsTypes m m') (base : Word) (size : Granularity) :
    m'.typeOf base size = m.typeOf base size := by
  rw [typeOf, typeOf, keeps.addressWidth_eq, keeps.processor.sameRanges.resolve_eq]

theorem keepsTypes_dispatch (m : Machine) : KeepsTypes m m.dispatch.2 := by
  by_cases ended : m.phase = .terminating
  · rw [dispatch, if_pos ended]
    exact ⟨.refl _, .inl rfl⟩
  obtain ⟨_, _, phase, journal, serves, _, after⟩ := serves_dispatch ended
  rw [after]
  cases serves with
  | closed => exact ⟨.refl _, .inl rfl⟩
  | ended opens stays ends behaves =>
      cases behaves with
      | advanced => exact absurd rfl stays
      | injected notes event knows => cases event <;> exact ⟨.refl _, knows⟩
      | turnedOff notes marked named knows => exact ⟨.refl _, knows⟩
      | stopped notes rest knows => cases rest <;> exact ⟨.refl _, knows⟩
  | advanced notes opens deed knows =>
      exact ⟨⟨deed.cpuid_eq, fun _ foreign => deed.msr_eq foreign⟩, knows⟩
  | stuck notes rip opens deed knows =>
      exact ⟨⟨deed.cpuid_eq, fun _ foreign => deed.msr_eq foreign⟩, knows⟩

/-! ## Changes of the tables -/

theorem Opens.ept_cases {reason : Reason} {core : Machine} (opens : m.Opens reason)
    (deed : Emulates (m.captured reason) reason.service core) :
    core.ept = m.ept ∨ m.Opens .vmcall ∧ GuestCall.Marked m.registers.rcx ∧
      ∃ change, Changes (m.captured .vmcall) change ∧ core.ept = change.ept ∧
        core.registers.rax = (GuestCall.Status.ofOutcome change.outcome).code := by
  rcases deed.ept_cases with same | ⟨service, marked, change⟩
  · exact .inl same
  · obtain rfl := Reason.service_eq_vmcall.1 service
    exact .inr ⟨opens, marked, change⟩

theorem ept_dispatch_cases (m : Machine) :
    m.dispatch.2.ept = m.ept ∨ m.phase ≠ .terminating ∧ m.begun.Opens .vmcall ∧
      GuestCall.Marked m.registers.rcx ∧
      ∃ change, Changes (m.begun.captured .vmcall) change ∧ m.dispatch.2.ept = change.ept ∧
        m.dispatch.2.registers.rax = (GuestCall.Status.ofOutcome change.outcome).code := by
  rcases carriesOut_or_rests m with ⟨reason, core, carries⟩ | rests
  · obtain ⟨rip, registers⟩ := carries.follows.registers
    rw [carries.follows.ept, registers]
    exact ((opens_begun.2 carries.opens).ept_cases carries.deed).imp_right
      fun changed => ⟨carries.alive, changed⟩
  · exact .inl rests.ept

theorem AsksFor.ept_of_untyped (asks : m.AsksFor c)
    (untyped : m.typeOf c.backing c.size = .unspecified) : m.dispatch.2.ept = m.ept := by
  rcases ept_dispatch_cases m with same | ⟨_, _, _, change, changes, _⟩
  · exact same
  · rw [← asks.backing] at untyped
    cases changes with
    | commit other typed =>
        cases asks.named.symm.trans other
        exact absurd untyped typed
    | uncommit other => cases asks.named.symm.trans other

theorem pagesIn_of_not_commits (wf : m.ept.WellFormed) (other : ∀ c, ¬ m.Commits c) :
    m.dispatch.2.ept.WellFormed ∧ m.dispatch.2.ept.PagesIn m.ept := by
  rcases ept_dispatch_cases m with same | ⟨alive, opens, marked, change, changes, tables, status⟩
  · rw [same]
    exact ⟨wf, Paging.Ept.pagesIn_of_slots_eq rfl⟩
  · rw [tables]
    cases changes with
    | @commit size named typed =>
        have serves := wf.serves (.commit m.registers.rdx size m.registers.r8
          (m.typeOf m.registers.r8 size))
        refine ⟨serves.wellFormed wf, serves.pagesIn_of_idle ?_⟩
        intro _ _ _ _ _ ok
        -- with that outcome it would be one of the commits
        refine other ⟨m.registers.rdx, size, m.registers.r8⟩
          ⟨alive, ⟨opens_begun.1 opens, marked, named, rfl, rfl⟩, status.trans ?_⟩
        exact congrArg (fun outcome => (GuestCall.Status.ofOutcome outcome).code) ok
    | @uncommit size named =>
        have serves := wf.serves (.uncommit m.registers.rdx size)
        exact ⟨serves.wellFormed wf, serves.pagesIn_of_idle nofun⟩

/-! ## The life of a partition -/

/--
Exits are dispatched in any number and for any reason.  Between two of them the guest runs, or
another virtual CPU is loaded, and all may change but the processor, the tables and the width
once it is known.
-/
inductive Life : Machine → List Commit → Prop
  | start {m : Machine} (bare : ∀ i, m.ept.slots i = .empty) : Life m []
  | between {m m' : Machine} {log : List Commit} (life : Life m log)
      (processor : m'.processor = m.processor) (width : m.Knows m'.width)
      (tables : m'.ept.slots = m.ept.slots) : Life m' log
  | committed {m : Machine} {log : List Commit} {c : Commit} (life : Life m log)
      (commits : m.Commits c) : Life m.dispatch.2 (c :: log)
  | dispatched {m : Machine} {log : List Commit} (life : Life m log)
      (other : ∀ c, ¬ m.Commits c) : Life m.dispatch.2 log

/-- What the entry of a committed page has to say, by the range registers of this moment. -/
structure Prescribes (m : Machine) (c : Commit) (entry : Paging.Entry) : Prop where
  typed : m.typeOf c.backing c.size ≠ .unspecified
  memoryType : entry.memoryType.setWidth 8 = (m.typeOf c.backing c.size).code
  readable : entry.readable = true
  writable : entry.writable = true
  executable : entry.executable = true
  large : entry.large = decide (c.size ≠ .page4K)

theorem prescribes_toPage (typed : m.typeOf c.backing c.size ≠ .unspecified) :
    m.Prescribes c
      (.toPage c.backing (m.typeOf c.backing c.size) (Paging.leafLevel c.size > 1)) where
  typed := typed
  memoryType := by
    rw [Paging.Entry.memoryType_toPage]
    cases type : m.typeOf c.backing c.size <;> first | rfl | exact absurd type typed
  readable := (Paging.Entry.fullAccess_toPage ..).1
  writable := (Paging.Entry.fullAccess_toPage ..).2.1
  executable := (Paging.Entry.fullAccess_toPage ..).2.2
  large := by
    rw [Paging.Entry.large_toPage]
    cases c.size <;> rfl

/-- The invariant: an entry is the one that the newest commit of its page would make now. -/
structure Typed (m : Machine) (log : List Commit) : Prop where
  wellFormed : m.ept.WellFormed
  leaves : ∀ (address : Word) (size : Granularity) (entry : Paging.Entry),
    address.toNat < Paging.guestPhysicalLimit → m.ept.leaf? address size = some entry →
    ∃ c, log.find? (·.Gives address size) = some c ∧ m.typeOf c.backing c.size ≠ .unspecified ∧
      entry = .toPage c.backing (m.typeOf c.backing c.size) (Paging.leafLevel c.size > 1)

theorem Typed.of_pagesIn {log : List Commit} (typed : Typed m log) (keeps : KeepsTypes m m')
    (wf : m'.ept.WellFormed) (old : m'.ept.PagesIn m.ept) : Typed m' log where
  wellFormed := wf
  leaves := by
    intro address size entry ha leaf
    simp only [keeps.typeOf_eq]
    exact typed.leaves address size entry ha (old address size entry ha leaf)

theorem Typed.commit {log : List Commit} (typed : Typed m log) (commits : m.Commits c) :
    Typed m.dispatch.2 (c :: log) := by
  obtain ⟨ok, tables⟩ := commits.ept
  have acceptable := (Paging.Ept.acceptable_of_commit_ok ok).1
  constructor
  case wellFormed =>
    rw [tables]
    exact (typed.wellFormed.serves (.commit ..)).wellFormed typed.wellFormed
  case leaves =>
    intro address size entry ha leaf
    simp only [(keepsTypes_dispatch m).typeOf_eq]
    rw [tables, Paging.Ept.leaf?_of_commit_ok ok ha] at leaf
    change (if c.Gives address size then _ else _) = _ at leaf
    by_cases gives : c.Gives address size
    · rw [if_pos gives] at leaf
      exact ⟨c, List.find?_cons_of_pos (decide_eq_true gives), acceptable.typed,
        (Option.some.inj leaf).symm⟩
    · rw [if_neg gives] at leaf
      rw [List.find?_cons_of_neg (by simpa using gives)]
      exact typed.leaves address size entry ha leaf

theorem Life.typed {log : List Commit} (life : Life m log) : Typed m log := by
  induction life with
  | start bare =>
      constructor
      case wellFormed =>
        intro i
        rw [bare]
        exact .empty _
      case leaves =>
        intro address size entry _ leaf
        simp [Paging.Ept.leaf?, bare, Paging.Slot.leaf?] at leaf
  | @between m m' log life processor width tables typed =>
      have keeps : KeepsTypes m m' := ⟨processor ▸ .refl _, width⟩
      refine typed.of_pagesIn keeps (fun i => ?_) (Paging.Ept.pagesIn_of_slots_eq tables)
      rw [tables]
      exact typed.wellFormed i
  | committed life commits typed => exact typed.commit commits
  | @dispatched m log life other typed =>
      obtain ⟨wf, old⟩ := pagesIn_of_not_commits typed.wellFormed other
      exact typed.of_pagesIn (keepsTypes_dispatch m) wf old

/--
In every state of a partition each page has the type that resolution gives to its backing in that
state, and a commit for which it gives none leaves the tables alone.
-/
theorem Life.prescribes {log : List Commit} (life : Life m log) :
    (∀ (address : Word) (size : Granularity) (entry : Paging.Entry),
      address.toNat < Paging.guestPhysicalLimit → m.ept.leaf? address size = some entry →
      ∃ c, log.find? (·.Gives address size) = some c ∧ m.Prescribes c entry) ∧
    ∀ c, m.AsksFor c → m.typeOf c.backing c.size = .unspecified → m.dispatch.2.ept = m.ept := by
  refine ⟨fun address size entry ha leaf => ?_, fun c asks => asks.ept_of_untyped⟩
  obtain ⟨c, newest, typed, rfl⟩ := life.typed.leaves address size entry ha leaf
  exact ⟨c, newest, prescribes_toPage typed⟩

def writeBackProcessor : Processor where
  msr register := if register = .mtrrDefaultType then 0x806 else 0
  cpuid leaf _ := if leaf = 1 then { edx := 0x1000 } else {}

def askingForWriteBack : Machine :=
  { askingFor 0x7000 with processor := writeBackProcessor }

theorem commits_askingForWriteBack :
    askingForWriteBack.Commits ⟨0x205000, .page4K, 0x7000⟩ where
  alive := by decide
  asks := ⟨⟨rfl, fun _ _ => List.not_mem_nil⟩, (calls_askingFor 0x7000).marked,
    (calls_askingFor 0x7000).named, rfl, rfl⟩
  success := rfl

theorem Life.prescribes_write_back :
    ∃ entry, askingForWriteBack.dispatch.2.ept.leaf? 0x205123 .page4K = some entry ∧
      askingForWriteBack.dispatch.2.Prescribes ⟨0x205000, .page4K, 0x7000⟩ entry ∧
      askingForWriteBack.dispatch.2.typeOf 0x7000 .page4K = .writeBack := by
  have life : Life askingForWriteBack.dispatch.2 [⟨0x205000, .page4K, 0x7000⟩] :=
    .committed (.start fun _ => rfl) commits_askingForWriteBack
  obtain ⟨entry, leaf⟩ : ∃ entry,
      askingForWriteBack.dispatch.2.ept.leaf? 0x205123 .page4K = some entry := ⟨_, rfl⟩
  obtain ⟨c, newest, prescribes⟩ := life.prescribes.1 0x205123 .page4K entry (by decide) leaf
  cases newest
  exact ⟨entry, leaf, prescribes, by decide⟩

end Machine

end NestedVisor
