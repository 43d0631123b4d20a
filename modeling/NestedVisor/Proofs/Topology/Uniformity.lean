import NestedVisor.Proofs.Caching.Dependence
import NestedVisor.Topology.Partition

/-!
# Uniform range registers

A partition is uniform when the snapshots of all its processors are the same.  Snapshots hold the
default type and the variable ranges; that a processor has range registers at all, and fixed
ones among them, is not in them.  Where processors of a uniform partition agree on these two,
they give each page the same type.
-/

namespace NestedVisor.Topology

open Caching

variable {cpus : Processors} {a : Affinity} {p q : ProcessorId} {base : Word}
  {size : Granularity}

/-- Where work on a processor starts. -/
def Affinity.movedTo (a : Affinity) (p : ProcessorId) : Affinity :=
  ({ a with current := p, moves := a.moves.push (.pin p) } : Affinity).log
    [⟨.trace, s!"Running on logical processor {p.toNat}"⟩]

theorem onProcessor_of_lt {σ α : Type} (present : p < a.count) (body : Work σ α) (s : σ) :
    onProcessor p body a s = ((body (a.movedTo p) s).1,
      (body (a.movedTo p) s).2.1.restore a.current, (body (a.movedTo p) s).2.2) := by
  rw [onProcessor, Affinity.pin, if_pos present]
  rfl

theorem Affinity.mem_processors : p ∈ a.processors ↔ p < a.count := by
  rw [processors, List.mem_map]
  constructor
  · rintro ⟨n, below, rfl⟩
    have := List.mem_range.1 below
    bv_omega
  · exact fun below => ⟨p.toNat, List.mem_range.2 below, by simp⟩

/-! ## The comparison -/

/-- The comparison after one more snapshot. -/
def Comparison.add (c : Comparison) (snapshot : Snapshot) : Comparison :=
  match c.reference with
  | none => { c with reference := some snapshot }
  | some first => if first = snapshot then c else { c with uniform := false }

theorem compareRanges_spec (cpus : Processors) (p : ProcessorId) (a : Affinity)
    (c : Comparison) :
    (compareRanges cpus p a c).1 = .ok () ∧ (compareRanges cpus p a c).2.1.count = a.count ∧
      (compareRanges cpus p a c).2.2 = c.add (.capture (cpus a.current)) := by
  rw [compareRanges, Comparison.add]
  cases c.reference with
  | none => exact ⟨rfl, rfl, rfl⟩
  | some first =>
      by_cases same : first = .capture (cpus a.current)
      · simp [same]
      · simp [same, Affinity.log]

/-- The loop ends well, with every snapshot added in the order of the processors. -/
theorem onAll_compareRanges (cpus : Processors) {ps : List ProcessorId}
    (exist : ∀ p ∈ ps, p < a.count) (c : Comparison) :
    (onAll (compareRanges cpus) ps a c).1 = .ok () ∧
      (onAll (compareRanges cpus) ps a c).2.2 =
        (ps.map fun p => Snapshot.capture (cpus p)).foldl .add c := by
  induction ps generalizing a c with
  | nil => exact ⟨rfl, rfl⟩
  | cons p rest ih =>
      obtain ⟨here, remaining⟩ := List.forall_mem_cons.1 exist
      obtain ⟨ok, count, added⟩ := compareRanges_spec cpus p (a.movedTo p) c
      have first := onProcessor_of_lt here (compareRanges cpus p) c
      rw [ok, added] at first
      simp only [onAll, first]
      exact ih (fun q among => count.symm ▸ remaining q among) _

theorem Comparison.add_some (first snapshot : Snapshot) (uniform : Bool) :
    add ⟨some first, uniform⟩ snapshot = ⟨some first, uniform && first = snapshot⟩ := by
  by_cases same : first = snapshot <;> simp [add, same]

theorem Comparison.foldl_add (first : Snapshot) (snapshots : List Snapshot) (uniform : Bool) :
    (snapshots.foldl add ⟨some first, uniform⟩).uniform =
      (uniform && snapshots.all (first = ·)) := by
  induction snapshots generalizing uniform with
  | nil => simp
  | cons snapshot rest ih =>
      rw [List.foldl_cons, List.all_cons, add_some, ih, Bool.and_assoc]

theorem Comparison.uniform_iff (snapshots : List Snapshot) :
    (snapshots.foldl add {}).uniform = true ↔ ∀ s ∈ snapshots, ∀ t ∈ snapshots, s = t := by
  cases snapshots with
  | nil => simp
  | cons first rest =>
      -- the first snapshot is the one that all later ones are compared with
      change (rest.foldl add ⟨some first, true⟩).uniform = true ↔ _
      rw [foldl_add, Bool.true_and, List.all_eq_true]
      constructor
      · intro same
        have reference (s : Snapshot) (among : s ∈ first :: rest) : first = s := by
          rcases List.mem_cons.1 among with rfl | later
          · rfl
          · exact of_decide_eq_true (same s later)
        exact fun s left t right => (reference s left).symm.trans (reference t right)
      · intro equal t later
        exact decide_eq_true (equal first List.mem_cons_self t (List.mem_cons_of_mem _ later))

/-- The check always gives an answer, and says whether all snapshots are the same. -/
theorem rangesUniform_eq_ok (cpus : Processors) (a : Affinity) : ∃ uniform,
    (rangesUniform cpus a).1 = .ok uniform ∧ (uniform = true ↔ ∀ p q, p < a.count →
      q < a.count → Snapshot.capture (cpus p) = Snapshot.capture (cpus q)) := by
  obtain ⟨ok, compared⟩ :=
    onAll_compareRanges cpus (fun p => (Affinity.mem_processors (a := a)).1) {}
  have answer : (rangesUniform cpus a).1 =
      .ok ((a.processors.map fun p => Snapshot.capture (cpus p)).foldl
        Comparison.add {}).uniform := by
    rw [rangesUniform, onEach_eq_onAll]
    simp only [ok, compared]
    rfl
  refine ⟨_, answer, ?_⟩
  rw [Comparison.uniform_iff]
  simp only [List.forall_mem_map, Affinity.mem_processors]
  exact ⟨fun same p q left right => same p left q right,
    fun same p left q right => same p q left right⟩

/-! ## Resolution -/

theorem resolveOn_of_lt (present : p < a.count) (width : Nat) :
    (resolveOn cpus p base size a (some width)).1 =
      .ok (resolve (cpus p) width base size) := by
  rw [resolveOn, onProcessor_of_lt present]
  exact congrArg Except.ok (fst_resolveCached ..)

/--
What two processors have to agree on beyond their snapshots: with typing on, that there are range
registers; and where there are, with the fixed ranges on, for a page in the first megabyte, that
fixed ranges are among them.
-/
structure Matches (p q : Processor) (base : Word) : Prop where
  supported : p.rangeDefault.enabled → p.hasRangeRegisters = q.hasRangeRegisters
  fixed : p.hasRangeRegisters → p.rangeDefault.enabled → p.rangeDefault.fixedEnabled →
    base < fixedRangeLimit → p.rangeCapability.hasFixedRanges = q.rangeCapability.hasFixedRanges

theorem resolve_of_disabled {p : Processor} (disabled : ¬ p.rangeDefault.enabled) (width : Nat)
    (base : Word) (size : Granularity) : resolve p width base size = .uncacheable := by
  rw [resolve, verdict, early?, if_pos disabled]
  by_cases supported : p.hasRangeRegisters
  · rw [if_neg (not_not_intro supported)]
    rfl
  · rw [if_pos supported]
    rfl

theorem resolve_eq_of_capture_eq {p q : Processor}
    (same : Snapshot.capture p = Snapshot.capture q) (matching : Matches p q base) (width : Nat)
    (size : Granularity) : resolve p width base size = resolve q width base size := by
  obtain ⟨default, ranges⟩ := Processor.capture_eq_iff.1 same
  by_cases enabled : p.rangeDefault.enabled
  · have early : early? p base = early? q base := by
      have supported := matching.supported enabled
      by_cases present : p.hasRangeRegisters = true
      case neg => rw [early?, early?, if_pos present, if_pos (supported ▸ present)]
      by_cases low : p.rangeDefault.fixedEnabled ∧ base < fixedRangeLimit
      · rw [early?, early?, supported, matching.fixed present enabled low.1 low.2, default]
      · have high : ¬ (q.rangeDefault.fixedEnabled ∧ base < fixedRangeLimit) := default ▸ low
        simp only [early?, supported, default, high, and_false]
    rw [resolve, resolve, verdict, verdict, early, default, ranges]
  · rw [resolve_of_disabled enabled, resolve_of_disabled (default ▸ enabled)]

/--
In a partition whose range registers the check finds uniform, resolution on two processors that
match for a page gives it the same type under the width in force.
-/
theorem resolveOn_eq_of_uniform (uniform : (rangesUniform cpus a).1 = .ok true)
    (left : p < a.count) (right : q < a.count) (matching : Matches (cpus p) (cpus q) base)
    (width : Nat) (size : Granularity) :
    ∃ type, (resolveOn cpus p base size a (some width)).1 = .ok type ∧
      (resolveOn cpus q base size a (some width)).1 = .ok type := by
  obtain ⟨answer, answered, same⟩ := rangesUniform_eq_ok cpus a
  obtain rfl : answer = true := Except.ok.inj (answered.symm.trans uniform)
  refine ⟨resolve (cpus p) width base size, resolveOn_of_lt left width, ?_⟩
  rw [resolveOn_of_lt right,
    resolve_eq_of_capture_eq (same.1 rfl p q left right) matching width size]

/-- The first processor has range registers, the second none, the third also fixed ones. -/
def unlikeProcessors : Processors := fun p =>
  { msr := fun register =>
      if register = .mtrrDefaultType then 0xC06
      else if register = .mtrrCapability ∧ p = 2 then 0x100
      else 0
    cpuid := fun leaf _ => if leaf = 1 ∧ p ≠ 1 then { edx := 0x1000 } else {} }

def onFirstOfThree : Affinity where
  count := 3
  current := 0

theorem resolveOn_eq_of_uniform_beyond_first_megabyte :
    (rangesUniform unlikeProcessors onFirstOfThree).1 = .ok true ∧
      ∃ type, (resolveOn unlikeProcessors 0 0x100000 .page4K onFirstOfThree (some 36)).1 =
          .ok type ∧
        (resolveOn unlikeProcessors 2 0x100000 .page4K onFirstOfThree (some 36)).1 = .ok type :=
  ⟨rfl, resolveOn_eq_of_uniform rfl (by decide) (by decide)
    ⟨fun _ => rfl, fun _ _ _ low => absurd low (by decide)⟩ 36 .page4K⟩

/-- Their snapshots are the same, and a page of the first megabyte has three types. -/
theorem resolveOn_unlike_processors :
    (rangesUniform unlikeProcessors onFirstOfThree).1 = .ok true ∧
      (resolveOn unlikeProcessors 0 0x1000 .page4K onFirstOfThree (some 36)).1 =
        .ok .writeBack ∧
      (resolveOn unlikeProcessors 1 0x1000 .page4K onFirstOfThree (some 36)).1 =
        .ok .uncacheable ∧
      (resolveOn unlikeProcessors 2 0x1000 .page4K onFirstOfThree (some 36)).1 =
        .ok .unspecified :=
  ⟨rfl, rfl, rfl, rfl⟩

end NestedVisor.Topology
