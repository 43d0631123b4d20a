import NestedVisor.Proofs.Machine.Evolution
import NestedVisor.Proofs.Machine.Forwarding
import NestedVisor.Proofs.Paging.Agreement

/-!
# Parameter blocks that reach the host

An address of zero says on both sides of a memory call that there is no block.  The guest may have
mapped one of its pages to the first page of the host, though, and a block at the start of that
page reaches the host as no block.  Nothing else turns an address into zero.
-/

namespace NestedVisor

open Exit

namespace Paging

variable {e : Ept} {s : Finset Mapping} {p : Mapping} {a : Word}

/-! ## Addresses that are mapped to zero -/

theorem toNat_size (size : Granularity) : size.size.toNat = 2 ^ size.bits := by
  cases size <;> rfl

theorem Mapping.Valid.physical_eq_zero_iff (valid : p.Valid) (covers : p.Covers a) :
    p.physical a = 0 ↔ p.base = a ∧ p.backing = 0 := by
  constructor
  · intro zero
    obtain ⟨sum, -⟩ := valid.toNat_address_add_pageOffset a
    rw [valid.address_add_pageOffset covers, zero, valid.address_entry] at sum
    -- neither the page of the host nor the offset in it contributes anything
    obtain ⟨backing, offset⟩ :
        (p.backing.setWidth 64).toNat = 0 ∧ a.toNat % p.size.size.toNat = 0 :=
      Nat.add_eq_zero_iff.1 sum.symm
    have aligned : p.size.Aligned a := by
      rw [Granularity.aligned_iff, ← toNat_size]
      exact offset
    refine ⟨(base_eq_of_pageNumber_eq aligned valid.aligned (valid.covers_iff.1 covers)).symm, ?_⟩
    have small := p.backing.isLt
    rw [BitVec.toNat_setWidth] at backing
    exact BitVec.eq_of_toNat_eq ((Nat.mod_eq_of_lt (by omega)).symm.trans backing)
  · rintro ⟨rfl, backing⟩
    simp [Mapping.physical, backing]

theorem Tracks.translate?_eq_zero_iff (t : Tracks e s) (a : Word) :
    e.translate? a = some 0 ↔ ∃ p ∈ s, p.base = a ∧ p.backing = 0 := by
  constructor
  · intro zero
    by_cases mapped : ∃ p ∈ s, p.Covers a
    · obtain ⟨p, listed, covers⟩ := mapped
      rw [t.translate?_of_covers listed covers, Option.some.injEq] at zero
      exact ⟨p, listed, ((t.valid p listed).physical_eq_zero_iff covers).1 zero⟩
    · push Not at mapped
      rw [t.translate?_eq_none mapped] at zero
      cases zero
  · rintro ⟨p, listed, rfl, backing⟩
    have covers : p.Covers p.base := holds_self
    rw [t.translate?_of_covers listed covers, Option.some.injEq]
    exact ((t.valid p listed).physical_eq_zero_iff covers).2 ⟨rfl, backing⟩

/-- A page of the guest, not its first, starts here and is mapped to the first of the host. -/
def HidesBlock (s : Finset Mapping) (address : Word) : Prop :=
  address ≠ 0 ∧ ∃ p ∈ s, p.base = address ∧ p.backing = 0

end Paging

open Paging

namespace Exit

variable {e : Ept} {s : Finset Mapping} {address address' physical input output : Word}

theorem blockAddress_eq_zero_iff (t : Tracks e s) (found : blockAddress e address = .ok physical) :
    (physical = 0 ↔ address = 0) ↔ ¬ HidesBlock s address := by
  rw [HidesBlock, ← t.translate?_eq_zero_iff]
  rcases blockAddress_cases e address with ⟨physical', found', names⟩ | ⟨status, failed, -⟩
  · obtain rfl : physical' = physical := Except.ok.inj (found'.symm.trans found)
    cases names with
    | none => simp
    | mapped present aligned translated =>
        rw [translated, Option.some.injEq, iff_false_right present, not_and, imp_iff_right present]
  · cases failed.symm.trans found

theorem blockAddresses_eq_ok (found : blockAddresses e address address' = .ok (input, output)) :
    blockAddress e address = .ok input ∧ blockAddress e address' = .ok output := by
  rw [blockAddresses] at found
  cases first : blockAddress e address with
  | error status => simp [first, bind, Except.bind] at found
  | ok input' =>
      cases second : blockAddress e address' with
      | error status => simp [first, second, bind, Except.bind] at found
      | ok output' =>
          rw [first, second] at found
          cases found
          exact ⟨rfl, rfl⟩

/-- Only a hypercall of the guest hands blocks to the host, and it hands those that it names. -/
theorem Emulates.blocks_eq {m core : Machine} {service : Service} (deed : Emulates m service core) :
    ∃ events, core.trace = m.trace ++ events ∧ ∀ word input output,
      .hostCall ⟨word, .memory input output⟩ ∈ events →
        blockAddresses m.ept m.registers.rdx m.registers.r8 = .ok (input, output) := by
  cases deed with
  | memoryCall foreign present slow blocks =>
      refine ⟨[_], rfl, fun word input output sent => ?_⟩
      cases List.mem_singleton.1 sent
      exact blocks
  | wrmsr => exact ⟨[_], rfl, by simp⟩
  | cachesFlushed => exact ⟨[_], rfl, by simp⟩
  | invlpg => exact ⟨[_], rfl, by simp⟩
  | movToCr3 =>
      split
      · exact ⟨[], by simp [Machine.withField], by simp⟩
      · exact ⟨[_], rfl, by simp⟩
  | movFrom =>
      refine ⟨[], ?_, by simp⟩
      rw [Machine.withGpr, List.append_nil]
      split <;> rfl
  | flush => exact ⟨[_], rfl, by simp⟩
  | flushRelayed =>
      refine ⟨[_] ++ [_], List.append_assoc .., fun word input output sent => ?_⟩
      rcases List.mem_append.1 sent with sent | sent <;> cases List.mem_singleton.1 sent
  | fastCall => exact ⟨[_], rfl, fun word input output sent => by cases List.mem_singleton.1 sent⟩
  | _ => exact ⟨[], (List.append_nil _).symm, by simp⟩

end Exit

namespace Machine

variable {m : Machine} {held : List Word} {s : Finset Mapping} {input output : Word}

/-- Served by this dispatch, the guest calls the host with blocks at these addresses. -/
def HandsBlocks (m : Machine) (input output : Word) : Prop :=
  ∃ word events, m.dispatch.2.trace = m.trace ++ events ∧
    .hostCall ⟨word, .memory input output⟩ ∈ events

theorem HandsBlocks.blocks_eq (hands : m.HandsBlocks input output) :
    blockAddresses m.ept m.registers.rdx m.registers.r8 = .ok (input, output) := by
  obtain ⟨word, events, trace, sent⟩ := hands
  rcases carriesOut_or_rests m with ⟨reason, core, carries⟩ | rests
  · obtain ⟨events', trace', blocks⟩ := carries.deed.blocks_eq
    obtain rfl : events' = events :=
      List.append_cancel_left (trace'.symm.trans (carries.follows.trace.symm.trans trace))
    exact blocks word input output sent
  · obtain rfl : events = [] := List.self_eq_append_right.1 (rests.trace.symm.trans trace)
    cases sent

/--
A block of the guest is no block to the host, or the other way round, exactly if it starts where a
page starts that is mapped to the first page of the host.
-/
theorem blocks_kept_iff (history : History held m.ept s) (hands : m.HandsBlocks input output) :
    ((input = 0 ↔ m.registers.rdx = 0) ↔ ¬ HidesBlock s m.registers.rdx) ∧
      ((output = 0 ↔ m.registers.r8 = 0) ↔ ¬ HidesBlock s m.registers.r8) := by
  obtain ⟨found, found'⟩ := blockAddresses_eq_ok hands.blocks_eq
  exact ⟨blockAddress_eq_zero_iff history.tracks found,
    blockAddress_eq_zero_iff history.tracks found'⟩

/-- The guest has its page at 0x205000 mapped to this address, and calls the host with a block. -/
def mappingOnHyperv (backing : Word) : Machine :=
  { askingFor backing with identity := (calling 0 0).identity }

def callingWithBlock (backing : Word) : Machine :=
  (mappingOnHyperv backing).dispatch.2.exitingNext 18 0 { rcx := 2, rdx := 0x205000 }

theorem history_callingWithBlock (backing : Word)
    (ok : (mappingOnHyperv backing).dispatch.2.ept =
      ((askingFor backing).ept.commit 0x205000 .page4K backing .uncacheable).ept)
    (success : ((askingFor backing).ept.commit 0x205000 .page4K backing .uncacheable).outcome =
      .ok ()) :
    History [] (callingWithBlock backing).ept
      {⟨0x205000, .page4K, backing.setWidth 52, .uncacheable⟩} := by
  have start := History.ofRun 0x100000 16 (by decide) (by decide) (by decide)
  have mapped := start.committed 0x205000 .page4K backing .uncacheable success
  change History [] (mappingOnHyperv backing).dispatch.2.ept _
  rw [ok]
  exact mapped

theorem blocks_kept_iff_small :
    (callingWithBlock 0x7000).HandsBlocks 0x7000 0 ∧
      ((0x7000#64 = 0 ↔ (callingWithBlock 0x7000).registers.rdx = 0) ∧
        (0#64 = 0 ↔ (callingWithBlock 0x7000).registers.r8 = 0)) := by
  have history := history_callingWithBlock 0x7000 rfl rfl
  have hands : (callingWithBlock 0x7000).HandsBlocks 0x7000 0 :=
    ⟨⟨2⟩, [.hostCall ⟨⟨2⟩, .memory 0x7000 0⟩], rfl, by decide⟩
  have kept := blocks_kept_iff history hands
  refine ⟨hands, kept.1.2 ?_, kept.2.2 fun hidden => hidden.1 rfl⟩
  rintro ⟨-, p, listed, -, backing⟩
  rw [Finset.mem_singleton.1 listed] at backing
  exact absurd backing (by decide)

/-- A block at the start of a page that is mapped to the first page of the host. -/
theorem dispatch_hands_block_as_none :
    (mappingOnHyperv 0).dispatch.1 = true ∧
      (mappingOnHyperv 0).dispatch.2.registers.rax = GuestCall.Status.success.code ∧
      History [] (callingWithBlock 0).ept {⟨0x205000, .page4K, 0, .uncacheable⟩} ∧
      (callingWithBlock 0).HandsBlocks 0 0 ∧
      ¬ (0#64 = 0 ↔ (callingWithBlock 0).registers.rdx = 0) := by
  refine ⟨rfl, rfl, history_callingWithBlock 0 rfl rfl, ?_, ?_⟩
  · exact ⟨⟨2⟩, [.hostCall ⟨⟨2⟩, .memory 0 0⟩], rfl, by decide⟩
  · exact fun same => absurd (same.1 rfl) (by decide)

end Machine

end NestedVisor
