import Mathlib.Data.List.Nodup
import NestedVisor.Proofs.Hypercall.Passes

/-!
# Repeated calls

Against any host a repeated call comes to an end, and it asks for no element again that the
host has reported as done.  The input value has 12 bits for each count, so this is what the
host reads for lists of up to `Input.maxRepCount` elements and for no longer ones.
-/

namespace NestedVisor.Hypercall

/-! ## What a call asks for -/

/-- A call for `count` elements of a list, from number `start` on, as the host decodes it. -/
structure Call.Asks (call : Call) (r : Relay) (l : Relay.RepList) (start count : Nat) : Prop where
  code : call.input.code = l.code
  nested : call.input.nested = r.nested
  slow : call.input.fast = false
  blocks : call.parameters = .memory l.input l.output
  start : call.input.repStart.toNat = start
  count : call.input.repCount.toNat = count

/-- The elements that a host works through which does no more of them than it is asked for. -/
def Call.elements (call : Call) (result : Result) : List Nat :=
  List.range' call.input.repStart.toNat
    (min result.repsCompleted.toNat call.input.repCount.toNat)

def Relay.RepRun.ranges (run : Relay.RepRun) (results : Nat → Result) : List (List Nat) :=
  run.calls.mapIdx fun k call => call.elements (results k)

/-! ## Ranges that follow each other -/

/-- The elements from where the call number `k` begins to where the next one does. -/
def span (total : Nat) (results : Nat → Result) (k : Nat) : List Nat :=
  List.range' (progress total results k)
    (progress total results (k + 1) - progress total results k)

theorem flatten_span (total : Nat) (results : Nat → Result) (n : Nat) :
    ((List.range n).map (span total results)).flatten =
      List.range (progress total results n) := by
  induction n with
  | zero => rfl
  | succ n ih =>
      have step : progress total results n ≤ progress total results (n + 1) :=
        progress_mono total results (Nat.le_succ n)
      rw [List.range_succ, List.map_append, List.flatten_append, ih, List.map_singleton,
        List.flatten_singleton, List.range_eq_range', List.range_eq_range', span]
      conv_rhs => rw [← Nat.add_sub_cancel' step, ← List.range'_append_1, Nat.zero_add]

theorem elements_eq_span {call : Call} {r : Relay} {l : Relay.RepList} {total k : Nat}
    {results : Nat → Result}
    (asks : call.Asks r l (progress total results k) (total - progress total results k)) :
    call.elements (results k) = span total results k := by
  rw [Call.elements, asks.start, asks.count, span, progress, Nat.add_sub_cancel_left]

/-! ## How a run ends -/

/-- The last of `n` replies failed and yet reported every element that it was asked for. -/
def FailsDone (total : Nat) (results : Nat → Result) (n : Nat) : Prop :=
  ∃ k, n = k + 1 ∧ ¬ (results k).isSuccess ∧
    total - progress total results k ≤ (results k).repsCompleted.toNat

namespace Relay.Ends

variable {total : BitVec 16} {results : Nat → Result} {n : Nat}
  {outcome : Except Status (BitVec 16)}

theorem le (ends : Ends total results n outcome) : n ≤ total.toNat := by
  cases ends with
  | complete worked all => exact all ▸ worked.le_progress
  | failed worked pending _ => exact Nat.lt_of_le_of_lt worked.le_progress pending
  | stalled worked pending _ _ => exact Nat.lt_of_le_of_lt worked.le_progress pending

theorem progress_eq_iff (ends : Ends total results n outcome) :
    progress total.toNat results n = total.toNat ↔
      outcome = .ok total ∨ FailsDone total.toNat results n := by
  cases ends with
  | complete _ all => simp only [all, true_or]
  | @failed k _ pending failing =>
      rw [progress]
      constructor
      · intro all
        exact .inr ⟨k, rfl, failing, by omega⟩
      · rintro (ok | ⟨_, ⟨⟩, _, reported⟩)
        · cases ok
        · omega
  | @stalled k _ pending success idle =>
      rw [progress, idle]
      constructor
      · intro all
        exact absurd all (Nat.ne_of_lt (by simpa using pending))
      · rintro (ok | ⟨_, ⟨⟩, failing, _⟩)
        · cases ok
        · exact absurd success failing

end Relay.Ends

namespace Relay

variable {r : Relay} {l : RepList} {host : Host} {call : Call} {k : Nat}

/-! ## The input values -/

theorem word_repCall (r : Relay) (l : RepList) (completed : BitVec 16) :
    (r.repCall l completed).input.word =
      setFlag (setField (setField (setFlag (setFlag (setField 0 0 l.code) 16 false) 31 r.nested)
        32 ((l.count - completed).setWidth 12)) 48 (completed.setWidth 12)) 16 false :=
  rfl

theorem asks_repCall (r : Relay) (l : RepList) (completed : BitVec 16) :
    (r.repCall l completed).Asks r l (completed.toNat % (Input.maxRepCount + 1))
      ((l.count - completed).toNat % (Input.maxRepCount + 1)) where
  code := by
    rw [Input.code, word_repCall]
    simp [setFlag, extractLsb'_setField_of_disjoint]
  nested := by
    rw [Input.nested, word_repCall]
    simp only [getLsbD_setFlag, getLsbD_setField]
    rfl
  slow := by
    rw [Input.fast, word_repCall, getLsbD_setFlag]
    rfl
  blocks := rfl
  start := by
    rw [Input.repStart, word_repCall]
    simp [setFlag, extractLsb'_setField_of_disjoint, Input.maxRepCount]
  count := by
    rw [Input.repCount, word_repCall]
    simp [setFlag, extractLsb'_setField_of_disjoint, Input.maxRepCount]

/-! ## A whole run -/

theorem stands_first (l : RepList) (host : Host) :
    (⟨0, host⟩ : Pass).Stands l.count.toNat host.results 0 where
  completed := rfl
  results := fun j => by rw [Nat.zero_add]

theorem stands_of_pass? {s : Pass} (reached : r.pass? l k ⟨0, host⟩ = some s) :
    s.Stands l.count.toNat host.results k := by
  have stands := (stands_first l host).of_pass? reached
  rwa [Nat.zero_add] at stands

theorem getElem?_calls_callRep (r : Relay) (l : RepList) (host : Host) (k : Nat) :
    (r.callRep l host).calls[k]? =
      (r.pass? l k ⟨0, host⟩).bind fun s =>
        if s.completed < l.count then some (r.repCall l s.completed) else none :=
  r.getElem?_calls_runFrom l k ⟨0, host⟩

theorem ends_callRep (r : Relay) (l : RepList) (host : Host) :
    Ends l.count host.results (r.callRep l host).calls.length (r.callRep l host).outcome := by
  have ends := ends_runFrom (r := r) (stands_first l host) fun _ before =>
    absurd before (Nat.not_lt_zero _)
  rwa [Nat.zero_add] at ends

theorem asks_of_getElem? (issued : (r.callRep l host).calls[k]? = some call) :
    progress l.count.toNat host.results k < l.count.toNat ∧
      call.Asks r l (progress l.count.toNat host.results k % (Input.maxRepCount + 1))
        ((l.count.toNat - progress l.count.toNat host.results k) % (Input.maxRepCount + 1)) := by
  rw [getElem?_calls_callRep, Option.bind_eq_some_iff] at issued
  obtain ⟨s, reached, issued⟩ := issued
  rw [Option.ite_none_right_eq_some] at issued
  obtain ⟨pending, ⟨⟩⟩ := issued
  have stands := stands_of_pass? reached
  have asks := asks_repCall r l s.completed
  rw [toNat_remaining stands.le, stands.completed] at asks
  exact ⟨stands.pending_iff.1 pending, asks⟩

/-! ## Long lists -/

/-- Every call is a repeated call for exactly the elements that are still to do. -/
def Faithful (r : Relay) (l : RepList) (host : Host) : Prop :=
  ∀ (k : Nat) (call : Call), (r.callRep l host).calls[k]? = some call →
    call.input.isRep ∧ call.Asks r l (progress l.count.toNat host.results k)
      (l.count.toNat - progress l.count.toNat host.results k)

theorem faithful_of_short (short : l.count.toNat ≤ Input.maxRepCount) : Faithful r l host := by
  intro k call issued
  obtain ⟨pending, asks⟩ := asks_of_getElem? issued
  have fits : l.count.toNat < Input.maxRepCount + 1 := Nat.lt_succ_of_le short
  rw [Nat.mod_eq_of_lt (by omega), Nat.mod_eq_of_lt (by omega)] at asks
  have asked : call.input.repCount ≠ 0 := fun none => by
    have count := asks.count
    rw [none] at count
    exact Nat.sub_ne_zero_of_lt pending count.symm
  exact ⟨bne_iff_ne.2 asked, asks⟩

/-- What the input values of a run hold, and for which lists this is what is still to do. -/
theorem callRep_faithful_iff (r : Relay) (l : RepList) (host : Host) :
    (∀ (k : Nat) (call : Call), (r.callRep l host).calls[k]? = some call →
      call.Asks r l (progress l.count.toNat host.results k % (Input.maxRepCount + 1))
        ((l.count.toNat - progress l.count.toNat host.results k) % (Input.maxRepCount + 1))) ∧
    (Faithful r l host ↔ l.count.toNat ≤ Input.maxRepCount) := by
  refine ⟨fun k call issued => (asks_of_getElem? issued).2, fun faithful => ?_, faithful_of_short⟩
  by_contra long
  -- the first call already asks for more than its field can hold
  have pending : (0 : BitVec 16) < l.count := by
    rw [BitVec.lt_def]
    exact Nat.lt_of_le_of_lt (Nat.zero_le _) (Nat.not_le.1 long)
  have first : (r.callRep l host).calls[0]? = some (r.repCall l 0) := by
    rw [getElem?_calls_callRep, pass?, Option.bind_some, if_pos pending]
  have count : (r.repCall l 0).input.repCount.toNat = l.count.toNat := (faithful 0 _ first).2.count
  exact long (count ▸ Nat.le_of_lt_succ (r.repCall l 0).input.repCount.isLt)

/-- For a list of 4096 elements the host is asked for none, in a call that is not a repeated one. -/
theorem callRep_asks_for_none :
    let l : RepList := ⟨3, 0x1000, 0x1000, 0x2000⟩
    let run := (⟨false⟩ : Relay).callRep l {}
    run.calls = [⟨⟨3⟩, .memory 0x1000 0x2000⟩] ∧ (Input.isRep ⟨3⟩) = false ∧
      run.outcome = .error .timeout ∧ ¬ Faithful ⟨false⟩ l {} := by
  have calls : ((⟨false⟩ : Relay).callRep ⟨3, 0x1000, 0x1000, 0x2000⟩ {}).calls =
      [⟨⟨3⟩, .memory 0x1000 0x2000⟩] := by
    decide +kernel
  refine ⟨calls, rfl, by decide +kernel, fun faithful => ?_⟩
  have repeated := (faithful 0 ⟨⟨3⟩, .memory 0x1000 0x2000⟩ (by rw [calls]; rfl)).1
  cases repeated

/-! ## Every element once -/

/-- The calls of a run work through the list in order. -/
structure Resumes (r : Relay) (l : RepList) (host : Host) : Prop where
  asks : ∀ (k : Nat) (call : Call), (r.callRep l host).calls[k]? = some call →
    call.Asks r l (progress l.count.toNat host.results k)
      (l.count.toNat - progress l.count.toNat host.results k)
  adjacent : (r.callRep l host).ranges host.results =
    (List.range (r.callRep l host).calls.length).map (span l.count.toNat host.results)
  inOrder : ((r.callRep l host).ranges host.results).flatten =
    List.range (progress l.count.toNat host.results (r.callRep l host).calls.length)
  apart : ((r.callRep l host).ranges host.results).Pairwise List.Disjoint
  covers : (∀ element < l.count.toNat,
      ∃ range ∈ (r.callRep l host).ranges host.results, element ∈ range) ↔
    (r.callRep l host).outcome = .ok l.count ∨
      FailsDone l.count.toNat host.results (r.callRep l host).calls.length

/-- A repeated call stops against any host, and does each element of a list that fits once. -/
structure ExactlyOnce (r : Relay) (l : RepList) (host : Host) : Prop where
  bounded : (r.callRep l host).calls.length ≤ l.count.toNat
  ends : Ends l.count host.results (r.callRep l host).calls.length (r.callRep l host).outcome
  calls : ∀ k : Nat, (r.callRep l host).calls[k]? =
    (r.pass? l k ⟨0, host⟩).bind fun s =>
      if s.completed < l.count then some (r.repCall l s.completed) else none
  counter : ∀ (k : Nat) (s : Pass), r.pass? l k ⟨0, host⟩ = some s →
    s.completed.toNat = progress l.count.toNat host.results k ∧
      BitVec.usubOverflow l.count s.completed = false ∧
      BitVec.uaddOverflow s.completed
        (repsDone (host.results k) (l.count - s.completed)) = false
  resumes : l.count.toNat ≤ Input.maxRepCount → Resumes r l host

theorem ranges_of_faithful (faithful : Faithful r l host) :
    (r.callRep l host).ranges host.results =
      (List.range (r.callRep l host).calls.length).map (span l.count.toNat host.results) := by
  apply List.ext_getElem
  · rw [RepRun.ranges, List.length_mapIdx, List.length_map, List.length_range]
  · intro k inRun _
    rw [RepRun.ranges, List.length_mapIdx] at inRun
    have asks := (faithful k _ (List.getElem?_eq_getElem inRun)).2
    simp only [RepRun.ranges, List.getElem_mapIdx, List.getElem_map, List.getElem_range]
    exact elements_eq_span asks

theorem resumes_of_faithful (faithful : Faithful r l host) : Resumes r l host := by
  have adjacent := ranges_of_faithful faithful
  have inOrder := flatten_span l.count.toNat host.results (r.callRep l host).calls.length
  rw [← adjacent] at inOrder
  have bound := progress_le l.count.toNat host.results (r.callRep l host).calls.length
  refine ⟨fun k call issued => (faithful k call issued).2, adjacent, inOrder, ?_, ?_⟩
  · exact (List.nodup_flatten.1 (inOrder ▸ List.nodup_range)).2
  · rw [← (ends_callRep r l host).progress_eq_iff]
    simp only [← List.mem_flatten, inOrder, List.mem_range]
    constructor
    · intro covered
      by_contra short
      exact Nat.lt_irrefl _ (covered _ (Nat.lt_of_le_of_ne bound short))
    · intro all element inList
      rwa [all]

theorem callRep_exactlyOnce (r : Relay) (l : RepList) (host : Host) : ExactlyOnce r l host where
  bounded := (ends_callRep r l host).le
  ends := ends_callRep r l host
  calls := getElem?_calls_callRep r l host
  counter := fun k s reached => by
    have stands := stands_of_pass? reached
    exact ⟨stands.completed, usubOverflow_count stands.le, uaddOverflow_repsDone stands.le _⟩
  resumes := fun short => resumes_of_faithful (faithful_of_short short)

/-- A host that reports more elements than are left is credited with those that are. -/
theorem callRep_exactlyOnce_overreported :
    let l : RepList := ⟨3, 3, 0x1000, 0x2000⟩
    let host : Host := { queue := [{ result := ⟨0x200000000⟩ }, { result := ⟨0x500000000⟩ }] }
    let run := (⟨false⟩ : Relay).callRep l host
    l.count.toNat ≤ Input.maxRepCount ∧ run.outcome = .ok 3 ∧
      run.ranges host.results = [[0, 1], [2]] ∧ Resumes ⟨false⟩ l host :=
  ⟨by decide, by decide +kernel, by decide +kernel,
    (callRep_exactlyOnce _ _ _).resumes (by decide)⟩

/-- A host that does the last element and fails all the same: the failure is what is returned. -/
theorem callRep_failed_when_done :
    let l : RepList := ⟨3, 3, 0x1000, 0x2000⟩
    let host : Host := { queue := [{ result := ⟨0x200000000⟩ }, { result := ⟨0x10000000B⟩ }] }
    let run := (⟨false⟩ : Relay).callRep l host
    run.outcome = .error .insufficientMemory ∧ run.ranges host.results = [[0, 1], [2]] ∧
      ¬ ((∀ element < l.count.toNat, ∃ range ∈ run.ranges host.results, element ∈ range) ↔
        run.outcome = .ok l.count) := by
  refine ⟨by decide +kernel, by decide +kernel, fun complete => ?_⟩
  exact absurd (complete.1 (by decide +kernel)) (by decide +kernel)

end Relay

end NestedVisor.Hypercall
