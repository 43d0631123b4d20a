import NestedVisor.Hypercall.Host
import NestedVisor.Journal.Record

/-!
The relay encodes hypercalls to the host.

It only builds input values and places parameters; what a status means is up to its caller.
A repeated call is resumed at the first element that the host left undone.
-/

namespace NestedVisor.Hypercall

/-! ## Notes -/

inductive Note where
  | repsFailed (code : BitVec 16) (status : Status) (completed total : BitVec 16)
  | repsStalled (code completed : BitVec 16)
  | repsResumed (code completed total : BitVec 16)
  | flushingSpace (space flags mask : Word)
  | flushingGuestPhysical (space : Word)
  deriving DecidableEq, Repr

def Note.record : Note → Record
  | .repsFailed code status completed total =>
      ⟨.warn, s!"Rep hypercall {hexText code.toNat} failed with {status.text} " ++
        s!"after {completed.toNat} of {total.toNat} reps"⟩
  | .repsStalled code completed =>
      ⟨.warn, s!"Rep hypercall {hexText code.toNat} made no progress at index {completed.toNat}"⟩
  | .repsResumed code completed total =>
      ⟨.trace, s!"Rep hypercall {hexText code.toNat} partially completed " ++
        s!"({completed.toNat} of {total.toNat}), resuming"⟩
  | .flushingSpace space flags mask =>
      ⟨.trace, s!"Relaying FlushVirtualAddressSpace: space={hexText space.toNat} " ++
        s!"flags={hexText flags.toNat} mask={hexText mask.toNat}"⟩
  | .flushingGuestPhysical space =>
      ⟨.trace, s!"Relaying FlushGuestPhysicalAddressSpace: space={hexText space.toNat}"⟩

structure Relay where
  /-- Whether calls carry the nested flag. -/
  nested : Bool
  deriving DecidableEq, Repr

namespace Relay

/-! ## Single calls -/

def inputValue (r : Relay) (code : BitVec 16) (fast : Bool) (count start : BitVec 16) : Input :=
  (((Input.ofCode code).withFast fast).withNested r.nested).withReps count start

/-- A simple call. -/
def call (r : Relay) (code : BitVec 16) (parameters : Parameters) : Call :=
  .issue (r.inputValue code parameters.isFast 0 0) parameters

/-- An input value that is passed on as it is. -/
def forward (_ : Relay) (input : Input) (parameters : Parameters) : Call :=
  .issue input parameters

def flushVirtualAddressSpace (r : Relay) (space flags mask : Word) : Call :=
  r.call flushVirtualAddressSpaceCode
    (.fast #v[space, flags, mask, 0, 0, 0, 0, 0, 0, 0, 0, 0, 0, 0])

def flushGuestPhysicalAddressSpace (r : Relay) (space : Word) : Call :=
  r.call flushGuestPhysicalAddressSpaceCode
    (.fast #v[space, 0, 0, 0, 0, 0, 0, 0, 0, 0, 0, 0, 0, 0])

/-! ## Repeated calls -/

/-- A list of elements in memory that a repeated call works through. -/
structure RepList where
  code : BitVec 16
  count : BitVec 16
  input : Word
  output : Word
  deriving DecidableEq, Repr

/-- The course of a repeated call. -/
structure RepRun where
  outcome : Except Status (BitVec 16)
  calls : List Call
  notes : List Note
  host : Host

/-- The call for the elements from `completed` on. -/
def repCall (r : Relay) (l : RepList) (completed : BitVec 16) : Call :=
  .issue (r.inputValue l.code false (l.count - completed) completed) (.memory l.input l.output)

/-- How many elements an answer completes; the host never did more than it was asked for. -/
def repsDone (result : Result) (remaining : BitVec 16) : BitVec 16 :=
  let reported := result.repsCompleted.setWidth 16
  if reported ≤ remaining then reported else remaining

theorem repsDone_le (result : Result) (remaining : BitVec 16) :
    repsDone result remaining ≤ remaining := by
  unfold repsDone
  dsimp only
  split
  · assumption
  · exact BitVec.le_refl _

/--
Calls the host for the elements from `completed` on until all are done.  A failing status ends
the run, and so does a success that did nothing.
-/
def callReps (r : Relay) (l : RepList) (completed : BitVec 16) (host : Host) : RepRun :=
  if _hlt : completed < l.count then
    let call := r.repCall l completed
    let (answer, host) := host.serve call
    let done := repsDone answer.result (l.count - completed)
    if ¬ answer.result.isSuccess then
      ⟨.error answer.result.status, [call],
        [.repsFailed l.code answer.result.status (completed + done) l.count], host⟩
    else if _hnone : done = 0 then
      ⟨.error .timeout, [call], [.repsStalled l.code completed], host⟩
    else
      let rest := callReps r l (completed + done) host
      let notes :=
        if done < l.count - completed then [.repsResumed l.code (completed + done) l.count]
        else []
      { rest with calls := call :: rest.calls, notes := notes ++ rest.notes }
  else
    ⟨.ok completed, [], [], host⟩
termination_by (l.count - completed).toNat
decreasing_by
  have hle := repsDone_le answer.result (l.count - completed)
  have hne : repsDone answer.result (l.count - completed) ≠ 0 := _hnone
  change (l.count - (completed + repsDone answer.result (l.count - completed))).toNat < _
  revert hle hne
  generalize repsDone answer.result (l.count - completed) = d
  intro hle hne
  bv_omega

/-- Works through the whole list. -/
def callRep (r : Relay) (l : RepList) (host : Host) : RepRun :=
  r.callReps l 0 host

end Relay

end NestedVisor.Hypercall
