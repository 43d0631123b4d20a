import NestedVisor.Guest.Registers
import NestedVisor.Hypercall.Input
import NestedVisor.Hypercall.Result

/-!
The host hypervisor as its caller sees it: a call goes out, an answer comes back.

The host is described by the answers it will give: a queue, and one for every later call.
-/

namespace NestedVisor.Hypercall

/-- Where the parameters of a call live. -/
inductive Parameters where
  /-- In registers. -/
  | fast (block : FastBlock)
  /-- In guest-physical memory blocks; address zero stands for no block. -/
  | memory (input output : Word)
  deriving DecidableEq, Repr

namespace Parameters

def isFast : Parameters → Bool
  | .fast _ => true
  | .memory .. => false

def text : Parameters → String
  | .fast block =>
      "Fast([" ++ ", ".intercalate (block.toList.map fun w => toString w.toNat) ++ "])"
  | .memory input output =>
      s!"Memory \x7b input_pa: {input.toNat}, output_pa: {output.toNat} \x7d"

end Parameters

/-- A call as it reaches the host. -/
structure Call where
  input : Input
  parameters : Parameters
  deriving DecidableEq, Repr

/-- Encodes a call: the fast flag always tells where the parameters are. -/
def Call.issue (input : Input) (parameters : Parameters) : Call :=
  ⟨input.withFast parameters.isFast, parameters⟩

/-- The host's side of one call: the result, and the words of a fast block it changes. -/
structure Reply where
  result : Result := ⟨0⟩
  writes : List (Nat × Word) := []
  deriving DecidableEq, Repr

/-- What the caller finds after a call. -/
structure Answer where
  result : Result
  parameters : Parameters
  deriving DecidableEq, Repr

structure Host where
  queue : List Reply := []
  fallback : Reply := {}
  deriving DecidableEq, Repr

namespace Host

def next (h : Host) : Reply × Host :=
  match h.queue with
  | [] => (h.fallback, h)
  | reply :: rest => (reply, { h with queue := rest })

/-- Serves a call; only a fast call has a block that the host changes. -/
def serve (h : Host) (call : Call) : Answer × Host :=
  let (reply, h) := h.next
  let parameters :=
    match call.parameters with
    | .fast block =>
        .fast (reply.writes.foldl (fun b (i, value) => b.setIfInBounds i value) block)
    | memory => memory
  (⟨reply.result, parameters⟩, h)

end Host

end NestedVisor.Hypercall
