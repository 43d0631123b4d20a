import NestedVisor.Journal.Record

/-!
The policy of one partition: what the exits that leave a choice do.
-/

namespace NestedVisor

inductive HaltPolicy where
  /-- The instruction is skipped and the guest goes on in its idle loop. -/
  | trap
  /-- The virtual CPU is parked until the next event. -/
  | idle
  deriving DecidableEq, Repr

def HaltPolicy.name : HaltPolicy → String
  | .trap => "Trap"
  | .idle => "Idle"

inductive CachePolicy where
  /-- The host keeps caches coherent; the instruction is skipped. -/
  | emulate
  /-- Caches are written back and invalidated on the current processor. -/
  | writeBackInvalidate
  deriving DecidableEq, Repr

def CachePolicy.name : CachePolicy → String
  | .emulate => "Emulate"
  | .writeBackInvalidate => "WriteBackInvalidate"

structure Policy where
  halt : HaltPolicy := .trap
  cache : CachePolicy := .emulate
  /-- Whether a flush of the page tables also asks the host to drop its shadow of them. -/
  relayEptFlush : Bool := true
  /-- Whether calls to the host carry the nested flag. -/
  nestedHypercalls : Bool := false
  /-- The tag of the guest's translations. -/
  vpid : BitVec 16 := 1
  verbosity : Verbosity := some .info
  deriving DecidableEq, Repr

end NestedVisor
