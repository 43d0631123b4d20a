import NestedVisor.Paging.Ept
import NestedVisor.Sync.SpinLock

/-!
Tables that are shared through a lock: each call takes the lock for itself.
-/

namespace NestedVisor.Paging

open Sync

inductive StoreCall where
  | commit (base : Word) (size : Granularity) (backing : Word) (type : MemoryType)
  | uncommit (base : Word) (size : Granularity)
  | translate (address : Word)
  deriving DecidableEq, Repr

inductive StoreAnswer where
  | outcome (result : Except PagingFault Unit)
  | physical (address : Option Word)

namespace StoreCall

/-- The call on tables that nobody else uses. -/
def perform : StoreCall → Ept → StoreAnswer × Ept
  | .commit base size backing type, e =>
      let c := e.commit base size backing type
      (.outcome c.outcome, c.ept)
  | .uncommit base size, e =>
      let c := e.uncommit base size
      (.outcome c.outcome, c.ept)
  | .translate address, e => (.physical (e.translate? address), e)

/-- The call on shared tables; a translation writes nothing. -/
def session : StoreCall → SpinLock.Session Ept StoreAnswer
  | .translate address => .read fun e => .return (.physical (e.translate? address))
  | call => .read fun e =>
      let (answer, e) := call.perform e
      .write e (.return answer)

theorem run_session (call : StoreCall) : call.session.run = call.perform := by
  cases call <;> rfl

end StoreCall

end NestedVisor.Paging
