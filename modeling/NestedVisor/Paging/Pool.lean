import NestedVisor.Word.Basic

/-!
The pool that paging tables are taken from.

A pool is described from outside: `supply n live` is the page that the request number `n` gets
while the pages `live` are in use.  Every allocation strategy, whatever it remembers, is such a
function along any one history.
-/

namespace NestedVisor.Paging

structure PagePool where
  supply : Nat → List Word → Option Word
  requests : Nat := 0
  /-- The pages in use, the newest first. -/
  live : List Word := []

namespace PagePool

/-- Takes a page; the request counts even when there is none. -/
def allocate (p : PagePool) : Option Word × PagePool :=
  match p.supply p.requests p.live with
  | none => (none, { p with requests := p.requests + 1 })
  | some page => (some page, { p with requests := p.requests + 1, live := page :: p.live })

def free (p : PagePool) (page : Word) : PagePool :=
  { p with live := p.live.erase page }

def freeAll (p : PagePool) (pages : List Word) : PagePool :=
  pages.foldl free p

@[simp] theorem supply_free (p : PagePool) (page : Word) : (p.free page).supply = p.supply := rfl

@[simp] theorem live_free (p : PagePool) (page : Word) :
    (p.free page).live = p.live.erase page := rfl

theorem supply_allocate (p : PagePool) : p.allocate.2.supply = p.supply := by
  unfold allocate
  split <;> rfl

/-! ## The lowest free page -/

/-- The page number `i` of a run of pages. -/
def pageAt (base : Word) (i : Nat) : Word :=
  base + BitVec.ofNat 64 (i * 4096)

/-- The lowest page of the run from `base` on that is not in use, while fewer than `limit` are. -/
def lowestFree (base : Word) (limit : Nat) (live : List Word) : Option Word :=
  if live.length < limit then
    (List.range (live.length + 1)).findSome? fun i =>
      if pageAt base i ∈ live then none else some (pageAt base i)
  else
    none

def ofRun (base : Word) (limit : Nat) : PagePool :=
  { supply := fun _ live => lowestFree base limit live }

/-- The same pages in use under another limit. -/
def withLimit (p : PagePool) (base : Word) (limit : Nat) : PagePool :=
  { p with supply := fun _ live => lowestFree base limit live }

end PagePool

end NestedVisor.Paging
