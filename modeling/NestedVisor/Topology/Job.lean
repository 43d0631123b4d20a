import NestedVisor.Topology.Affinity

/-!
Programs of nested work: each job runs on one or on every processor, notes the visit, fails on
some processors, and on the others runs the jobs inside it.
-/

namespace NestedVisor.Topology

inductive Job where
  | on (processor : ProcessorId) (failing : List ProcessorId) (inner : List Job)
  | onEach (failing : List ProcessorId) (inner : List Job)
  deriving Inhabited

/-- What a job does on one processor: the visit is noted, then it fails or goes on with `rest`. -/
def visit {σ : Type} (processor : ProcessorId) (failing : List ProcessorId)
    (rest : Work σ Unit) : Work σ Unit := fun a s =>
  let a := { a with moves := a.moves.push (.visit processor a.current) }
  if processor ∈ failing then (.error .terminating, a, s) else rest a s

mutual

def Job.run : Job → Work Unit Unit
  | .on processor failing inner => onProcessor processor (visit processor failing (runJobs inner))
  | .onEach failing inner => Topology.onEach fun p => visit p failing (runJobs inner)

/-- Runs jobs in order up to the first failure. -/
def runJobs : List Job → Work Unit Unit
  | [] => fun a s => (.ok (), a, s)
  | job :: rest => fun a s =>
      match job.run a s with
      | (.error fault, a, s) => (.error fault, a, s)
      | (.ok (), a, s) => runJobs rest a s

end

end NestedVisor.Topology
