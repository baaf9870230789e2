import CallChains.Graph.Budget
import CallChains.Queue.IndexedQueue
import CallChains.Route.Certificate
/-!
The search for shortest chains from one source. Every explicit call is one step,
and nodes are settled in the order of their distance, by a queue that lets
distances shrink. Calls that are not explicit are never followed.
-/

namespace CallChains

inductive SearchError where
  | budget (overrun : Overrun)
  | inconsistent (fault : TreeFault)
  | queue (error : QueueError)
  | unnumbered (node : Node)
  deriving DecidableEq, Repr

def SearchError.message : SearchError → String
  | .budget overrun => overrun.message
  | .inconsistent fault => fault.message
  | .queue error => error.message
  | .unnumbered node => "Node " ++ Text.quoted node ++ " is not indexed"

structure Search (vertices : VertexIndex) where
  queue : IndexedQueue vertices.size
  distances : Vector Number vertices.size
  predecessors : Vector (Option Edge) vertices.size
  budget : VisitBudget

namespace Search

variable {vertices : VertexIndex}

def start (source : Fin vertices.size) (limit : Option Nat) :
    Except SearchError (Search vertices) := do
  let queue ← ((IndexedQueue.empty vertices.size).insert source
    (.int 0)).mapError .queue
  return {
    queue
    distances :=
      (Vector.replicate vertices.size Number.infinity).set source (.int 0)
    predecessors := Vector.replicate vertices.size none
    budget := { limit, label := "shortest-path search" } }

def enqueue (queue : IndexedQueue vertices.size) (index : Fin vertices.size)
    (key : Number) : Except QueueError (IndexedQueue vertices.size) :=
  if queue.contains index then queue.decreaseKey index key
  else queue.insert index key

/-- Follows one call out of a settled node: if it is explicit and its target is
farther away than one step from the node, the target is now that one step
away. -/
def relax (settled : Fin vertices.size) (search : Search vertices)
    (edge : Edge) : Except SearchError (Search vertices) :=
  if edge.explicit = false then .ok search
  else
    match vertices.indexOf? edge.target with
    | none => .error (.unnumbered edge.target)
    | some target => do
        let candidate := search.distances[settled].addOne
        if candidate.lt search.distances[target] then
          let queue ← (enqueue search.queue target candidate).mapError
            SearchError.queue
          return { search with
            queue
            distances := search.distances.set target candidate
            predecessors := search.predecessors.set target (some edge) }
        else return search

def settle (graph : CallGraph) (search : Search vertices) :
    Except SearchError (Search vertices) := do
  let (settled, queue) ← search.queue.deleteMin.mapError .queue
  let budget ← (search.budget.spend (vertices.nodeAt settled)).mapError .budget
  (graph.edgesOutOf (vertices.nodeAt settled)).foldlM (relax settled)
    { search with queue, budget }

/-- Settles nodes until none is queued. A node is settled at most once, so as
many rounds as there are nodes empty the queue. -/
def settleAll (graph : CallGraph) :
    (rounds : Nat) → Search vertices → Except SearchError (Search vertices)
  | 0, search => .ok search
  | rounds + 1, search =>
      if search.queue.isEmpty then .ok search
      else do settleAll graph rounds (← search.settle graph)

end Search

/-- The tree of shortest explicit chains from a source to every node of a graph.
A checked tree is verified before it is handed out. -/
def CallGraph.shortestPaths (graph : CallGraph) (source : Node)
    (limit : Option Nat) (check : Bool) : Except SearchError PathTree := do
  let vertices := VertexIndex.ofGraph graph [source]
  match vertices.indexOf? source with
  | none => .error (.unnumbered source)
  | some sourceIndex =>
      let search ← (← Search.start sourceIndex limit).settleAll graph
        vertices.size
      let tree : PathTree :=
        { source, vertices, distances := search.distances,
          predecessors := search.predecessors }
      if check then
        match tree.fault? graph with
        | some fault => .error (.inconsistent fault)
        | none => .ok tree
      else .ok tree

end CallChains
