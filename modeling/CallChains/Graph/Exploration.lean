import CallChains.Graph.Budget
import CallChains.Graph.CallGraph
/-!
Breadth-first exploration. One search serves both directions: forward it follows
explicit calls only, because an unconfirmed call is no proof that its callee is
reached; backward it follows every call, so that no chain into the target is
lost.
-/

namespace CallChains

/-! ## Breadth-first search -/

structure Frontier where
  met : NodeSet
  pending : List Node

namespace Frontier

def meet (frontier : Frontier) (node : Node) : Frontier :=
  if node ∈ frontier.met then frontier
  else { met := frontier.met.insert node,
         pending := frontier.pending ++ [node] }

def meetAll (frontier : Frontier) (nodes : List Node) : Frontier :=
  nodes.foldl meet frontier

def ofRoots (roots : List Node) : Frontier :=
  meetAll { met := ∅, pending := [] } roots

end Frontier

/-- Visits the pending nodes in order, and after them the nodes met on the way.
Every node is visited at most once, so as many rounds as there are nodes empty
the frontier. -/
def visitPending (next : Node → List Node) :
    (rounds : Nat) → VisitBudget → Frontier → Except Overrun (List Node)
  | 0, _, _ => .ok []
  | rounds + 1, budget, frontier =>
      match frontier.pending with
      | [] => .ok []
      | node :: rest => do
          let budget ← budget.spend node
          let frontier :=
            Frontier.meetAll { frontier with pending := rest } (next node)
          let later ← visitPending next rounds budget frontier
          return node :: later

namespace CallGraph

/-- The nodes reached from the roots by steps of `next`, in the order in which
they are visited. The steps are to lead to nodes of the graph. -/
def explore (graph : CallGraph) (next : Node → List Node) (roots : List Node)
    (budget : VisitBudget) : Except Overrun (List Node) :=
  visitPending next (graph.nodeCount + roots.length) budget
    (Frontier.ofRoots roots)

/-! ## Forward -/

def explicitTargets (graph : CallGraph) (node : Node) : List Node :=
  ((graph.edgesOutOf node).filter (·.explicit)).map (·.target)

def directCallees (graph : CallGraph) (node : Node) : NodeSet :=
  Std.TreeSet.ofList (graph.explicitTargets node)

def forwardClosure (graph : CallGraph) (roots : List Node)
    (limit : Option Nat) : Except Overrun NodeSet := do
  let visited ← graph.explore graph.explicitTargets roots
    { limit, label := "forward closure" }
  return Std.TreeSet.ofList visited

def reachableTargets (graph : CallGraph) (roots : List Node)
    (isTarget : Node → Bool) (limit : Option Nat) : Except Overrun NodeSet := do
  let closure ← graph.forwardClosure roots limit
  return closure.filter isTarget

/-! ## Backward -/

def admittedEdgesInto (graph : CallGraph) (excluded : Node → Bool)
    (node : Node) : List Edge :=
  (graph.edgesInto node).filter fun edge => !excluded edge.source

/-- The graph of every call on a walk into the target, apart from calls by
excluded callers. The target is a node of it even if nothing calls it. -/
def callersOf (graph : CallGraph) (target : Node) (excluded : Node → Bool)
    (limit : Option Nat) : Except Overrun CallGraph := do
  let admitted := graph.admittedEdgesInto excluded
  let visited ← graph.explore
    (fun node => (admitted node).map (·.source)) [target]
    { limit, label := "backward subgraph" }
  return (empty.addNode target).addEdges (visited.flatMap admitted)

theorem mem_directCallees {graph : CallGraph} {node callee : Node} :
    callee ∈ graph.directCallees node ↔
      ∃ edge ∈ graph.edges, edge.source = node ∧ edge.explicit = true ∧
        edge.target = callee := by
  simp [directCallees, explicitTargets, mem_edgesOutOf, and_assoc]

end CallGraph

end CallChains
