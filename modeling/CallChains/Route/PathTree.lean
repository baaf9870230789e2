import CallChains.Number.Basic
import CallChains.Route.VertexIndex
/-!
Shortest-path trees: for every node its distance from one source in calls, and
the last call on a shortest chain to it. Distances are numbers of any kind, so
that a tree can be wrong and be found wrong.
-/

namespace CallChains

structure PathTree where
  source : Node
  vertices : VertexIndex
  distances : Vector Number vertices.size
  predecessors : Vector (Option Edge) vertices.size

namespace PathTree

def distanceTo (tree : PathTree) (node : Node) : Number :=
  match tree.vertices.indexOf? node with
  | some index => tree.distances[index]
  | none => .infinity

def predecessor? (tree : PathTree) (node : Node) : Option Edge :=
  match tree.vertices.indexOf? node with
  | some index => tree.predecessors[index]
  | none => none

def hasPathTo (tree : PathTree) (node : Node) : Bool :=
  (tree.distanceTo node).isReached

def reachable (tree : PathTree) : List Node :=
  tree.vertices.nodes.filter tree.hasPathTo

def summary (tree : PathTree) : String :=
  "ShortestPathState(source=" ++ Text.quoted tree.source ++
    s!", vertices={tree.vertices.size}, reachable={tree.reachable.length})"

/-! ## Changing single entries -/

def setDistance? (tree : PathTree) (node : Node) (distance : Number) :
    Option PathTree :=
  (tree.vertices.indexOf? node).map fun index : Fin tree.vertices.size =>
    { tree with distances := tree.distances.set index distance }

def setPredecessor? (tree : PathTree) (node : Node) (edge : Option Edge) :
    Option PathTree :=
  (tree.vertices.indexOf? node).map fun index : Fin tree.vertices.size =>
    { tree with predecessors := tree.predecessors.set index edge }

/-! ## Chains -/

/-- The calls that lead to a node, gathered backward along the predecessors. A
chain with more calls than the tree has nodes visits a node twice and so never
ends; it is no answer. -/
def chainTo? (tree : PathTree) :
    (bound : Nat) → (later : List Edge) → Node → Option (List Edge)
  | 0, later, node =>
      match tree.predecessor? node with
      | none => some later
      | some _ => none
  | bound + 1, later, node =>
      match tree.predecessor? node with
      | none => some later
      | some edge => tree.chainTo? bound (edge :: later) edge.source

/-- The calls of a shortest chain from the source to a node: none at all if
there is no chain, an empty list for the source itself. -/
def pathTo (tree : PathTree) (node : Node) : Option (List Edge) :=
  if tree.hasPathTo node then tree.chainTo? tree.vertices.size [] node else none

end PathTree

end CallChains
