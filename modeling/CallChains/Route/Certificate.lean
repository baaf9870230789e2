import CallChains.Route.PathTree
/-!
Checking a shortest-path tree against its graph. Four conditions, each about a
single node or a single call, together say that every distance is the least one
and that every chain is as long as its distance: the source is at zero and has
no predecessor, the other nodes have a predecessor exactly when they are
reached, no explicit call offers a shorter way, and every predecessor ends at
its node and is tight.
-/

namespace CallChains

inductive TreeFault where
  | source (node : Node)
  | disagreement (node : Node)
  | notRelaxed (edge : Edge)
  | wrongEnd (node : Node) (edge : Edge)
  | notTight (node : Node) (edge : Edge)
  deriving DecidableEq, Repr

namespace TreeFault

def message : TreeFault → String
  | .source node =>
      "Source " ++ Text.quoted node ++
        " must have distance 0 and no predecessor"
  | .disagreement node =>
      "Distance and predecessor of " ++ Text.quoted node ++ " disagree"
  | .notRelaxed edge => "Edge " ++ edge.text ++ " not relaxed"
  | .wrongEnd node edge =>
      "Predecessor edge " ++ edge.text ++ " does not end at " ++
        Text.quoted node
  | .notTight _ edge => "Edge " ++ edge.text ++ " on shortest path not tight"

def node : TreeFault → Node
  | .source node | .disagreement node | .wrongEnd node _ | .notTight node _ =>
      node
  | .notRelaxed edge => edge.target

def edge? : TreeFault → Option Edge
  | .source _ | .disagreement _ => none
  | .notRelaxed edge | .wrongEnd _ edge | .notTight _ edge => some edge

end TreeFault

namespace PathTree

/-! ## The conditions -/

def sourceFault? (tree : PathTree) : Option TreeFault :=
  if (tree.distanceTo tree.source).same (.int 0) &&
    (tree.predecessor? tree.source).isNone then none
  else some (.source tree.source)

def agreementFault? (tree : PathTree) (node : Node) : Option TreeFault :=
  if node = tree.source ||
    tree.hasPathTo node = (tree.predecessor? node).isSome then none
  else some (.disagreement node)

def relaxationFault? (tree : PathTree) (edge : Edge) : Option TreeFault :=
  if edge.explicit &&
    (tree.distanceTo edge.source).addOne.lt (tree.distanceTo edge.target) then
    some (.notRelaxed edge)
  else none

def predecessorFault? (tree : PathTree) (node : Node) : Option TreeFault :=
  match tree.predecessor? node with
  | none => none
  | some edge =>
      if edge.target ≠ node then some (.wrongEnd node edge)
      else if (tree.distanceTo edge.source).addOne.same
        (tree.distanceTo node) then none
      else some (.notTight node edge)

def fault? (graph : CallGraph) (tree : PathTree) : Option TreeFault :=
  tree.sourceFault? <|> tree.vertices.nodes.findSome? tree.agreementFault? <|>
    graph.edges.findSome? tree.relaxationFault? <|>
    tree.vertices.nodes.findSome? tree.predecessorFault?

/-- A tree is accepted exactly when each condition holds everywhere. -/
theorem fault?_eq_none_iff {graph : CallGraph} {tree : PathTree} :
    tree.fault? graph = none ↔
      tree.sourceFault? = none ∧
        (∀ node ∈ tree.vertices.nodes, tree.agreementFault? node = none) ∧
        (∀ edge ∈ graph.edges, tree.relaxationFault? edge = none) ∧
        ∀ node ∈ tree.vertices.nodes, tree.predecessorFault? node = none := by
  simp [fault?]

end PathTree

end CallChains
