import CallChains.Proofs.Route.Accepted
/-!
The check of a shortest-path tree as a certificate. Whatever whole or infinite
distances a tree has and whatever explicit calls it follows, it is accepted just
if it is a tree of shortest paths. Even where predecessors are no calls of the
graph, walking back through an accepted tree ends, at the source.
-/

namespace CallChains.PathTree

variable {graph : CallGraph} {tree : PathTree}

/-! ## Trees with given entries -/

def tabulated (source : Node) (vertices : VertexIndex)
    (distance : Node → Number) (last : Node → Option Edge) : PathTree where
  source
  vertices
  distances := Vector.ofFn fun index => distance (vertices.nodeAt index)
  predecessors := Vector.ofFn fun index => last (vertices.nodeAt index)

section Tabulated

variable {source : Node} {vertices : VertexIndex} {distance : Node → Number}
  {last : Node → Option Edge}

theorem distanceTo_tabulated {node : Node} (known : node ∈ vertices.nodes) :
    (tabulated source vertices distance last).distanceTo node =
      distance node := by
  rcases VertexIndex.mem_nodes_iff.mp known with ⟨index, rfl⟩
  simp only [distanceTo, tabulated, VertexIndex.indexOf?_nodeAt]
  exact Vector.getElem_ofFn index.isLt

theorem predecessor?_tabulated {node : Node} (known : node ∈ vertices.nodes) :
    (tabulated source vertices distance last).predecessor? node =
      last node := by
  rcases VertexIndex.mem_nodes_iff.mp known with ⟨index, rfl⟩
  simp only [predecessor?, tabulated, VertexIndex.indexOf?_nodeAt]
  exact Vector.getElem_ofFn index.isLt

theorem countsHops_tabulated
    (counts : ∀ node, (∃ hops : Int, distance node = .int hops) ∨
      distance node = .infinity) :
    (tabulated source vertices distance last).CountsHops := by
  intro node
  by_cases known : node ∈ vertices.nodes
  · rw [distanceTo_tabulated known]
    exact counts node
  · exact Or.inr (distanceTo_unknown known)

theorem followsExplicit_tabulated
    (explicit : ∀ node call, last node = some call →
      graph.IsExplicitCall call) :
    (tabulated source vertices distance last).FollowsExplicit graph := by
  intro node call isLast
  have known : node ∈ vertices.nodes := mem_nodes_of_predecessor? isLast
  rw [predecessor?_tabulated known] at isLast
  exact explicit node call isLast

end Tabulated

/-! ## Trees of shortest paths -/

/-- A tree that gives each of its nodes its distance from the source, and each
node that is reached, but the source, a last call from a node that is one call
nearer. -/
structure IsShortestTree (graph : CallGraph) (tree : PathTree) : Prop where
  distances : ∀ node ∈ tree.vertices.nodes,
    (∃ hops : Nat, tree.distanceTo node = .int hops ∧
      graph.IsDistance tree.source node hops) ∨
      (tree.distanceTo node = .infinity ∧
        ¬ graph.ReachesExplicitly tree.source node)
  root : tree.predecessor? tree.source = none
  predecessors : ∀ node ∈ tree.vertices.nodes, node ≠ tree.source →
    ((∃ call, tree.predecessor? node = some call) ↔
      tree.distanceTo node ≠ .infinity)
  lastCalls : ∀ node ∈ tree.vertices.nodes, node ≠ tree.source → ∀ call,
    tree.predecessor? node = some call → call.target = node ∧
      ∃ hops : Int, tree.distanceTo call.source = .int hops ∧
        tree.distanceTo node = .int (hops + 1)

theorem Accepted.isShortestTree (accepted : tree.Accepted graph)
    (counts : tree.CountsHops) (explicit : tree.FollowsExplicit graph) :
    tree.IsShortestTree graph where
  distances node _ := by
    rcases counts node with ⟨hops, finite⟩ | infinite
    · rcases accepted.exists_unwinding node with ⟨calls, unwinding⟩
      rcases accepted.explicitWalk_of_unwinding explicit unwinding finite with
        ⟨-, rfl⟩
      exact Or.inl ⟨calls.length, finite,
        (accepted.distanceTo_eq_int_iff explicit).mp finite⟩
    · exact Or.inr ⟨infinite,
        (accepted.distanceTo_eq_infinity_iff counts explicit).mp infinite⟩
  root := accepted.root
  predecessors node _ notSource := by
    rw [counts.ne_infinity_iff, accepted.agree node notSource]
  lastCalls node _ _ call last := accepted.tight node call last

theorem IsShortestTree.accepted (shortest : tree.IsShortestTree graph)
    (counts : tree.CountsHops)
    (overGraph : tree.vertices = .ofGraph graph [tree.source]) :
    tree.Accepted graph := by
  have known (node : Node) (member : node = tree.source ∨ node ∈ graph.nodes) :
      node ∈ tree.vertices.nodes := by
    rw [overGraph, VertexIndex.mem_nodes_ofGraph, List.mem_singleton]
    exact member
  constructor
  case atSource =>
    rcases shortest.distances tree.source (known _ (Or.inl rfl)) with
      ⟨hops, distance, -, least⟩ | ⟨-, unreached⟩
    · have zero : hops = 0 := Nat.le_zero.mp (least [] rfl)
      rw [distance, zero]
      rfl
    · exact absurd
        (CallGraph.ReachesExplicitly.refl graph tree.source) unreached
  case root => exact shortest.root
  case agree =>
    intro node notSource
    by_cases inside : node ∈ tree.vertices.nodes
    · rw [shortest.predecessors node inside notSource, counts.ne_infinity_iff]
    · simp [distanceTo_unknown inside, predecessor?_unknown inside]
  case relaxed =>
    intro call explicit hops start
    have sourceKnown := known _ (Or.inr (CallGraph.source_mem_nodes explicit.1))
    have targetKnown := known _ (Or.inr (CallGraph.target_mem_nodes explicit.1))
    rcases shortest.distances call.source sourceKnown with
      ⟨count, distance, ⟨calls, walk, length⟩, -⟩ | ⟨unreached, -⟩
    · have longer :
          graph.ExplicitWalk tree.source (calls ++ [call]) call.target :=
        walk_concat.mpr ⟨walk, explicit, rfl⟩
      rw [start, Number.int.injEq] at distance
      -- A shortest walk to the caller, with the call behind it, is not shorter
      -- than the shortest walk to the callee.
      rcases shortest.distances call.target targetKnown with
        ⟨least, finish, -, atMost⟩ | ⟨-, unreached⟩
      · have bound := atMost _ longer
        rw [List.length_append, List.length_singleton] at bound
        exact ⟨least, finish, by omega⟩
      · exact absurd ⟨_, longer⟩ unreached
    · exact absurd (start.symm.trans unreached) (Number.int_ne_infinity hops)
  case tight =>
    intro node call last
    apply shortest.lastCalls node (mem_nodes_of_predecessor? last) _ call last
    rintro rfl
    rw [shortest.root] at last
    cases last

/-- Of the trees over the nodes of a graph and a source, with whole or infinite
distances and explicit calls of the graph as predecessors, the check accepts
just the trees of shortest paths. -/
theorem noFault_iff_isShortestTree
    (overGraph : tree.vertices = .ofGraph graph [tree.source])
    (counts : tree.CountsHops) (explicit : tree.FollowsExplicit graph) :
    tree.fault? graph = none ↔ tree.IsShortestTree graph := by
  constructor
  · intro noFault
    exact (counts.accepted noFault).isShortestTree counts explicit
  · intro shortest
    exact (shortest.accepted counts overGraph).fault?_eq_none counts

def parallelCalls : CallGraph :=
  .ofEdges [{ source := "a", target := "b", line := .ofNat 1 },
    { source := "a", target := "b", line := .ofNat 2 },
    { source := "b", target := "c", explicit := false },
    { source := "b", target := "a" }]

def treeBy (call : Edge) : PathTree :=
  tabulated "a" (.ofGraph parallelCalls ["a"])
    (fun node => if node = "a" then .int 0 else if node = "b" then .int 1
    else .infinity)
    (fun node => if node = "b" then some call else none)

theorem countsHops_treeBy (call : Edge) : (treeBy call).CountsHops := by
  apply countsHops_tabulated
  intro node
  by_cases start : node = "a"
  · exact Or.inl ⟨0, if_pos start⟩
  · rw [if_neg start]
    by_cases reached : node = "b"
    · exact Or.inl ⟨1, if_pos reached⟩
    · exact Or.inr (if_neg reached)

def secondCall : Edge := { source := "a", target := "b", line := .ofNat 2 }

theorem isShortestTree_treeBy_secondCall :
    (treeBy secondCall).vertices = .ofGraph parallelCalls ["a"] ∧
    (treeBy secondCall).CountsHops ∧
    (treeBy secondCall).FollowsExplicit parallelCalls ∧
    (treeBy secondCall).fault? parallelCalls = none ∧
    (treeBy secondCall).IsShortestTree parallelCalls := by
  have counts := countsHops_treeBy secondCall
  have noFault : (treeBy secondCall).fault? parallelCalls = none := by
    decide +kernel
  have explicit : (treeBy secondCall).FollowsExplicit parallelCalls := by
    apply followsExplicit_tabulated
    intro node call isLast
    rw [Option.ite_none_right_eq_some] at isLast
    rcases isLast with ⟨-, isCall⟩
    cases isCall
    exact ⟨by decide +kernel, rfl⟩
  exact ⟨rfl, counts, explicit, noFault,
    (noFault_iff_isShortestTree rfl counts explicit).mp noFault⟩

/-! ## Paths in accepted trees -/

/-- An accepted tree with whole or infinite distances gives a path for just the
nodes at a finite distance, whatever its predecessors are. Walking back from a
node always ends. The path has as many calls as the distance says, they lead
from the source to the node, and no node is met twice. -/
theorem pathTo_of_noFault (counts : tree.CountsHops)
    (noFault : tree.fault? graph = none) (node : Node) :
    (∃ calls, tree.Unwinding node calls) ∧
    (tree.pathTo node = none ↔ tree.distanceTo node = .infinity) ∧
    ∀ calls, tree.pathTo node = some calls →
      tree.Unwinding node calls ∧ tree.distanceTo node = .int calls.length ∧
      Walk (fun _ => True) tree.source calls node ∧
      (nodesVisited tree.source calls).Nodup := by
  have accepted := counts.accepted noFault
  refine ⟨accepted.exists_unwinding node, accepted.pathTo_eq_none_iff counts,
    ?_⟩
  intro calls found
  rcases pathTo_eq_some_iff.mp found with ⟨reached, unwinding⟩
  rcases counts.hasPathTo_iff.mp reached with ⟨hops, distance⟩
  rcases accepted.walk_of_unwinding unwinding distance with
    ⟨walk, rfl, nodup, -⟩
  exact ⟨unwinding, distance, walk.mono fun _ _ => trivial, nodup⟩

def foreignCall : Edge := { source := "a", target := "b", explicit := false }

theorem pathTo_treeBy_foreignCall :
    (treeBy foreignCall).CountsHops ∧
    (treeBy foreignCall).fault? parallelCalls = none ∧
    foreignCall ∉ parallelCalls.edges ∧
    (treeBy foreignCall).pathTo "b" = some [foreignCall] ∧
    (treeBy foreignCall).distanceTo "b" = .int [foreignCall].length ∧
    Walk (fun _ => True) "a" [foreignCall] "b" := by
  have counts := countsHops_treeBy foreignCall
  have noFault : (treeBy foreignCall).fault? parallelCalls = none := by
    decide +kernel
  have path : (treeBy foreignCall).pathTo "b" = some [foreignCall] := by
    decide +kernel
  rcases pathTo_of_noFault counts noFault "b" with ⟨-, -, answered⟩
  rcases answered _ path with ⟨-, distance, walk, -⟩
  exact ⟨counts, noFault, by decide +kernel, path, distance, walk⟩

end CallChains.PathTree
