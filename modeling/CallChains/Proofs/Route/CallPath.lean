import CallChains.Proofs.Route.ShortestPaths
import CallChains.Route.CallPath
/-!
Reported paths are shortest ones. What a path says about itself, its length and
its nodes, are the length and the nodes of an explicit walk.
-/

namespace CallChains

/-- A path along explicit calls that no explicit walk between the same nodes
undercuts and that meets no node twice. -/
structure CallPath.IsShortest (graph : CallGraph) (path : CallPath) : Prop where
  walk : graph.ExplicitWalk path.entry path.edges path.target
  least : ∀ calls, graph.ExplicitWalk path.entry calls path.target →
    path.length ≤ calls.length
  nodup : (nodesVisited path.entry path.edges).Nodup

variable {graph : CallGraph} {source target : Node}

theorem CallPath.IsShortest.isDistance {path : CallPath}
    (shortest : path.IsShortest graph) :
    graph.IsDistance path.entry path.target path.length :=
  ⟨⟨path.edges, shortest.walk, rfl⟩, shortest.least⟩

theorem CallPath.nodes_eq_nodesVisited {admitted : Edge → Prop}
    {path : CallPath} (walk : Walk admitted path.entry path.edges path.target) :
    path.nodes = nodesVisited path.entry path.edges := by
  rcases path with ⟨entry, target, edges⟩
  cases edges with
  | nil => rfl
  | cons call rest =>
      rcases walk with ⟨start, -, -⟩
      simp only at start
      simp [nodes, nodesAlong, nodesVisited, start]

theorem PathTree.Exact.shortest_cases {tree : PathTree}
    (exact : tree.Exact graph source) (target : Node) :
    (tree.pathTo target = none ∧ ¬ graph.ReachesExplicitly source target) ∨
    ∃ edges, tree.pathTo target = some edges ∧
      CallPath.IsShortest graph { entry := source, target, edges } := by
  rcases exact.pathTo_cases target with
    ⟨noPath, -, unreached⟩ | ⟨edges, path, -, walk, least, nodup⟩
  · exact Or.inl ⟨noPath, unreached⟩
  · exact Or.inr ⟨edges, path, walk, least.2, nodup⟩

theorem CallGraph.shortestPath_cases (graph : CallGraph)
    (source target : Node) :
    (graph.shortestPath source target none = .ok none ∧
      ¬ graph.ReachesExplicitly source target) ∨
    ∃ edges,
      graph.shortestPath source target none =
        .ok (some { entry := source, target, edges }) ∧
      CallPath.IsShortest graph { entry := source, target, edges } := by
  rcases graph.shortestPaths_cases source none true with
    ⟨tree, found, exact⟩ | ⟨_, _, limited, _⟩
  · have answer : graph.shortestPath source target none =
        .ok ((tree.pathTo target).map fun edges =>
          { entry := source, target, edges }) := by
      rw [shortestPath, found]
      rfl
    rw [answer]
    rcases exact.shortest_cases target with
      ⟨noPath, unreached⟩ | ⟨edges, path, shortest⟩
    · exact Or.inl ⟨by rw [noPath]; rfl, unreached⟩
    · exact Or.inr ⟨edges, by rw [path]; rfl, shortest⟩
  · cases limited

end CallChains
