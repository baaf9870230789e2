import CallChains.Proofs.Graph.Budgets
import CallChains.Proofs.Route.Unlimited
/-!
Which nodes a search for shortest paths visits: those that explicit calls reach
from its source, each once. So it spends its budget exactly, like the other
traversals.
-/

namespace CallChains

namespace Search

variable {vertices : VertexIndex} {graph : CallGraph}
  {source : Fin vertices.size} {limit : Option Nat} {level : Nat}
  {pending : List Edge} {search : Search vertices}

theorem Sound.reached (sound : search.Sound graph source limit level pending)
    {hops : Nat} {index : Fin vertices.size}
    (distance : search.distances.get index = .int hops) :
    graph.ReachesExplicitly (vertices.nodeAt source)
      (vertices.nodeAt index) := by
  -- Back along the last calls, each of which takes one off the distance.
  induction hops generalizing index with
  | zero =>
      by_cases isSource : index = source
      · exact isSource ▸ .refl graph (vertices.nodeAt index)
      · rcases sound.found index isSource 0 distance with ⟨call, last⟩
        rcases sound.tight index call last with ⟨-, -, -, before, -, -, after⟩
        rw [distance, Number.int.injEq] at after
        omega
  | succ hops induction =>
      have notSource : index ≠ source := by
        rintro rfl
        have zero := sound.atSource
        rw [distance, Number.int.injEq] at zero
        omega
      rcases sound.found index notSource _ distance with ⟨call, last⟩
      rcases sound.tight index call last with
        ⟨explicit, finish, caller, before, start, isSettled, after⟩
      rw [distance, Number.int.injEq, Int.ofNat_inj, Nat.succ_inj] at after
      rcases induction (after ▸ isSettled.1) with ⟨calls, walk⟩
      exact ⟨calls ++ [call], walk_concat.mpr ⟨start ▸ walk, explicit, finish⟩⟩

def visitedNodes (search : Search vertices) : Set Node :=
  vertices.nodeAt '' {index | (search.distances.get index).isReached = true ∧
    search.queue.contains index = false}

theorem encard_visitedNodes (search : Search vertices) :
    search.visitedNodes.encard = search.settledCount := by
  rw [visitedNodes, vertices.nodeAt_injective.encard_image, settledCount,
    ← Set.encard_coe_eq_coe_finsetCard]
  simp

theorem Sound.exists_hops
    (sound : search.Sound graph source limit level pending)
    {index : Fin vertices.size}
    (reached : (search.distances.get index).isReached = true) :
    ∃ hops : Nat, search.distances.get index = .int hops := by
  rcases sound.counts index with found | unreached
  · exact found
  · rw [unreached, Number.isReached_infinity] at reached
    cases reached

theorem Sound.visitedNodes_subset
    (sound : search.Sound graph source limit level pending) :
    search.visitedNodes ⊆ graph.reachedFrom {vertices.nodeAt source} := by
  rintro _ ⟨index, ⟨isReached, -⟩, rfl⟩
  rcases sound.exists_hops isReached with ⟨hops, distance⟩
  exact ⟨_, rfl, sound.reached distance⟩

/-- A node that is still queued is reached as well, and it is one more. -/
theorem Sound.settledCount_lt_reached
    (sound : search.Sound graph source limit level pending)
    {nearest : Fin vertices.size}
    (queued : search.queue.contains nearest = true) :
    vertices.nodeAt nearest ∈ graph.reachedFrom {vertices.nodeAt source} ∧
      (search.settledCount : ℕ∞) <
        (graph.reachedFrom {vertices.nodeAt source}).encard := by
  have isReached : vertices.nodeAt nearest ∈
      graph.reachedFrom {vertices.nodeAt source} := by
    rcases sound.queued nearest _
      (IndexedQueue.keyFor?_eq_some_iff.mpr ⟨queued, rfl⟩) with
      ⟨sameKey, hops, key, -⟩
    exact ⟨_, rfl, sound.reached (sameKey.trans key)⟩
  have notVisited : vertices.nodeAt nearest ∉ search.visitedNodes := by
    rintro ⟨index, ⟨-, notQueued⟩, same⟩
    rw [vertices.nodeAt_injective same, queued] at notQueued
    cases notQueued
  refine ⟨isReached, ?_⟩
  have more := Set.encard_le_encard
    (Set.insert_subset isReached sound.visitedNodes_subset)
  rw [Set.encard_insert_of_notMem notVisited, encard_visitedNodes] at more
  exact lt_of_lt_of_le (by exact_mod_cast Nat.lt_succ_self _) more

theorem reachedFrom_subset_visitedNodes (finished : search.queue.isEmpty = true)
    {start : Node} (exact : (search.tree start).Exact graph start) :
    graph.reachedFrom {start} ⊆ search.visitedNodes := by
  rintro node ⟨_, rfl, reached⟩
  rcases exact.pathTo_cases node with
    ⟨-, -, unreached⟩ | ⟨calls, -, distance, -⟩
  · exact absurd reached unreached
  · have known : node ∈ vertices.nodes :=
      PathTree.mem_nodes_of_distanceTo distance
    rcases VertexIndex.mem_nodes_iff.mp known with ⟨index, rfl⟩
    rw [distanceTo_tree] at distance
    refine ⟨index, ⟨by rw [distance]; rfl, ?_⟩, rfl⟩
    exact not_queued_of_isEmpty finished index

end Search

namespace CallGraph

theorem shortestPaths_spendsExactly (graph : CallGraph) (source : Node)
    (check : Bool) :
    SpendsExactly (graph.shortestPaths source · check)
      "shortest-path search" .budget (graph.reachedFrom {source}) := by
  rcases graph.shortestPaths_cases source none check with
    ⟨tree, unlimited, -⟩ | ⟨_, _, limited, -⟩
  · apply spendsExactly_of_cases unlimited
    intro limit
    rcases graph.shortestPaths_run source (some limit) check with
      ⟨index, sourceNode, ⟨last, hops, sound, finished, exact, found⟩ |
        ⟨stopped, hops, most, nearest, sound, isLimit, used, queued, failed⟩⟩
    · left
      have visited :=
        Set.encard_le_encard
          (Search.reachedFrom_subset_visitedNodes finished exact)
      rw [Search.encard_visitedNodes] at visited
      have within : last.settledCount ≤ limit := sound.within limit rfl
      have sameTree :=
        Except.ok.inj ((shortestPaths_of_limited found).symm.trans unlimited)
      exact ⟨visited.trans (by exact_mod_cast within), sameTree ▸ found⟩
    · right
      rcases sound.settledCount_lt_reached queued with ⟨isReached, more⟩
      rw [sourceNode] at isReached more
      rcases Option.some.inj isLimit with rfl
      exact ⟨used ▸ more, _, isReached, failed⟩
  · cases limited

end CallGraph

/-- Every traversal spends its budget exactly: the forward closure on the nodes
that explicit calls reach from its roots, whatever their order and repetitions,
the search for the callers of a target on the nodes of their graph, and the
search for shortest paths on the nodes that explicit calls reach from its
source. -/
theorem CallGraph.traversals_spend_exactly (graph : CallGraph) :
    (∀ roots, SpendsExactly (graph.forwardClosure roots) "forward closure" id
        (graph.reachedFrom {root | root ∈ roots}) ∧
      ∀ limit closure, graph.forwardClosure roots limit = .ok closure →
        ∀ node, node ∈ closure ↔
          node ∈ graph.reachedFrom {root | root ∈ roots}) ∧
    (∀ target excluded, ∃ callers,
      graph.callersOf target excluded none = .ok callers ∧
      SpendsExactly (graph.callersOf target excluded) "backward subgraph" id
        {node | node ∈ callers.nodes}) ∧
    ∀ source check, SpendsExactly (graph.shortestPaths source · check)
      "shortest-path search" .budget (graph.reachedFrom {source}) :=
  ⟨graph.forwardClosure_spendsExactly, graph.callersOf_spendsExactly,
    graph.shortestPaths_spendsExactly⟩

end CallChains
