import CallChains.Proofs.Graph.Reachability
/-!
The graph of callers is exact. Its nodes are those from which a walk leads to
the target without passing an excluded caller, and into each of them it has the
calls of the graph, as often as there and in the same order, apart from those by
excluded callers.
-/

namespace CallChains

theorem Walk.map_source {admitted : Edge → Prop} {source target : Node}
    {calls : List Edge} (walk : Walk admitted source calls target) :
    calls.map (·.source) = (nodesVisited source calls).dropLast := by
  induction calls generalizing source with
  | nil => rfl
  | cons call rest induction =>
      rcases walk with ⟨start, -, after⟩
      rw [List.map_cons, start, induction after]
      rfl

theorem perm_of_filter_target {calls others : List Edge}
    (same : ∀ node,
      calls.filter (·.target = node) = others.filter (·.target = node)) :
    calls.Perm others := by
  rw [List.perm_iff_count]
  intro call
  have counted (list : List Edge) :
      (list.filter (·.target = call.target)).count call = list.count call :=
    List.count_filter (by simp)
  rw [← counted calls, ← counted others, same]

namespace CallGraph

variable {graph : CallGraph} {source target : Node} {excluded : Node → Bool}
  {visited : List Node}

theorem leadsTo_iff : graph.LeadsTo excluded source target ↔
    ∃ calls, Walk (· ∈ graph.edges) source calls target ∧
      ∀ node ∈ (nodesVisited source calls).dropLast, excluded node = false := by
  constructor
  · rintro ⟨calls, walk⟩
    refine ⟨calls, walk.mono fun _ allowed => allowed.1, ?_⟩
    rw [← walk.map_source, List.forall_mem_map]
    exact fun call member => (walk.admitted_of_mem member).2
  · rintro ⟨calls, walk, admitted⟩
    rw [← walk.map_source, List.forall_mem_map] at admitted
    exact ⟨calls, walk.of_forall_mem fun call member =>
      ⟨walk.admitted_of_mem member, admitted call member⟩⟩

theorem filter_admittedEdgesInto (first node : Node) :
    (graph.admittedEdgesInto excluded first).filter (·.target = node) =
      if first = node then graph.admittedEdgesInto excluded node else [] := by
  split
  · rename_i same
    subst same
    exact List.filter_eq_self.mpr fun call into =>
      decide_eq_true (mem_admittedEdgesInto.mp into).2
  · rename_i different
    apply List.filter_eq_nil_iff.mpr
    intro call into finish
    exact different
      ((mem_admittedEdgesInto.mp into).2.symm.trans (of_decide_eq_true finish))

theorem filter_flatMap_admittedEdgesInto (nodup : visited.Nodup) (node : Node) :
    (visited.flatMap (graph.admittedEdgesInto excluded)).filter
      (·.target = node) =
      if node ∈ visited then graph.admittedEdgesInto excluded node else [] := by
  induction visited with
  | nil => rfl
  | cons first rest induction =>
      rcases List.nodup_cons.mp nodup with ⟨fresh, restNodup⟩
      rw [List.flatMap_cons, List.filter_append, induction restNodup,
        filter_admittedEdgesInto]
      by_cases same : first = node
      · subst same
        simp [fresh]
      · simp [same, Ne.symm same]

theorem edgesInto_addEdges_admitted (nodup : visited.Nodup) (node : Node) :
    ((empty.addNode target).addEdges
      (visited.flatMap (graph.admittedEdgesInto excluded))).edgesInto node =
      if node ∈ visited then graph.admittedEdgesInto excluded node else [] := by
  rw [edgesInto_eq_filter, edges_addEdges, edges_addNode, edges_empty,
    List.nil_append, filter_flatMap_admittedEdgesInto nodup]

/-- The search for the callers of a target gives exactly their graph. Its nodes
are those that lead to the target by calls of any kind, with no excluded node
before the end of the way, each once. Into each of them it has the calls of the
graph without those by excluded callers, in the same order and as often. It has
no other calls. -/
theorem callersOf_exact (graph : CallGraph) (target : Node)
    (excluded : Node → Bool) :
    ∃ callers, graph.callersOf target excluded none = .ok callers ∧
      callers.nodes.Nodup ∧
      (∀ node, node ∈ callers.nodes ↔
        ∃ calls, Walk (· ∈ graph.edges) node calls target ∧
        ∀ passed ∈ (nodesVisited node calls).dropLast,
          excluded passed = false) ∧
      (∀ node ∈ callers.nodes, callers.edgesInto node =
        (graph.edgesInto node).filter fun call => !excluded call.source) ∧
      callers.edges.Perm (graph.edges.filter fun call =>
        !excluded call.source && decide (call.target ∈ callers.nodes)) := by
  rcases graph.explore_admittedEdgesInto target excluded with
    ⟨visited, nodup, leads, explored⟩
  generalize isGraph : (empty.addNode target).addEdges
    (visited.flatMap (graph.admittedEdgesInto excluded)) = callers
  have isCallers : graph.IsCallersOf callers target excluded :=
    isGraph ▸ isCallersOf_addEdges leads
  have into (node : Node) : callers.edgesInto node =
      if node ∈ callers.nodes then graph.admittedEdgesInto excluded node
      else [] := by
    rw [← isGraph, edgesInto_addEdges_admitted nodup, isGraph]
    exact if_congr ((leads node).trans (isCallers.mem_nodes node).symm) rfl rfl
  refine ⟨callers, ?_, callers.nodes_nodup, ?_, ?_, ?_⟩
  · rw [callersOf_of_explored explored, isGraph]
    rfl
  · exact fun node => (isCallers.mem_nodes node).trans leadsTo_iff
  · intro node member
    rw [into, if_pos member]
    rfl
  · apply perm_of_filter_target
    -- The search gathers calls node by node, so the two lists are compared by
    -- what they hold for each callee.
    intro node
    rw [← edgesInto_eq_filter, into, List.filter_filter]
    split
    · rename_i member
      rw [admittedEdgesInto, edgesInto_eq_filter, List.filter_filter]
      apply List.filter_congr
      intro call _
      by_cases finish : call.target = node
      · simp [finish, member]
      · simp [finish]
    · rename_i outside
      refine (List.filter_eq_nil_iff.mpr fun call _ kept => outside ?_).symm
      simp only [Bool.and_eq_true, decide_eq_true_eq] at kept
      exact kept.1 ▸ kept.2.2

end CallGraph

end CallChains
