import CallChains.Graph.CallGraph
/-!
The order of nodes is the order in which they are mentioned first, whether a
node is added by itself or comes along with a call that it is an end of.
-/

namespace CallChains

def endsOf (calls : List Edge) : List Node :=
  calls.flatMap fun call => [call.source, call.target]

theorem mem_endsOf {calls : List Edge} {node : Node} :
    node ∈ endsOf calls ↔
      ∃ call ∈ calls, call.source = node ∨ call.target = node := by
  simp only [endsOf, List.mem_flatMap, List.mem_cons, List.not_mem_nil,
    or_false, eq_comm (a := node)]

theorem eraseDups_of_nodup {nodes : List Node} (nodup : nodes.Nodup) :
    nodes.eraseDups = nodes := by
  induction nodes with
  | nil => rfl
  | cons node rest induction =>
      rcases List.nodup_cons.mp nodup with ⟨fresh, restNodup⟩
      have others : rest.filter (fun other => !other == node) = rest := by
        apply List.filter_eq_self.mpr
        intro other member
        have different : other ≠ node := fun same => fresh (same ▸ member)
        simp [different]
      rw [List.eraseDups_cons, others, induction restNodup]

namespace CallGraph

/-- Of the nodes that are added, those that are new go to the end, each where it
is mentioned first. -/
theorem nodes_addNodes (graph : CallGraph) (added : List Node) :
    (graph.addNodes added).nodes =
      graph.nodes ++ (added.removeAll graph.nodes).eraseDups := by
  induction added generalizing graph with
  | nil => simp [addNodes]
  | cons node rest induction =>
      have unfolded : graph.addNodes (node :: rest) =
          (graph.addNode node).addNodes rest := rfl
      rw [unfolded, induction, nodes_addNode, List.cons_removeAll]
      by_cases present : node ∈ graph.nodes
      · simp [present]
      · have later : rest.removeAll (graph.nodes ++ [node]) =
            (rest.removeAll graph.nodes).filter fun other =>
              !other == node := by
          rw [List.removeAll, List.removeAll, List.filter_filter]
          apply List.filter_congr
          intro other _
          rw [Bool.eq_iff_iff]
          simp [and_comm]
        simp [present, later, List.eraseDups_cons]

theorem nodes_addNodes_congr {graph other : CallGraph}
    (same : graph.nodes = other.nodes) (added : List Node) :
    (graph.addNodes added).nodes = (other.addNodes added).nodes := by
  rw [nodes_addNodes, nodes_addNodes, same]

theorem addNodes_append (graph : CallGraph) (first second : List Node) :
    graph.addNodes (first ++ second) = (graph.addNodes first).addNodes second :=
  List.foldl_append

theorem nodes_addEdges (graph : CallGraph) (calls : List Edge) :
    (graph.addEdges calls).nodes = (graph.addNodes (endsOf calls)).nodes := by
  induction calls generalizing graph with
  | nil => rfl
  | cons call rest induction =>
      have unfolded : graph.addEdges (call :: rest) =
          (graph.addEdge call).addEdges rest := rfl
      have mentioned : endsOf (call :: rest) =
          [call.source, call.target] ++ endsOf rest := rfl
      rw [unfolded, induction, mentioned, addNodes_append]
      exact nodes_addNodes_congr (graph.nodes_addEdge call) _

theorem nodes_addEdges_addNodes (added : List Node) (calls : List Edge) :
    ((empty.addNodes added).addEdges calls).nodes =
      (added ++ endsOf calls).eraseDups := by
  rw [nodes_addEdges, ← addNodes_append, nodes_addNodes, nodes_empty,
    List.nil_append, List.removeAll_nil]

end CallGraph

end CallChains
