import CallChains.Graph.CallGraph
/-!
Roots and entries. A root stands for everything that triggers code from outside;
the nodes that it calls are where call chains start. A graph without a root of
its own gets one that calls whatever is not called otherwise.
-/

namespace CallChains

namespace CallGraph

/-- The nodes that the root calls within a graph. The root stands for everything
that triggers code from outside and is no code itself, so it is not an entry of
its own. -/
def entriesUnder (graph : CallGraph) (root : Node) : NodeSet :=
  Std.TreeSet.ofList ((graph.edges.filter fun edge =>
    edge.source = root && edge.target ≠ root).map (·.target))

def uncalledNodes (graph : CallGraph) : List Node :=
  graph.nodes.filter fun node => graph.inDegree node = 0

def syntheticRoot : Node := "<callpath: void syntheticMain()>"

/-- A copy of a graph in which the root calls every entry explicitly. Edges are
copied before nodes, so a node keeps its place only if an edge does not mention
it earlier. -/
def withRoot (graph : CallGraph) (entries : List Node)
    (root : Node) : CallGraph :=
  ((ofEdges graph.edges).addNodes graph.nodes).addEdges
    (entries.map fun entry => { source := root, target := entry })

def withSyntheticRoot (graph : CallGraph) : CallGraph :=
  graph.withRoot graph.uncalledNodes syntheticRoot

@[simp] theorem edges_withRoot (graph : CallGraph) (entries : List Node)
    (root : Node) :
    (graph.withRoot entries root).edges =
      graph.edges ++ entries.map fun entry =>
        { source := root, target := entry } := by
  simp [withRoot, ofEdges]

theorem mem_entriesUnder {graph : CallGraph} {root node : Node} :
    node ∈ graph.entriesUnder root ↔
      node ≠ root ∧ ∃ edge ∈ graph.edges, edge.source = root ∧
      edge.target = node := by
  simp only [entriesUnder, Std.TreeSet.mem_ofList, List.contains_iff_mem,
    List.mem_map, List.mem_filter, Bool.and_eq_true, decide_eq_true_eq]
  constructor
  · rintro ⟨edge, ⟨member, start, other⟩, rfl⟩
    exact ⟨other, edge, member, start, rfl⟩
  · rintro ⟨other, edge, member, start, rfl⟩
    exact ⟨edge, ⟨member, start, other⟩, rfl⟩

theorem mem_uncalledNodes {graph : CallGraph} {node : Node} :
    node ∈ graph.uncalledNodes ↔
      node ∈ graph.nodes ∧ ∀ edge ∈ graph.edges, edge.target ≠ node := by
  simp [uncalledNodes, inDegree, edgesInto_eq_filter]

end CallGraph

end CallChains
