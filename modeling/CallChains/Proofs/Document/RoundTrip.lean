import CallChains.Proofs.Document.Reading
import CallChains.Proofs.Graph.Mentions
/-!
Writing a graph and reading it back loses nothing but the order of its nodes. A
document tells the edges in order and lists the nodes that no edge mentions, so
reading it finds the listed nodes first and the others where an edge mentions
them. Written once more, the graph gives the same document.
-/

namespace CallChains

/-! ## Reading what was written -/

namespace Document

theorem isEntryOf_toJson (edge : Edge) : IsEntryOf edge.toJson edge :=
  readEdge_eq_ok_iff.mp rfl

theorem readEdges_map_toJson (position : Nat) (edges : List Edge) :
    readEdges position (edges.map Edge.toJson) = .ok edges := by
  apply readEdges_eq_ok_of_forall₂
  rw [List.forall₂_map_left_iff]
  exact List.forall₂_same.mpr fun edge _ => isEntryOf_toJson edge

section Members

variable (graph : CallGraph) (root : Option Node)

def rebuilt : CallGraph :=
  (CallGraph.empty.addNodes (isolatedNodes graph)).addEdges graph.edges

theorem listUnder_edges :
    listUnder (members graph root) "edges" .edgesNotList =
      .ok (graph.edges.map Edge.toJson) := rfl

theorem listUnder_nodes :
    listUnder (members graph root) "nodes" .nodesNotList =
      .ok ((isolatedNodes graph).map .str) := by
  unfold listUnder members
  cases isolated : isolatedNodes graph with
  | nil => cases root <;> rfl
  | cons node rest => rfl

theorem readRoot_members : readRoot (members graph root) = .ok root := by
  unfold readRoot members
  cases isolatedNodes graph <;> cases root <;> rfl

theorem readClasses_members : readClasses (members graph root) = .ok ∅ := by
  unfold readClasses members
  cases isolatedNodes graph <;> cases root <;> rfl

theorem ofJson_toJson_eq :
    ofJson (toJson graph root) =
      .ok { graph := rebuilt graph, root, superclasses := ∅ } := by
  rw [toJson, ofJson, listUnder_edges, listUnder_nodes]
  simp only [bind, Except.bind]
  rw [mapM_readNode_eq_ok_iff.mpr rfl, readEdges_map_toJson, readRoot_members,
    readClasses_members]
  rfl

end Members

/-! ## Nothing is lost -/

variable {graph : CallGraph} {node : Node}

theorem degrees_eq_zero_iff :
    (graph.inDegree node = 0 && graph.outDegree node = 0) = true ↔
    ¬ ∃ call ∈ graph.edges, call.source = node ∨ call.target = node := by
  simp only [CallGraph.inDegree, CallGraph.outDegree,
    CallGraph.edgesInto_eq_filter, CallGraph.edgesOutOf_eq_filter,
    Bool.and_eq_true, decide_eq_true_eq, List.length_eq_zero_iff,
    List.filter_eq_nil_iff]
  constructor
  · rintro ⟨notTarget, notSource⟩ ⟨call, member, isSource | isTarget⟩
    · exact notSource call member isSource
    · exact notTarget call member isTarget
  · intro atNoEnd
    exact ⟨fun call member finish => atNoEnd ⟨call, member, Or.inr finish⟩,
      fun call member start => atNoEnd ⟨call, member, Or.inl start⟩⟩

theorem mem_isolatedNodes : node ∈ isolatedNodes graph ↔
    node ∈ graph.nodes ∧ ¬ ∃ call ∈ graph.edges, call.source = node ∨
    call.target = node := by
  rw [isolatedNodes, List.mem_filter, degrees_eq_zero_iff]

variable (graph)

theorem edges_rebuilt : (rebuilt graph).edges = graph.edges := by
  rw [rebuilt, CallGraph.edges_addEdges, CallGraph.edges_addNodes]
  rfl

/-- The isolated nodes come first, and all others are brought along by edges. -/
theorem exists_nodes_rebuilt :
    ∃ brought, (rebuilt graph).nodes = isolatedNodes graph ++ brought ∧
    ∀ node ∈ brought, ∃ call ∈ graph.edges, call.source = node ∨
      call.target = node := by
  have isolatedNodup : (isolatedNodes graph).Nodup := graph.nodes_nodup.filter _
  refine ⟨((endsOf graph.edges).removeAll (isolatedNodes graph)).eraseDups, ?_,
    fun node member => ?_⟩
  · rw [rebuilt, CallGraph.nodes_addEdges_addNodes, List.eraseDups_append,
      eraseDups_of_nodup isolatedNodup]
  · exact mem_endsOf.mp (List.mem_of_mem_filter (List.mem_eraseDups.mp member))

theorem nodes_rebuilt_perm : (rebuilt graph).nodes.Perm graph.nodes := by
  apply (List.perm_ext_iff_of_nodup (rebuilt graph).nodes_nodup
    graph.nodes_nodup).mpr
  rcases exists_nodes_rebuilt graph with ⟨brought, nodes, areEnds⟩
  intro node
  constructor
  · intro member
    rw [nodes, List.mem_append] at member
    rcases member with isIsolated | isBrought
    · exact (mem_isolatedNodes.mp isIsolated).1
    · rcases areEnds node isBrought with ⟨call, isCall, rfl | rfl⟩
      · exact CallGraph.source_mem_nodes isCall
      · exact CallGraph.target_mem_nodes isCall
  · intro member
    by_cases atEnd : ∃ call ∈ graph.edges, call.source = node ∨
      call.target = node
    · rcases atEnd with ⟨call, isCall, rfl | rfl⟩
      · exact CallGraph.source_mem_nodes ((edges_rebuilt graph).symm ▸ isCall)
      · exact CallGraph.target_mem_nodes ((edges_rebuilt graph).symm ▸ isCall)
    · rw [nodes]
      exact List.mem_append_left brought (mem_isolatedNodes.mpr ⟨member, atEnd⟩)

theorem isolatedNodes_rebuilt :
    isolatedNodes (rebuilt graph) = isolatedNodes graph := by
  rcases exists_nodes_rebuilt graph with ⟨brought, nodes, areEnds⟩
  rw [isolatedNodes, nodes, List.filter_append]
  have stillIsolated : (isolatedNodes graph).filter (fun node =>
      (rebuilt graph).inDegree node = 0 && (rebuilt graph).outDegree node = 0) =
        isolatedNodes graph := by
    apply List.filter_eq_self.mpr
    intro node isIsolated
    rw [degrees_eq_zero_iff, edges_rebuilt]
    exact (mem_isolatedNodes.mp isIsolated).2
  have noneBrought : brought.filter (fun node =>
      (rebuilt graph).inDegree node = 0 && (rebuilt graph).outDegree node = 0) =
        [] := by
    apply List.filter_eq_nil_iff.mpr
    intro node isBrought
    rw [degrees_eq_zero_iff, edges_rebuilt]
    exact not_not_intro (areEnds node isBrought)
  rw [stillIsolated, noneBrought, List.append_nil]

/-- A graph that is written with its root is read back: with the same edges in
the same order, the same nodes, and so the same edges out of and into each of
them. What is written of it then is the same document. -/
theorem ofJson_toJson (root : Option Node) :
    ∃ reloaded : CallGraph,
      ofJson (toJson graph root) =
        .ok { graph := reloaded, root, superclasses := ∅ } ∧
      reloaded.edges = graph.edges ∧ reloaded.nodes.Perm graph.nodes ∧
      (∀ node, reloaded.edgesOutOf node = graph.edgesOutOf node ∧
        reloaded.edgesInto node = graph.edgesInto node) ∧
      toJson reloaded root = toJson graph root := by
  refine ⟨rebuilt graph, ofJson_toJson_eq graph root, edges_rebuilt graph,
    nodes_rebuilt_perm graph, fun node => ⟨?_, ?_⟩, ?_⟩
  · rw [CallGraph.edgesOutOf_eq_filter, CallGraph.edgesOutOf_eq_filter,
      edges_rebuilt]
  · rw [CallGraph.edgesInto_eq_filter, CallGraph.edgesInto_eq_filter,
      edges_rebuilt]
  · simp only [toJson, members, isolatedNodes_rebuilt, edges_rebuilt]

end Document

end CallChains
