import CallChains.Graph.Edge
import Std.Data.TreeMap
import Std.Data.TreeSet
/-!
Call graphs: directed multigraphs with the edges of every node at hand in both
directions. The node list, the edge list and the two tables are views of one
history, and the type says so: a graph is only built by adding nodes and edges,
and every addition keeps the views consistent.
-/

namespace CallChains

abbrev NodeSet := Std.TreeSet Node

abbrev EdgeTable := Std.TreeMap Node (Array Edge)

def EdgeTable.row (table : EdgeTable) (node : Node) : List Edge :=
  (table.getD node #[]).toList

/-- The views agree: each node has its place in the order once and a row in both
tables, edges join nodes, and a row is the part of the edge list that leaves or
enters its node. -/
structure CallGraph.Consistent (nodeOrder : Array Node) (edgeOrder : Array Edge)
    (outgoing incoming : EdgeTable) : Prop where
  nodup : nodeOrder.toList.Nodup
  mem_outgoing : ∀ node, node ∈ outgoing ↔ node ∈ nodeOrder.toList
  mem_incoming : ∀ node, node ∈ incoming ↔ node ∈ nodeOrder.toList
  source_mem : ∀ edge ∈ edgeOrder.toList, edge.source ∈ nodeOrder.toList
  target_mem : ∀ edge ∈ edgeOrder.toList, edge.target ∈ nodeOrder.toList
  outgoing_row : ∀ node,
    outgoing.row node = edgeOrder.toList.filter (·.source = node)
  incoming_row : ∀ node,
    incoming.row node = edgeOrder.toList.filter (·.target = node)

structure CallGraph where
  nodeOrder : Array Node
  edgeOrder : Array Edge
  outgoing : EdgeTable
  incoming : EdgeTable
  consistent : CallGraph.Consistent nodeOrder edgeOrder outgoing incoming

namespace CallGraph

/-! ## Views -/

def nodes (graph : CallGraph) : List Node := graph.nodeOrder.toList

def edges (graph : CallGraph) : List Edge := graph.edgeOrder.toList

def edgesOutOf (graph : CallGraph) (node : Node) : List Edge :=
  graph.outgoing.row node

def edgesInto (graph : CallGraph) (node : Node) : List Edge :=
  graph.incoming.row node

def outDegree (graph : CallGraph) (node : Node) : Nat :=
  (graph.edgesOutOf node).length

def inDegree (graph : CallGraph) (node : Node) : Nat :=
  (graph.edgesInto node).length

def nodeCount (graph : CallGraph) : Nat := graph.nodeOrder.size

def edgeCount (graph : CallGraph) : Nat := graph.edgeOrder.size

def contains (graph : CallGraph) (node : Node) : Bool :=
  graph.outgoing.contains node

instance : Membership Node CallGraph := ⟨fun graph node => node ∈ graph.nodes⟩

def summary (graph : CallGraph) : String :=
  s!"CallGraph(nodes={graph.nodeCount}, edges={graph.edgeCount})"

theorem nodes_nodup (graph : CallGraph) : graph.nodes.Nodup :=
  graph.consistent.nodup

@[simp] theorem length_nodes (graph : CallGraph) :
    graph.nodes.length = graph.nodeCount :=
  Array.length_toList

@[simp] theorem length_edges (graph : CallGraph) :
    graph.edges.length = graph.edgeCount :=
  Array.length_toList

theorem edgesOutOf_eq_filter (graph : CallGraph) (node : Node) :
    graph.edgesOutOf node = graph.edges.filter (·.source = node) :=
  graph.consistent.outgoing_row node

theorem edgesInto_eq_filter (graph : CallGraph) (node : Node) :
    graph.edgesInto node = graph.edges.filter (·.target = node) :=
  graph.consistent.incoming_row node

theorem mem_edgesOutOf {graph : CallGraph} {node : Node} {edge : Edge} :
    edge ∈ graph.edgesOutOf node ↔ edge ∈ graph.edges ∧ edge.source = node := by
  simp [edgesOutOf_eq_filter]

theorem mem_edgesInto {graph : CallGraph} {node : Node} {edge : Edge} :
    edge ∈ graph.edgesInto node ↔ edge ∈ graph.edges ∧ edge.target = node := by
  simp [edgesInto_eq_filter]

theorem source_mem_nodes {graph : CallGraph} {edge : Edge}
    (member : edge ∈ graph.edges) :
    edge.source ∈ graph.nodes :=
  graph.consistent.source_mem edge member

theorem target_mem_nodes {graph : CallGraph} {edge : Edge}
    (member : edge ∈ graph.edges) :
    edge.target ∈ graph.nodes :=
  graph.consistent.target_mem edge member

theorem contains_iff {graph : CallGraph} {node : Node} :
    graph.contains node = true ↔ node ∈ graph.nodes := by
  rw [contains, Std.TreeMap.contains_iff_mem]
  exact graph.consistent.mem_outgoing node

/-! ## Building -/

def empty : CallGraph where
  nodeOrder := #[]
  edgeOrder := #[]
  outgoing := ∅
  incoming := ∅
  consistent := by
    constructor <;> simp [EdgeTable.row]

instance : Inhabited CallGraph := ⟨empty⟩

@[simp] theorem nodes_empty : empty.nodes = [] := rfl

@[simp] theorem edges_empty : empty.edges = [] := rfl

private theorem row_insert_empty {table : EdgeTable} {node : Node}
    (fresh : node ∉ table) (other : Node) :
    EdgeTable.row (table.insert node #[]) other = table.row other := by
  by_cases equal : node = other
  · subst equal
    simp [EdgeTable.row, Std.TreeMap.getD_eq_fallback fresh]
  · simp [EdgeTable.row, Std.TreeMap.getD_insert, equal]

private theorem row_modify_push {table : EdgeTable} {node : Node}
    (present : node ∈ table) (edge : Edge) (other : Node) :
    EdgeTable.row (table.modify node (·.push edge)) other =
      table.row other ++ if node = other then [edge] else [] := by
  by_cases equal : node = other
  · subst equal
    obtain ⟨row, found⟩ := Option.isSome_iff_exists.mp
      (Std.TreeMap.mem_iff_isSome_getElem?.mp present)
    simp [EdgeTable.row, found, Std.TreeMap.getD_eq_getD_getElem?]
  · simp [EdgeTable.row, Std.TreeMap.getD_modify, equal]

/-- Adds a node, possibly without any edges. A node that is there already keeps
its place. -/
def addNode (graph : CallGraph) (node : Node) : CallGraph :=
  if present : node ∈ graph.outgoing then graph
  else
    { nodeOrder := graph.nodeOrder.push node
      edgeOrder := graph.edgeOrder
      outgoing := graph.outgoing.insert node #[]
      incoming := graph.incoming.insert node #[]
      consistent := by
        have old := graph.consistent
        have fresh : node ∉ graph.nodeOrder.toList := fun member =>
          present ((old.mem_outgoing node).mpr member)
        have freshIncoming : node ∉ graph.incoming := fun member =>
          fresh ((old.mem_incoming node).mp member)
        refine ⟨?_, ?_, ?_, ?_, ?_, ?_, ?_⟩
        · simpa [List.nodup_append, old.nodup] using fun other member equal =>
            fresh (by simpa [equal] using member)
        · intro other
          simp [Std.TreeMap.mem_insert, old.mem_outgoing other, or_comm,
            eq_comm (a := other)]
        · intro other
          simp [Std.TreeMap.mem_insert, old.mem_incoming other, or_comm,
            eq_comm (a := other)]
        · intro edge member
          simp [old.source_mem edge member]
        · intro edge member
          simp [old.target_mem edge member]
        · intro other
          rw [row_insert_empty present, old.outgoing_row]
        · intro other
          rw [row_insert_empty freshIncoming, old.incoming_row] }

theorem nodes_addNode (graph : CallGraph) (node : Node) :
    (graph.addNode node).nodes =
      if node ∈ graph.nodes then graph.nodes else graph.nodes ++ [node] := by
  by_cases present : node ∈ graph.outgoing
  · have member := (graph.consistent.mem_outgoing node).mp present
    simp [addNode, present, nodes, member]
  · have notMember := mt (graph.consistent.mem_outgoing node).mpr present
    simp only [Array.mem_toList_iff] at notMember
    simp [addNode, present, nodes, notMember]

@[simp] theorem edges_addNode (graph : CallGraph) (node : Node) :
    (graph.addNode node).edges = graph.edges := by
  unfold addNode
  split <;> rfl

theorem mem_nodes_addNode {graph : CallGraph} {node other : Node} :
    other ∈ (graph.addNode node).nodes ↔
      other = node ∨ other ∈ graph.nodes := by
  rw [nodes_addNode]
  split
  · rename_i present
    exact ⟨Or.inr, fun either => either.elim (fun equal => equal ▸ present) id⟩
  · simp [or_comm]

def addEdgeBetween (graph : CallGraph) (edge : Edge)
    (sourceMember : edge.source ∈ graph.nodes)
    (targetMember : edge.target ∈ graph.nodes) : CallGraph where
  nodeOrder := graph.nodeOrder
  edgeOrder := graph.edgeOrder.push edge
  outgoing := graph.outgoing.modify edge.source (·.push edge)
  incoming := graph.incoming.modify edge.target (·.push edge)
  consistent := by
    have old := graph.consistent
    refine ⟨old.nodup, ?_, ?_, ?_, ?_, ?_, ?_⟩
    · intro node
      rw [Std.TreeMap.mem_modify, old.mem_outgoing]
    · intro node
      rw [Std.TreeMap.mem_modify, old.mem_incoming]
    · intro other member
      rcases Array.mem_push.mp (Array.mem_toList_iff.mp member) with
        member | rfl
      · exact old.source_mem other (by simpa using member)
      · exact sourceMember
    · intro other member
      rcases Array.mem_push.mp (Array.mem_toList_iff.mp member) with
        member | rfl
      · exact old.target_mem other (by simpa using member)
      · exact targetMember
    · intro node
      rw [row_modify_push ((old.mem_outgoing _).mpr sourceMember),
        old.outgoing_row]
      by_cases equal : edge.source = node <;> simp [equal]
    · intro node
      rw [row_modify_push ((old.mem_incoming _).mpr targetMember),
        old.incoming_row]
      by_cases equal : edge.target = node <;> simp [equal]

/-- Adds a call. Its source is mentioned before its target; parallel calls are
kept as given. -/
def addEdge (graph : CallGraph) (edge : Edge) : CallGraph :=
  addEdgeBetween ((graph.addNode edge.source).addNode edge.target) edge
    (mem_nodes_addNode.mpr (Or.inr (mem_nodes_addNode.mpr (Or.inl rfl))))
    (mem_nodes_addNode.mpr (Or.inl rfl))

@[simp] theorem edges_addEdge (graph : CallGraph) (edge : Edge) :
    (graph.addEdge edge).edges = graph.edges ++ [edge] := by
  have joined : (graph.addEdge edge).edges =
      ((graph.addNode edge.source).addNode edge.target).edges ++ [edge] := by
    simp [addEdge, addEdgeBetween, edges]
  simpa using joined

theorem nodes_addEdge (graph : CallGraph) (edge : Edge) :
    (graph.addEdge edge).nodes =
      ((graph.addNode edge.source).addNode edge.target).nodes := rfl

theorem mem_nodes_addEdge {graph : CallGraph} {edge : Edge} {node : Node} :
    node ∈ (graph.addEdge edge).nodes ↔
      node = edge.target ∨ node = edge.source ∨ node ∈ graph.nodes := by
  rw [nodes_addEdge, mem_nodes_addNode, mem_nodes_addNode]

def addNodes (graph : CallGraph) (nodes : List Node) : CallGraph :=
  nodes.foldl addNode graph

def addEdges (graph : CallGraph) (edges : List Edge) : CallGraph :=
  edges.foldl addEdge graph

def ofEdges (edges : List Edge) : CallGraph := empty.addEdges edges

@[simp] theorem edges_addNodes (graph : CallGraph) (nodes : List Node) :
    (graph.addNodes nodes).edges = graph.edges := by
  induction nodes generalizing graph with
  | nil => rfl
  | cons node nodes induction =>
      simpa [addNodes] using induction (graph.addNode node)

@[simp] theorem edges_addEdges (graph : CallGraph) (edges : List Edge) :
    (graph.addEdges edges).edges = graph.edges ++ edges := by
  induction edges generalizing graph with
  | nil => simp [addEdges]
  | cons edge edges induction =>
      simpa [addEdges] using induction (graph.addEdge edge)

end CallGraph

end CallChains
