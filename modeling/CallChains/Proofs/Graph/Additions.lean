import CallChains.Proofs.Graph.Mentions
import Mathlib.Algebra.BigOperators.Ring.Finset
/-!
Graphs that grow from nothing by additions. At every point the views of a graph
tell what has been added: its nodes in the order of first mention, its calls in
the order of addition, and at each node the calls out of it and into it. Plain
tables to which every addition is written, each table for itself, come to the
same views.
-/

namespace CallChains

/-! ## Additions -/

inductive Addition where
  | node (added : Node)
  | call (added : Edge)

namespace Addition

def mentions : Addition → List Node
  | .node added => [added]
  | .call added => [added.source, added.target]

def call? : Addition → Option Edge
  | .node _ => none
  | .call added => some added

end Addition

namespace CallGraph

def add (graph : CallGraph) : Addition → CallGraph
  | .node added => graph.addNode added
  | .call added => graph.addEdge added

def built (additions : List Addition) : CallGraph := additions.foldl add empty

theorem built_concat (additions : List Addition) (last : Addition) :
    built (additions ++ [last]) = (built additions).add last := by
  rw [built, List.foldl_append]
  rfl

theorem nodes_add (graph : CallGraph) (addition : Addition) :
    (graph.add addition).nodes = (graph.addNodes addition.mentions).nodes := by
  cases addition with
  | node added => rfl
  | call added => exact graph.nodes_addEdge added

theorem edges_add (graph : CallGraph) (addition : Addition) :
    (graph.add addition).edges = graph.edges ++ addition.call?.toList := by
  cases addition with
  | node added => simp [add, Addition.call?]
  | call added => exact graph.edges_addEdge added

theorem nodes_built (additions : List Addition) :
    (built additions).nodes =
      (additions.flatMap Addition.mentions).eraseDups := by
  have mentioned : (built additions).nodes =
      (empty.addNodes (additions.flatMap Addition.mentions)).nodes := by
    induction additions using List.reverseRecOn with
    | nil => rfl
    | append_singleton earlier last induction =>
        rw [built_concat, nodes_add, List.flatMap_append, addNodes_append,
          List.flatMap_singleton]
        exact nodes_addNodes_congr induction last.mentions
  rw [mentioned, nodes_addNodes, nodes_empty, List.nil_append,
    List.removeAll_nil]

theorem edges_built (additions : List Addition) :
    (built additions).edges = additions.filterMap Addition.call? := by
  -- From the end, as every addition goes behind those before it.
  induction additions using List.reverseRecOn with
  | nil => rfl
  | append_singleton earlier last induction =>
      rw [built_concat, edges_add, induction, List.filterMap_append]
      cases last <;> rfl

/-! ## Degrees -/

theorem sum_length_filter {nodes : List Node} (nodup : nodes.Nodup)
    (nodeOf : Edge → Node) {calls : List Edge}
    (inside : ∀ call ∈ calls, nodeOf call ∈ nodes) :
    (nodes.map fun node => (calls.filter (nodeOf · = node)).length).sum =
      calls.length := by
  -- Counted as members of the multiset of the nodes that the calls stand for.
  have counted (node : Node) : (calls.filter (nodeOf · = node)).length =
      Multiset.count node (calls.map nodeOf : List Node) := by
    rw [Multiset.coe_count, List.count, List.countP_map,
      List.countP_eq_length_filter]
    rfl
  have known : ∀ node ∈ (calls.map nodeOf : Multiset Node),
      node ∈ nodes.toFinset := by
    simpa using inside
  rw [← List.sum_toFinset _ nodup]
  simp only [counted]
  rw [Multiset.sum_count_eq_card known]
  simp

theorem sum_outDegree (graph : CallGraph) :
    (graph.nodes.map graph.outDegree).sum = graph.edgeCount := by
  have degrees : graph.outDegree = fun node =>
      (graph.edges.filter (·.source = node)).length := by
    funext node
    rw [outDegree, edgesOutOf_eq_filter]
  rw [degrees, ← length_edges]
  exact sum_length_filter graph.nodes_nodup Edge.source fun _ =>
    source_mem_nodes

theorem sum_inDegree (graph : CallGraph) :
    (graph.nodes.map graph.inDegree).sum = graph.edgeCount := by
  have degrees : graph.inDegree = fun node =>
      (graph.edges.filter (·.target = node)).length := by
    funext node
    rw [inDegree, edgesInto_eq_filter]
  rw [degrees, ← length_edges]
  exact sum_length_filter graph.nodes_nodup Edge.target fun _ =>
    target_mem_nodes

end CallGraph

/-! ## Tables -/

/-- Rows of calls, each under its node, in the order in which the nodes have got
them. -/
abbrev CallRows := List (Node × List Edge)

namespace CallRows

def nodes (rows : CallRows) : List Node := rows.map Prod.fst

def row (node : Node) : CallRows → List Edge
  | [] => []
  | (other, calls) :: rest => if other = node then calls else row node rest

def withRow (rows : CallRows) (node : Node) : CallRows :=
  if node ∈ rows.nodes then rows else rows ++ [(node, [])]

/-- Writes a call at the end of the row of a node. There is nowhere to write it
if the node has no row. -/
def write? (node : Node) (call : Edge) : CallRows → Option CallRows
  | [] => none
  | (other, calls) :: rest =>
      if other = node then some ((other, calls ++ [call]) :: rest)
      else (write? node call rest).map ((other, calls) :: ·)

theorem nodes_withRow (rows : CallRows) (node : Node) :
    (rows.withRow node).nodes =
      if node ∈ rows.nodes then rows.nodes else rows.nodes ++ [node] := by
  unfold withRow
  split <;> simp [nodes]

theorem row_withRow (rows : CallRows) (node other : Node) :
    (rows.withRow node).row other = rows.row other := by
  have row_append : (rows ++ [(node, [])]).row other = rows.row other := by
    induction rows with
    | nil => simp [row]
    | cons head rest induction => simp [row, induction]
  unfold withRow
  split
  · rfl
  · exact row_append

theorem exists_write? {rows : CallRows} {node : Node}
    (present : node ∈ rows.nodes) (call : Edge) :
    ∃ written, rows.write? node call = some written ∧
      written.nodes = rows.nodes ∧
      ∀ other, written.row other =
        rows.row other ++ if node = other then [call] else [] := by
  induction rows with
  | nil => cases present
  | cons head rest induction =>
      rcases head with ⟨first, calls⟩
      by_cases here : first = node
      · refine ⟨(first, calls ++ [call]) :: rest, if_pos here, rfl,
          fun other => ?_⟩
        by_cases same : node = other <;> simp [row, here, same]
      · rcases List.mem_cons.mp present with isFirst | later
        · exact absurd isFirst.symm here
        · rcases induction later with ⟨written, found, sameNodes, rows⟩
          refine ⟨(first, calls) :: written, ?_,
            congrArg (first :: ·) sameNodes, fun other => ?_⟩
          · rw [write?, if_neg here, found, Option.map_some]
          · by_cases same : first = other
            · have different : node ≠ other :=
                fun equal => here (same.trans equal.symm)
              simp [row, same, different]
            · simp [row, same, rows]

end CallRows

structure CallTables where
  outgoing : CallRows := []
  incoming : CallRows := []
  calls : List Edge := []

namespace CallTables

def addNode (tables : CallTables) (node : Node) : CallTables :=
  { tables with outgoing := tables.outgoing.withRow node,
                incoming := tables.incoming.withRow node }

def addCall? (tables : CallTables) (call : Edge) : Option CallTables := do
  let known := (tables.addNode call.source).addNode call.target
  let outgoing ← known.outgoing.write? call.source call
  let incoming ← known.incoming.write? call.target call
  return { outgoing, incoming, calls := known.calls ++ [call] }

def add? (tables : CallTables) : Addition → Option CallTables
  | .node added => some (tables.addNode added)
  | .call added => tables.addCall? added

def built? (additions : List Addition) : Option CallTables :=
  additions.foldlM add? {}

structure Shows (tables : CallTables) (graph : CallGraph) : Prop where
  outgoingNodes : tables.outgoing.nodes = graph.nodes
  incomingNodes : tables.incoming.nodes = graph.nodes
  calls : tables.calls = graph.edges
  outgoing_row : ∀ node, tables.outgoing.row node = graph.edgesOutOf node
  incoming_row : ∀ node, tables.incoming.row node = graph.edgesInto node

variable {tables : CallTables} {graph : CallGraph}

theorem Shows.addNode (shows : tables.Shows graph) (node : Node) :
    (tables.addNode node).Shows (graph.addNode node) where
  outgoingNodes := by
    rw [CallGraph.nodes_addNode, ← shows.outgoingNodes]
    exact CallRows.nodes_withRow tables.outgoing node
  incomingNodes := by
    rw [CallGraph.nodes_addNode, ← shows.incomingNodes]
    exact CallRows.nodes_withRow tables.incoming node
  calls := shows.calls.trans (graph.edges_addNode node).symm
  outgoing_row other := by
    rw [CallGraph.edgesOutOf_eq_filter, CallGraph.edges_addNode,
      ← CallGraph.edgesOutOf_eq_filter, ← shows.outgoing_row]
    exact CallRows.row_withRow tables.outgoing node other
  incoming_row other := by
    rw [CallGraph.edgesInto_eq_filter, CallGraph.edges_addNode,
      ← CallGraph.edgesInto_eq_filter, ← shows.incoming_row]
    exact CallRows.row_withRow tables.incoming node other

/-- Both ends of a call have rows when the call is written, so every write
succeeds. -/
theorem Shows.addCall? (shows : tables.Shows graph) (call : Edge) :
    ∃ next, tables.addCall? call = some next ∧
      next.Shows (graph.addEdge call) := by
  have known := (shows.addNode call.source).addNode call.target
  have sourceMember : call.source ∈
      ((graph.addNode call.source).addNode call.target).nodes :=
    CallGraph.mem_nodes_addNode.mpr
      (Or.inr (CallGraph.mem_nodes_addNode.mpr (Or.inl rfl)))
  have targetMember : call.target ∈
      ((graph.addNode call.source).addNode call.target).nodes :=
    CallGraph.mem_nodes_addNode.mpr (Or.inl rfl)
  rw [← known.outgoingNodes] at sourceMember
  rw [← known.incomingNodes] at targetMember
  rcases CallRows.exists_write? sourceMember call with
    ⟨outgoing, sourceWritten, outgoingNodes, outgoingRows⟩
  rcases CallRows.exists_write? targetMember call with
    ⟨incoming, targetWritten, incomingNodes, incomingRows⟩
  refine ⟨{ outgoing, incoming, calls := tables.calls ++ [call] }, ?_, ?_⟩
  · simp only [CallTables.addCall?, sourceWritten, targetWritten]
    rfl
  constructor
  case outgoingNodes => exact outgoingNodes.trans known.outgoingNodes
  case incomingNodes => exact incomingNodes.trans known.incomingNodes
  case calls => rw [CallGraph.edges_addEdge, shows.calls]
  case outgoing_row =>
    intro node
    rw [outgoingRows, known.outgoing_row]
    by_cases here : call.source = node <;>
      simp [CallGraph.edgesOutOf_eq_filter, here]
  case incoming_row =>
    intro node
    rw [incomingRows, known.incoming_row]
    by_cases here : call.target = node <;>
      simp [CallGraph.edgesInto_eq_filter, here]

theorem Shows.add? (shows : tables.Shows graph) (addition : Addition) :
    ∃ next, tables.add? addition = some next ∧
      next.Shows (graph.add addition) := by
  cases addition with
  | node added => exact ⟨tables.addNode added, rfl, shows.addNode added⟩
  | call added => exact shows.addCall? added

theorem exists_built? (additions : List Addition) :
    ∃ tables, built? additions = some tables ∧
      tables.Shows (CallGraph.built additions) := by
  induction additions using List.reverseRecOn with
  | nil => exact ⟨{}, rfl, rfl, rfl, rfl, fun _ => rfl, fun _ => rfl⟩
  | append_singleton earlier last induction =>
      rcases induction with ⟨tables, found, shows⟩
      rcases shows.add? last with ⟨next, added, nextShows⟩
      refine ⟨next, ?_, CallGraph.built_concat earlier last ▸ nextShows⟩
      rw [built?, List.foldlM_append]
      rw [built?] at found
      simp [found, added]

end CallTables

/-! ## Views -/

/-- After any additions the views of a graph tell what was added. Its nodes are
those that were mentioned, each once and in the order of first mention; its
calls are those that were added, in that order; at every node, known or not, are
the calls out of it and into it; the same nodes have rows in both tables; and
the degrees of all nodes add up to the number of calls. Tables that are written
one by one find a place for every write and show the same. -/
theorem CallGraph.built_views (additions : List Addition) :
    (built additions).nodes = (additions.flatMap Addition.mentions).eraseDups ∧
    (built additions).nodes.Nodup ∧
    (built additions).edges = additions.filterMap Addition.call? ∧
    (∀ node, (built additions).edgesOutOf node =
        (additions.filterMap Addition.call?).filter (·.source = node) ∧
      (built additions).edgesInto node =
        (additions.filterMap Addition.call?).filter (·.target = node)) ∧
    (∀ node, node ∈ (built additions).outgoing ↔
      node ∈ (built additions).incoming) ∧
    ((built additions).nodes.map (built additions).outDegree).sum =
      (built additions).edgeCount ∧
    ((built additions).nodes.map (built additions).inDegree).sum =
      (built additions).edgeCount ∧
    ∃ tables, CallTables.built? additions = some tables ∧
      tables.Shows (built additions) := by
  have calls := edges_built additions
  refine ⟨nodes_built additions, nodes_nodup _, calls, fun node => ⟨?_, ?_⟩,
    fun node => ?_, sum_outDegree _, sum_inDegree _,
    CallTables.exists_built? additions⟩
  · rw [edgesOutOf_eq_filter, calls]
  · rw [edgesInto_eq_filter, calls]
  · rw [(built additions).consistent.mem_outgoing,
      (built additions).consistent.mem_incoming]

end CallChains
