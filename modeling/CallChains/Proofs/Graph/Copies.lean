import CallChains.Graph.Root
import CallChains.Proofs.Graph.Additions
/-!
Graphs whose tables stand side by side in a store. A root is added to a copy:
what is written goes to the tables of the copy, and all that were there before
stay as they are.
-/

namespace CallChains

/-- The tables of each graph, at the place that it got when it was made. -/
abbrev GraphStore := List CallTables

def CallTables.empty : CallTables := {}

theorem CallTables.shows_empty : CallTables.empty.Shows .empty :=
  ⟨rfl, rfl, rfl, fun _ => rfl, fun _ => rfl⟩

def CallTables.uncalled (tables : CallTables) : List Node :=
  tables.outgoing.nodes.filter fun node => (tables.incoming.row node).length = 0

theorem CallTables.Shows.uncalled_eq {tables : CallTables} {graph : CallGraph}
    (shows : tables.Shows graph) : tables.uncalled = graph.uncalledNodes := by
  rw [uncalled, CallGraph.uncalledNodes, shows.outgoingNodes]
  simp only [CallGraph.inDegree, shows.incoming_row]
  rfl

namespace GraphStore

def add? (place : Nat) (store : GraphStore) (addition : Addition) :
    Option GraphStore := do
  let tables ← store[place]?
  let written ← tables.add? addition
  return store.set place written

def addAll? (store : GraphStore) (place : Nat) (additions : List Addition) :
    Option GraphStore := additions.foldlM (add? place) store

/-- Makes a copy of a graph in which a root calls every entry, and tells its
place. Without entries the root calls what nothing else calls. The nodes are
looked up in the graph when its calls have been copied. -/
def withRoot? (store : GraphStore) (place : Nat) (entries : Option (List Node))
    (root : Node) : Option (GraphStore × Nat) := do
  let original ← store[place]?
  let entries := entries.getD original.uncalled
  let copy := store.length
  let opened := store ++ [.empty]
  let called ← opened.addAll? copy (original.calls.map .call)
  let original ← called[place]?
  let filled ← called.addAll? copy (original.outgoing.nodes.map .node)
  let rooted ← filled.addAll? copy
    (entries.map fun entry => .call { source := root, target := entry })
  return (rooted, copy)

variable {store : GraphStore} {place : Nat} {tables : CallTables}
  {graph : CallGraph}

/-- What is added to one graph is written to its tables and to no others. -/
theorem exists_addAll? (found : store[place]? = some tables)
    (shows : tables.Shows graph) (additions : List Addition) :
    ∃ after written, store.addAll? place additions = some after ∧
      after[place]? = some written ∧
      written.Shows (additions.foldl CallGraph.add graph) ∧
      ∀ other ≠ place, after[other]? = store[other]? := by
  induction additions generalizing store tables graph with
  | nil => exact ⟨store, tables, rfl, found, shows, fun _ _ => rfl⟩
  | cons addition rest induction =>
      rcases shows.add? addition with ⟨next, added, nextShows⟩
      have inside : place < store.length :=
        (List.getElem?_eq_some_iff.mp found).1
      have here : (store.set place next)[place]? = some next := by simp [inside]
      rcases induction here nextShows with
        ⟨after, written, addedAll, there, writtenShows, kept⟩
      refine ⟨after, written, ?_, there, writtenShows, ?_⟩
      · rw [addAll?, List.foldlM_cons, add?, found]
        simp only [Option.bind_eq_bind, Option.bind_some, added]
        exact addedAll
      · intro other elsewhere
        rw [kept other elsewhere, List.getElem?_set_ne elsewhere.symm]

theorem exists_withRoot? (found : store[place]? = some tables)
    (shows : tables.Shows graph) (root : Node) :
    ∃ after rooted,
      store.withRoot? place none root = some (after, store.length) ∧
      (∀ other < store.length, after[other]? = store[other]?) ∧
      after[store.length]? = some rooted ∧
      rooted.Shows (graph.withRoot graph.uncalledNodes root) := by
  have inside : place < store.length := (List.getElem?_eq_some_iff.mp found).1
  have opened : (store ++ [CallTables.empty])[store.length]? = some .empty := by
    simp
  rcases exists_addAll? opened CallTables.shows_empty
    (tables.calls.map .call) with
    ⟨called, copied, addedCalls, isCopied, copiedShows, keptCalls⟩
  rcases exists_addAll? isCopied copiedShows
    (tables.outgoing.nodes.map .node) with
    ⟨filled, complete, addedNodes, isComplete, completeShows, keptNodes⟩
  rcases exists_addAll? isComplete completeShows
      (tables.uncalled.map fun entry =>
        .call { source := root, target := entry })
    with ⟨after, rooted, addedRoot, isRooted, rootedShows, keptAll⟩
  have unread : called[place]? = some tables := by
    rw [keptCalls place inside.ne, List.getElem?_append_left inside, found]
  refine ⟨after, rooted, ?_, ?_, isRooted, ?_⟩
  · simp only [withRoot?, found, addedCalls, unread, addedNodes,
      Option.getD_none, addedRoot, Option.bind_eq_bind, Option.bind_some]
    rfl
  · intro other before
    rw [keptAll other before.ne, keptNodes other before.ne,
      keptCalls other before.ne, List.getElem?_append_left before]
  · rw [shows.calls, shows.outgoingNodes, shows.uncalled_eq] at rootedShows
    simp only [List.foldl_map] at rootedShows
    simp only [CallGraph.withRoot, CallGraph.ofEdges, CallGraph.addEdges,
      CallGraph.addNodes, List.foldl_map]
    exact rootedShows

end GraphStore

end CallChains
