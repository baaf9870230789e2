import CallChains.Proofs.Graph.Budgets
import CallChains.Proofs.Graph.Copies
import Mathlib.Data.Fintype.Sets
import Mathlib.Order.RelClasses
/-!
A root that is added to a graph changes nothing between the nodes of the graph,
since no call leads to it. It calls what nothing else calls; and where calls
never go round in a circle, everything is reached from there.
-/

namespace CallChains

namespace CallGraph

variable {graph : CallGraph} {root source target node : Node}
  {entries : List Node} {call : Edge} {calls : List Edge}

/-! ## Calls of the added root -/

theorem mem_edges_withRoot : call ∈ (graph.withRoot entries root).edges ↔
    call ∈ graph.edges ∨
    ∃ entry ∈ entries, call = { source := root, target := entry } := by
  simp only [edges_withRoot, List.mem_append, List.mem_map, eq_comm (a := call)]

section Fresh

variable (fresh : root ∉ graph.nodes)

include fresh

theorem source_ne_of_fresh (member : call ∈ graph.edges) : call.source ≠ root :=
  fun same => fresh (same ▸ source_mem_nodes member)

theorem mem_edges_withRoot_of_inside (inside : call.source ∈ graph.nodes) :
    call ∈ (graph.withRoot entries root).edges ↔ call ∈ graph.edges := by
  rw [mem_edges_withRoot, or_iff_left]
  rintro ⟨entry, -, rfl⟩
  exact fresh inside

theorem mem_edges_withRoot_of_root (fromRoot : call.source = root) :
    call ∈ (graph.withRoot entries root).edges ↔
      ∃ entry ∈ entries, call = { source := root, target := entry } := by
  rw [mem_edges_withRoot, or_iff_right]
  exact fun member => source_ne_of_fresh fresh member fromRoot

/-- A walk from a node of the graph never comes to the root, so it is a walk in
the graph itself. -/
theorem explicitWalk_withRoot_iff (inside : source ∈ graph.nodes) :
    (graph.withRoot entries root).ExplicitWalk source calls target ↔
      graph.ExplicitWalk source calls target := by
  induction calls generalizing source with
  | nil => exact Iff.rfl
  | cons call rest induction =>
      have step : call.source = source →
          ((graph.withRoot entries root).IsExplicitCall call ↔
            graph.IsExplicitCall call) := fun start =>
        and_congr_left' (mem_edges_withRoot_of_inside fresh (start ▸ inside))
      constructor
      · rintro ⟨start, allowed, after⟩
        have allowed := (step start).mp allowed
        exact ⟨start, allowed,
          (induction (target_mem_nodes allowed.1)).mp after⟩
      · rintro ⟨start, allowed, after⟩
        exact ⟨start, (step start).mpr allowed,
          (induction (target_mem_nodes allowed.1)).mpr after⟩

theorem isDistance_withRoot_iff (inside : source ∈ graph.nodes) {hops : Nat} :
    (graph.withRoot entries root).IsDistance source target hops ↔
      graph.IsDistance source target hops := by
  simp only [IsDistance, explicitWalk_withRoot_iff fresh inside]

theorem edgesOutOf_withRoot (inside : node ∈ graph.nodes) :
    (graph.withRoot entries root).edgesOutOf node = graph.edgesOutOf node := by
  have elsewhere : root ≠ node := fun same => fresh (same ▸ inside)
  rw [edgesOutOf_eq_filter, edgesOutOf_eq_filter, edges_withRoot,
    List.filter_append, List.append_right_eq_self]
  simp [elsewhere]

theorem mem_directCallees_withRoot :
    node ∈ (graph.withRoot entries root).directCallees root ↔
      node ∈ entries := by
  rw [mem_directCallees]
  constructor
  · rintro ⟨call, member, fromRoot, -, rfl⟩
    rcases (mem_edges_withRoot_of_root fresh fromRoot).mp member with
      ⟨entry, isEntry, rfl⟩
    exact isEntry
  · intro isEntry
    exact ⟨_, mem_edges_withRoot.mpr (Or.inr ⟨node, isEntry, rfl⟩), rfl, rfl,
      rfl⟩

theorem mem_entriesUnder_withRoot :
    node ∈ (graph.withRoot entries root).entriesUnder root ↔
      node ≠ root ∧ node ∈ entries := by
  rw [mem_entriesUnder]
  apply and_congr_right'
  constructor
  · rintro ⟨call, member, fromRoot, rfl⟩
    rcases (mem_edges_withRoot_of_root fresh fromRoot).mp member with
      ⟨entry, isEntry, rfl⟩
    exact isEntry
  · intro isEntry
    exact ⟨_, mem_edges_withRoot.mpr (Or.inr ⟨node, isEntry, rfl⟩), rfl, rfl⟩

end Fresh

/-! ## Graphs without circles -/

def Acyclic (graph : CallGraph) : Prop :=
  ∀ node calls, Walk (· ∈ graph.edges) node calls node → calls = []

theorem acyclic_of_rank (rank : Node → Nat)
    (ascends : ∀ call ∈ graph.edges, rank call.source < rank call.target) :
    graph.Acyclic := by
  have notBelow {source target : Node} {calls : List Edge}
      (walk : Walk (· ∈ graph.edges) source calls target) :
      rank source ≤ rank target := by
    induction calls generalizing source with
    | nil => exact walk ▸ Nat.le_refl _
    | cons call rest induction =>
        rcases walk with ⟨rfl, member, after⟩
        exact (ascends call member).le.trans (induction after)
  intro node calls walk
  cases calls with
  | nil => rfl
  | cons call rest =>
      rcases walk with ⟨rfl, member, after⟩
      exact absurd (ascends call member) (Nat.not_lt.mpr (notBelow after))

theorem Acyclic.wellFounded (acyclic : graph.Acyclic) :
    WellFounded fun before after : { node // node ∈ graph.nodes } =>
      ∃ calls, calls ≠ [] ∧
        Walk (· ∈ graph.edges) before.val calls after.val := by
  have : IsTrans { node // node ∈ graph.nodes } fun before after =>
      ∃ calls, calls ≠ [] ∧
        Walk (· ∈ graph.edges) before.val calls after.val := by
    constructor
    rintro first second third ⟨calls, someCalls, walk⟩ ⟨later, -, onwards⟩
    exact ⟨calls ++ later, List.append_ne_nil_of_left_ne_nil someCalls later,
      walk.append onwards⟩
  have : Std.Irrefl fun before after : { node // node ∈ graph.nodes } =>
      ∃ calls, calls ≠ [] ∧
        Walk (· ∈ graph.edges) before.val calls after.val := by
    constructor
    rintro node ⟨calls, someCalls, walk⟩
    exact someCalls (acyclic node.val calls walk)
  exact Finite.wellFounded_of_trans_of_irrefl _

theorem Acyclic.exists_uncalled (acyclic : graph.Acyclic)
    (member : node ∈ graph.nodes) :
    ∃ start ∈ graph.uncalledNodes, graph.Reaches start node := by
  suffices back : ∀ node : { node // node ∈ graph.nodes },
      ∃ start ∈ graph.uncalledNodes, graph.Reaches start node.val from
        back ⟨node, member⟩
  intro node
  -- Backwards along the calls, which comes to an end without circles.
  induction node using acyclic.wellFounded.induction with
  | h node induction =>
      by_cases uncalled : ∀ call ∈ graph.edges, call.target ≠ node.val
      · exact ⟨node.val, mem_uncalledNodes.mpr ⟨node.property, uncalled⟩,
          Reaches.refl graph node.val⟩
      · simp only [not_forall, not_not] at uncalled
        rcases uncalled with ⟨call, isCall, finish⟩
        have single : Walk (· ∈ graph.edges) call.source [call] node.val :=
          ⟨rfl, isCall, finish⟩
        rcases induction ⟨call.source, source_mem_nodes isCall⟩
          ⟨[call], by simp, single⟩ with
          ⟨start, isStart, calls, walk⟩
        exact ⟨start, isStart, calls ++ [call], walk.append single⟩

/-! ## From the root -/

def IsUncalled (graph : CallGraph) (node : Node) : Prop :=
  node ∈ graph.nodes ∧ ∀ call ∈ graph.edges, call.target ≠ node

theorem reaches_withRoot_of_entry (isEntry : source ∈ entries)
    (reached : graph.Reaches source target) :
    (graph.withRoot entries root).Reaches root target := by
  rcases reached with ⟨calls, walk⟩
  refine ⟨{ source := root, target := source } :: calls, rfl, ?_, ?_⟩
  · exact mem_edges_withRoot.mpr (Or.inr ⟨source, isEntry, rfl⟩)
  · exact walk.mono fun call member => mem_edges_withRoot.mpr (Or.inl member)

theorem Acyclic.reaches_from_root (acyclic : graph.Acyclic)
    (member : node ∈ graph.nodes) :
    (graph.withRoot graph.uncalledNodes root).Reaches root node := by
  rcases acyclic.exists_uncalled member with ⟨start, isUncalled, reached⟩
  exact reaches_withRoot_of_entry isUncalled reached

theorem mem_nodes_of_reaches_from_root
    (inside : ∀ entry ∈ entries, entry ∈ graph.nodes)
    (reached : (graph.withRoot entries root).Reaches root node) :
    node = root ∨ node ∈ graph.nodes := by
  rcases reached with ⟨calls, walk⟩
  rcases List.eq_nil_or_concat calls with rfl | ⟨before, last, rfl⟩
  · exact Or.inl walk.symm
  · rw [List.concat_eq_append, walk_concat] at walk
    rcases walk with ⟨-, member, rfl⟩
    rcases mem_edges_withRoot.mp member with member | ⟨entry, isEntry, rfl⟩
    · exact Or.inr (target_mem_nodes member)
    · exact Or.inr (inside entry isEntry)

theorem reachesExplicitly_of_explicit
    (explicit : ∀ call ∈ graph.edges, call.explicit = true)
    (reached : graph.Reaches source target) :
    graph.ReachesExplicitly source target := by
  rcases reached with ⟨calls, walk⟩
  exact ⟨calls, walk.mono fun call member => ⟨member, explicit call member⟩⟩

theorem Acyclic.forwardClosure_from_root (acyclic : graph.Acyclic)
    (explicit : ∀ call ∈ graph.edges, call.explicit = true) :
    ∃ closure, (graph.withRoot graph.uncalledNodes root).forwardClosure [root]
        none = .ok closure ∧
      ∀ node, node ∈ closure ↔ node = root ∨ node ∈ graph.nodes := by
  have rootedExplicit :
      ∀ call ∈ (graph.withRoot graph.uncalledNodes root).edges,
        call.explicit = true := by
    intro call member
    rcases mem_edges_withRoot.mp member with member | ⟨entry, -, rfl⟩
    · exact explicit call member
    · rfl
  rcases forwardClosure_spendsExactly (graph.withRoot graph.uncalledNodes root)
    [root] with ⟨spends, found⟩
  rcases spends.answers with ⟨closure, answered⟩
  refine ⟨closure, answered, fun node => ?_⟩
  rw [found none closure answered]
  have isReached : node ∈ (graph.withRoot graph.uncalledNodes root).reachedFrom
        {start | start ∈ [root]} ↔
      (graph.withRoot graph.uncalledNodes root).ReachesExplicitly root
        node := by
    simp [reachedFrom]
  rw [isReached]
  constructor
  · intro reached
    exact mem_nodes_of_reaches_from_root
      (fun _ isUncalled => (mem_uncalledNodes.mp isUncalled).1) reached.reaches
  · rintro (rfl | member)
    · exact ReachesExplicitly.refl _ _
    · exact reachesExplicitly_of_explicit rootedExplicit
        (acyclic.reaches_from_root member)

/-! ## What the added root keeps and what it brings -/

/-- A graph with a root above it: the calls of the graph come first, then one
explicit call from the root to each node that nothing else calls. Between the
nodes of the graph everything is as before, the nodes that the root calls are
its entries, and from it everything is reached that no circle cuts off. -/
structure IsRooted (rooted graph : CallGraph) (root : Node) : Prop where
  edges : ∃ entries : List Node, entries.Sublist graph.nodes ∧
    (∀ node, node ∈ entries ↔ graph.IsUncalled node) ∧
    rooted.edges = graph.edges ++ entries.map fun entry =>
      { source := root, target := entry, explicit := true }
  edgesOutOf : ∀ node ∈ graph.nodes,
    rooted.edgesOutOf node = graph.edgesOutOf node
  distances : ∀ source ∈ graph.nodes, ∀ target ∈ graph.nodes, ∀ hops,
    rooted.IsDistance source target hops ↔ graph.IsDistance source target hops
  callees : ∀ node, node ∈ rooted.directCallees root ↔ graph.IsUncalled node
  entries : ∀ node, node ∈ rooted.entriesUnder root ↔ graph.IsUncalled node
  reaches : graph.Acyclic → ∀ node ∈ graph.nodes, rooted.Reaches root node
  closure : graph.Acyclic → (∀ call ∈ graph.edges, call.explicit = true) →
    ∃ closure, rooted.forwardClosure [root] none = .ok closure ∧
      ∀ node, node ∈ closure ↔ node = root ∨ node ∈ graph.nodes

/-- A root that is no node of a graph and calls what nothing else calls is a
conservative extension of the graph. Where graphs are tables that are written
to, the extension is a graph of its own, and the graph that it extends stays as
it was, as does every other. -/
theorem withRoot_conservative (fresh : root ∉ graph.nodes) :
    (graph.withRoot graph.uncalledNodes root).IsRooted graph root ∧
    ∀ (store : GraphStore) place tables, store[place]? = some tables →
      tables.Shows graph → ∃ after rooted,
        store.withRoot? place none root = some (after, store.length) ∧
        (∀ other < store.length, after[other]? = store[other]?) ∧
        after[store.length]? = some rooted ∧
        rooted.Shows (graph.withRoot graph.uncalledNodes root) := by
  refine ⟨?_, fun store place tables found shows =>
    GraphStore.exists_withRoot? found shows root⟩
  constructor
  case edges => exact ⟨_, List.filter_sublist, fun _ => mem_uncalledNodes,
    edges_withRoot _ _ _⟩
  case edgesOutOf => exact fun node inside => edgesOutOf_withRoot fresh inside
  case distances => exact fun source inside target _ hops =>
    isDistance_withRoot_iff fresh inside
  case callees => exact fun node =>
    (mem_directCallees_withRoot fresh).trans mem_uncalledNodes
  case entries =>
    intro node
    rw [mem_entriesUnder_withRoot fresh, mem_uncalledNodes,
      and_iff_right_of_imp]
    · rfl
    · rintro ⟨inside, -⟩ rfl
      exact fresh inside
  case reaches => exact fun acyclic node member =>
    acyclic.reaches_from_root member
  case closure => exact fun acyclic explicit =>
    acyclic.forwardClosure_from_root explicit

def diamond : CallGraph :=
  (ofEdges [{ source := "a", target := "b" }, { source := "a", target := "c" },
    { source := "b", target := "d" }, { source := "c", target := "d" }]).addNode
      "e"

theorem diamond_acyclic : diamond.Acyclic :=
  acyclic_of_rank (fun node =>
    if node = "a" then 0 else if node = "d" then 2 else 1) (by decide +kernel)

theorem exists_shows_diamond : ∃ tables : CallTables, tables.Shows diamond := by
  rcases CallTables.exists_built? [
      .call { source := "a", target := "b" },
      .call { source := "a", target := "c" },
      .call { source := "b", target := "d" },
      .call { source := "c", target := "d" }, .node "e"] with ⟨tables, -, shows⟩
  exact ⟨tables, shows⟩

theorem withRoot_diamond :
    "root" ∉ diamond.nodes ∧ diamond.Acyclic ∧
      (∀ call ∈ diamond.edges, call.explicit = true) ∧
      (∃ closure, (diamond.withRoot ["a", "e"] "root").forwardClosure ["root"]
          none = .ok closure ∧
        ∀ node, node ∈ closure ↔
          node = "root" ∨ node ∈ ["a", "b", "c", "d", "e"]) ∧
      ∃ (tables rooted : CallTables) (after : GraphStore),
        tables.Shows diamond ∧
        GraphStore.withRoot? [tables] 0 none "root" = some (after, 1) ∧
        after[0]? = some tables ∧ after[1]? = some rooted ∧
        rooted.Shows (diamond.withRoot ["a", "e"] "root") := by
  have fresh : "root" ∉ diamond.nodes := by decide +kernel
  have uncalled : diamond.uncalledNodes = ["a", "e"] := by decide +kernel
  have nodes : diamond.nodes = ["a", "b", "c", "d", "e"] := by decide +kernel
  have explicit : ∀ call ∈ diamond.edges, call.explicit = true := by
    decide +kernel
  rcases exists_shows_diamond with ⟨tables, shows⟩
  rcases withRoot_conservative fresh with ⟨isRooted, written⟩
  rcases written [tables] 0 tables rfl shows with
    ⟨after, rooted, added, kept, isCopy, rootedShows⟩
  refine ⟨fresh, diamond_acyclic, explicit, ?_, tables, rooted, after, shows,
    added, kept 0 Nat.zero_lt_one, isCopy, uncalled ▸ rootedShows⟩
  rw [← uncalled, ← nodes]
  exact isRooted.closure diamond_acyclic explicit

end CallGraph

end CallChains
