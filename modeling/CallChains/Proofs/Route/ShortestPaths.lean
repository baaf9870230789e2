import CallChains.Proofs.Route.Accepted
import CallChains.Proofs.Route.Settling
/-!
Shortest paths from one source. A run of the search ends with every found node
visited, or at the first visit past its limit, and in no other way. The tree of
a run that ends is accepted by the check, so its distances and its chains are
exact.
-/

namespace CallChains

theorem VisitBudget.spend_cases (budget : VisitBudget) (node : Node) :
    (budget.spend node = .ok budget.charge ∧
      ∀ most, budget.limit = some most → budget.visited < most) ∨
    ∃ most, budget.limit = some most ∧ most ≤ budget.visited ∧
      budget.spend node =
        .error { label := budget.label, limit := most, node := some node } := by
  rcases budget with ⟨limit, label, visited⟩
  cases limit with
  | none => exact Or.inl ⟨rfl, nofun⟩
  | some most =>
      rw [spend_limited]
      by_cases within : visited < most
      · refine Or.inl ⟨if_pos within, fun other equal => ?_⟩
        exact Option.some.inj equal ▸ within
      · exact Or.inr ⟨most, rfl, Nat.not_lt.mp within, if_neg within⟩

namespace Search

variable {vertices : VertexIndex} {graph : CallGraph}
  {source : Fin vertices.size} {limit : Option Nat} {level : Nat}
  {search : Search vertices}

/-! ## A run -/

def overrunAt (most : Nat) (node : Node) : SearchError :=
  .budget { label := "shortest-path search", limit := most, node := some node }

theorem settle_of_deleteMin {nearest : Fin vertices.size}
    {rest : IndexedQueue vertices.size}
    (deleted : search.queue.deleteMin = .ok (nearest, rest)) :
    search.settle graph =
      ((search.budget.spend (vertices.nodeAt nearest)).mapError
        SearchError.budget).bind fun budget =>
        (graph.edgesOutOf (vertices.nodeAt nearest)).foldlM
          (Search.relax nearest) { search with queue := rest, budget } := by
  rw [Search.settle, deleted]
  rfl

theorem Sound.settle (sound : search.Sound graph source limit level [])
    (known : ∀ node ∈ graph.nodes, node ∈ vertices.nodes)
    (nonempty : search.queue.isEmpty = false) :
    (∃ next hops, search.settle graph = .ok next ∧
      next.Sound graph source limit hops [] ∧
      next.settledCount = search.settledCount + 1) ∨
    ∃ most nearest, limit = some most ∧ search.settledCount = most ∧
      search.queue.contains nearest = true ∧
      search.settle graph =
        .error (overrunAt most (vertices.nodeAt nearest)) := by
  have filled : 0 < search.queue.heap.size := by
    simpa [IndexedQueue.isEmpty, Array.size_pos_iff] using nonempty
  rcases IndexedQueue.deleteMin_eq_ok filled with ⟨rest, deleted⟩
  generalize search.queue.heap[0] = nearest at deleted
  have limited : search.budget.limit = limit :=
    congrArg VisitBudget.limit sound.budget
  have counted : search.budget.visited = search.settledCount :=
    congrArg VisitBudget.visited sound.budget
  rcases search.budget.spend_cases (vertices.nodeAt nearest) with
    ⟨paid, affordable⟩ | ⟨most, isLimit, used, unpaid⟩
  · rw [limited, counted] at affordable
    rcases sound.takeOut deleted affordable with ⟨hops, taken, visited⟩
    rcases taken.relaxAll known
      (fun call member => CallGraph.mem_edgesOutOf.mp member) visited with
      ⟨next, followed, nextSound, nextPaid⟩
    refine Or.inl ⟨next, hops, ?_, nextSound, ?_⟩
    · rw [settle_of_deleteMin deleted, paid]
      exact followed
    · have nextCounted :=
        congrArg VisitBudget.visited (nextSound.budget.symm.trans nextPaid)
      exact nextCounted.trans (congrArg (· + 1) counted)
  · rw [limited] at isLimit
    rw [counted] at used
    refine Or.inr ⟨most, nearest, isLimit, ?_,
      IndexedQueue.contains_of_deleteMin deleted, ?_⟩
    · exact Nat.le_antisymm (sound.within most isLimit) used
    · have labelled : search.budget.label = "shortest-path search" :=
        congrArg VisitBudget.label sound.budget
      rw [labelled] at unpaid
      rw [settle_of_deleteMin deleted, unpaid]
      rfl

theorem isEmpty_of_size_le (complete : vertices.size ≤ search.settledCount) :
    search.queue.isEmpty = true := by
  have all := Finset.eq_univ_of_card
    (Finset.univ.filter fun index : Fin vertices.size =>
      (search.distances.get index).isReached = true ∧
      search.queue.contains index = false)
    (Nat.le_antisymm (Finset.card_le_univ _)
      (by simpa [settledCount] using complete))
  by_contra nonempty
  have filled : 0 < search.queue.heap.size := by
    simpa [IndexedQueue.isEmpty, Array.size_pos_iff] using nonempty
  have member := Finset.mem_univ search.queue.heap[0]
  rw [← all, Finset.mem_filter] at member
  have queued : search.queue.contains search.queue.heap[0] = true :=
    IndexedQueue.contains_iff_mem_heap.mpr (Array.getElem_mem filled)
  rw [member.2.2] at queued
  cases queued

theorem settledCount_lt {index : Fin vertices.size}
    (queued : search.queue.contains index = true) :
    search.settledCount < vertices.size := by
  have fewer := Finset.card_lt_univ_of_notMem
    (s := Finset.univ.filter fun index : Fin vertices.size =>
    (search.distances.get index).isReached = true ∧
    search.queue.contains index = false) (x := index)
    (by simp [queued])
  simpa [settledCount] using fewer

theorem settleAll_idle (idle : search.queue.isEmpty = true) (rounds : Nat) :
    search.settleAll graph rounds = .ok search := by
  cases rounds with
  | zero => rfl
  | succ rounds => rw [settleAll, if_pos idle]

theorem settleAll_waiting (waiting : search.queue.isEmpty = false)
    (rounds : Nat) :
    search.settleAll graph (rounds + 1) =
      (search.settle graph).bind (Search.settleAll graph rounds) := by
  rw [settleAll, waiting]
  rfl

/-- A run ends with an empty queue or at the first visit past the limit. The
rounds never run out. -/
theorem Sound.settleAll {rounds : Nat}
    (sound : search.Sound graph source limit level [])
    (known : ∀ node ∈ graph.nodes, node ∈ vertices.nodes)
    (enough : vertices.size ≤ rounds + search.settledCount) :
    (∃ last hops, search.settleAll graph rounds = .ok last ∧
      last.Sound graph source limit hops [] ∧ last.queue.isEmpty = true) ∨
    ∃ stopped : Search vertices, ∃ hops most nearest,
      stopped.Sound graph source limit hops [] ∧
      limit = some most ∧ stopped.settledCount = most ∧
      stopped.queue.contains nearest = true ∧
      search.settleAll graph rounds =
        .error (overrunAt most (vertices.nodeAt nearest)) := by
  -- Each round settles one more node, so no rounds are left only when all nodes
  -- are settled.
  induction rounds generalizing search level with
  | zero =>
      exact Or.inl ⟨search, level, rfl, sound, isEmpty_of_size_le (by omega)⟩
  | succ rounds induction =>
      cases nonempty : search.queue.isEmpty with
      | true =>
          exact Or.inl ⟨search, level, settleAll_idle nonempty _, sound,
            nonempty⟩
      | false =>
          rw [settleAll_waiting nonempty]
          rcases sound.settle known nonempty with
            ⟨next, hops, settled, nextSound, oneMore⟩
            | ⟨most, nearest, isLimit, used, queued, failed⟩
          · rw [settled]
            exact induction nextSound (by omega)
          · exact Or.inr ⟨search, level, most, nearest, sound, isLimit, used,
              queued, by rw [failed]; rfl⟩

/-! ## The start -/

def opened (queue : IndexedQueue vertices.size) (source : Fin vertices.size)
    (limit : Option Nat) : Search vertices where
  queue
  distances :=
    replaced (Vector.replicate vertices.size Number.infinity) source (.int 0)
  predecessors := Vector.replicate vertices.size none
  budget := { limit, label := "shortest-path search" }

section Opened

variable {queue : IndexedQueue vertices.size}

theorem distances_opened (index : Fin vertices.size) :
    (opened queue source limit).distances.get index =
      if index = source then .int 0 else .infinity := by
  refine (get_replaced _ source index (Number.int 0)).trans ?_
  rw [get_replicate]

theorem predecessors_opened (index : Fin vertices.size) :
    (opened queue source limit).predecessors.get index = none :=
  get_replicate none index

theorem reached_opened (queued : queue.contains source = true)
    {index : Fin vertices.size}
    (reached : ((opened queue source limit).distances.get index).isReached =
      true) :
    (opened queue source limit).queue.contains index = true := by
  rw [distances_opened] at reached
  split at reached
  · rename_i equal
    exact equal ▸ queued
  · rw [Number.isReached_infinity] at reached
    cases reached

theorem settledCount_opened (queued : queue.contains source = true) :
    (opened queue source limit).settledCount = 0 := by
  refine Finset.card_eq_zero.mpr
    (Finset.filter_eq_empty_iff.mpr fun index _ => ?_)
  rintro ⟨reached, notQueued⟩
  rw [reached_opened queued reached] at notQueued
  cases notQueued

theorem sound_opened (graph : CallGraph) (ordered : queue.Ordered)
    (contents : queue.keyFor? = Function.update
      (IndexedQueue.empty vertices.size).keyFor? source (some (.int 0))) :
    (opened queue source limit).Sound graph source limit 0 [] := by
  have queued : queue.contains source = true := by
    rw [IndexedQueue.contains_of_update contents, if_pos rfl]
    rfl
  have noneSettled {index : Fin vertices.size} {hops : Nat}
      (isSettled : (opened queue source limit).IsSettled index hops) :
        False := by
    have stillQueued : (opened queue source limit).queue.contains index =
        true :=
      reached_opened queued (by rw [isSettled.1]; rfl)
    rw [isSettled.2] at stillQueued
    cases stillQueued
  constructor
  case ordered => exact ordered
  case counts =>
    intro index
    rw [distances_opened]
    split
    · exact Or.inl ⟨0, rfl⟩
    · exact Or.inr rfl
  case queued =>
    intro index key isQueued
    change queue.keyFor? index = some key at isQueued
    rw [contents, Function.update_apply] at isQueued
    split at isQueued
    · rename_i equal
      rcases Option.some.inj isQueued with rfl
      rw [distances_opened, if_pos equal]
      exact ⟨rfl, 0, rfl, le_rfl, Nat.le_succ 0⟩
    · rw [IndexedQueue.keyFor?_empty] at isQueued
      cases isQueued
  case settled => exact fun index hops isSettled => (noneSettled isSettled).elim
  case atSource => rw [distances_opened, if_pos rfl]
  case root => exact predecessors_opened source
  case found =>
    intro index different hops distance
    rw [distances_opened, if_neg different] at distance
    exact absurd distance.symm (Number.int_ne_infinity _)
  case tight =>
    intro index call predecessor
    rw [predecessors_opened] at predecessor
    cases predecessor
  case relaxed => exact fun _ _ _ _ _ isSettled => (noneSettled isSettled).elim
  case budget => rw [settledCount_opened queued]; rfl
  case within =>
    rw [settledCount_opened queued]
    exact fun most _ => Nat.zero_le most

end Opened

theorem start_eq_ok (graph : CallGraph) (source : Fin vertices.size)
    (limit : Option Nat) :
    ∃ search, Search.start source limit = .ok search ∧
      search.Sound graph source limit 0 [] ∧
      search.settledCount = 0 := by
  have absent : (IndexedQueue.empty vertices.size).contains source = false := by
    rw [← IndexedQueue.isSome_keyFor?, IndexedQueue.keyFor?_empty]
    rfl
  rcases IndexedQueue.insert_eq_ok (.int 0) absent with ⟨queue, inserted⟩
  have contents := IndexedQueue.keyFor?_insert inserted
  have queued : queue.contains source = true := by
    rw [IndexedQueue.contains_of_update contents, if_pos rfl]
    rfl
  refine ⟨opened queue source limit, ?_,
    sound_opened graph
      (IndexedQueue.ordered_empty.insert rfl inserted) contents,
    settledCount_opened queued⟩
  rw [Search.start, inserted]
  rfl

/-! ## The tree of a run -/

def tree (search : Search vertices) (source : Node) : PathTree :=
  { source, vertices, distances := search.distances,
    predecessors := search.predecessors }

theorem distanceTo_tree (search : Search vertices) (start : Node)
    (index : Fin vertices.size) :
    (search.tree start).distanceTo (vertices.nodeAt index) =
      search.distances.get index := by
  simp [PathTree.distanceTo, tree, VertexIndex.indexOf?_nodeAt]
  rfl

theorem predecessor?_tree (search : Search vertices) (start : Node)
    (index : Fin vertices.size) :
    (search.tree start).predecessor? (vertices.nodeAt index) =
      search.predecessors.get index := by
  simp [PathTree.predecessor?, tree, VertexIndex.indexOf?_nodeAt]
  rfl

theorem exists_of_predecessor?_tree {start node : Node} {call : Edge}
    (last : (search.tree start).predecessor? node = some call) :
    ∃ index : Fin vertices.size, vertices.nodeAt index = node ∧
      search.predecessors.get index = some call := by
  have inside : node ∈ vertices.nodes := PathTree.mem_nodes_of_predecessor? last
  rcases VertexIndex.mem_nodes_iff.mp inside with ⟨index, rfl⟩
  exact ⟨index, rfl, (predecessor?_tree search start index).symm.trans last⟩

theorem Sound.tree_countsHops (sound : search.Sound graph source limit level [])
    (start : Node) :
    (search.tree start).CountsHops := by
  intro node
  by_cases known : node ∈ vertices.nodes
  · rcases VertexIndex.mem_nodes_iff.mp known with ⟨index, rfl⟩
    rw [distanceTo_tree]
    rcases sound.counts index with ⟨hops, distance⟩ | infinite
    · exact Or.inl ⟨hops, distance⟩
    · exact Or.inr infinite
  · exact Or.inr (PathTree.distanceTo_unknown known)

theorem Sound.tree_followsExplicit
    (sound : search.Sound graph source limit level []) (start : Node) :
    (search.tree start).FollowsExplicit graph := by
  intro node call last
  rcases exists_of_predecessor?_tree last with ⟨index, -, predecessor⟩
  exact (sound.tight index call predecessor).1

theorem not_queued_of_isEmpty (finished : search.queue.isEmpty = true)
    (index : Fin vertices.size) :
    search.queue.contains index = false := by
  by_contra queued
  have member :=
    IndexedQueue.contains_iff_mem_heap.mp (Bool.eq_true_of_not_eq_false queued)
  rw [IndexedQueue.isEmpty, Array.isEmpty_iff] at finished
  rw [finished] at member
  exact Array.not_mem_empty _ member

theorem Sound.tree_accepted (sound : search.Sound graph source limit level [])
    (known : ∀ node ∈ graph.nodes, node ∈ vertices.nodes)
    (finished : search.queue.isEmpty = true) :
    (search.tree (vertices.nodeAt source)).Accepted graph := by
  constructor
  case atSource => exact (distanceTo_tree _ _ source).trans sound.atSource
  case root => exact (predecessor?_tree _ _ source).trans sound.root
  case agree =>
    intro node notSource
    by_cases inside : node ∈ vertices.nodes
    · rcases VertexIndex.mem_nodes_iff.mp inside with ⟨index, rfl⟩
      rw [distanceTo_tree, predecessor?_tree]
      constructor
      · rintro ⟨hops, distance⟩
        rcases sound.counts index with ⟨count, counted⟩ | unreached
        · exact sound.found index (fun equal => notSource (congrArg _ equal))
            count counted
        · exact absurd (distance.symm.trans unreached)
            (Number.int_ne_infinity hops)
      · rintro ⟨call, last⟩
        rcases sound.tight index call last with ⟨-, -, -, hops, -, -, distance⟩
        exact ⟨_, distance⟩
    · have unreached : (search.tree (vertices.nodeAt source)).distanceTo node =
          .infinity :=
        PathTree.distanceTo_unknown inside
      constructor
      · rintro ⟨hops, distance⟩
        exact absurd (distance.symm.trans unreached)
          (Number.int_ne_infinity hops)
      · rintro ⟨call, last⟩
        exact absurd (PathTree.mem_nodes_of_predecessor? last) inside
  case relaxed =>
    intro call explicit hops distance
    rcases VertexIndex.mem_nodes_iff.mp
      (known _ (CallGraph.source_mem_nodes explicit.1)) with
      ⟨caller, callerNode⟩
    rw [← callerNode, distanceTo_tree] at distance
    -- Nothing is queued, so a node at a distance is settled, and nothing is
    -- pending, so its calls have been followed.
    rcases sound.counts caller with ⟨count, counted⟩ | unreached
    · rcases (sound.relaxed call explicit caller count callerNode.symm
          ⟨counted, not_queued_of_isEmpty finished caller⟩).resolve_left
          List.not_mem_nil with
        ⟨callee, least, calleeNode, finish, bound⟩
      rw [distance, Number.int.injEq] at counted
      rw [calleeNode, distanceTo_tree]
      exact ⟨least, finish, by omega⟩
    · exact absurd (distance.symm.trans unreached) (Number.int_ne_infinity hops)
  case tight =>
    intro node call last
    rcases exists_of_predecessor?_tree last with ⟨index, rfl, predecessor⟩
    rcases sound.tight index call predecessor with
      ⟨-, rightEnd, caller, hops, callerNode, isSettled, distance⟩
    refine ⟨rightEnd, hops, ?_, ?_⟩
    · rw [callerNode, distanceTo_tree]
      exact isSettled.1
    · rw [distanceTo_tree]
      exact distance

end Search

/-! ## Shortest paths -/

structure PathTree.Exact (graph : CallGraph) (source : Node)
    (tree : PathTree) : Prop where
  source : tree.source = source
  counts : tree.CountsHops
  explicit : tree.FollowsExplicit graph
  accepted : tree.Accepted graph

namespace CallGraph

theorem shortestPaths_of_indexOf? {graph : CallGraph} {source : Node}
    (limit : Option Nat) (check : Bool)
    {index : Fin (VertexIndex.ofGraph graph [source]).size}
    (found : (VertexIndex.ofGraph graph [source]).indexOf? source =
      some index) :
    graph.shortestPaths source limit check =
      (Search.start index limit).bind fun search =>
        (search.settleAll graph (VertexIndex.ofGraph graph [source]).size).bind
          fun last =>
          if check then
            match (last.tree source).fault? graph with
            | some fault => .error (.inconsistent fault)
            | none => .ok (last.tree source)
          else .ok (last.tree source) := by
  rw [shortestPaths]
  simp only [found]
  rfl

theorem exists_indexOf?_source (graph : CallGraph) (source : Node) :
    ∃ index,
      (VertexIndex.ofGraph graph [source]).indexOf? source = some index :=
  VertexIndex.exists_indexOf?_iff.mpr
    (VertexIndex.mem_nodes_ofGraph.mpr (Or.inl List.mem_cons_self))

theorem mem_nodes_ofGraph_source {graph : CallGraph} {source node : Node}
    (member : node ∈ graph.nodes) :
    node ∈ (VertexIndex.ofGraph graph [source]).nodes :=
  VertexIndex.mem_nodes_ofGraph.mpr (Or.inr member)

/-- The state in which a search for shortest paths ends. Either nothing is
queued any more, and its tree is exact and given as the answer, checked or not;
or it has made as many visits as it may and a node is still queued, at which it
fails. -/
theorem shortestPaths_run (graph : CallGraph) (source : Node)
    (limit : Option Nat) (check : Bool) :
    ∃ index : Fin (VertexIndex.ofGraph graph [source]).size,
      (VertexIndex.ofGraph graph [source]).nodeAt index = source ∧
      ((∃ last : Search (VertexIndex.ofGraph graph [source]), ∃ hops,
          last.Sound graph index limit hops [] ∧ last.queue.isEmpty = true ∧
          (last.tree source).Exact graph source ∧
          graph.shortestPaths source limit check = .ok (last.tree source)) ∨
        ∃ stopped : Search (VertexIndex.ofGraph graph [source]),
          ∃ hops most nearest, stopped.Sound graph index limit hops [] ∧
            limit = some most ∧
          stopped.settledCount = most ∧ stopped.queue.contains nearest = true ∧
          graph.shortestPaths source limit check =
            .error (Search.overrunAt most
              ((VertexIndex.ofGraph graph [source]).nodeAt nearest))) := by
  have known (node : Node) (member : node ∈ graph.nodes) :
      node ∈ (VertexIndex.ofGraph graph [source]).nodes :=
        mem_nodes_ofGraph_source member
  rcases graph.exists_indexOf?_source source with ⟨index, found⟩
  have sourceNode := VertexIndex.indexOf?_eq_some_iff.mp found
  rcases Search.start_eq_ok graph index limit with ⟨search, started, sound, -⟩
  refine ⟨index, sourceNode, ?_⟩
  rw [shortestPaths_of_indexOf? limit check found, started]
  rcases sound.settleAll known (Nat.le_add_right _ _) with
    ⟨last, hops, ran, lastSound, finished⟩ |
    ⟨stopped, hops, most, nearest, stoppedSound, isLimit, used, queued, failed⟩
  · have accepted := lastSound.tree_accepted known finished
    have counts := lastSound.tree_countsHops source
    rw [sourceNode] at accepted
    refine Or.inl ⟨last, hops, lastSound, finished,
      ⟨rfl, counts, lastSound.tree_followsExplicit source, accepted⟩, ?_⟩
    simp only [Except.bind, ran, accepted.fault?_eq_none counts, ite_self]
  · refine Or.inr ⟨stopped, hops, most, nearest, stoppedSound, isLimit, used,
      queued, ?_⟩
    simp only [Except.bind, failed]

theorem shortestPaths_cases (graph : CallGraph) (source : Node)
    (limit : Option Nat) (check : Bool) :
    (∃ tree, graph.shortestPaths source limit check = .ok tree ∧
      tree.Exact graph source) ∨
    ∃ most node, limit = some most ∧
      most < (VertexIndex.ofGraph graph [source]).size ∧
      graph.shortestPaths source limit check =
        .error (Search.overrunAt most node) := by
  rcases graph.shortestPaths_run source limit check with
    ⟨-, -, ⟨last, -, -, -, exact, found⟩
      | ⟨_, _, most, nearest, -, isLimit, used, queued, failed⟩⟩
  · exact Or.inl ⟨last.tree source, found, exact⟩
  · exact Or.inr ⟨most, _, isLimit, used ▸ Search.settledCount_lt queued,
      failed⟩

end CallGraph

theorem PathTree.Exact.pathTo_cases {graph : CallGraph} {source : Node}
    {tree : PathTree} (exact : tree.Exact graph source) (node : Node) :
    (tree.pathTo node = none ∧ tree.distanceTo node = .infinity ∧
      ¬ graph.ReachesExplicitly source node) ∨
    ∃ calls, tree.pathTo node = some calls ∧
      tree.distanceTo node = .int calls.length ∧
      graph.ExplicitWalk source calls node ∧
      graph.IsDistance source node calls.length ∧
      (nodesVisited source calls).Nodup := by
  rcases exact with ⟨rfl, counts, explicit, accepted⟩
  rcases accepted.exists_unwinding node with ⟨calls, unwinding⟩
  rcases counts node with ⟨hops, distance⟩ | infinite
  · rcases accepted.explicitWalk_of_unwinding explicit unwinding distance with
      ⟨walk, length⟩
    rcases accepted.walk_of_unwinding unwinding distance with ⟨-, -, nodup, -⟩
    subst length
    exact Or.inr ⟨calls, pathTo_eq_some_iff.mpr
      ⟨counts.hasPathTo_iff.mpr ⟨_, distance⟩, unwinding⟩,
      distance, walk, (accepted.distanceTo_eq_int_iff explicit).mp distance,
      nodup⟩
  · exact Or.inl ⟨(accepted.pathTo_eq_none_iff counts).mpr infinite, infinite,
      (accepted.distanceTo_eq_infinity_iff counts explicit).mp infinite⟩

namespace CallGraph

/-- Without a limit the search gives a tree, whether or not the tree is checked.
Its distances are the least numbers of explicit calls, and infinite exactly for
nodes that explicit calls do not reach. Walking back along its predecessors
always ends, and gives for every reached node a chain of explicit calls that is
as long as the distance and never meets a node twice. -/
theorem shortestPaths_unlimited (graph : CallGraph) (source : Node)
    (check : Bool) :
    ∃ tree, graph.shortestPaths source none check = .ok tree ∧ ∀ node,
      (∀ hops : Nat, tree.distanceTo node = .int hops ↔
        graph.IsDistance source node hops) ∧
      (tree.distanceTo node = .infinity ↔
        ¬ graph.ReachesExplicitly source node) ∧
      (∃ calls, tree.Unwinding node calls) ∧
      (tree.pathTo node = none ↔ tree.distanceTo node = .infinity) ∧
      ∀ calls, tree.pathTo node = some calls →
        tree.distanceTo node = .int calls.length ∧
        graph.ExplicitWalk source calls node ∧
        (nodesVisited source calls).Nodup ∧ (node = source → calls = []) := by
  rcases graph.shortestPaths_cases source none check with
    ⟨tree, found, exact⟩ | ⟨_, _, limited, _⟩
  · refine ⟨tree, found, fun node => ⟨fun hops => ?_, ?_, ?_, ?_, ?_⟩⟩
    · exact exact.source ▸ exact.accepted.distanceTo_eq_int_iff exact.explicit
    · exact exact.source ▸
        exact.accepted.distanceTo_eq_infinity_iff exact.counts exact.explicit
    · exact exact.accepted.exists_unwinding node
    · rcases exact.pathTo_cases node with
        ⟨noPath, infinite, -⟩ | ⟨calls, path, distance, -⟩
      · simp [noPath, infinite]
      · simp [path, distance]
    · intro calls path
      rcases exact.pathTo_cases node with
        ⟨noPath, -⟩ | ⟨found, same, distance, walk, least, nodup⟩
      · rw [path] at noPath
        cases noPath
      · rcases Option.some.inj (path.symm.trans same) with rfl
        refine ⟨distance, walk, nodup, ?_⟩
        rintro rfl
        exact List.eq_nil_of_length_eq_zero (Nat.le_zero.mp (least.2 [] rfl))
  · cases limited

end CallGraph

end CallChains
