import CallChains.Proofs.Graph.Exploration
/-!
What the two directions of exploration find: forward, the nodes that explicit
calls reach from the roots; backward, the nodes that lead to the target and
every call between them.
-/

namespace CallChains

/-! ## Steps and walks -/

theorem reflTransGen_iff_walk {admitted : Edge → Prop}
    {step : Node → Node → Prop}
    (isStep : ∀ before after, step before after ↔
      ∃ call, admitted call ∧ call.source = before ∧ call.target = after)
    {source target : Node} :
    Relation.ReflTransGen step source target ↔
      ∃ calls, Walk admitted source calls target := by
  constructor
  · intro steps
    induction steps with
    | refl => exact ⟨[], rfl⟩
    | tail _ last induction =>
        rcases induction with ⟨calls, walk⟩
        rcases (isStep _ _).mp last with ⟨call, allowed, rfl, rfl⟩
        exact ⟨calls ++ [call], walk_concat.mpr ⟨walk, allowed, rfl⟩⟩
  · rintro ⟨calls, walk⟩
    induction calls generalizing source with
    | nil => exact walk ▸ .refl
    | cons call rest induction =>
        rcases walk with ⟨rfl, allowed, after⟩
        exact .head ((isStep _ _).mpr ⟨call, allowed, rfl, rfl⟩)
          (induction after)

namespace CallGraph

variable {graph : CallGraph} {source target : Node} {excluded : Node → Bool}

/-! ## Forward -/

def discoveredFrom (graph : CallGraph) (root : Node) : Set Node :=
  {node | ∃ call, graph.IsExplicitCall call ∧ call.source = root ∧
    graph.ReachesExplicitly call.target node}

theorem mem_explicitTargets {node callee : Node} :
    callee ∈ graph.explicitTargets node ↔
      ∃ call, graph.IsExplicitCall call ∧ call.source = node ∧
        call.target = callee := by
  simp only [explicitTargets, IsExplicitCall, List.mem_map, List.mem_filter,
    mem_edgesOutOf]
  constructor
  · rintro ⟨call, ⟨⟨member, start⟩, explicit⟩, finish⟩
    exact ⟨call, ⟨member, explicit⟩, start, finish⟩
  · rintro ⟨call, ⟨member, explicit⟩, start, finish⟩
    exact ⟨call, ⟨⟨member, start⟩, explicit⟩, finish⟩

theorem forwardClosure_eq (graph : CallGraph) (roots : List Node) :
    ∃ visited, visited.Nodup ∧
      (∀ node, node ∈ visited ↔
        ∃ root ∈ roots, graph.ReachesExplicitly root node) ∧
      ∀ limit, graph.forwardClosure roots limit =
        (VisitBudget.answer { limit, label := "forward closure" } visited).map
          (Std.TreeSet.ofList ·) := by
  have inside : ∀ node, ∀ callee ∈ graph.explicitTargets node,
      callee ∈ graph.nodes := by
    intro node callee step
    rcases mem_explicitTargets.mp step with ⟨call, ⟨member, -⟩, -, rfl⟩
    exact target_mem_nodes member
  rcases graph.explore_eq _ roots inside with
    ⟨visited, nodup, reached, explored⟩
  refine ⟨visited, nodup, fun node => ?_, fun limit => ?_⟩
  · rw [reached, ReachedFrom]
    simp only [reflTransGen_iff_walk fun _ _ => mem_explicitTargets]
    rfl
  · rw [forwardClosure, explored]
    rfl

theorem forwardClosure_limited (graph : CallGraph) (roots : List Node)
    (limit : Option Nat) {nodes : Set Node}
    (isClosure : ∀ node, node ∈ nodes ↔
      ∃ root ∈ roots, graph.ReachesExplicitly root node) :
    (¬ Exceeds limit nodes ∧ ∃ closure,
      graph.forwardClosure roots limit = .ok closure ∧
      ∀ node, node ∈ closure ↔ node ∈ nodes) ∨
    (Exceeds limit nodes ∧ ∃ overrun : Overrun, limit = some overrun.limit ∧
      graph.forwardClosure roots limit = .error overrun) := by
  rcases graph.forwardClosure_eq roots with ⟨visited, nodup, reached, searched⟩
  have same (node : Node) : node ∈ visited ↔ node ∈ nodes :=
    (reached node).trans (isClosure node).symm
  rcases VisitBudget.answer_limited "forward closure"
    (exceeds_iff_of_nodup limit nodup same) with
    ⟨within, answered⟩ | ⟨exceeds, overrun, limited, failed⟩
  · refine Or.inl ⟨within, Std.TreeSet.ofList visited, by
      rw [searched, answered]; rfl, fun node => ?_⟩
    rw [Std.TreeSet.mem_ofList, List.contains_iff_mem, same]
  · exact Or.inr ⟨exceeds, overrun, limited, by rw [searched, failed]; rfl⟩

/-! ## Backward -/

def IsAdmittedCall (graph : CallGraph) (excluded : Node → Bool)
    (call : Edge) : Prop :=
  call ∈ graph.edges ∧ excluded call.source = false

def LeadsTo (graph : CallGraph) (excluded : Node → Bool)
    (source target : Node) : Prop :=
  ∃ calls, Walk (graph.IsAdmittedCall excluded) source calls target

/-- A graph of callers: its nodes are those that lead to the target, and its
calls are all admitted calls to its nodes. -/
structure IsCallersOf (graph callers : CallGraph) (target : Node)
    (excluded : Node → Bool) : Prop where
  mem_nodes : ∀ node, node ∈ callers.nodes ↔ graph.LeadsTo excluded node target
  mem_edges : ∀ call, call ∈ callers.edges ↔
    graph.IsAdmittedCall excluded call ∧
    graph.LeadsTo excluded call.target target

theorem leadsTo_of_nothing_excluded :
    graph.LeadsTo (fun _ => false) source target ↔
    graph.Reaches source target := by
  constructor
  · rintro ⟨calls, walk⟩
    exact ⟨calls, walk.mono fun _ allowed => allowed.1⟩
  · rintro ⟨calls, walk⟩
    exact ⟨calls, walk.mono fun _ member => ⟨member, rfl⟩⟩

def leadingTo (graph : CallGraph) (target : Node) : Set Node :=
  {node | graph.Reaches node target}

theorem mem_nodes_addEdges {calls : List Edge} {node : Node} :
    node ∈ (graph.addEdges calls).nodes ↔
      node ∈ graph.nodes ∨ ∃ call ∈ calls, call.source = node ∨
      call.target = node := by
  induction calls generalizing graph with
  | nil => simp [addEdges]
  | cons first rest induction =>
      have unfolded : graph.addEdges (first :: rest) =
          (graph.addEdge first).addEdges rest := rfl
      rw [unfolded, induction, mem_nodes_addEdge]
      simp only [List.mem_cons, exists_eq_or_imp, eq_comm (a := node), or_assoc,
        or_left_comm]

theorem mem_admittedEdgesInto {node : Node} {call : Edge} :
    call ∈ graph.admittedEdgesInto excluded node ↔
      graph.IsAdmittedCall excluded call ∧ call.target = node := by
  simp only [admittedEdgesInto, IsAdmittedCall, List.mem_filter, mem_edgesInto,
    Bool.not_eq_true']
  tauto

def admittedCallers (graph : CallGraph) (excluded : Node → Bool)
    (node : Node) : List Node :=
  (graph.admittedEdgesInto excluded node).map (·.source)

theorem mem_nodes_of_mem_admittedCallers {node caller : Node}
    (step : caller ∈ graph.admittedCallers excluded node) :
    caller ∈ graph.nodes := by
  rcases List.mem_map.mp step with ⟨call, into, rfl⟩
  exact source_mem_nodes (mem_admittedEdgesInto.mp into).1.1

theorem reachedFrom_admittedCallers {node : Node} :
    ReachedFrom (graph.admittedCallers excluded) [target] node ↔
      graph.LeadsTo excluded node target := by
  rw [ReachedFrom]
  simp only [List.mem_singleton, exists_eq_left]
  -- A step of the search goes from a callee to its caller, so its runs are
  -- walks the other way round.
  rw [← Relation.reflTransGen_swap]
  apply reflTransGen_iff_walk
  intro before after
  simp only [Function.swap, admittedCallers, List.mem_map,
    mem_admittedEdgesInto]
  constructor
  · rintro ⟨call, ⟨allowed, finish⟩, start⟩
    exact ⟨call, allowed, start, finish⟩
  · rintro ⟨call, allowed, start, finish⟩
    exact ⟨call, ⟨allowed, finish⟩, start⟩

theorem explore_admittedEdgesInto (graph : CallGraph) (target : Node)
    (excluded : Node → Bool) :
    ∃ visited, visited.Nodup ∧
      (∀ node, node ∈ visited ↔ graph.LeadsTo excluded node target) ∧
      ∀ budget, graph.explore
        (fun node => (graph.admittedEdgesInto excluded node).map (·.source))
        [target] budget = budget.answer visited := by
  rcases graph.explore_eq (graph.admittedCallers excluded) [target]
    fun _ _ => mem_nodes_of_mem_admittedCallers with
      ⟨visited, nodup, reached, explored⟩
  exact ⟨visited, nodup,
    fun node => (reached node).trans reachedFrom_admittedCallers, explored⟩

theorem isCallersOf_addEdges {visited : List Node}
    (leads : ∀ node, node ∈ visited ↔ graph.LeadsTo excluded node target) :
    graph.IsCallersOf
      ((empty.addNode target).addEdges
        (visited.flatMap (graph.admittedEdgesInto excluded)))
      target excluded := by
  have callsInto (call : Edge) : call ∈
        visited.flatMap (graph.admittedEdgesInto excluded) ↔
      graph.IsAdmittedCall excluded call ∧
      graph.LeadsTo excluded call.target target := by
    simp only [List.mem_flatMap, mem_admittedEdgesInto, leads]
    constructor
    · rintro ⟨_, led, allowed, rfl⟩
      exact ⟨allowed, led⟩
    · rintro ⟨allowed, led⟩
      exact ⟨call.target, led, allowed, rfl⟩
  constructor
  · intro node
    rw [mem_nodes_addEdges, mem_nodes_addNode]
    simp only [callsInto, nodes_empty, List.not_mem_nil, or_false]
    constructor
    · rintro (rfl | ⟨call, ⟨allowed, calls, walk⟩, rfl | rfl⟩)
      · exact ⟨[], rfl⟩
      · exact ⟨call :: calls, rfl, allowed, walk⟩
      · exact ⟨calls, walk⟩
    · rintro ⟨calls, walk⟩
      cases calls with
      | nil => exact Or.inl walk
      | cons call rest =>
          rcases walk with ⟨start, allowed, after⟩
          exact Or.inr ⟨call, ⟨allowed, rest, after⟩, Or.inl start⟩
  · intro call
    rw [edges_addEdges, edges_addNode, edges_empty, List.nil_append]
    exact callsInto call

theorem callersOf_of_explored {visited : List Node}
    (explored : ∀ budget, graph.explore
      (fun node => (graph.admittedEdgesInto excluded node).map (·.source))
      [target] budget =
        budget.answer visited) (limit : Option Nat) :
    graph.callersOf target excluded limit =
      (VisitBudget.answer { limit, label := "backward subgraph" } visited).map
        fun _ =>
        (empty.addNode target).addEdges
          (visited.flatMap (graph.admittedEdgesInto excluded)) := by
  rw [callersOf, explored]
  rcases VisitBudget.answer_cases limit "backward subgraph" visited with
    ⟨answered, -⟩ | ⟨most, -, -, node, -, failed⟩
  · rw [answered]
    rfl
  · rw [failed]
    rfl

theorem callersOf_eq (graph : CallGraph) (target : Node)
    (excluded : Node → Bool) :
    ∃ visited callers, graph.IsCallersOf callers target excluded ∧
      visited.length = callers.nodeCount ∧
      (∀ node, node ∈ visited ↔ node ∈ callers.nodes) ∧
      ∀ limit, graph.callersOf target excluded limit =
        (VisitBudget.answer { limit, label := "backward subgraph" } visited).map
          fun _ => callers := by
  rcases graph.explore_admittedEdgesInto target excluded with
    ⟨visited, nodup, leads, explored⟩
  have isCallers := isCallersOf_addEdges leads
  have sameNodes (node : Node) :=
    (leads node).trans (isCallers.mem_nodes node).symm
  refine ⟨visited, _, isCallers, ?_, sameNodes, callersOf_of_explored explored⟩
  rw [← length_nodes]
  exact ((List.perm_ext_iff_of_nodup nodup (nodes_nodup _)).mpr
    sameNodes).length_eq

theorem callersOf_limited (graph : CallGraph) (target : Node)
    (limit : Option Nat) :
    ∃ callers, graph.IsCallersOf callers target (fun _ => false) ∧
      graph.callersOf target (fun _ => false) none = .ok callers ∧
      ((¬ Exceeds limit (graph.leadingTo target) ∧
          (∀ most, limit = some most → callers.nodeCount ≤ most) ∧
          graph.callersOf target (fun _ => false) limit = .ok callers) ∨
        (Exceeds limit (graph.leadingTo target) ∧ ∃ overrun : Overrun,
          limit = some overrun.limit ∧
          graph.callersOf target (fun _ => false) limit = .error overrun)) := by
  rcases graph.callersOf_eq target fun _ =>
    false with ⟨visited, callers, isCallers, length, -, searched⟩
  have counted : Exceeds limit (graph.leadingTo target) ↔
      ∃ most, limit = some most ∧ most < visited.length := by
    rw [length, ← length_nodes]
    apply exceeds_iff_of_nodup limit callers.nodes_nodup
    exact fun node =>
      (isCallers.mem_nodes node).trans leadsTo_of_nothing_excluded
  refine ⟨callers, isCallers, by rw [searched]; rfl, ?_⟩
  rcases VisitBudget.answer_limited "backward subgraph" counted with
    ⟨within, answered⟩ | ⟨exceeds, overrun, limited, failed⟩
  · refine Or.inl
      ⟨within, fun most limited => ?_, by rw [searched, answered]; rfl⟩
    rw [← length]
    exact Nat.le_of_not_lt fun past =>
      within (counted.mpr ⟨most, limited, past⟩)
  · exact Or.inr ⟨exceeds, overrun, limited, by rw [searched, failed]; rfl⟩

end CallGraph

end CallChains
