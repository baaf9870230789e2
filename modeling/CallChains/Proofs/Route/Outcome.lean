import CallChains.Proofs.Route.ShortestPaths
/-!
How a search for shortest paths can end: with a tree, or with a visit past its
limit. Its rounds, which are bounded, do what unbounded ones would do, and
checking the tree never makes a difference.
-/

namespace CallChains

/-! ## Rounds without a bound -/

inductive Search.Runs {vertices : VertexIndex} (graph : CallGraph) :
    Search vertices → Except SearchError (Search vertices) → Prop
  | finished {search : Search vertices} (idle : search.queue.isEmpty = true) :
      Runs graph search (.ok search)
  | failed {search : Search vertices} {error : SearchError}
      (waiting : search.queue.isEmpty = false)
      (failure : search.settle graph = .error error) :
      Runs graph search (.error error)
  | round {search next : Search vertices}
      {outcome : Except SearchError (Search vertices)}
      (waiting : search.queue.isEmpty = false)
      (settled : search.settle graph = .ok next)
      (later : Runs graph next outcome) : Runs graph search outcome

theorem Search.runs_settleAll {vertices : VertexIndex} {graph : CallGraph}
    {search : Search vertices} {rounds : Nat}
    (complete : ∀ last, search.settleAll graph rounds = .ok last →
      last.queue.isEmpty = true) :
    search.Runs graph (search.settleAll graph rounds) := by
  induction rounds generalizing search with
  | zero => exact .finished (complete search rfl)
  | succ rounds induction =>
      cases idle : search.queue.isEmpty with
      | true =>
          rw [settleAll_idle idle]
          exact .finished idle
      | false =>
          rw [settleAll_waiting idle] at complete ⊢
          cases settled : search.settle graph with
          | error error => exact .failed idle settled
          | ok next =>
              rw [settled] at complete
              exact .round idle settled (induction complete)

/-! ## Outcomes -/

namespace CallGraph

theorem shortestPaths_checked (graph : CallGraph) (source : Node)
    (limit : Option Nat) :
    graph.shortestPaths source limit true =
      (graph.shortestPaths source limit false).bind fun tree =>
        match tree.fault? graph with
        | some fault => .error (.inconsistent fault)
        | none => .ok tree := by
  rcases graph.exists_indexOf?_source source with ⟨index, found⟩
  rw [shortestPaths_of_indexOf? limit true found,
    shortestPaths_of_indexOf? limit false found]
  cases Search.start index limit with
  | error error => rfl
  | ok search =>
      simp only [Except.bind]
      cases search.settleAll graph (VertexIndex.ofGraph graph [source]).size <;>
        rfl

/-- Nothing is lost by the bound on the rounds of a search. -/
theorem runs_of_start (graph : CallGraph) {source : Node} {limit : Option Nat}
    {index : Fin (VertexIndex.ofGraph graph [source]).size}
    {search : Search (VertexIndex.ofGraph graph [source])}
    (started : Search.start index limit = .ok search) :
    search.Runs graph
      (search.settleAll graph (VertexIndex.ofGraph graph [source]).size) := by
  rcases Search.start_eq_ok graph index limit with ⟨first, isFirst, sound, -⟩
  cases started.symm.trans isFirst
  apply Search.runs_settleAll
  intro last ran
  rcases sound.settleAll (fun _ => mem_nodes_ofGraph_source)
    (Nat.le_add_right _ _) with
    ⟨final, _, finished, -, idle⟩ | ⟨_, _, _, _, -, -, -, -, failed⟩
  · cases ran.symm.trans finished
    exact idle
  · cases ran.symm.trans failed

/-- A search for shortest paths gives a tree or fails at a visit past its limit.
It fails in no other way: no request to its queue is refused, every node has its
number, and the tree has no fault, so the outcome is the same with and without
the check. The rounds of the search come to an end by themselves. -/
theorem shortestPaths_outcome (graph : CallGraph) (source : Node)
    (limit : Option Nat) :
    (∀ check, (∃ tree, graph.shortestPaths source limit check = .ok tree) ∨
      ∃ most node, limit = some most ∧
        graph.shortestPaths source limit check = .error (.budget
          { label := "shortest-path search", limit := most
            node := some node })) ∧
    graph.shortestPaths source limit true =
      graph.shortestPaths source limit false ∧
    ∃ index search,
      (VertexIndex.ofGraph graph [source]).indexOf? source = some index ∧
      Search.start index limit = .ok search ∧
      search.Runs graph
        (search.settleAll graph (VertexIndex.ofGraph graph [source]).size) := by
  refine ⟨?_, ?_, ?_⟩
  · intro check
    rcases graph.shortestPaths_cases source limit check with
      ⟨tree, found, -⟩ | ⟨most, node, isLimit, -, failed⟩
    · exact Or.inl ⟨tree, found⟩
    · exact Or.inr ⟨most, node, isLimit, failed⟩
  · rw [shortestPaths_checked]
    rcases graph.shortestPaths_cases source limit false with
      ⟨tree, found, exact⟩ | ⟨most, node, -, -, failed⟩
    · rw [found]
      simp only [Except.bind, exact.accepted.fault?_eq_none exact.counts]
    · rw [failed]
      rfl
  · rcases graph.exists_indexOf?_source source with ⟨index, found⟩
    rcases Search.start_eq_ok graph index limit with ⟨search, started, -, -⟩
    exact ⟨index, search, found, started, graph.runs_of_start started⟩

end CallGraph

end CallChains
