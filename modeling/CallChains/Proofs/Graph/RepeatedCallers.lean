import CallChains.Proofs.Graph.Callers
/-!
Searching for callers again. In the graph of the callers of a target, a search
for the callers of the same target makes the same visits in the same order, so
it gives the same graph, to the letter.
-/

namespace CallChains

/-! ## Searches that agree -/

variable {next other : Node → List Node} {roots visited : List Node}
  {frontier : Frontier}

theorem Explored.visitPending_congr {domain otherDomain : List Node}
    {rounds otherRounds : Nat} (explored : Explored next roots visited frontier)
    (same : ∀ node, ReachedFrom next roots node → other node = next node)
    (inside : ∀ node, ReachedFrom next roots node →
      node ∈ domain ∧ node ∈ otherDomain)
    (enough : domain.length ≤ rounds + visited.length)
    (otherEnough : otherDomain.length ≤ otherRounds + visited.length)
    (budget : VisitBudget) :
    CallChains.visitPending other otherRounds budget frontier =
      CallChains.visitPending next rounds budget frontier := by
  induction rounds generalizing otherRounds visited frontier budget with
  | zero =>
      have finished :=
        explored.pending_eq_nil (fun node reached => (inside node reached).1)
          (by omega)
      rw [visitPending_nil _ _ _ finished, visitPending_nil _ _ _ finished]
  | succ rounds induction =>
      cases pending : frontier.pending with
      | nil =>
          rw [visitPending_nil _ _ _ pending, visitPending_nil _ _ _ pending]
      | cons node rest =>
          cases otherRounds with
          | zero =>
              -- Out of rounds, the other search has visited its whole domain,
              -- which leaves nothing pending.
              have finished :=
                explored.pending_eq_nil
                  (fun node reached => (inside node reached).2) (by omega)
              cases finished.symm.trans pending
          | succ otherRounds =>
              have met : node ∈ frontier.met :=
                (explored.tidy.met_iff node).mpr
                  (Or.inr (pending ▸ List.mem_cons_self))
              have sameStep := same node (explored.sound node met)
              rw [visitPending_cons other _ _ pending,
                visitPending_cons next _ _ pending, sameStep]
              have otherStill : otherDomain.length ≤
                  otherRounds + (visited ++ [node]).length := by
                simp
                omega
              have sameLater :=
                induction (explored.visit pending) (by simp; omega) otherStill
              simp only [sameLater]

namespace CallGraph

theorem explore_congr {graph otherGraph : CallGraph}
    (same : ∀ node, ReachedFrom next roots node → other node = next node)
    (inside : ∀ node, ReachedFrom next roots node →
      node ∈ graph.nodes ++ roots ∧ node ∈ otherGraph.nodes ++ roots)
    (budget : VisitBudget) :
    otherGraph.explore other roots budget = graph.explore next roots budget :=
  (explored_ofRoots next roots).visitPending_congr same inside (by simp)
    (by simp) budget

/-! ## Callers of callers -/

variable {graph callers : CallGraph} {target : Node}
  {excluded fewer : Node → Bool}

theorem admittedEdgesInto_callers {node : Node}
    (into : callers.edgesInto node = graph.admittedEdgesInto excluded node)
    (weaker : ∀ node, excluded node = false → fewer node = false) :
    callers.admittedEdgesInto fewer node =
      graph.admittedEdgesInto excluded node := by
  rw [admittedEdgesInto, into]
  apply List.filter_eq_self.mpr
  intro call isInto
  rw [weaker call.source (mem_admittedEdgesInto.mp isInto).1.2]
  rfl

/-- The graph of the callers of a target is found in itself as in the graph that
it was taken from, whether the same callers are excluded once more or fewer of
them. It takes as many visits under every limit. -/
theorem exists_callersOf_callers (graph : CallGraph) (target : Node)
    (excluded : Node → Bool) :
    ∃ callers, graph.callersOf target excluded none = .ok callers ∧
      ∀ fewer : Node → Bool,
        (∀ node, excluded node = false → fewer node = false) →
        ∀ limit, callers.callersOf target fewer limit =
          graph.callersOf target excluded limit := by
  rcases graph.explore_eq (graph.admittedCallers excluded) [target]
    fun _ _ => mem_nodes_of_mem_admittedCallers with
      ⟨visited, nodup, reached, explored⟩
  have searched := callersOf_of_explored explored
  generalize isGraph : (empty.addNode target).addEdges
    (visited.flatMap (graph.admittedEdgesInto excluded)) = callers at searched
  have isCallers : graph.IsCallersOf callers target excluded :=
    isGraph ▸ isCallersOf_addEdges fun node =>
      (reached node).trans reachedFrom_admittedCallers
  refine ⟨callers, by rw [searched]; rfl, fun fewer weaker limit => ?_⟩
  have sameCalls (node : Node) (isVisited : node ∈ visited) :
      callers.admittedEdgesInto fewer node =
        graph.admittedEdgesInto excluded node := by
    apply admittedEdgesInto_callers _ weaker
    rw [← isGraph, edgesInto_addEdges_admitted nodup, if_pos isVisited]
  have exploredAgain (budget : VisitBudget) :
      callers.explore (callers.admittedCallers fewer) [target] budget =
        budget.answer visited := by
    rw [← explored]
    apply explore_congr
    · intro node isReached
      exact congrArg (List.map _)
        (sameCalls node ((reached node).mpr isReached))
    · intro node isReached
      have isCaller :=
        (isCallers.mem_nodes node).mpr
          (reachedFrom_admittedCallers.mp isReached)
      exact ⟨isReached.mem_append fun _ _ => mem_nodes_of_mem_admittedCallers,
        List.mem_append_left _ isCaller⟩
  rw [callersOf_of_explored exploredAgain, searched,
    List.flatMap_congr sameCalls, isGraph]

/-- Searching for the callers of a target twice is searching once. In the graph
of the callers of a target, the search for its callers gives that same graph,
its nodes and calls in the same order, whether the same callers are excluded
again or none. -/
theorem callersOf_idempotent (graph : CallGraph) (target : Node)
    (excluded : Node → Bool) :
    ∃ callers, graph.callersOf target excluded none = .ok callers ∧
      callers.callersOf target excluded none = .ok callers ∧
      callers.callersOf target (fun _ => false) none = .ok callers := by
  rcases graph.exists_callersOf_callers target excluded with
    ⟨callers, found, foundAgain⟩
  refine ⟨callers, found, ?_, ?_⟩
  · rw [foundAgain excluded fun _ admitted => admitted, found]
  · rw [foundAgain (fun _ => false) fun _ _ => rfl, found]

end CallGraph

end CallChains
