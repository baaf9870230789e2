import CallChains.Proofs.Graph.Reachability
/-!
What it means for a traversal to spend its budget exactly, and that both
directions of exploration do: one visit is paid for each node that is reached,
none is paid twice and none goes unpaid.
-/

namespace CallChains

/-- A traversal that pays once for each of the nodes that it reaches. Without a
limit it gives an answer. Under a limit it gives one just if the limit covers
the nodes, and then it is the same; and if it fails, it names the limit and one
of these nodes. -/
structure SpendsExactly {Error Answer : Type}
    (traversal : Option Nat → Except Error Answer) (label : String)
    (failure : Overrun → Error) (reached : Set Node) : Prop where
  answers : ∃ answer, traversal none = .ok answer
  answers_iff : ∀ limit : Nat, (∃ answer, traversal (some limit) = .ok answer) ↔
    reached.encard ≤ limit
  same : ∀ (limit : Nat) (answer : Answer),
    traversal (some limit) = .ok answer →
    traversal none = .ok answer
  fails : ∀ (limit : Nat) (error : Error),
    traversal (some limit) = .error error →
    ∃ node ∈ reached, error = failure { label, limit, node := some node }

theorem spendsExactly_of_cases {Error Answer : Type}
    {traversal : Option Nat → Except Error Answer} {label : String}
    {failure : Overrun → Error} {reached : Set Node} {answer : Answer}
    (unlimited : traversal none = .ok answer)
    (limited : ∀ limit : Nat,
      (reached.encard ≤ limit ∧ traversal (some limit) = .ok answer) ∨
      ((limit : ℕ∞) < reached.encard ∧ ∃ node ∈ reached,
        traversal (some limit) =
          .error (failure { label, limit, node := some node }))) :
    SpendsExactly traversal label failure reached := by
  refine ⟨⟨answer, unlimited⟩, fun limit => ?_, fun limit other answered => ?_,
    fun limit error failed => ?_⟩
  · rcases limited limit with ⟨covered, answered⟩ | ⟨past, node, -, failed⟩
    · exact ⟨fun _ => covered, fun _ => ⟨answer, answered⟩⟩
    · refine ⟨?_, fun covered => absurd covered (not_le_of_gt past)⟩
      rintro ⟨other, answered⟩
      rw [failed] at answered
      cases answered
  · rcases limited limit with ⟨-, answeredToo⟩ | ⟨-, node, -, failed⟩
    · rw [← answered, answeredToo, unlimited]
    · rw [failed] at answered
      cases answered
  · rcases limited limit with ⟨-, answered⟩ | ⟨-, node, isReached, failedToo⟩
    · rw [answered] at failed
      cases failed
    · exact ⟨node, isReached, Except.error.inj (failed.symm.trans failedToo)⟩

/-- A traversal that makes the same visits under every limit, as far as it gets,
spends its budget exactly if it visits no node twice. -/
theorem spendsExactly_of_visits {Answer : Type}
    {traversal : Option Nat → Except Overrun Answer} {label : String}
    {reached : Set Node} {visited : List Node} (nodup : visited.Nodup)
    (visits : ∀ node, node ∈ visited ↔ node ∈ reached)
    (toAnswer : List Node → Answer)
    (ran : ∀ limit, traversal limit =
      (VisitBudget.answer { limit, label } visited).map toAnswer) :
    SpendsExactly traversal label id reached := by
  have unlimited : traversal none = .ok (toAnswer visited) := by
    rw [ran]
    rfl
  apply spendsExactly_of_cases unlimited
  intro limit
  -- No node is visited twice, so the visits are as many as the nodes.
  have counted := exceeds_iff_of_nodup (some limit) nodup visits
  rcases VisitBudget.answer_cases (some limit) label visited with
    ⟨answered, enough⟩ | ⟨most, isLimit, past, node, isVisited, failed⟩
  · refine Or.inl ⟨?_, by rw [ran, answered]; rfl⟩
    apply le_of_not_gt
    intro exceeded
    rcases counted.mp ⟨limit, rfl, exceeded⟩ with ⟨most, isLimit, past⟩
    exact absurd (enough most isLimit) (Nat.not_le_of_lt past)
  · rcases Option.some.inj isLimit with rfl
    rcases counted.mpr ⟨limit, rfl, past⟩ with ⟨same, isLimit, exceeded⟩
    rcases Option.some.inj isLimit with rfl
    exact Or.inr ⟨exceeded, node,
      (visits node).mp isVisited, by rw [ran, failed]; rfl⟩

namespace CallGraph

def reachedFrom (graph : CallGraph) (starts : Set Node) : Set Node :=
  {node | ∃ start ∈ starts, graph.ReachesExplicitly start node}

theorem forwardClosure_spendsExactly (graph : CallGraph) (roots : List Node) :
    SpendsExactly (graph.forwardClosure roots) "forward closure" id
      (graph.reachedFrom {root | root ∈ roots}) ∧
    ∀ limit closure, graph.forwardClosure roots limit = .ok closure →
      ∀ node, node ∈ closure ↔
        node ∈ graph.reachedFrom {root | root ∈ roots} := by
  rcases graph.forwardClosure_eq roots with ⟨visited, nodup, reached, ran⟩
  refine ⟨spendsExactly_of_visits nodup reached _ ran,
    fun limit closure closed node => ?_⟩
  rw [ran] at closed
  rcases VisitBudget.answer_cases limit "forward closure" visited with
    ⟨answered, -⟩ | ⟨_, -, -, _, -, failed⟩
  · rw [answered] at closed
    rcases Except.ok.inj closed with rfl
    rw [Std.TreeSet.mem_ofList, List.contains_iff_mem]
    exact reached node
  · rw [failed] at closed
    cases closed

theorem callersOf_spendsExactly (graph : CallGraph) (target : Node)
    (excluded : Node → Bool) :
    ∃ callers, graph.callersOf target excluded none = .ok callers ∧
      SpendsExactly (graph.callersOf target excluded) "backward subgraph" id
        {node | node ∈ callers.nodes} := by
  rcases graph.explore_admittedEdgesInto target excluded with
    ⟨visited, nodup, leads, explored⟩
  have ran := callersOf_of_explored explored
  have isCallers := isCallersOf_addEdges leads
  refine ⟨_, by rw [ran]; rfl,
    spendsExactly_of_visits nodup (fun node => ?_) _ ran⟩
  exact (leads node).trans (isCallers.mem_nodes node).symm

end CallGraph

end CallChains
