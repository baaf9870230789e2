import CallChains.Proofs.Fallible
import CallChains.Proofs.Route.ShortestPaths
/-!
A limit on a search for shortest paths only decides whether there is an answer.
A search that stays within its limit takes the same steps as one without a
limit, so it ends with the same tree.
-/

namespace CallChains

namespace Search

variable {vertices : VertexIndex} {graph : CallGraph}
  {search next last : Search vertices}

def unlimited (search : Search vertices) : Search vertices :=
  { search with budget := { search.budget with limit := none } }

theorem relax_unlimited (search : Search vertices) (caller : Fin vertices.size)
    (call : Edge) :
    search.unlimited.relax caller call =
      (search.relax caller call).map unlimited := by
  unfold relax
  by_cases explicit : call.explicit = false
  · rw [if_pos explicit, if_pos explicit]
    rfl
  · rw [if_neg explicit, if_neg explicit]
    cases vertices.indexOf? call.target with
    | none => rfl
    | some callee =>
        have sameDistances : search.unlimited.distances = search.distances :=
          rfl
        have sameQueue : search.unlimited.queue = search.queue := rfl
        simp only [sameDistances, sameQueue]
        split
        · cases enqueue search.queue callee search.distances[caller].addOne <;>
            rfl
        · rfl

theorem relaxAll_unlimited {caller : Fin vertices.size} {calls : List Edge}
    (followed : calls.foldlM (relax caller) search = .ok next) :
    calls.foldlM (relax caller) search.unlimited = .ok next.unlimited := by
  induction calls generalizing search with
  | nil =>
      cases followed
      rfl
  | cons call rest induction =>
      rw [List.foldlM_cons] at followed ⊢
      rcases bind_eq_ok_iff.mp followed with ⟨after, relaxed, further⟩
      rw [relax_unlimited, relaxed]
      exact induction further

theorem settle_unlimited (settled : search.settle graph = .ok next) :
    search.unlimited.settle graph = .ok next.unlimited := by
  cases deleted : search.queue.deleteMin with
  | error error =>
      rw [settle, deleted] at settled
      cases settled
  | ok taken =>
      rcases taken with ⟨nearest, rest⟩
      have deletedToo : search.unlimited.queue.deleteMin =
          .ok (nearest, rest) := deleted
      rw [settle_of_deleteMin deleted] at settled
      rw [settle_of_deleteMin deletedToo]
      rcases search.budget.spend_cases (vertices.nodeAt nearest) with
        ⟨paid, -⟩ | ⟨most, -, -, unpaid⟩
      · rw [paid] at settled
        exact relaxAll_unlimited settled
      · rw [unpaid] at settled
        cases settled

theorem settleAll_unlimited {rounds : Nat}
    (ran : search.settleAll graph rounds = .ok last) :
    search.unlimited.settleAll graph rounds = .ok last.unlimited := by
  induction rounds generalizing search with
  | zero =>
      cases ran
      rfl
  | succ rounds induction =>
      have sameQueue : search.unlimited.queue = search.queue := rfl
      cases idle : search.queue.isEmpty with
      | true =>
          rw [settleAll_idle idle] at ran
          rw [settleAll_idle (sameQueue ▸ idle)]
          cases ran
          rfl
      | false =>
          rw [settleAll_waiting idle] at ran
          rcases bind_eq_ok_iff.mp ran with ⟨next, settled, further⟩
          rw [settleAll_waiting (sameQueue ▸ idle), settle_unlimited settled]
          exact induction further

theorem start_unlimited {source : Fin vertices.size} {limit : Option Nat}
    (started : Search.start source limit = .ok search) :
    Search.start source none = .ok search.unlimited := by
  rcases bind_eq_ok_iff.mp started with ⟨queue, inserted, opened⟩
  cases opened
  rw [Search.start, inserted]
  rfl

end Search

namespace CallGraph

variable {graph : CallGraph} {source : Node} {limit : Option Nat} {check : Bool}

theorem shortestPaths_of_limited {tree : PathTree}
    (found : graph.shortestPaths source limit check = .ok tree) :
    graph.shortestPaths source none check = .ok tree := by
  rcases graph.exists_indexOf?_source source with ⟨index, numbered⟩
  rw [shortestPaths_of_indexOf? limit check numbered] at found
  rw [shortestPaths_of_indexOf? none check numbered]
  rcases bind_eq_ok_iff.mp found with ⟨search, started, rest⟩
  rcases bind_eq_ok_iff.mp rest with ⟨last, ran, checked⟩
  rw [Search.start_unlimited started, Except.bind,
    Search.settleAll_unlimited ran]
  exact checked

theorem shortestPaths_within (member : source ∈ graph.nodes)
    (enough : ∀ most, limit = some most → graph.nodeCount ≤ most) :
    graph.shortestPaths source limit check =
      graph.shortestPaths source none check := by
  rcases graph.shortestPaths_cases source limit check with
    ⟨tree, found, -⟩ | ⟨most, node, limited, fewer, -⟩
  · rw [found, shortestPaths_of_limited found]
  · rw [VertexIndex.size_ofGraph_of_mem member] at fewer
    exact absurd (enough most limited) (Nat.not_le_of_lt fewer)

end CallGraph

end CallChains
