import CallChains.Proofs.Route.Numbering
import CallChains.Route.PathTree
import Mathlib.Data.List.Perm.Subperm
/-!
Walking back along the predecessors of a tree. Said without a bound, the walk
from a node may go on forever; the bounded one finds the chain of a node exactly
when the unbounded one comes to an end.
-/

namespace CallChains.PathTree

/-- The walk back from a node along the predecessors comes to an end, and has
passed these calls. -/
inductive Unwinding (tree : PathTree) : Node → List Edge → Prop
  | root {node : Node} (atRoot : tree.predecessor? node = none) :
      Unwinding tree node []
  | step {node : Node} {call : Edge} {earlier : List Edge}
      (last : tree.predecessor? node = some call)
      (before : Unwinding tree call.source earlier) :
      Unwinding tree node (earlier ++ [call])

variable {tree : PathTree} {node : Node} {calls : List Edge}

theorem predecessor?_unknown (unknown : node ∉ tree.vertices.nodes) :
    tree.predecessor? node = none := by
  simp [predecessor?, VertexIndex.indexOf?_eq_none unknown]

theorem mem_nodes_of_predecessor? {call : Edge}
    (found : tree.predecessor? node = some call) :
    node ∈ tree.vertices.nodes := by
  by_contra unknown
  rw [predecessor?_unknown unknown] at found
  cases found

theorem Unwinding.unique {other : List Edge}
    (unwinding : tree.Unwinding node calls)
    (again : tree.Unwinding node other) : calls = other := by
  induction unwinding generalizing other with
  | root atRoot =>
      cases again with
      | root => rfl
      | step last _ => rw [atRoot] at last; nomatch last
  | step last before induction =>
      cases again with
      | root atRoot => rw [atRoot] at last; nomatch last
      | step otherLast otherBefore =>
          rw [last, Option.some.injEq] at otherLast
          subst otherLast
          rw [induction otherBefore]

/-- The nodes that are left behind on the way back are as many as the calls, and
no two are equal, because their own ways back differ in length. -/
theorem Unwinding.exists_nodes (unwinding : tree.Unwinding node calls) :
    ∃ nodes : List Node, nodes.length = calls.length ∧ nodes.Nodup ∧
      ∀ passed ∈ nodes, passed ∈ tree.vertices.nodes ∧
        ∃ earlier, tree.Unwinding passed earlier ∧
          earlier.length ≤ calls.length := by
  induction unwinding with
  | root => exact ⟨[], by simp⟩
  | @step node call earlier last before induction =>
      rcases induction with ⟨nodes, length, nodup, known⟩
      have whole : tree.Unwinding node (earlier ++ [call]) := .step last before
      refine ⟨node :: nodes, by simp [length], List.nodup_cons.mpr ⟨?_, nodup⟩,
        ?_⟩
      · intro member
        rcases known node member with ⟨-, shorter, unwinding, shorterLength⟩
        -- A node has one way back, so one that came again would have two
        -- lengths.
        have equal := whole.unique unwinding
        rw [← equal, List.length_append, List.length_singleton] at shorterLength
        omega
      · intro passed member
        rcases List.mem_cons.mp member with rfl | member
        · exact ⟨mem_nodes_of_predecessor? last, _, whole, Nat.le_refl _⟩
        · rcases known passed member with
            ⟨inside, shorter, unwinding, shorterLength⟩
          exact ⟨inside, shorter, unwinding, by simp; omega⟩

theorem Unwinding.length_le (unwinding : tree.Unwinding node calls) :
    calls.length ≤ tree.vertices.size := by
  rcases unwinding.exists_nodes with ⟨nodes, length, nodup, known⟩
  rw [← length, ← VertexIndex.length_nodes]
  exact (nodup.subperm fun passed member => (known passed member).1).length_le

/-! ## The bounded walk -/

theorem Unwinding.chainTo? (unwinding : tree.Unwinding node calls) {bound : Nat}
    (enough : calls.length ≤ bound) (later : List Edge) :
    tree.chainTo? bound later node = some (calls ++ later) := by
  induction unwinding generalizing bound later with
  | root atRoot => cases bound <;> simp [PathTree.chainTo?, atRoot]
  | @step node call earlier last before induction =>
      rw [List.length_append, List.length_singleton] at enough
      rcases Nat.exists_eq_add_one_of_ne_zero (by omega : bound ≠ 0) with
        ⟨less, rfl⟩
      simp only [PathTree.chainTo?, last]
      rw [induction (by omega), List.append_assoc, List.singleton_append]

theorem unwinding_of_chainTo? {bound : Nat} {later : List Edge}
    (found : tree.chainTo? bound later node = some calls) :
    ∃ earlier, tree.Unwinding node earlier ∧ calls = earlier ++ later := by
  induction bound generalizing node later with
  | zero =>
      cases last : tree.predecessor? node with
      | none =>
          simp only [PathTree.chainTo?, last, Option.some.injEq] at found
          exact ⟨[], .root last, found.symm⟩
      | some call => simp [PathTree.chainTo?, last] at found
  | succ bound induction =>
      cases last : tree.predecessor? node with
      | none =>
          simp only [PathTree.chainTo?, last, Option.some.injEq] at found
          exact ⟨[], .root last, found.symm⟩
      | some call =>
          simp only [PathTree.chainTo?, last] at found
          rcases induction found with ⟨earlier, before, rfl⟩
          exact ⟨earlier ++ [call], .step last before, by simp⟩

/-- The bound on the number of calls cuts no walk short that would have come to
an end. -/
theorem chainTo?_eq_some_iff :
    tree.chainTo? tree.vertices.size [] node = some calls ↔
      tree.Unwinding node calls := by
  constructor
  · intro found
    rcases unwinding_of_chainTo? found with ⟨earlier, unwinding, rfl⟩
    rwa [List.append_nil]
  · intro unwinding
    rw [unwinding.chainTo? unwinding.length_le, List.append_nil]

theorem pathTo_eq_some_iff :
    tree.pathTo node = some calls ↔
      tree.hasPathTo node = true ∧ tree.Unwinding node calls := by
  by_cases reached : tree.hasPathTo node = true <;>
    simp [pathTo, reached, chainTo?_eq_some_iff]

end CallChains.PathTree
