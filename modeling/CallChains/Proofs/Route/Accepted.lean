import CallChains.Proofs.Graph.Walk
import CallChains.Proofs.Number.Order
import CallChains.Proofs.Route.Unwinding
import CallChains.Route.Certificate
/-!
What the check of a shortest-path tree is worth. Its conditions speak of single
nodes and calls only. Where distances are whole numbers or infinite, they are
enough: every way back ends at the source after as many calls as the distance
says, and no walk by explicit calls is shorter.
-/

namespace CallChains.PathTree

def CountsHops (tree : PathTree) : Prop :=
  ∀ node, (∃ hops : Int, tree.distanceTo node = .int hops) ∨
    tree.distanceTo node = .infinity

def FollowsExplicit (graph : CallGraph) (tree : PathTree) : Prop :=
  ∀ node call, tree.predecessor? node = some call → graph.IsExplicitCall call

structure Accepted (graph : CallGraph) (tree : PathTree) : Prop where
  atSource : tree.distanceTo tree.source = .int 0
  root : tree.predecessor? tree.source = none
  agree : ∀ node, node ≠ tree.source →
    ((∃ hops : Int, tree.distanceTo node = .int hops) ↔
      ∃ call, tree.predecessor? node = some call)
  relaxed : ∀ call, graph.IsExplicitCall call → ∀ hops : Int,
    tree.distanceTo call.source = .int hops →
      ∃ least : Int, tree.distanceTo call.target = .int least ∧ least ≤ hops + 1
  tight : ∀ node call, tree.predecessor? node = some call → call.target = node ∧
    ∃ hops : Int, tree.distanceTo call.source = .int hops ∧
      tree.distanceTo node = .int (hops + 1)

variable {graph : CallGraph} {tree : PathTree} {node source : Node}
  {calls : List Edge}

theorem distanceTo_unknown (unknown : node ∉ tree.vertices.nodes) :
    tree.distanceTo node = .infinity := by
  simp [distanceTo, VertexIndex.indexOf?_eq_none unknown]

theorem mem_nodes_of_distanceTo {hops : Int}
    (distance : tree.distanceTo node = .int hops) :
    node ∈ tree.vertices.nodes := by
  by_contra unknown
  rw [distanceTo_unknown unknown] at distance
  exact Number.int_ne_infinity hops distance.symm

theorem CountsHops.hasPathTo_iff (counts : tree.CountsHops) :
    tree.hasPathTo node = true ↔
      ∃ hops : Int, tree.distanceTo node = .int hops := by
  rcases counts node with ⟨hops, finite⟩ | infinite
  · simp [hasPathTo, finite]
  · simp [hasPathTo, infinite]

theorem CountsHops.ne_infinity_iff (counts : tree.CountsHops) :
    tree.distanceTo node ≠ .infinity ↔
      ∃ hops : Int, tree.distanceTo node = .int hops := by
  rcases counts node with ⟨hops, finite⟩ | infinite
  · simp [finite]
  · simp [infinite]

/-! ## The check and its conditions -/

theorem sourceFault?_eq_none_iff (counts : tree.CountsHops) :
    tree.sourceFault? = none ↔
      tree.distanceTo tree.source = .int 0 ∧
      tree.predecessor? tree.source = none := by
  rw [sourceFault?, ite_eq_left_iff]
  rcases counts tree.source with ⟨hops, finite⟩ | infinite
  · simp [finite]
  · simp [infinite]

theorem agreementFault?_eq_none_iff (counts : tree.CountsHops) :
    tree.agreementFault? node = none ↔ (node ≠ tree.source →
      ((∃ hops : Int, tree.distanceTo node = .int hops) ↔
        ∃ call, tree.predecessor? node = some call)) := by
  rw [← counts.hasPathTo_iff, ← Option.isSome_iff_exists, ← Bool.eq_iff_iff,
    agreementFault?]
  by_cases atSource : node = tree.source <;> simp [atSource]

theorem relaxationFault?_eq_none_iff (counts : tree.CountsHops) {call : Edge} :
    tree.relaxationFault? call = none ↔ (call.explicit = true → ∀ hops : Int,
      tree.distanceTo call.source = .int hops →
        ∃ least : Int, tree.distanceTo call.target = .int least ∧
          least ≤ hops + 1) := by
  rw [relaxationFault?, ite_eq_right_iff]
  rcases counts call.source with ⟨hops, start⟩ | unreached
  · rcases counts call.target with ⟨least, finish⟩ | unreached
    · simp [start, finish]
    · simp [start, unreached]
  · simp [unreached]

theorem CountsHops.addOne_same_iff (counts : tree.CountsHops) {earlier : Node} :
    (tree.distanceTo earlier).addOne.same (tree.distanceTo node) = true ↔
      (∃ hops : Int, tree.distanceTo earlier = .int hops ∧
        tree.distanceTo node = .int (hops + 1)) ∨
        (tree.distanceTo earlier = .infinity ∧
          tree.distanceTo node = .infinity) := by
  rcases counts earlier with ⟨hops, start⟩ | unreached
  · rcases counts node with ⟨least, finish⟩ | unreached
    · simp [start, finish, eq_comm (a := least)]
    · simp [start, unreached]
  · rcases counts node with ⟨least, finish⟩ | bothUnreached
    · simp [unreached, finish]
    · simp [unreached, bothUnreached]

theorem predecessorFault?_eq_none_iff : tree.predecessorFault? node = none ↔
    ∀ call, tree.predecessor? node = some call → call.target = node ∧
      (tree.distanceTo call.source).addOne.same (tree.distanceTo node) =
        true := by
  unfold predecessorFault?
  cases last : tree.predecessor? node with
  | none => simp
  | some call => by_cases rightEnd : call.target = node <;> simp [rightEnd]
theorem Accepted.fault?_eq_none (accepted : tree.Accepted graph)
    (counts : tree.CountsHops) :
    tree.fault? graph = none := by
  rw [fault?_eq_none_iff]
  refine ⟨(sourceFault?_eq_none_iff counts).mpr
    ⟨accepted.atSource, accepted.root⟩, ?_, ?_, ?_⟩
  · intro node _
    exact (agreementFault?_eq_none_iff counts).mpr (accepted.agree node)
  · intro call member
    apply (relaxationFault?_eq_none_iff counts).mpr
    intro explicit
    exact accepted.relaxed call ⟨member, explicit⟩
  · intro node _
    apply predecessorFault?_eq_none_iff.mpr
    intro call last
    rcases accepted.tight node call last with ⟨rightEnd, finite⟩
    exact ⟨rightEnd, counts.addOne_same_iff.mpr (Or.inl finite)⟩

/-- A tree in which the check finds no fault meets the conditions. They hold of
nodes that the tree does not know as well, because these are not reached and
have no predecessor. -/
theorem CountsHops.accepted (counts : tree.CountsHops)
    (noFault : tree.fault? graph = none) :
    tree.Accepted graph := by
  rcases fault?_eq_none_iff.mp noFault with
    ⟨sourceRight, agreeing, relaxed, tight⟩
  rcases (sourceFault?_eq_none_iff counts).mp sourceRight with ⟨atSource, root⟩
  have agree (node : Node) (notSource : node ≠ tree.source) :
      (∃ hops : Int, tree.distanceTo node = .int hops) ↔
        ∃ call, tree.predecessor? node = some call := by
    by_cases known : node ∈ tree.vertices.nodes
    · exact (agreementFault?_eq_none_iff counts).mp
        (agreeing node known) notSource
    · simp [distanceTo_unknown known, predecessor?_unknown known]
  refine ⟨atSource, root, agree, ?_, ?_⟩
  · intro call explicit
    exact (relaxationFault?_eq_none_iff counts).mp (relaxed call explicit.1)
      explicit.2
  · intro node call last
    have known := mem_nodes_of_predecessor? last
    rcases predecessorFault?_eq_none_iff.mp (tight node known) call last with
      ⟨rightEnd, oneMore⟩
    have notSource : node ≠ tree.source := by
      intro same
      rw [same, root] at last
      cases last
    rcases counts.addOne_same_iff.mp oneMore with finite | ⟨-, unreached⟩
    · exact ⟨rightEnd, finite⟩
    · rcases (agree node notSource).mpr ⟨call, last⟩ with ⟨hops, distance⟩
      exact absurd (distance.symm.trans unreached) (Number.int_ne_infinity hops)

/-! ## Ways back -/

theorem exists_distance_bound (tree : PathTree) :
    ∃ bound : Int, ∀ node (hops : Int), tree.distanceTo node = .int hops →
      bound ≤ hops := by
  have bounded (nodes : List Node) :
      ∃ bound : Int, ∀ node ∈ nodes, ∀ hops : Int,
        tree.distanceTo node = .int hops → bound ≤ hops := by
    induction nodes with
    | nil => exact ⟨0, by simp⟩
    | cons first rest induction =>
        rcases induction with ⟨bound, below⟩
        cases atFirst : tree.distanceTo first with
        | int firstHops =>
            refine ⟨min bound firstHops, fun node member hops distance => ?_⟩
            rcases List.mem_cons.mp member with rfl | member
            · rw [atFirst, Number.int.injEq] at distance
              exact distance ▸ min_le_right bound firstHops
            · exact (min_le_left bound firstHops).trans
                (below node member hops distance)
        | float value =>
            refine ⟨bound, fun node member hops distance => ?_⟩
            rcases List.mem_cons.mp member with rfl | member
            · rw [atFirst] at distance
              cases distance
            · exact below node member hops distance
  rcases bounded tree.vertices.nodes with ⟨bound, below⟩
  exact ⟨bound, fun node hops distance =>
    below node (mem_nodes_of_distanceTo distance) hops distance⟩

namespace Accepted

/-- Each step back lowers the distance by one, which cannot go on below the
least distance. -/
theorem exists_unwinding (accepted : tree.Accepted graph) (node : Node) :
    ∃ calls, tree.Unwinding node calls := by
  rcases tree.exists_distance_bound with ⟨bound, below⟩
  -- By induction on how far a distance lies above the least one.
  have fromFinite (steps : Nat) : ∀ node (hops : Int),
      tree.distanceTo node = .int hops →
      hops < bound + steps → ∃ calls, tree.Unwinding node calls := by
    induction steps with
    | zero =>
        intro node hops distance near
        have least := below node hops distance
        omega
    | succ steps induction =>
        intro node hops distance near
        cases last : tree.predecessor? node with
        | none => exact ⟨[], .root last⟩
        | some call =>
            rcases accepted.tight node call last with ⟨-, fewer, before, after⟩
            rw [distance, Number.int.injEq] at after
            rcases induction call.source fewer before (by omega) with
              ⟨calls, unwinding⟩
            exact ⟨calls ++ [call], .step last unwinding⟩
  cases last : tree.predecessor? node with
  | none => exact ⟨[], .root last⟩
  | some call =>
      rcases accepted.tight node call last with ⟨-, hops, -, distance⟩
      exact fromFinite (hops + 2 - bound).toNat node (hops + 1) distance
        (by omega)

/-- The way back from a node at a finite distance, read forward, is a walk from
the source that takes as many calls as the distance says and never meets a node
twice. -/
theorem walk_of_unwinding (accepted : tree.Accepted graph)
    (unwinding : tree.Unwinding node calls) {hops : Int}
    (distance : tree.distanceTo node = .int hops) :
    Walk (fun call => ∃ passed, tree.predecessor? passed = some call)
        tree.source calls node ∧
      hops = calls.length ∧ (nodesVisited tree.source calls).Nodup ∧
      ∀ passed ∈ nodesVisited tree.source calls,
        ∃ less : Int, tree.distanceTo passed = .int less ∧ less ≤ hops := by
  induction unwinding generalizing hops with
  | @root node atRoot =>
      have atSource : node = tree.source := by
        by_contra notSource
        rcases (accepted.agree node notSource).mp ⟨hops, distance⟩ with
          ⟨call, last⟩
        rw [atRoot] at last
        cases last
      subst atSource
      have zero : hops = 0 :=
        Number.int.inj (distance.symm.trans accepted.atSource)
      simp [nodesVisited, zero, accepted.atSource]
  | @step node call earlier last before induction =>
      rcases accepted.tight node call last with
        ⟨rightEnd, fewer, beforeLast, after⟩
      rcases induction beforeLast with ⟨walk, length, nodup, bounded⟩
      have oneMore : hops = fewer + 1 :=
        Number.int.inj (distance.symm.trans after)
      refine ⟨walk_concat.mpr ⟨walk, ⟨node, last⟩, rightEnd⟩, by simp; omega,
        ?_, ?_⟩
      · rw [nodesVisited_concat, rightEnd, List.nodup_append]
        refine ⟨nodup, by simp, fun passed member other single equal => ?_⟩
        -- All nodes before are nearer to the source, so the last one is new.
        rcases bounded passed member with ⟨less, passedDistance, bound⟩
        rw [equal, List.mem_singleton.mp single, distance,
          Number.int.injEq] at passedDistance
        omega
      · intro passed member
        rw [nodesVisited_concat, rightEnd, List.mem_append,
          List.mem_singleton] at member
        rcases member with member | rfl
        · rcases bounded passed member with ⟨less, passedDistance, bound⟩
          exact ⟨less, passedDistance, by omega⟩
        · exact ⟨hops, distance, le_rfl⟩

theorem pathTo_eq_none_iff (accepted : tree.Accepted graph)
    (counts : tree.CountsHops) :
    tree.pathTo node = none ↔ tree.distanceTo node = .infinity := by
  constructor
  · intro noPath
    apply (counts node).resolve_left
    intro finite
    rcases accepted.exists_unwinding node with ⟨calls, unwinding⟩
    have path :=
      pathTo_eq_some_iff.mpr ⟨counts.hasPathTo_iff.mpr finite, unwinding⟩
    rw [noPath] at path
    cases path
  · intro infinite
    rw [pathTo, hasPathTo, infinite]
    rfl

/-! ## Distances -/

theorem distance_le (accepted : tree.Accepted graph)
    (walk : graph.ExplicitWalk source calls node) {hops : Int}
    (start : tree.distanceTo source = .int hops) :
    ∃ least : Int, tree.distanceTo node = .int least ∧
      least ≤ hops + calls.length := by
  induction calls generalizing source hops with
  | nil =>
      have same : source = node := walk
      subst same
      exact ⟨hops, start, by simp⟩
  | cons call rest induction =>
      rcases walk with ⟨rfl, explicit, after⟩
      rcases accepted.relaxed call explicit hops start with
        ⟨next, nextDistance, nextBound⟩
      rcases induction after nextDistance with ⟨least, distance, bound⟩
      exact ⟨least, distance, by simp; omega⟩

theorem explicitWalk_of_unwinding (accepted : tree.Accepted graph)
    (explicit : tree.FollowsExplicit graph)
    (unwinding : tree.Unwinding node calls) {hops : Int}
    (distance : tree.distanceTo node = .int hops) :
    graph.ExplicitWalk tree.source calls node ∧ hops = calls.length := by
  rcases accepted.walk_of_unwinding unwinding distance with ⟨walk, length, -⟩
  exact ⟨walk.mono fun call ⟨passed, last⟩ => explicit passed call last, length⟩

theorem distanceTo_eq_int_iff (accepted : tree.Accepted graph)
    (explicit : tree.FollowsExplicit graph) {hops : Nat} :
    tree.distanceTo node = .int hops ↔
      graph.IsDistance tree.source node hops := by
  have exact {hops : Int} (distance : tree.distanceTo node = .int hops) :
      ∃ count : Nat, hops = count ∧
        graph.IsDistance tree.source node count := by
    rcases accepted.exists_unwinding node with ⟨calls, unwinding⟩
    rcases accepted.explicitWalk_of_unwinding explicit unwinding distance with
      ⟨walk, length⟩
    refine ⟨calls.length, length, ⟨calls, walk, rfl⟩, fun other otherWalk => ?_⟩
    rcases accepted.distance_le otherWalk accepted.atSource with
      ⟨least, same, bound⟩
    rw [distance, Number.int.injEq] at same
    omega
  constructor
  · intro distance
    rcases exact distance with ⟨count, equal, isDistance⟩
    exact Int.ofNat_inj.mp equal ▸ isDistance
  · intro isDistance
    rcases isDistance.1 with ⟨calls, walk, -⟩
    rcases accepted.distance_le walk accepted.atSource with ⟨least, distance, -⟩
    rcases exact distance with ⟨count, rfl, same⟩
    rw [distance, same.unique isDistance]

theorem distanceTo_eq_infinity_iff (accepted : tree.Accepted graph)
    (counts : tree.CountsHops) (explicit : tree.FollowsExplicit graph) :
    tree.distanceTo node = .infinity ↔
      ¬ graph.ReachesExplicitly tree.source node := by
  constructor
  · rintro infinite ⟨calls, walk⟩
    rcases accepted.distance_le walk accepted.atSource with ⟨least, distance, -⟩
    exact Number.int_ne_infinity least (distance.symm.trans infinite)
  · intro unreached
    apply (counts node).resolve_left
    rintro ⟨hops, distance⟩
    rcases accepted.exists_unwinding node with ⟨calls, unwinding⟩
    exact unreached ⟨calls,
      (accepted.explicitWalk_of_unwinding explicit unwinding distance).1⟩

end Accepted

end CallChains.PathTree
