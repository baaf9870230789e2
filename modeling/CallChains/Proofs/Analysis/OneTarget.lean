import CallChains.Analysis
import CallChains.Proofs.Fallible
import CallChains.Proofs.Graph.Reachability
import CallChains.Proofs.Route.CallPath
import Mathlib.Data.String.Basic
/-!
The analysis of one target is correct on the whole graph. It only looks at the
callers of the target, but an explicit walk into the target never leaves them,
so no entry and no shortest path is lost.
-/

namespace CallChains

theorem pairwise_toList (nodes : NodeSet) : nodes.toList.Pairwise (· < ·) :=
  nodes.ordered_toList.imp fun {_ _} less => compare_lt_iff_lt.mp less

/-! ## Walks among the callers -/

namespace CallGraph

variable {graph callers : CallGraph} {entry target : Node}

theorem IsCallersOf.explicitWalk_iff
    (isCallers : graph.IsCallersOf callers target fun _ => false)
    {calls : List Edge} :
    callers.ExplicitWalk entry calls target ↔
      graph.ExplicitWalk entry calls target := by
  constructor
  · intro walk
    exact walk.mono fun call allowed =>
      ⟨((isCallers.mem_edges call).mp allowed.1).1.1, allowed.2⟩
  · intro walk
    apply walk.of_forall_mem
    intro call member
    rcases walk.admitted_of_mem member with ⟨known, explicit⟩
    rcases walk.from_target member with ⟨rest, -, after⟩
    refine ⟨(isCallers.mem_edges call).mpr
      ⟨⟨known, rfl⟩, leadsTo_of_nothing_excluded.mpr ?_⟩, explicit⟩
    exact ReachesExplicitly.reaches ⟨rest, after⟩

theorem IsCallersOf.mem_entriesUnder
    (isCallers : graph.IsCallersOf callers target fun _ => false)
    {root : Node} : entry ∈ callers.entriesUnder root ↔
      entry ≠ root ∧
        (∃ call ∈ graph.edges, call.source = root ∧ call.target = entry) ∧
        graph.Reaches entry target := by
  rw [CallGraph.mem_entriesUnder]
  simp only [isCallers.mem_edges, leadsTo_of_nothing_excluded]
  constructor
  · rintro ⟨other, call, ⟨⟨member, -⟩, reached⟩, start, rfl⟩
    exact ⟨other, ⟨call, member, start, rfl⟩, reached⟩
  · rintro ⟨other, ⟨call, member, start, rfl⟩, reached⟩
    exact ⟨other, call, ⟨⟨member, rfl⟩, reached⟩, start, rfl⟩

end CallGraph

/-! ## Entries -/

/-- An outcome that tells the truth about the walks from an entry to a target: a
path is a shortest one, and an entry is only called unreachable where there is
no explicit walk. -/
def EntryOutcome.IsTrue (graph : CallGraph) (target entry : Node) :
    EntryOutcome → Prop
  | .path found =>
      found.entry = entry ∧ found.target = target ∧ found.IsShortest graph
  | .unreachable node => node = entry ∧ ¬ graph.ReachesExplicitly entry target
  | .failed _ => False

section Outcomes

variable {graph callers : CallGraph} {entry target : Node} {entries : List Node}
  {outcomes : List EntryOutcome}

/-- A search among the callers of a target visits no more nodes than the search
for them, so under the same limit it does not fail. -/
theorem CallGraph.outcomeFrom_isTrue
    (isCallers : graph.IsCallersOf callers target fun _ => false)
    (member : entry ∈ callers.nodes) {limit : Option Nat}
    (enough : ∀ most, limit = some most → callers.nodeCount ≤ most)
    (check : Bool) :
    ∃ outcome, callers.outcomeFrom entry target limit check = .ok outcome ∧
      outcome.IsTrue graph target entry := by
  rcases callers.shortestPaths_cases entry limit check with
    ⟨tree, found, exact⟩ | ⟨most, node, limited, fewer, -⟩
  · rcases exact.shortest_cases target with
      ⟨noPath, unreached⟩ | ⟨edges, path, shortest⟩
    · refine ⟨.unreachable entry, ?_, rfl, ?_⟩
      · simp only [outcomeFrom, found, noPath]
      · rintro ⟨calls, walk⟩
        exact unreached ⟨calls, isCallers.explicitWalk_iff.mpr walk⟩
    · refine ⟨.path { entry, target, edges }, ?_, rfl, rfl, ?_⟩
      · simp only [outcomeFrom, found, path]
      · refine ⟨isCallers.explicitWalk_iff.mp shortest.walk, ?_, shortest.nodup⟩
        intro calls walk
        exact shortest.least calls (isCallers.explicitWalk_iff.mpr walk)
  · rw [VertexIndex.size_ofGraph_of_mem member] at fewer
    have := enough most limited
    omega

section

open Classical

theorem EntryOutcome.IsTrue.entry_eq {outcome : EntryOutcome}
    (isTrue : outcome.IsTrue graph target entry) :
    outcome.path?.map (·.entry) =
      if graph.ReachesExplicitly entry target then some entry else none := by
  cases outcome with
  | path found =>
      rcases isTrue with ⟨rfl, rfl, shortest⟩
      exact (if_pos ⟨found.edges, shortest.walk⟩).symm
  | unreachable node =>
      rcases isTrue with ⟨rfl, unreached⟩
      exact (if_neg unreached).symm
  | failed failure => exact isTrue.elim

theorem EntryOutcome.IsTrue.unreachable_eq {outcome : EntryOutcome}
    (isTrue : outcome.IsTrue graph target entry) :
    outcome.unreachable? =
      if ¬ graph.ReachesExplicitly entry target then some entry else none := by
  cases outcome with
  | path found =>
      rcases isTrue with ⟨rfl, rfl, shortest⟩
      exact (if_neg (not_not.mpr ⟨found.edges, shortest.walk⟩)).symm
  | unreachable node =>
      rcases isTrue with ⟨rfl, unreached⟩
      exact (if_pos unreached).symm
  | failed failure => exact isTrue.elim

theorem entries_of_isTrue
    (areTrue : List.Forall₂ (EntryOutcome.IsTrue graph target) entries
      outcomes) :
    (outcomes.filterMap EntryOutcome.path?).map (·.entry) =
      entries.filter fun entry => graph.ReachesExplicitly entry target := by
  rw [List.map_filterMap]
  apply filterMap_eq_filter
  exact areTrue.imp fun _ _ isTrue => by simpa using isTrue.entry_eq

theorem unreachable_of_isTrue
    (areTrue : List.Forall₂ (EntryOutcome.IsTrue graph target) entries
      outcomes) :
    outcomes.filterMap EntryOutcome.unreachable? =
      entries.filter fun entry => ¬ graph.ReachesExplicitly entry target := by
  apply filterMap_eq_filter
  exact areTrue.imp fun _ _ isTrue => by simpa using isTrue.unreachable_eq

end

theorem shortest_of_isTrue
    (areTrue : List.Forall₂ (EntryOutcome.IsTrue graph target) entries
      outcomes) :
    ∀ path ∈ outcomes.filterMap EntryOutcome.path?,
      path.target = target ∧ path.IsShortest graph := by
  intro path member
  rcases List.mem_filterMap.mp member with ⟨outcome, isOutcome, isPath⟩
  rcases exists_of_mem_right areTrue outcome isOutcome with ⟨entry, -, isTrue⟩
  cases outcome with
  | path found =>
      cases isPath
      exact isTrue.2
  | unreachable node => nomatch isPath
  | failed failure => exact isTrue.elim

theorem failures_of_isTrue
    (areTrue : List.Forall₂ (EntryOutcome.IsTrue graph target) entries
      outcomes) :
    outcomes.filterMap EntryOutcome.failure? = [] := by
  apply List.filterMap_eq_nil_iff.mpr
  intro outcome isOutcome
  rcases exists_of_mem_right areTrue outcome isOutcome with ⟨entry, -, isTrue⟩
  cases outcome with
  | path found => rfl
  | unreachable node => rfl
  | failed failure => exact isTrue.elim

end Outcomes

/-! ## Targets -/

open Classical in
/-- A result that answers a target for the whole graph. Entries are the callees
of the root that lead to the target by calls of any kind; those that do so by
explicit calls have a shortest path. -/
structure TargetResult.Answers (graph : CallGraph) (root target : Node)
    (result : TargetResult) : Prop where
  isFor : result.target = target
  ascending : result.entries.Pairwise (· < ·)
  mem_entries : ∀ entry, entry ∈ result.entries ↔ entry ≠ root ∧
    (∃ call ∈ graph.edges, call.source = root ∧ call.target = entry) ∧
    graph.Reaches entry target
  withPath : result.paths.map (·.entry) =
    result.entries.filter fun entry => graph.ReachesExplicitly entry target
  withoutPath : result.unreachable =
    result.entries.filter fun entry => ¬ graph.ReachesExplicitly entry target
  shortest : ∀ path ∈ result.paths, path.target = target ∧ path.IsShortest graph
  noFailures : result.failures = []

namespace CallGraph

theorem pathsForTarget_of_callersOf {graph callers : CallGraph} {target : Node}
    {limit : Option Nat}
    (isCallers : graph.IsCallersOf callers target fun _ => false)
    (found : graph.callersOf target (fun _ => false) limit = .ok callers)
    (enough : ∀ most, limit = some most → callers.nodeCount ≤ most)
    (root : Node) (check : Bool) :
    ∃ result, graph.pathsForTarget root target limit check = .ok result ∧
      result.Answers graph root target := by
  have each : ∀ entry ∈ (callers.entriesUnder root).toList, ∃ outcome,
      callers.outcomeFrom entry target limit check = .ok outcome ∧
        outcome.IsTrue graph target entry := by
    intro entry member
    rw [Std.TreeSet.mem_toList, isCallers.mem_entriesUnder] at member
    rcases member with ⟨-, -, reached⟩
    refine outcomeFrom_isTrue isCallers ?_ enough check
    exact (isCallers.mem_nodes entry).mpr
      (leadsTo_of_nothing_excluded.mpr reached)
  rcases exists_mapM_ok each with ⟨outcomes, ran, areTrue⟩
  refine ⟨_, by simp only [pathsForTarget, found, ran]; rfl, rfl,
    pairwise_toList _, ?_, entries_of_isTrue areTrue,
    unreachable_of_isTrue areTrue, shortest_of_isTrue areTrue,
    failures_of_isTrue areTrue⟩
  intro entry
  rw [Std.TreeSet.mem_toList]
  exact isCallers.mem_entriesUnder

theorem pathsForTarget_cases (graph : CallGraph) (root target : Node)
    (limit : Option Nat) (check : Bool) :
    (∃ result, graph.pathsForTarget root target limit check = .ok result ∧
      result.Answers graph root target) ∨
    ∃ most overrun, limit = some most ∧
      graph.pathsForTarget root target limit check =
        .ok { target, failures :=
          [{ target, entry := none, error := .budget overrun }] } := by
  rcases graph.callersOf_limited target limit with
    ⟨callers, isCallers, -, ⟨-, enough, found⟩ | ⟨-, overrun, limited, failed⟩⟩
  · exact Or.inl (pathsForTarget_of_callersOf isCallers found enough root check)
  · refine Or.inr ⟨overrun.limit, overrun, limited, ?_⟩
    simp only [pathsForTarget, failed]

theorem failures_of_pathsForTarget {graph : CallGraph} {root target : Node}
    {limit : Option Nat} {check : Bool} {result : TargetResult}
    (computed : graph.pathsForTarget root target limit check = .ok result)
    {failure : Failure} (member : failure ∈ result.failures) :
    failure.target = target ∧ failure.entry = none := by
  rcases graph.pathsForTarget_cases root target limit check with
    ⟨same, answered, answers⟩ | ⟨_, overrun, -, failed⟩
  · rcases Except.ok.inj (answered.symm.trans computed) with rfl
    rw [answers.noFailures] at member
    cases member
  · rcases Except.ok.inj (failed.symm.trans computed) with rfl
    rw [List.mem_singleton.mp member]
    exact ⟨rfl, rfl⟩

theorem exists_pathsForTarget (graph : CallGraph) (root target : Node)
    (limit : Option Nat) (check : Bool) :
    ∃ result, graph.pathsForTarget root target limit check = .ok result := by
  rcases graph.pathsForTarget_cases root target limit check with
    ⟨result, computed, -⟩ | ⟨_, _, -, computed⟩
  · exact ⟨result, computed⟩
  · exact ⟨_, computed⟩

/-- Without a limit every target is answered for the whole graph. -/
theorem pathsForTarget_unlimited (graph : CallGraph) (root target : Node)
    (check : Bool) :
    ∃ result, graph.pathsForTarget root target none check = .ok result ∧
      result.Answers graph root target := by
  rcases graph.pathsForTarget_cases root target none check with
    answered | ⟨_, _, limited, _⟩
  · exact answered
  · cases limited

end CallGraph

end CallChains
