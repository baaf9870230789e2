import CallChains.Proofs.Analysis.AllTargets
import CallChains.Proofs.Route.Unlimited
/-!
What a limit on visits does to an analysis. Only the discovery of targets can
make the whole analysis fail, and only the search for the callers of a target
can leave that target without an answer. Both happen just when there are more
nodes to visit than the limit allows, and everything else is as without a limit.
-/

namespace CallChains

/-! ## One target -/

def TargetResult.cutShort (target : Node) (overrun : Overrun) : TargetResult :=
  { target, failures := [{ target, entry := none, error := .budget overrun }] }

namespace CallGraph

/-- Under a limit a target gets the result that it gets without one, unless more
nodes lead to it than may be visited. The searches from its entries never make a
difference: they stay among its callers. -/
theorem pathsForTarget_limited (graph : CallGraph) (root target : Node)
    (limit : Option Nat) (check : Bool) :
    (¬ Exceeds limit (graph.leadingTo target) ∧
      graph.pathsForTarget root target limit check =
        graph.pathsForTarget root target none check) ∨
    (Exceeds limit (graph.leadingTo target) ∧ ∃ overrun : Overrun,
      limit = some overrun.limit ∧
      graph.pathsForTarget root target limit check =
        .ok (.cutShort target overrun)) := by
  rcases graph.callersOf_limited target limit with
    ⟨callers, isCallers, unlimited, ⟨within, enough, found⟩
      | ⟨exceeds, overrun, limited, failed⟩⟩
  · refine Or.inl ⟨within, ?_⟩
    -- An entry is a caller, and a search among the callers visits no more nodes
    -- than there are.
    have sameOutcomes : ∀ entry ∈ (callers.entriesUnder root).toList,
        callers.outcomeFrom entry target limit check =
          callers.outcomeFrom entry target none check := by
      intro entry member
      rw [Std.TreeSet.mem_toList, isCallers.mem_entriesUnder] at member
      have known : entry ∈ callers.nodes :=
        (isCallers.mem_nodes entry).mpr
          (leadsTo_of_nothing_excluded.mpr member.2.2)
      rw [outcomeFrom, outcomeFrom, shortestPaths_within known enough]
    simp only [pathsForTarget, found, unlimited, mapM_congr sameOutcomes]
  · refine Or.inr ⟨exceeds, overrun, limited, ?_⟩
    simp only [pathsForTarget, failed]
    rfl

theorem answers_of_unlimited {graph : CallGraph} {root target : Node}
    {check : Bool} {result : TargetResult}
    (computed : graph.pathsForTarget root target none check = .ok result) :
    result.Answers graph root target := by
  rcases graph.pathsForTarget_cases root target none check with
    ⟨same, answered, answers⟩ | ⟨_, _, limited, -⟩
  · rcases Except.ok.inj (answered.symm.trans computed) with rfl
    exact answers
  · cases limited

end CallGraph

/-- How a result under a limit stands to the result for the same target without
one: it only has failures where more nodes lead to the target than the limit
allows; then there is a single one and nothing else, and otherwise the two are
the same. -/
structure TargetResult.IsLimited (graph : CallGraph) (limit : Option Nat)
    (result unlimited : TargetResult) : Prop where
  isFor : unlimited.target = result.target
  failures_iff : result.failures ≠ [] ↔
    Exceeds limit (graph.leadingTo result.target)
  single : result.failures ≠ [] →
    ∃ overrun : Overrun, limit = some overrun.limit ∧
    result = .cutShort result.target overrun
  complete : result.failures = [] → result = unlimited

theorem CallGraph.isLimited_of_pathsForTarget {graph : CallGraph}
    {root target : Node} {limit : Option Nat} {check : Bool}
    {result unlimited : TargetResult}
    (computed : graph.pathsForTarget root target limit check = .ok result)
    (computedFreely : graph.pathsForTarget root target none check =
      .ok unlimited) :
    result.IsLimited graph limit unlimited := by
  have isFor := target_of_pathsForTarget computed
  have isForToo := (target_of_pathsForTarget computedFreely).trans isFor.symm
  rcases graph.pathsForTarget_limited root target limit check with
    ⟨within, same⟩ | ⟨exceeds, overrun, limited, failed⟩
  · rcases Except.ok.inj (computed.symm.trans (same.trans computedFreely)) with
      rfl
    have noFailures := (answers_of_unlimited computedFreely).noFailures
    refine ⟨isForToo,
      ⟨fun failures => absurd noFailures failures, fun exceeds => ?_⟩,
      fun failures => absurd noFailures failures, fun _ => rfl⟩
    exact absurd (isFor ▸ exceeds) within
  · rcases Except.ok.inj (computed.symm.trans failed) with rfl
    exact ⟨isForToo, ⟨fun _ => exceeds, fun _ => List.cons_ne_nil _ _⟩,
      fun _ => ⟨overrun, limited, rfl⟩,
      fun none => absurd none (List.cons_ne_nil _ _)⟩

/-! ## All targets -/

theorem Settings.pos_of_unlimited (limit : Nat) (limited : none = some limit) :
    0 < limit := by
  cases limited

def Settings.unlimited (settings : Settings) : Settings :=
  { settings with maxVisits := none, maxVisits_pos := pos_of_unlimited }

section

variable {graph : CallGraph} {root : Node} {isTarget : Node → Bool}
  {settings other : Settings} {analysis second : Analysis}

theorem Analysis.IsOf.targets_eq
    (isOf : analysis.IsOf graph root isTarget settings)
    (isOfToo : second.IsOf graph root isTarget other) :
    analysis.targets = second.targets :=
  isOf.ascending.eq_of_mem_iff isOfToo.ascending fun target =>
    (isOf.mem_targets target).trans (isOfToo.mem_targets target).symm

theorem Analysis.IsOf.isLimited
    (isOf : analysis.IsOf graph root isTarget settings)
    (isOfToo : second.IsOf graph root isTarget settings.unlimited) :
    List.Forall₂ (TargetResult.IsLimited graph settings.maxVisits)
      analysis.results second.results := by
  have answered : List.Forall₂ (fun target unlimited =>
      graph.pathsForTarget root target none settings.checkInvariants =
        .ok unlimited)
      analysis.targets second.results :=
    isOf.targets_eq isOfToo ▸ isOfToo.answered
  refine forall₂_of_inputs ?_ isOf.answered answered
  intro target result unlimited computed computedFreely
  exact CallGraph.isLimited_of_pathsForTarget computed computedFreely

end

theorem CallGraph.exists_analyze_error_iff (graph : CallGraph) (root : Node)
    (isTarget : Node → Bool) (settings : Settings) :
    (∃ error, graph.analyze root isTarget settings = .error error) ↔
      Exceeds settings.maxVisits (graph.discoveredFrom root) := by
  rcases graph.analyze_limited root isTarget settings with
    ⟨within, analysis, computed, -⟩ | ⟨exceeds, overrun, -, failed⟩
  · refine ⟨?_, fun exceeds => absurd exceeds within⟩
    rintro ⟨error, failed⟩
    rw [computed] at failed
    cases failed
  · exact ⟨fun _ => exceeds, fun _ => ⟨_, failed⟩⟩

/-- An analysis fails just if more nodes are reached from the explicit callees
of the root than may be visited. Otherwise each target is on its own: where more
nodes lead to it than may be visited, this is all that is found for it, and
where not, it gets what it gets without a limit. No search from an entry
fails. -/
theorem CallGraph.analyze_fails_only_by_limit (graph : CallGraph) (root : Node)
    (isTarget : Node → Bool) (settings : Settings) :
    ((∃ error, graph.analyze root isTarget settings = .error error) ↔
      Exceeds settings.maxVisits (graph.discoveredFrom root)) ∧
    (∀ error, graph.analyze root isTarget settings = .error error →
      ∃ overrun, error = .budget overrun) ∧
    ∀ analysis, graph.analyze root isTarget settings = .ok analysis →
      analysis.results.map (·.target) = analysis.targets ∧
      (∀ failure ∈ analysis.failures, failure.entry = none) ∧
      ∃ unlimited,
        graph.analyze root isTarget settings.unlimited = .ok unlimited ∧
        unlimited.targets = analysis.targets ∧
        List.Forall₂ (TargetResult.IsLimited graph settings.maxVisits)
          analysis.results unlimited.results := by
  refine ⟨graph.exists_analyze_error_iff root isTarget settings,
    fun error failed => ?_, ?_⟩
  · rcases graph.analyze_cases root isTarget settings with
      ⟨analysis, computed, -⟩ | ⟨_, overrun, -, failedBy⟩
    · rw [computed] at failed
      cases failed
    · exact ⟨overrun, Except.error.inj (failed.symm.trans failedBy)⟩
  · intro analysis returned
    have isOf := isOf_of_analyze returned
    rcases graph.analyze_cases root isTarget settings.unlimited with
      ⟨unlimited, computed, isOfToo⟩ | ⟨_, _, limited, -⟩
    · have isLimited := isOf.isLimited isOfToo
      refine ⟨isOf.map_target, ?_, unlimited, computed,
        (isOf.targets_eq isOfToo).symm, isLimited⟩
      intro failure member
      rcases List.mem_flatMap.mp member with ⟨result, isResult, isFailure⟩
      exact (failures_of_pathsForTarget (isOf.result_of_mem isResult)
        isFailure).2
    · cases limited

end CallChains
