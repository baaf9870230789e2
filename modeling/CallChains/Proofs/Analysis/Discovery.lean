import CallChains.Proofs.Analysis.AllTargets
import CallChains.Proofs.Graph.Budgets
import CallChains.Proofs.Target.Matching
import CallChains.Request
/-!
Discovery of targets on its own: what it comes to when nothing is looked for,
that the order of its roots makes no difference, and that an analysis is of just
what it discovers.
-/

namespace CallChains

/-! ## Nothing to look for -/

theorem Document.matcher_isEmpty_iff {document : Document} {settings : Settings}
    {matcher : TargetMatcher}
    (isMatcher : document.matcher settings = .ok matcher) :
    matcher.isEmpty = true ↔ settings.targets = [] := by
  rcases bind_eq_ok_iff.mp (mapError_eq_ok_iff.mp isMatcher) with
    ⟨targets, read, same⟩
  rw [← Except.ok.inj same, TargetMatcher.isEmpty_foldl_add,
    eq_nil_iff_of_mapM read, List.map_eq_nil_iff]

theorem Document.matcher_isEmpty_eq_false {document : Document}
    {settings : Settings} {matcher : TargetMatcher}
    (isMatcher : document.matcher settings = .ok matcher)
    (wanted : settings.targets ≠ []) : matcher.isEmpty = false :=
  Bool.eq_false_iff.mpr fun empty =>
    wanted ((matcher_isEmpty_iff isMatcher).mp empty)

/-! ## The order of the entries -/

theorem CallGraph.reachableTargets_of_same_roots (graph : CallGraph)
    {roots others : List Node} (same : ∀ node, node ∈ roots ↔ node ∈ others)
    (isTarget : Node → Bool) (limit : Option Nat) :
    (graph.reachableTargets roots isTarget limit).toOption.map (·.toList) =
      (graph.reachableTargets others isTarget limit).toOption.map
        (·.toList) := by
  have isClosure (node : Node) : node ∈
        graph.reachedFrom {root | root ∈ roots} ↔
      ∃ root ∈ roots, graph.ReachesExplicitly root node := Iff.rfl
  have sameClosure (node : Node) : node ∈
        graph.reachedFrom {root | root ∈ roots} ↔
      ∃ root ∈ others, graph.ReachesExplicitly root node := by
    rw [isClosure]
    simp only [same]
  rcases graph.forwardClosure_limited roots limit isClosure with
    ⟨within, reached, searched, isReached⟩ | ⟨exceeds, overrun, -, failed⟩
  · rcases graph.forwardClosure_limited others limit sameClosure with
      ⟨-, otherReached, otherSearched, isOtherReached⟩ | ⟨exceeds, -⟩
    · simp only [reachableTargets, searched, otherSearched, bind, Except.bind,
        pure, Except.pure, Except.toOption, Option.map_some, Option.some.injEq]
      apply (pairwise_toList _).eq_of_mem_iff (pairwise_toList _)
      intro node
      simp [Std.TreeSet.mem_filter, isReached, isOtherReached]
    · exact absurd exceeds within
  · rcases graph.forwardClosure_limited others limit sameClosure with
      ⟨within, -⟩ | ⟨-, otherOverrun, -, otherFailed⟩
    · exact absurd exceeds within
    · simp only [reachableTargets, failed, otherFailed]
      rfl

theorem CallGraph.analyze_discovery_cases (graph : CallGraph) (root : Node)
    (isTarget : Node → Bool) (settings : Settings) :
    (∃ overrun, graph.reachableTargets (graph.directCallees root).toList
      isTarget settings.maxVisits =
        .error overrun ∧
        graph.analyze root isTarget settings = .error (.budget overrun)) ∨
    ∃ reached analysis,
      graph.reachableTargets (graph.directCallees root).toList isTarget
        settings.maxVisits = .ok reached ∧
          graph.analyze root isTarget settings = .ok analysis ∧
      analysis.root = root ∧ analysis.targets = reached.toList := by
  rw [analyze_eq_serial]
  cases graph.reachableTargets (graph.directCallees root).toList isTarget
    settings.maxVisits with
  | error overrun => exact Or.inl ⟨overrun, rfl, rfl⟩
  | ok reached =>
      rcases exists_mapM fun target (_ : target ∈ reached.toList) =>
        graph.exists_pathsForTarget root target settings.maxVisits
          settings.checkInvariants with
        ⟨results, computed⟩
      simp only [bind, Except.bind, Except.mapError, computed]
      exact Or.inr ⟨reached, _, rfl, rfl, rfl, rfl⟩

end CallChains
