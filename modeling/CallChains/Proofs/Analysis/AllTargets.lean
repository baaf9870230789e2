import CallChains.Proofs.Analysis.OneTarget
/-!
Discovery and search agree. Targets are discovered forward, from the explicit
callees of the root; their paths are searched among their callers, from callees
of the root other than itself. A discovered target still has a path, because an
explicit walk to it leaves the root for good by some call.
-/

namespace CallChains

structure Analysis.IsOf (graph : CallGraph) (root : Node)
    (isTarget : Node → Bool) (settings : Settings)
    (analysis : Analysis) : Prop where
  isFor : analysis.root = root
  entries : analysis.entryPoints = (graph.directCallees root).toList
  ascending : analysis.targets.Pairwise (· < ·)
  mem_targets : ∀ target, target ∈ analysis.targets ↔ isTarget target = true ∧
    ∃ call, graph.IsExplicitCall call ∧ call.source = root ∧
      graph.ReachesExplicitly call.target target
  answered : List.Forall₂
    (fun target result => graph.pathsForTarget root target settings.maxVisits
    settings.checkInvariants = .ok result) analysis.targets analysis.results

namespace CallGraph

variable {graph : CallGraph} {root target : Node}

theorem mem_toList_directCallees {callee : Node} :
    callee ∈ (graph.directCallees root).toList ↔
    ∃ call, graph.IsExplicitCall call ∧ call.source = root ∧
      call.target = callee := by
  rw [Std.TreeSet.mem_toList, mem_directCallees]
  constructor
  · rintro ⟨call, member, start, explicit, finish⟩
    exact ⟨call, ⟨member, explicit⟩, start, finish⟩
  · rintro ⟨call, ⟨member, explicit⟩, start, finish⟩
    exact ⟨call, member, start, explicit, finish⟩

theorem analyze_eq (graph : CallGraph) (root : Node) (isTarget : Node → Bool)
    (settings : Settings) :
    graph.analyze root isTarget settings =
      (((graph.forwardClosure (graph.directCallees root).toList
        settings.maxVisits).map
          (·.filter isTarget)).mapError .budget).bind fun reached =>
        (reached.toList.mapM fun target =>
            graph.pathsForTarget root target settings.maxVisits
              settings.checkInvariants).bind
          fun results => .ok {
            root
            entryPoints := (graph.directCallees root).toList
            targets := reached.toList
            results } := by
  rw [analyze_eq_serial, reachableTargets]
  cases graph.forwardClosure (graph.directCallees root).toList
    settings.maxVisits <;> rfl

theorem mem_discoveredFrom {node : Node} : node ∈ graph.discoveredFrom root ↔
    ∃ callee ∈ (graph.directCallees root).toList,
      graph.ReachesExplicitly callee node := by
  constructor
  · rintro ⟨call, explicit, start, walk⟩
    exact ⟨call.target,
      mem_toList_directCallees.mpr ⟨call, explicit, start, rfl⟩, walk⟩
  · rintro ⟨callee, isCallee, walk⟩
    rcases mem_toList_directCallees.mp isCallee with
      ⟨call, explicit, start, rfl⟩
    exact ⟨call, explicit, start, walk⟩

theorem analyze_limited (graph : CallGraph) (root : Node)
    (isTarget : Node → Bool) (settings : Settings) :
    (¬ Exceeds settings.maxVisits (graph.discoveredFrom root) ∧
      ∃ analysis, graph.analyze root isTarget settings = .ok analysis ∧
        analysis.IsOf graph root isTarget settings) ∨
    (Exceeds settings.maxVisits (graph.discoveredFrom root) ∧
      ∃ overrun : Overrun, settings.maxVisits = some overrun.limit ∧
        graph.analyze root isTarget settings = .error (.budget overrun)) := by
  rcases graph.forwardClosure_limited (graph.directCallees root).toList
    settings.maxVisits (fun _ => mem_discoveredFrom) with
    ⟨within, closure, closed, mem_closure⟩ | ⟨exceeds, overrun, limited, failed⟩
  · let targets := (closure.filter isTarget).toList
    have each : ∀ target ∈ targets, ∃ result,
        graph.pathsForTarget root target settings.maxVisits
          settings.checkInvariants = .ok result ∧
        graph.pathsForTarget root target settings.maxVisits
          settings.checkInvariants = .ok result := by
      intro target _
      rcases graph.exists_pathsForTarget root target settings.maxVisits
        settings.checkInvariants with
        ⟨result, computed⟩
      exact ⟨result, computed, computed⟩
    rcases exists_mapM_ok each with ⟨results, ran, answered⟩
    refine Or.inl ⟨within,
      { root, entryPoints := (graph.directCallees root).toList, targets,
        results }, ?_,
      rfl, rfl, pairwise_toList _, ?_, answered⟩
    · rw [analyze_eq, closed]
      simp only [Except.map, Except.bind, Except.mapError]
      rw [ran]
    · intro target
      rw [Std.TreeSet.mem_toList, Std.TreeSet.mem_filter]
      simp only [Std.TreeSet.get_eq, exists_prop, mem_closure]
      exact and_comm
  · refine Or.inr ⟨exceeds, overrun, limited, ?_⟩
    rw [analyze_eq, failed]
    rfl

theorem analyze_cases (graph : CallGraph) (root : Node) (isTarget : Node → Bool)
    (settings : Settings) :
    (∃ analysis, graph.analyze root isTarget settings = .ok analysis ∧
      analysis.IsOf graph root isTarget settings) ∨
    ∃ most overrun, settings.maxVisits = some most ∧
      graph.analyze root isTarget settings = .error (.budget overrun) := by
  rcases graph.analyze_limited root isTarget settings with
    ⟨-, succeeded⟩ | ⟨-, overrun, limited, failed⟩
  · exact Or.inl succeeded
  · exact Or.inr ⟨overrun.limit, overrun, limited, failed⟩

theorem isOf_of_analyze {isTarget : Node → Bool} {settings : Settings}
    {analysis : Analysis}
    (returned : graph.analyze root isTarget settings = .ok analysis) :
    analysis.IsOf graph root isTarget settings := by
  rcases graph.analyze_cases root isTarget settings with
    ⟨found, computed, isOf⟩ | ⟨_, _, -, failed⟩
  · rcases Except.ok.inj (computed.symm.trans returned) with rfl
    exact isOf
  · rw [failed] at returned
    cases returned

end CallGraph

/-! ## Results -/

theorem CallGraph.target_of_pathsForTarget {graph : CallGraph}
    {root target : Node} {limit : Option Nat} {check : Bool}
    {result : TargetResult}
    (computed : graph.pathsForTarget root target limit check = .ok result) :
    result.target = target := by
  rcases graph.pathsForTarget_cases root target limit check with
    ⟨same, answered, answers⟩ | ⟨_, _, -, failed⟩
  · rw [computed] at answered
    exact Except.ok.inj answered ▸ answers.isFor
  · rw [computed] at failed
    rw [Except.ok.inj failed]

section Results

variable {graph : CallGraph} {root : Node} {isTarget : Node → Bool}
  {settings : Settings} {analysis : Analysis}

theorem Analysis.IsOf.map_target
    (isOf : analysis.IsOf graph root isTarget settings) :
    analysis.results.map (·.target) = analysis.targets := by
  have same : List.Forall₂ Eq analysis.targets
      (analysis.results.map (·.target)) :=
    List.forall₂_map_right_iff.mpr (isOf.answered.imp fun _ _ computed =>
      (CallGraph.target_of_pathsForTarget computed).symm)
  rw [List.forall₂_eq_eq_eq] at same
  exact same.symm

theorem Analysis.IsOf.result_of_mem
    (isOf : analysis.IsOf graph root isTarget settings) {result : TargetResult}
    (member : result ∈ analysis.results) :
    graph.pathsForTarget root result.target settings.maxVisits
      settings.checkInvariants =
      .ok result := by
  rcases exists_of_mem_right isOf.answered result member with
    ⟨target, -, computed⟩
  rw [CallGraph.target_of_pathsForTarget computed]
  exact computed

end Results

/-- A target that is discovered from an explicit callee of the root has a path
from one. The callee need not be the same, as the walk may come back to the
root. -/
theorem TargetResult.Answers.exists_path {graph : CallGraph}
    {root target : Node} {result : TargetResult}
    (answers : result.Answers graph root target) (other : target ≠ root)
    {call : Edge} (explicit : graph.IsExplicitCall call)
    (start : call.source = root)
    (reached : graph.ReachesExplicitly call.target target) :
    ∃ path ∈ result.paths, path.entry ∈ (graph.directCallees root).toList := by
  rcases reached with ⟨calls, walk⟩
  have whole : graph.ExplicitWalk root (call :: calls) target :=
    ⟨start, explicit, walk⟩
  -- Behind its last departure from the root the walk starts at an entry.
  rcases whole.last_departure other with
    elsewhere | ⟨departing, member, fromRoot, leaves, rest, after⟩
  · exact absurd rfl elsewhere
  · have departs := whole.admitted_of_mem member
    have reached : graph.ReachesExplicitly departing.target target :=
      ⟨rest, after⟩
    have isEntry : departing.target ∈ result.entries :=
      (answers.mem_entries _).mpr
        ⟨leaves, ⟨departing, departs.1, fromRoot, rfl⟩, reached.reaches⟩
    have hasPath : departing.target ∈ result.paths.map (·.entry) := by
      rw [answers.withPath]
      simpa [isEntry] using reached
    rcases List.mem_map.mp hasPath with ⟨path, isPath, entry⟩
    exact ⟨path, isPath, CallGraph.mem_toList_directCallees.mpr
      ⟨departing, departs, fromRoot, entry.symm⟩⟩

namespace CallGraph

/-- Discovery and search agree. The targets of an analysis are the wanted nodes
that explicit calls reach from an explicit callee of the root, in order, each
with its own result; and unless the target is the root itself, the result has a
path from an entry point, or there were too many callers to look at. -/
theorem analyze_discovers (graph : CallGraph) (root : Node)
    (isTarget : Node → Bool) (settings : Settings) {analysis : Analysis}
    (returned : graph.analyze root isTarget settings = .ok analysis) :
    analysis.targets.Pairwise (· < ·) ∧
    (∀ target, target ∈ analysis.targets ↔
      isTarget target = true ∧ ∃ call ∈ graph.edges,
      call.explicit = true ∧ call.source = root ∧
      graph.ReachesExplicitly call.target target) ∧
    analysis.results.map (·.target) = analysis.targets ∧
    ∀ result ∈ analysis.results, result.target ≠ root →
      (∃ path ∈ result.paths, path.entry ∈ analysis.entryPoints) ∨
      ∃ overrun, result.failures =
        [{ target := result.target, entry := none,
           error := .budget overrun }] := by
  rcases graph.analyze_cases root isTarget settings with
    ⟨found, computed, isOf⟩ | ⟨_, _, -, failed⟩
  · rcases Except.ok.inj (computed.symm.trans returned) with rfl
    refine ⟨isOf.ascending, fun target => ?_, isOf.map_target,
      fun result member other => ?_⟩
    · rw [isOf.mem_targets]
      simp only [IsExplicitCall, and_assoc]
    · have isTarget : result.target ∈ found.targets :=
        isOf.map_target ▸ List.mem_map_of_mem member
      rcases (isOf.mem_targets result.target).mp isTarget with
        ⟨-, call, explicit, start, reached⟩
      have answered := isOf.result_of_mem member
      rcases graph.pathsForTarget_cases root result.target settings.maxVisits
        settings.checkInvariants with
          ⟨same, computed, answers⟩ | ⟨most, overrun, -, failed⟩
      · rcases Except.ok.inj (computed.symm.trans answered) with rfl
        rw [isOf.entries]
        exact Or.inl (answers.exists_path other explicit start reached)
      · rw [answered] at failed
        refine Or.inr ⟨overrun, ?_⟩
        exact congrArg TargetResult.failures (Except.ok.inj failed)
  · rw [failed] at returned
    cases returned

def loopedCalls : CallGraph :=
  .ofEdges [{ source := "root", target := "a" },
    { source := "a", target := "root" }, { source := "root", target := "b" },
    { source := "b", target := "c" }]

def loopedAnalysis : Analysis where
  root := "root"
  entryPoints := ["a", "b"]
  targets := ["c"]
  results := [{
    target := "c"
    entries := ["a", "b"]
    paths := [
      { entry := "a", target := "c"
        edges := [{ source := "a", target := "root" },
          { source := "root", target := "b" },
          { source := "b", target := "c" }] },
      { entry := "b", target := "c",
        edges := [{ source := "b", target := "c" }] }] }]

theorem loopedAnalysis_discovers :
    loopedCalls.analyze "root" (· = "c") .standard = .ok loopedAnalysis ∧
    loopedAnalysis.results.map (·.target) = loopedAnalysis.targets ∧
    ∀ result ∈ loopedAnalysis.results, result.target ≠ "root" →
      (∃ path ∈ result.paths, path.entry ∈ loopedAnalysis.entryPoints) ∨
      ∃ overrun, result.failures =
        [{ target := result.target, entry := none,
           error := .budget overrun }] := by
  have returned : loopedCalls.analyze "root" (· = "c") .standard =
      .ok loopedAnalysis := by
    decide +kernel
  rcases analyze_discovers loopedCalls "root" _ .standard returned with
    ⟨-, -, results, discovered⟩
  exact ⟨returned, results, discovered⟩

end CallGraph

end CallChains
