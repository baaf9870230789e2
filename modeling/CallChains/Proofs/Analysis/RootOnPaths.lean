import CallChains.Proofs.Analysis.AllTargets
/-!
When the root is on a reported path. The root stands for what triggers code from
outside and is no entry of its own. Where it is called itself it is a caller
like any other, so a path may leave an entry, come back to the root and go on
from there. It does so just where that is a shortest way.
-/

namespace CallChains

namespace CallGraph

/-- By way of a node, explicit calls lead from a source to a target, and no
explicit walk between the two is shorter. -/
def LiesBetween (graph : CallGraph) (node source target : Node) : Prop :=
  ∃ there onwards, graph.ExplicitWalk source there node ∧
    graph.ExplicitWalk node onwards target ∧
    ∀ calls, graph.ExplicitWalk source calls target →
      there.length + onwards.length ≤ calls.length

/-- Every shortest explicit walk from a source to a target visits a node: one
that leaves it out can be undercut. -/
def IsUnavoidable (graph : CallGraph) (node source target : Node) : Prop :=
  ∀ calls, graph.ExplicitWalk source calls target →
    node ∉ nodesVisited source calls →
    ∃ shorter, graph.ExplicitWalk source shorter target ∧
      shorter.length < calls.length

def NeverReturns (graph : CallGraph) (root : Node) : Prop :=
  ∀ call ∈ graph.edges, call.source = root → call.target ≠ root →
    ¬ graph.ReachesExplicitly call.target root

end CallGraph

section

variable {graph : CallGraph} {root node : Node} {path : CallPath}

theorem CallPath.IsShortest.liesBetween (shortest : path.IsShortest graph)
    (visited : node ∈ path.nodes) :
    graph.LiesBetween node path.entry path.target := by
  rw [CallPath.nodes_eq_nodesVisited shortest.walk] at visited
  rcases shortest.walk.split_at visited with
    ⟨there, onwards, split, before, after⟩
  refine ⟨there, onwards, before, after, ?_⟩
  intro calls walk
  rw [← List.length_append, ← split]
  exact shortest.least calls walk

theorem CallPath.IsShortest.mem_nodes (shortest : path.IsShortest graph)
    (unavoidable : graph.IsUnavoidable node path.entry path.target) :
    node ∈ path.nodes := by
  rw [CallPath.nodes_eq_nodesVisited shortest.walk]
  by_contra avoided
  rcases unavoidable path.edges shortest.walk avoided with
    ⟨calls, walk, shorter⟩
  have least := shortest.least calls walk
  rw [CallPath.length] at least
  omega

/-! ## One target -/

theorem CallGraph.path_of_pathsForTarget {target : Node} {limit : Option Nat}
    {check : Bool} {result : TargetResult}
    (computed : graph.pathsForTarget root target limit check = .ok result)
    (member : path ∈ result.paths) :
    path.IsShortest graph ∧ path.target = target ∧
      path.entry ∈ result.entries ∧ path.entry ≠ root ∧
      ∃ call ∈ graph.edges, call.source = root ∧ call.target = path.entry := by
  rcases graph.pathsForTarget_cases root target limit check with
    ⟨same, answered, answers⟩ | ⟨_, _, -, failed⟩
  · rcases Except.ok.inj (answered.symm.trans computed) with rfl
    rcases answers.shortest path member with ⟨isFor, shortest⟩
    have isEntry : path.entry ∈ same.entries := by
      have withPath : path.entry ∈ same.paths.map (·.entry) :=
        List.mem_map_of_mem member
      rw [answers.withPath] at withPath
      exact List.mem_of_mem_filter withPath
    rcases (answers.mem_entries path.entry).mp isEntry with ⟨other, called, -⟩
    exact ⟨shortest, isFor, isEntry, other, called⟩
  · rcases Except.ok.inj (failed.symm.trans computed) with rfl
    cases member

theorem CallGraph.exists_path_of_entry {target entry : Node}
    {limit : Option Nat} {check : Bool} {result : TargetResult}
    (computed : graph.pathsForTarget root target limit check = .ok result)
    (isEntry : entry ∈ result.entries)
    (reached : graph.ReachesExplicitly entry target) :
    ∃ path ∈ result.paths, path.entry = entry := by
  rcases graph.pathsForTarget_cases root target limit check with
    ⟨same, answered, answers⟩ | ⟨_, _, -, failed⟩
  · rcases Except.ok.inj (answered.symm.trans computed) with rfl
    have withPath : entry ∈ same.paths.map (·.entry) := by
      rw [answers.withPath]
      simpa [isEntry] using reached
    exact List.mem_map.mp withPath
  · rcases Except.ok.inj (failed.symm.trans computed) with rfl
    cases isEntry

theorem CallGraph.NeverReturns.not_mem_nodes (never : graph.NeverReturns root)
    {target : Node} {limit : Option Nat} {check : Bool} {result : TargetResult}
    (computed : graph.pathsForTarget root target limit check = .ok result)
    (member : path ∈ result.paths) : root ∉ path.nodes := by
  rcases path_of_pathsForTarget computed member with
    ⟨shortest, -, -, other, call, isCall, fromRoot, toEntry⟩
  intro visited
  rcases shortest.liesBetween visited with ⟨there, -, walk, -⟩
  rw [← toEntry] at other walk
  exact never call isCall fromRoot other ⟨there, walk⟩

end

/-! ## All targets -/

theorem Analysis.mem_methodsOnPaths {analysis : Analysis} {node : Node} :
    node ∈ analysis.methodsOnPaths ↔ ∃ result ∈ analysis.results,
      ∃ path ∈ result.paths, node ∈ path.nodes := by
  simp only [methodsOnPaths, paths, Std.TreeSet.mem_ofList,
    List.contains_iff_mem, List.mem_flatMap]
  constructor
  · rintro ⟨path, ⟨result, isResult, isPath⟩, visits⟩
    exact ⟨result, isResult, path, isPath, visits⟩
  · rintro ⟨result, isResult, path, isPath, visits⟩
    exact ⟨path, ⟨result, isResult, isPath⟩, visits⟩

namespace CallGraph

section

variable {graph : CallGraph} {root : Node} {isTarget : Node → Bool}
  {settings : Settings} {analysis : Analysis}

theorem liesBetween_of_mem_methodsOnPaths
    (returned : graph.analyze root isTarget settings = .ok analysis)
    (member : root ∈ analysis.methodsOnPaths) :
    ∃ result ∈ analysis.results, ∃ entry ∈ result.entries,
      graph.LiesBetween root entry result.target := by
  rcases Analysis.mem_methodsOnPaths.mp member with
    ⟨result, isResult, path, isPath, visits⟩
  have computed := (isOf_of_analyze returned).result_of_mem isResult
  rcases path_of_pathsForTarget computed isPath with
    ⟨shortest, same, isEntry, -⟩
  exact ⟨result, isResult, path.entry, isEntry,
    same ▸ shortest.liesBetween visits⟩

theorem mem_methodsOnPaths_of_isUnavoidable
    (returned : graph.analyze root isTarget settings = .ok analysis)
    {result : TargetResult} (isResult : result ∈ analysis.results)
    {entry : Node} (isEntry : entry ∈ result.entries)
    (reached : graph.ReachesExplicitly entry result.target)
    (unavoidable : graph.IsUnavoidable root entry result.target) :
    root ∈ analysis.methodsOnPaths := by
  have computed := (isOf_of_analyze returned).result_of_mem isResult
  rcases exists_path_of_entry computed isEntry reached with ⟨path, isPath, rfl⟩
  rcases path_of_pathsForTarget computed isPath with ⟨shortest, same, -⟩
  refine Analysis.mem_methodsOnPaths.mpr ⟨result, isResult, path, isPath, ?_⟩
  exact shortest.mem_nodes (same ▸ unavoidable)

end

/-- A path starts at an entry other than the root. It visits the root only if
the root lies between its entry and its target, and it does so if the root
cannot be avoided there; where both ways are shortest, the search decides. The
methods on paths follow suit. In particular the root is on no path where no
explicit calls lead from an entry back to it. -/
theorem root_on_paths_by_returns (graph : CallGraph) (root : Node) :
    (∀ target limit check, ∃ result,
      graph.pathsForTarget root target limit check = .ok result ∧
      ∀ path ∈ result.paths, path.entry ≠ root ∧ path.target = target ∧
        (root ∈ path.nodes → graph.LiesBetween root path.entry target) ∧
        (graph.IsUnavoidable root path.entry target → root ∈ path.nodes)) ∧
    (∀ isTarget settings analysis,
      graph.analyze root isTarget settings = .ok analysis →
      (root ∈ analysis.methodsOnPaths → ∃ result ∈ analysis.results,
        ∃ entry ∈ result.entries, graph.LiesBetween root entry result.target) ∧
      ∀ result ∈ analysis.results, ∀ entry ∈ result.entries,
        graph.ReachesExplicitly entry result.target →
        graph.IsUnavoidable root entry result.target →
        root ∈ analysis.methodsOnPaths) ∧
    (graph.NeverReturns root →
      (∀ target limit check result,
        graph.pathsForTarget root target limit check = .ok result →
        ∀ path ∈ result.paths, root ∉ path.nodes) ∧
      ∀ isTarget settings analysis,
        graph.analyze root isTarget settings = .ok analysis →
        root ∉ analysis.methodsOnPaths) := by
  refine ⟨?_, ?_, ?_⟩
  · intro target limit check
    rcases graph.exists_pathsForTarget root target limit check with
      ⟨result, computed⟩
    refine ⟨result, computed, fun path member => ?_⟩
    rcases path_of_pathsForTarget computed member with
      ⟨shortest, rfl, -, other, -⟩
    exact ⟨other, rfl, shortest.liesBetween, shortest.mem_nodes⟩
  · intro isTarget settings analysis returned
    refine ⟨liesBetween_of_mem_methodsOnPaths returned, ?_⟩
    intro result isResult entry isEntry
    exact mem_methodsOnPaths_of_isUnavoidable returned isResult isEntry
  · intro never
    refine ⟨fun _ _ _ _ computed _ => never.not_mem_nodes computed, ?_⟩
    intro isTarget settings analysis returned member
    rcases Analysis.mem_methodsOnPaths.mp member with
      ⟨result, isResult, path, isPath, visits⟩
    have computed := (isOf_of_analyze returned).result_of_mem isResult
    exact never.not_mem_nodes computed isPath visits

/-! ## Roots that are called -/

/-- An entry calls the root back, and there is no other way to the other
entry. -/
def returningCalls : CallGraph :=
  .ofEdges [{ source := "root", target := "a" },
    { source := "a", target := "root" }, { source := "root", target := "b" }]

def returningResult : TargetResult where
  target := "b"
  entries := ["a", "b"]
  paths := [
    { entry := "a", target := "b"
      edges := [{ source := "a", target := "root" },
        { source := "root", target := "b" }] },
    { entry := "b", target := "b", edges := [] }]

def returningAnalysis : Analysis where
  root := "root"
  entryPoints := ["a", "b"]
  targets := ["b"]
  results := [returningResult]

/-- A path to another target visits the root, so the root is among the methods
on paths. -/
theorem root_on_path_returningCalls :
    returningCalls.pathsForTarget "root" "b" none true = .ok returningResult ∧
    (∃ path ∈ returningResult.paths, path.nodes = ["a", "root", "b"]) ∧
    returningCalls.analyze "root" (· = "b") .standard = .ok returningAnalysis ∧
    "root" ∉ returningAnalysis.targets ∧
    "root" ∈ returningAnalysis.methodsOnPaths := by
  refine ⟨by decide +kernel, ⟨_, List.mem_cons_self, by decide⟩,
    by decide +kernel, by decide, by decide +kernel⟩

theorem edges_returningCalls : returningCalls.edges =
    [{ source := "root", target := "a" }, { source := "a", target := "root" },
      { source := "root", target := "b" }] := by
  simp [returningCalls, ofEdges]

theorem isUnavoidable_returningCalls :
    returningCalls.IsUnavoidable "root" "a" "b" := by
  intro calls walk avoided
  cases calls with
  | nil => simp [ExplicitWalk] at walk
  | cons call rest =>
      rcases walk with ⟨start, ⟨member, -⟩, -⟩
      simp only [edges_returningCalls, List.mem_cons, List.not_mem_nil,
        or_false] at member
      rcases member with rfl | rfl | rfl
      · simp at start
      · simp [nodesVisited] at avoided
      · simp at start

def straightCalls : CallGraph :=
  .ofEdges [{ source := "root", target := "a" },
    { source := "a", target := "b" }]

def straightResult : TargetResult where
  target := "b"
  entries := ["a"]
  paths := [
    { entry := "a", target := "b",
      edges := [{ source := "a", target := "b" }] }]

theorem neverReturns_straightCalls : straightCalls.NeverReturns "root" := by
  rintro call - - elsewhere ⟨calls, walk⟩
  rcases List.eq_nil_or_concat calls with rfl | ⟨before, last, rfl⟩
  · exact elsewhere walk
  · rw [List.concat_eq_append, ExplicitWalk, walk_concat] at walk
    rcases walk with ⟨-, ⟨member, -⟩, finish⟩
    simp only [straightCalls, ofEdges, edges_addEdges, edges_empty,
      List.nil_append, List.mem_cons, List.not_mem_nil, or_false] at member
    rcases member with rfl | rfl <;> simp at finish

theorem root_on_paths_by_returns_unavoidable :
    (returningCalls.analyze "root" (· = "b") .standard = .ok returningAnalysis ∧
      returningCalls.IsUnavoidable "root" "a" "b" ∧
      "root" ∈ returningAnalysis.methodsOnPaths ∧
      returningCalls.LiesBetween "root" "a" "b") ∧
    straightCalls.NeverReturns "root" ∧
    straightCalls.pathsForTarget "root" "b" none true = .ok straightResult ∧
    ∀ path ∈ straightResult.paths, "root" ∉ path.nodes := by
  have returned : returningCalls.analyze "root" (· = "b") .standard =
      .ok returningAnalysis := by decide +kernel
  have computed : returningCalls.pathsForTarget "root" "b" none true =
      .ok returningResult := by decide +kernel
  have straight : straightCalls.pathsForTarget "root" "b" none true =
      .ok straightResult := by decide +kernel
  have reached : returningCalls.ReachesExplicitly "a" "b" := by
    refine ⟨[{ source := "a", target := "root" },
      { source := "root", target := "b" }], ?_⟩
    simp [ExplicitWalk, IsExplicitCall, edges_returningCalls]
  rcases root_on_paths_by_returns returningCalls "root" with ⟨paths, methods, -⟩
  rcases root_on_paths_by_returns straightCalls "root" with ⟨-, -, never⟩
  refine ⟨⟨returned, isUnavoidable_returningCalls, ?_, ?_⟩,
    neverReturns_straightCalls, straight, ?_⟩
  · exact (methods _ _ _ returned).2 returningResult List.mem_cons_self "a"
      List.mem_cons_self reached isUnavoidable_returningCalls
  · rcases paths "b" none true with ⟨result, computedToo, each⟩
    rcases Except.ok.inj (computed.symm.trans computedToo) with rfl
    rcases each _ List.mem_cons_self with ⟨-, -, between, visited⟩
    exact between (visited isUnavoidable_returningCalls)
  · exact (never neverReturns_straightCalls).1 _ _ _ _ straight

end CallGraph

end CallChains
