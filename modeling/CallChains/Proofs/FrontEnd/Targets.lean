import CallChains.Proofs.Analysis.Discovery
import CallChains.Proofs.FrontEnd.Paths
/-!
The command for targets and the tool for targets list the same targets, and they
are those that the command for paths analyses. They part in one case: where
nothing is given to look for, both commands and the tool for paths refuse the
request, and the tool for targets answers it with a list of no targets.
-/

namespace CallChains

/-! ## The same listing -/

def Document.listed (document : Document) (settings : Settings) :
    Except RequestError (Node × List Node) := do
  let rooted ← document.rooted settings
  let matcher ← document.matcher settings
  let reached ← rooted.reachableTargets matcher settings
  return (rooted.root, reached.toList)

section

variable {document : Document} {settings : Settings}

theorem Document.analysisUnder_eq_listed (document : Document)
    (wanted : settings.targets ≠ []) :
    (document.analysisUnder settings).map
      (·.map fun analysis => (analysis.root, analysis.targets)) =
      (document.listed settings).map some := by
  rw [analysisUnder, listed]
  cases document.rooted settings with
  | error error => rfl
  | ok rooted =>
      cases isMatcher : document.matcher settings with
      | error error => rfl
      | ok matcher =>
          have notEmpty := matcher_isEmpty_eq_false isMatcher wanted
          simp only [bind, Except.bind, notEmpty, RootedGraph.analyze,
            RootedGraph.reachableTargets, RootedGraph.entries]
          rcases rooted.graph.analyze_discovery_cases rooted.root
            matcher.accepts settings with
            ⟨overrun, discovery, analyzed⟩
              | ⟨reached, analysis, discovery, analyzed, root, targets⟩
          · rw [discovery, analyzed]
            rfl
          · rw [discovery, analyzed]
            simp [Except.map, Except.mapError, pure, Except.pure, root, targets]

theorem Document.exists_analysis_of_listed {start : Node} {names : List Node}
    (wanted : settings.targets ≠ [])
    (isListed : document.listed settings = .ok (start, names)) :
    ∃ analysis, document.analysisUnder settings = .ok (some analysis) ∧
      analysis.root = start ∧ analysis.targets = names := by
  have same := document.analysisUnder_eq_listed wanted
  rw [isListed, Except.map, map_eq_ok_iff] at same
  rcases same with ⟨found, analyzed, told⟩
  rcases Option.map_eq_some_iff.mp told with ⟨analysis, rfl, told⟩
  rcases told with ⟨rfl, rfl⟩
  exact ⟨analysis, analyzed, rfl, rfl⟩

theorem Document.listed_of_analysisUnder {analysis : Analysis}
    (analyzed : document.analysisUnder settings = .ok (some analysis)) :
    settings.targets ≠ [] ∧
    document.listed settings = .ok (analysis.root, analysis.targets) := by
  rcases analysisUnder_eq_some_iff.mp analyzed with
    ⟨_, matcher, -, isMatcher, notEmpty, -⟩
  have wanted : settings.targets ≠ [] := fun nothing => by
    rw [(matcher_isEmpty_iff isMatcher).mpr nothing] at notEmpty
    cases notEmpty
  have same := document.analysisUnder_eq_listed wanted
  rw [analyzed, Except.map, eq_comm, map_eq_ok_iff] at same
  rcases same with ⟨found, isListed, told⟩
  rcases Option.some.inj told with rfl
  exact ⟨wanted, isListed⟩

/-- The wanted nodes that are reached from the entries of a root, in ascending
order. They are reached in whatever order the entries are taken up. -/
def Document.Discovers (document : Document) (settings : Settings)
    (start : Node) (names : List Node) : Prop :=
  ∃ (rooted : RootedGraph) (matcher : TargetMatcher),
    document.rooted settings = .ok rooted ∧
    document.matcher settings = .ok matcher ∧ rooted.root = start ∧
    ∀ entries : List Node, (∀ node, node ∈ entries ↔ node ∈ rooted.entries) →
      ∃ reached, rooted.graph.reachableTargets entries matcher.accepts
        settings.maxVisits = .ok reached ∧
      reached.toList = names

theorem Document.listed_eq_ok_iff {start : Node} {names : List Node} :
    document.listed settings = .ok (start, names) ↔
      document.Discovers settings start names := by
  constructor
  · intro isListed
    rcases bind_eq_ok_iff.mp isListed with ⟨rooted, isRooted, rest⟩
    rcases bind_eq_ok_iff.mp rest with ⟨matcher, isMatcher, rest⟩
    rcases bind_eq_ok_iff.mp rest with ⟨reached, searched, same⟩
    rcases Except.ok.inj same with ⟨rfl, rfl⟩
    refine ⟨rooted, matcher, isRooted, isMatcher, rfl,
      fun entries sameEntries => ?_⟩
    have sameTargets := rooted.graph.reachableTargets_of_same_roots
      (fun node => (sameEntries node).trans Std.TreeSet.mem_toList.symm)
      matcher.accepts settings.maxVisits
    rw [mapError_eq_ok_iff.mp searched] at sameTargets
    cases found : rooted.graph.reachableTargets entries matcher.accepts
      settings.maxVisits with
    | error overrun =>
        rw [found] at sameTargets
        cases sameTargets
    | ok other =>
        rw [found] at sameTargets
        exact ⟨other, rfl, Option.some.inj sameTargets⟩
  · rintro ⟨rooted, matcher, isRooted, isMatcher, rfl, discovers⟩
    rcases discovers rooted.entries.toList fun _ =>
      Std.TreeSet.mem_toList with ⟨reached, searched, rfl⟩
    refine bind_eq_ok_iff.mpr
      ⟨rooted, isRooted, bind_eq_ok_iff.mpr ⟨matcher, isMatcher, ?_⟩⟩
    exact bind_eq_ok_iff.mpr ⟨reached, mapError_eq_ok_iff.mpr searched, rfl⟩

theorem Document.Discovers.eq_nil {start : Node} {names : List Node}
    (discovers : document.Discovers settings start names)
    (nothing : settings.targets = []) :
    names = [] := by
  rcases discovers with ⟨rooted, matcher, -, isMatcher, -, inAnyOrder⟩
  rcases inAnyOrder rooted.entries.toList fun _ =>
    Std.TreeSet.mem_toList with ⟨reached, searched, rfl⟩
  rcases bind_eq_ok_iff.mp searched with ⟨closure, -, same⟩
  apply List.eq_nil_iff_forall_not_mem.mpr
  intro node member
  rw [← Except.ok.inj same, Std.TreeSet.mem_toList,
    Std.TreeSet.mem_filter] at member
  rcases member with ⟨isMember, accepted⟩
  rw [TargetMatcher.accepts_of_isEmpty
    ((matcher_isEmpty_iff isMatcher).mpr nothing)] at accepted
  cases accepted

end

/-! ## The same answer -/

def targetsCommand (path : String) (root : Option String)
    (targets : Option (List String)) : Invocation :=
  { command := .targets root targets, graph := path, json := true }

def listing (start : Node) (names : List Node) : Json :=
  .obj [("root", .str start), ("targets", Json.texts names)]

def Workspace.NothingWanted (workspace : Workspace)
    (overrides : Members) : Prop :=
  ∃ settings, workspace.settingsWith none overrides = .ok settings ∧
    settings.targets = []

section

variable {workspace : Workspace} {arguments : Members} {path : String}
  {root : Option String} {targets : Option (List String)} {document : Document}
  {settings : Settings}

theorem Invocation.run_targetsCommand (path : String) (root : Option String)
    (targets : Option (List String)) (workspace : Workspace) :
    (targetsCommand path root targets).run workspace =
      match (targetsCommand path root targets).runTargets workspace root
        targets with
      | .ok response => response
      | .error error => .failed error := rfl

theorem Invocation.runTargets_of_loads
    (loads : workspace.Loads path
      ({ root, targets } : AnalysisOptions).overrides settings document)
    (wanted : settings.targets ≠ []) :
    (targetsCommand path root targets).runTargets workspace root targets =
      (document.listed settings).map fun found =>
        .ofJson (listing found.1 found.2) := by
  simp only [runTargets, targetsCommand, Invocation.settings, loads.1, loads.2,
    Document.listed, bind, Except.bind]
  cases document.rooted settings with
  | error error => rfl
  | ok rooted =>
      cases isMatcher : document.matcher settings with
      | error error => rfl
      | ok matcher =>
          have notEmpty := Document.matcher_isEmpty_eq_false isMatcher wanted
          simp only [notEmpty]
          cases rooted.reachableTargets matcher settings <;> rfl

theorem Invocation.not_success_of_nothingWanted
    (nothing : workspace.NothingWanted
      ({ root, targets } : AnalysisOptions).overrides) :
    ((targetsCommand path root targets).run workspace).ending ≠ .success := by
  rcases nothing with ⟨settings, configured, nothing⟩
  rw [run_targetsCommand]
  cases responded :
    (targetsCommand path root targets).runTargets workspace root targets with
  | error error => exact Response.ending_failed_ne_success error
  | ok response =>
      rcases bind_eq_ok_iff.mp responded with ⟨chosen, isChosen, rest⟩
      rcases Except.ok.inj (configured.symm.trans isChosen) with rfl
      rcases bind_eq_ok_iff.mp rest with ⟨document, -, rest⟩
      rcases bind_eq_ok_iff.mp rest with ⟨rooted, -, rest⟩
      rcases bind_eq_ok_iff.mp rest with ⟨matcher, isMatcher, rest⟩
      rw [if_pos ((Document.matcher_isEmpty_iff isMatcher).mpr nothing)] at rest
      rw [← Except.ok.inj rest]
      exact nofun

theorem Invocation.exists_loads_of_runTargets {response : Response}
    (responded : (targetsCommand path root targets).runTargets workspace root
      targets = .ok response) :
    ∃ settings document,
      workspace.Loads path ({ root, targets } : AnalysisOptions).overrides
        settings document := by
  rcases bind_eq_ok_iff.mp responded with ⟨settings, configured, rest⟩
  rcases bind_eq_ok_iff.mp rest with ⟨document, loaded, -⟩
  exact ⟨settings, document, configured, loaded⟩

theorem Tool.answerTargets_of_loads (asked : AskFor arguments path root targets)
    (loads : workspace.Loads path
      ({ root, targets } : AnalysisOptions).overrides settings document) :
    answerTargets workspace arguments =
      ((document.listed settings).mapError .request).map fun found =>
        listing found.1 found.2 := by
  have configured := asked.settingsWith_eq workspace ▸ loads.1
  rw [answerTargets, load_eq asked.graph loads.2 configured, Document.listed]
  simp only [bind, Except.bind]
  cases document.rooted settings with
  | error error => rfl
  | ok rooted =>
      cases document.matcher settings with
      | error error => rfl
      | ok matcher =>
          simp only [Except.mapError]
          cases rooted.reachableTargets matcher settings <;> rfl

/-- A request for which something is wanted, and the root and the targets that
are discovered for it. -/
def Workspace.Finds (workspace : Workspace) (path : String)
    (overrides : Members) (start : Node) (names : List Node) : Prop :=
  ∃ settings document, workspace.Loads path overrides settings document ∧
    settings.targets ≠ [] ∧
    document.Discovers settings start names

theorem Workspace.Finds.not_nothingWanted {overrides : Members} {start : Node}
    {names : List Node} (finds : workspace.Finds path overrides start names) :
    ¬ workspace.NothingWanted overrides := by
  rcases finds with ⟨settings, _, loads, wanted, -⟩
  rintro ⟨other, configured, nothing⟩
  rcases Except.ok.inj (loads.1.symm.trans configured) with rfl
  exact wanted nothing

section

variable {start : Node} {names : List Node}

theorem Workspace.Finds.ascending {overrides : Members}
    (finds : workspace.Finds path overrides start names) :
    names.Pairwise (· < ·) := by
  rcases finds with ⟨_, _, -, -, rooted, matcher, -, -, -, inAnyOrder⟩
  rcases inAnyOrder rooted.entries.toList fun _ =>
    Std.TreeSet.mem_toList with ⟨reached, -, rfl⟩
  exact pairwise_toList reached

theorem targetsCommand_of_finds
    (finds : workspace.Finds path
      ({ root, targets } : AnalysisOptions).overrides start names) :
    (targetsCommand path root targets).run workspace =
      .ofJson (listing start names) := by
  rcases finds with ⟨settings, document, loads, wanted, discovers⟩
  rw [Invocation.run_targetsCommand,
    Invocation.runTargets_of_loads loads wanted,
    Document.listed_eq_ok_iff.mpr discovers]
  rfl

theorem exists_finds_of_targetsCommand
    (success : ((targetsCommand path root targets).run workspace).ending =
      .success) :
    ∃ start names,
      workspace.Finds path ({ root, targets } : AnalysisOptions).overrides start
        names := by
  cases responded :
    (targetsCommand path root targets).runTargets workspace root targets with
  | error error =>
      rw [Invocation.run_targetsCommand, responded] at success
      exact absurd success (Response.ending_failed_ne_success error)
  | ok response =>
      rcases Invocation.exists_loads_of_runTargets responded with
        ⟨settings, document, loads⟩
      have wanted : settings.targets ≠ [] := fun nothing =>
        Invocation.not_success_of_nothingWanted
          ⟨settings, loads.1, nothing⟩ success
      rw [Invocation.runTargets_of_loads loads wanted,
        map_eq_ok_iff] at responded
      rcases responded with ⟨⟨start, names⟩, isListed, -⟩
      exact ⟨start, names, settings, document, loads, wanted,
        Document.listed_eq_ok_iff.mp isListed⟩

theorem pathsCommand_of_finds
    (finds : workspace.Finds path
      ({ root, targets } : AnalysisOptions).overrides start names) :
    ∃ analysis : Analysis,
      (pathsCommand path root targets).run workspace =
        .ofJson analysis.toJson ∧
      analysis.root = start ∧ analysis.targets = names ∧
      analysis.results.map (·.target) = names := by
  rcases finds with ⟨settings, document, loads, wanted, discovers⟩
  rcases Document.exists_analysis_of_listed wanted
    (Document.listed_eq_ok_iff.mpr discovers) with
    ⟨analysis, computed, rfl, rfl⟩
  rcases Document.exists_analyze_of_analysisUnder computed with
    ⟨rooted, matcher, analyzed⟩
  refine ⟨analysis, ?_, rfl, rfl,
    (CallGraph.isOf_of_analyze analyzed).map_target⟩
  rw [Invocation.run_pathsCommand, Invocation.runPaths_of_loads loads, computed]
  rfl

theorem pathsCommand_finds_or_fails
    (asked : Tool.AskFor arguments path root targets) (workspace : Workspace) :
    (∃ start names,
      workspace.Finds path ({ root, targets } : AnalysisOptions).overrides
        start names) ∨
    ((pathsCommand path root targets).run workspace).ending ≠ .success ∧
      (Tool.call workspace "callpath_paths" arguments).Fails := by
  rcases pathsCommand_cases asked workspace with
    ⟨settings, document, analysis, loads, computed, -, -⟩ | failed
  · rcases Document.listed_of_analysisUnder computed with ⟨wanted, isListed⟩
    exact Or.inl ⟨_, _, settings, document, loads, wanted,
      Document.listed_eq_ok_iff.mp isListed⟩
  · exact Or.inr failed

theorem targetsTool_cases (asked : Tool.AskFor arguments path root targets)
    (workspace : Workspace) :
    (∃ settings document start names,
      workspace.Loads path ({ root, targets } : AnalysisOptions).overrides
        settings document ∧
      document.Discovers settings start names ∧
      Tool.call workspace "callpath_targets" arguments =
        .text (listing start names).indented) ∨
    (Tool.call workspace "callpath_targets" arguments).Fails := by
  cases answered : Tool.answerTargets workspace arguments with
  | error error => exact Or.inr (Tool.call_fails answered)
  | ok value =>
      left
      rcases bind_eq_ok_iff.mp answered with ⟨⟨document, settings⟩, loaded, -⟩
      have loads := Tool.loads_of_load asked loaded
      have found := answered
      rw [Tool.answerTargets_of_loads asked loads, map_eq_ok_iff] at found
      rcases found with ⟨⟨start, names⟩, isListed, rfl⟩
      rw [mapError_eq_ok_iff] at isListed
      refine ⟨settings, document, start, names, loads,
        Document.listed_eq_ok_iff.mp isListed, ?_⟩
      simp only [Tool.call, Tool.answer, answered]

theorem targetsTool_of_finds (asked : Tool.AskFor arguments path root targets)
    (finds : workspace.Finds path
      ({ root, targets } : AnalysisOptions).overrides start names) :
    Tool.call workspace "callpath_targets" arguments =
      .text (listing start names).indented := by
  rcases finds with ⟨settings, document, loads, -, discovers⟩
  have answered : Tool.answerTargets workspace arguments =
      .ok (listing start names) := by
    rw [Tool.answerTargets_of_loads asked loads,
      Document.listed_eq_ok_iff.mpr discovers]
    rfl
  simp only [Tool.call, Tool.answer, answered]

theorem listing_succeeds (start : Node) (names : List Node) :
    (ToolResponse.text (listing start names).indented).Succeeds :=
  ⟨_, rfl, rfl⟩

end

end

/-- The command and the tool for targets agree with each other and with the
command for paths, where something is wanted. For arguments that ask for the
same document, root and targets, in every workspace, all three succeed on the
same requests, and then they report the same root and, in the same order, the
targets that are discovered from its entries. Where nothing is wanted, both
commands and the tool for paths refuse, but the tool for targets may succeed,
and then it lists no targets. -/
theorem targets_agree {arguments : Members} {path : String}
    {root : Option String} {targets : Option (List String)}
    (asked : Tool.AskFor arguments path root targets) (workspace : Workspace) :
    (¬ workspace.NothingWanted ({ root, targets } : AnalysisOptions).overrides →
      (((targetsCommand path root targets).run workspace).ending = .success ↔
        (Tool.call workspace "callpath_targets" arguments).Succeeds) ∧
      (((targetsCommand path root targets).run workspace).ending ≠ .success ↔
        (Tool.call workspace "callpath_targets" arguments).Fails)) ∧
    (((targetsCommand path root targets).run workspace).ending = .success ↔
      ((pathsCommand path root targets).run workspace).ending = .success) ∧
    (((targetsCommand path root targets).run workspace).ending = .success →
      ∃ start names,
        (targetsCommand path root targets).run workspace =
          .ofJson (listing start names) ∧
        Tool.call workspace "callpath_targets" arguments =
          .text (listing start names).indented ∧
        names.Pairwise (· < ·) ∧
        (∃ analysis : Analysis,
          (pathsCommand path root targets).run workspace =
            .ofJson analysis.toJson ∧
          analysis.root = start ∧ analysis.targets = names ∧
          analysis.results.map (·.target) = names) ∧
        workspace.Finds path ({ root, targets } : AnalysisOptions).overrides
          start names) ∧
    (workspace.NothingWanted ({ root, targets } : AnalysisOptions).overrides →
      ((targetsCommand path root targets).run workspace).ending ≠ .success ∧
      ((pathsCommand path root targets).run workspace).ending ≠ .success ∧
      (Tool.call workspace "callpath_paths" arguments).Fails ∧
      ((Tool.call workspace "callpath_targets" arguments).Succeeds → ∃ start,
        Tool.call workspace "callpath_targets" arguments =
          .text (listing start []).indented)) := by
  -- Each success is a finding, and each finding makes all of them succeed.
  have ended_of_finds : ∀ {start names},
      workspace.Finds path ({ root, targets } : AnalysisOptions).overrides
        start names →
      ((targetsCommand path root targets).run workspace).ending = .success ∧
        ((pathsCommand path root targets).run workspace).ending = .success := by
    intro start names finds
    rcases pathsCommand_of_finds finds with ⟨analysis, ran, -⟩
    rw [targetsCommand_of_finds finds, ran]
    exact ⟨rfl, rfl⟩
  have called_of_success :
      ((targetsCommand path root targets).run workspace).ending = .success →
      (Tool.call workspace "callpath_targets" arguments).Succeeds := by
    intro success
    rcases exists_finds_of_targetsCommand success with ⟨start, names, finds⟩
    rw [targetsTool_of_finds asked finds]
    exact listing_succeeds start names
  refine ⟨fun wanted => ?_, ⟨fun success => ?_, fun success => ?_⟩,
    fun success => ?_, fun nothing => ?_⟩
  · rcases targetsTool_cases asked workspace with
      ⟨settings, document, start, names, loads, discovers, called⟩ | fails
    · have finds : workspace.Finds path
          ({ root, targets } : AnalysisOptions).overrides start names :=
        ⟨settings, document, loads,
          fun nothing => wanted ⟨settings, loads.1, nothing⟩, discovers⟩
      have success := (ended_of_finds finds).1
      have succeeds := called_of_success success
      exact ⟨⟨fun _ => succeeds, fun _ => success⟩,
        ⟨fun failed => absurd success failed,
          fun fails => absurd fails succeeds.not_fails⟩⟩
    · have failed : ((targetsCommand path root targets).run workspace).ending ≠
          .success :=
        fun success => (called_of_success success).not_fails fails
      exact ⟨⟨called_of_success,
        fun succeeds => absurd fails succeeds.not_fails⟩,
        ⟨fun _ => fails, fun _ => failed⟩⟩
  · rcases exists_finds_of_targetsCommand success with ⟨start, names, finds⟩
    exact (ended_of_finds finds).2
  · rcases pathsCommand_finds_or_fails asked workspace with
      ⟨start, names, finds⟩ | ⟨failed, -⟩
    · exact (ended_of_finds finds).1
    · exact absurd success failed
  · rcases exists_finds_of_targetsCommand success with ⟨start, names, finds⟩
    exact ⟨start, names, targetsCommand_of_finds finds,
      targetsTool_of_finds asked finds, finds.ascending,
      pathsCommand_of_finds finds, finds⟩
  · have noneFound : ∀ start names,
        ¬ workspace.Finds path ({ root, targets } : AnalysisOptions).overrides
          start names :=
      fun _ _ finds => finds.not_nothingWanted nothing
    rcases pathsCommand_finds_or_fails asked workspace with
      ⟨start, names, finds⟩ | ⟨failed, fails⟩
    · exact absurd finds (noneFound start names)
    · refine ⟨Invocation.not_success_of_nothingWanted nothing, failed, fails,
        fun succeeds => ?_⟩
      rcases targetsTool_cases asked workspace with
        ⟨settings, document, start, names, loads, discovers, called⟩ | fails
      · rcases nothing with ⟨other, configured, nothing⟩
        rcases Except.ok.inj (loads.1.symm.trans configured) with rfl
        exact ⟨start, discovers.eq_nil nothing ▸ called⟩
      · exact absurd fails succeeds.not_fails

theorem targets_agree_limitedCall :
    Tool.AskFor limitedCallArguments "calls.json" (some "") (some []) ∧
    ¬ limitedCall.NothingWanted
      ({ root := some "", targets := some [] } : AnalysisOptions).overrides ∧
    (Tool.call limitedCall "callpath_targets" limitedCallArguments).Succeeds ∧
    ((pathsCommand "calls.json" (some "") (some [])).run limitedCall).ending =
      .success ∧
    (∃ start names,
      (targetsCommand "calls.json" (some "") (some [])).run limitedCall =
        .ofJson (listing start names) ∧
      Tool.call limitedCall "callpath_targets" limitedCallArguments =
        .text (listing start names).indented ∧ names.Pairwise (· < ·)) ∧
    (targetsCommand "calls.json" (some "") (some [])).run limitedCall =
      .ofJson (listing CallGraph.syntheticRoot ["b"]) := by
  have asked : Tool.AskFor limitedCallArguments "calls.json" (some "")
      (some []) := ⟨rfl, rfl, rfl⟩
  have isListed : singleCallDocument.listed
      { root := some "", targets := ["b"], maxVisits := some 2 } =
      .ok (CallGraph.syntheticRoot, ["b"]) := by
    decide +kernel
  have finds : limitedCall.Finds "calls.json"
      ({ root := some "", targets := some [] } : AnalysisOptions).overrides
      CallGraph.syntheticRoot ["b"] :=
    ⟨_, singleCallDocument,
      ⟨settingsWith_limitedCall, documentAt_of_read rfl⟩, by
        decide, Document.listed_eq_ok_iff.mp isListed⟩
  have ran := targetsCommand_of_finds finds
  have success : ((targetsCommand "calls.json" (some "") (some [])).run
      limitedCall).ending =
      .success := by
    rw [ran]
    rfl
  rcases targets_agree asked limitedCall with ⟨agree, samePaths, same, -⟩
  rcases same success with ⟨start, names, printed, told, ascending, -⟩
  exact ⟨asked, finds.not_nothingWanted,
    (agree finds.not_nothingWanted).1.mp success, samePaths.mp success,
    ⟨start, names, printed, told, ascending⟩, ran⟩

/-- With no settings and no targets the tool lists no targets, where both
commands refuse the request. -/
theorem targets_part_singleCall :
    Tool.AskFor [("graph", .str "calls.json")] "calls.json" none none ∧
    (targetsCommand "calls.json" none none).run singleCall = .noTargets ∧
    (pathsCommand "calls.json" none none).run singleCall = .noTargets ∧
    Tool.call singleCall "callpath_targets" [("graph", .str "calls.json")] =
      .text
        "\x7b\n  \"root\": \"<callpath: void syntheticMain()>\",\n  \"targets\": []\n\x7d" ∧
    ¬ (((targetsCommand "calls.json" none none).run singleCall).ending =
        .success ↔
      (Tool.call singleCall "callpath_targets"
        [("graph", .str "calls.json")]).Succeeds) := by
  have asked : Tool.AskFor [("graph", .str "calls.json")] "calls.json" none
      none := ⟨rfl, rfl, rfl⟩
  have loads : singleCall.Loads "calls.json"
      ({ root := none, targets := none } : AnalysisOptions).overrides .standard
      singleCallDocument := ⟨settingsWith_singleCall, documentAt_singleCall⟩
  have isListed : singleCallDocument.listed .standard =
      .ok (CallGraph.syntheticRoot, []) := by
    decide +kernel
  have nothing : singleCallDocument.analysisUnder .standard = .ok none := by
    decide +kernel
  have answered : Tool.answerTargets singleCall [("graph", .str "calls.json")] =
      .ok (listing CallGraph.syntheticRoot []) := by
    rw [Tool.answerTargets_of_loads asked loads, isListed]
    rfl
  have called : Tool.call singleCall "callpath_targets"
      [("graph", .str "calls.json")] =
      .text (listing CallGraph.syntheticRoot []).indented := by
    simp only [Tool.call, Tool.answer, answered]
  have refused :
      (targetsCommand "calls.json" none none).runTargets singleCall none none =
        .ok .noTargets := by
    simp only [Invocation.runTargets, targetsCommand, Invocation.settings,
      loads.1, loads.2]
    decide +kernel
  have ran : (targetsCommand "calls.json" none none).run singleCall =
      .noTargets := by
    rw [Invocation.run_targetsCommand, refused]
  refine ⟨asked, ran, ?_, by rw [called]; decide +kernel, fun agree => ?_⟩
  · rw [Invocation.run_pathsCommand, Invocation.runPaths_of_loads loads,
      nothing]
    rfl
  · have succeeds : (Tool.call singleCall "callpath_targets"
        [("graph", .str "calls.json")]).Succeeds :=
      called ▸ listing_succeeds CallGraph.syntheticRoot []
    have unsuccessful : Response.noTargets.ending ≠ .success := by decide
    rw [ran] at agree
    exact unsuccessful (agree.mpr succeeds)

end CallChains
