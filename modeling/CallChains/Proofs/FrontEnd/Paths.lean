import CallChains.Proofs.Analysis.AllTargets
import CallChains.Proofs.FrontEnd.Shortest
import CallChains.Proofs.Json.ObjectText
/-!
The command for paths and the tool for paths report the same analysis. They load
settings and document in a different order and put what they find into different
words, but they end well on the same requests, and then they tell of the same
root, targets, paths and failures.
-/

namespace CallChains

/-! ## Answers of a tool -/

namespace ToolResponse

/-- An answer that is an object without a member for errors. -/
def Succeeds (response : ToolResponse) : Prop :=
  ∃ told : Members, response = .text (Json.obj told).indented ∧
    told.find? "error" = none

/-- No answer at all, or one that starts with an error. -/
def Fails (response : ToolResponse) : Prop :=
  (∀ text, response ≠ .text text) ∨ ∃ message rest,
    response = .text (Json.obj (("error", .str message) :: rest)).line ∨
    response = .text (Json.obj (("error", .str message) :: rest)).indented

/-- It can be seen from the text of an answer whether it starts with an error:
an error on one line by the character behind the bracket, one that is spread
over lines by its first key. -/
theorem Succeeds.not_fails {response : ToolResponse}
    (succeeds : response.Succeeds) :
    ¬ response.Fails := by
  rcases succeeds with ⟨told, rfl, noError⟩
  rintro (noText | ⟨message, rest, onOneLine | spread⟩)
  · exact noText _ rfl
  · exact Json.indented_ne_line told _ _ rest (ToolResponse.text.inj onOneLine)
  · rcases Json.exists_of_indented_eq (by decide)
      (ToolResponse.text.inj spread) with
      ⟨error, others, rfl⟩
    rw [Members.find?_cons, if_pos rfl] at noError
    cases noError

end ToolResponse

theorem Tool.call_fails {workspace : Workspace} {name : String}
    {arguments : Members} {error : ToolError}
    (noAnswer : answer workspace name arguments = .error error) :
    (call workspace name arguments).Fails := by
  rw [call, noAnswer]
  cases error with
  | request error =>
      cases fatal : error.fatalFault? with
      | some fault =>
          left
          simp [fatal]
      | none =>
          right
          exact ⟨error.message, [], Or.inl (by simp [fatal])⟩
  | missing name => exact Or.inr ⟨Text.quoted name, [], Or.inl rfl⟩
  | unusable =>
      left
      simp

theorem Response.ending_failed_ne_success (error : RequestError) :
    (failed error).ending ≠ .success := by
  rw [failed]
  cases error.fatalFault? with
  | some fault => exact nofun
  | none =>
      rw [ofReport]
      cases (failureReport error.message).error <;> exact nofun

/-! ## The same request -/

namespace Tool

/-- Arguments that ask for what an invocation can ask for: a document, a root
and targets. What is null is not asked for. -/
structure AskFor (arguments : Members) (path : String) (root : Option String)
    (targets : Option (List String)) : Prop where
  graph : arguments.find? "graph" = some (.str path)
  root : (arguments.find? "root").getD .null = .ofText? root
  targets : (arguments.find? "targets").getD .null =
    (targets.map Json.texts).getD .null

variable {arguments : Members} {path : String} {root : Option String}
  {targets : Option (List String)}

/-- The arguments and the options replace the same settings. Both leave an empty
list of targets out, and neither leaves an empty root out. -/
theorem AskFor.overrides_eq (asked : AskFor arguments path root targets) :
    (overrides arguments).filter (fun override => override.2 ≠ .null) =
      ({ root, targets } : AnalysisOptions).overrides.filter fun override =>
        override.2 ≠ .null := by
  rw [overrides, asked.root, asked.targets]
  cases targets with
  | none => rfl
  | some targets =>
      cases targets with
      | nil => rfl
      | cons target rest => rfl

theorem AskFor.settingsWith_eq (asked : AskFor arguments path root targets)
    (workspace : Workspace) :
    workspace.settingsWith none (overrides arguments) =
      workspace.settingsWith none
        ({ root, targets } : AnalysisOptions).overrides := by
  simp only [Workspace.settingsWith, Settings.withOverrides, asked.overrides_eq]

end Tool

/-! ## The same analysis -/

def Document.analysisUnder (document : Document) (settings : Settings) :
    Except RequestError (Option Analysis) := do
  let rooted ← document.rooted settings
  let matcher ← document.matcher settings
  if matcher.isEmpty then return none
  let analysis ← rooted.analyze matcher settings
  return some analysis

theorem Document.steps_eq_analysisUnder {Error Answer : Type}
    (document : Document) (settings : Settings) (failure : RequestError → Error)
    (nothing : Answer) (told : Analysis → Answer) :
    (do
      let rooted ← (document.rooted settings).mapError failure
      let matcher ← (document.matcher settings).mapError failure
      if matcher.isEmpty then return nothing
      let analysis ← (rooted.analyze matcher settings).mapError failure
      return told analysis) =
    ((document.analysisUnder settings).mapError failure).map fun found =>
      (found.map told).getD nothing := by
  rw [analysisUnder]
  cases document.rooted settings with
  | error error => rfl
  | ok rooted =>
      cases document.matcher settings with
      | error error => rfl
      | ok matcher =>
          cases empty : matcher.isEmpty with
          | true =>
              simp [empty, bind, Except.bind, pure, Except.pure, Except.map,
                Except.mapError]
          | false =>
              simp only [bind, Except.bind, Except.mapError, empty]
              cases rooted.analyze matcher settings <;> rfl

def pathsCommand (path : String) (root : Option String)
    (targets : Option (List String)) : Invocation :=
  { command := .paths { root, targets }, graph := path, json := true }

theorem Invocation.run_pathsCommand (path : String) (root : Option String)
    (targets : Option (List String)) (workspace : Workspace) :
    (pathsCommand path root targets).run workspace =
      match (pathsCommand path root targets).runPaths workspace
        { root, targets } with
      | .ok response => response
      | .error error => .failed error := rfl

def Workspace.Loads (workspace : Workspace) (path : String)
    (overrides : Members) (settings : Settings) (document : Document) : Prop :=
  workspace.settingsWith none overrides = .ok settings ∧
  workspace.documentAt path = .ok document

section

variable {workspace : Workspace} {arguments : Members} {path : String}
  {root : Option String} {targets : Option (List String)} {document : Document}
  {settings : Settings}

theorem Invocation.runPaths_of_loads
    (loads : workspace.Loads path
      ({ root, targets } : AnalysisOptions).overrides settings document) :
    (pathsCommand path root targets).runPaths workspace { root, targets } =
      (document.analysisUnder settings).map fun found =>
        (found.map fun analysis => .ofJson analysis.toJson).getD
          .noTargets := by
  have steps :=
    document.steps_eq_analysisUnder settings id .noTargets fun analysis =>
    Response.ofJson analysis.toJson
  simp only [mapError_id] at steps
  simp only [runPaths, pathsCommand, Invocation.settings, loads.1, loads.2]
  exact steps

theorem Invocation.exists_loads {response : Response}
    (responded : (pathsCommand path root targets).runPaths workspace
      { root, targets } = .ok response) :
    ∃ settings document,
      workspace.Loads path ({ root, targets } : AnalysisOptions).overrides
        settings document := by
  rcases bind_eq_ok_iff.mp responded with ⟨settings, configured, rest⟩
  rcases bind_eq_ok_iff.mp rest with ⟨document, loaded, -⟩
  exact ⟨settings, document, configured, loaded⟩

theorem Tool.answerPaths_of_loads (asked : AskFor arguments path root targets)
    (loads : workspace.Loads path
      ({ root, targets } : AnalysisOptions).overrides settings document) :
    answerPaths workspace arguments =
      ((document.analysisUnder settings).mapError .request).map fun found =>
        (found.map Analysis.toBriefJson).getD
          (.obj [("error", .str "No targets given"),
            ("results", .arr [])]) := by
  have configured := asked.settingsWith_eq workspace ▸ loads.1
  rw [answerPaths, load_eq asked.graph loads.2 configured]
  exact document.steps_eq_analysisUnder settings ToolError.request _
    Analysis.toBriefJson

theorem Tool.loads_of_load (asked : AskFor arguments path root targets)
    (loaded : load workspace arguments = .ok (document, settings)) :
    workspace.Loads path ({ root, targets } : AnalysisOptions).overrides
      settings document := by
  rcases bind_eq_ok_iff.mp loaded with ⟨named, isNamed, rest⟩
  rcases bind_eq_ok_iff.mp rest with ⟨found, isFound, rest⟩
  rcases bind_eq_ok_iff.mp rest with ⟨chosen, configured, same⟩
  rw [graphArgument, argument, asked.graph] at isNamed
  rcases Except.ok.inj isNamed with rfl
  rcases Except.ok.inj same with ⟨rfl, rfl⟩
  rw [mapError_eq_ok_iff] at isFound configured
  exact ⟨asked.settingsWith_eq workspace ▸ configured, isFound⟩

theorem Tool.exists_loads (asked : AskFor arguments path root targets)
    {value : Json} (answered : answerPaths workspace arguments = .ok value) :
    ∃ settings document,
      workspace.Loads path ({ root, targets } : AnalysisOptions).overrides
        settings document := by
  rcases bind_eq_ok_iff.mp answered with ⟨⟨document, settings⟩, loaded, -⟩
  exact ⟨settings, document, loads_of_load asked loaded⟩

theorem pathsCommand_cases (asked : Tool.AskFor arguments path root targets)
    (workspace : Workspace) :
    (∃ settings document analysis,
      workspace.Loads path ({ root, targets } : AnalysisOptions).overrides
        settings document ∧
      document.analysisUnder settings = .ok (some analysis) ∧
      (pathsCommand path root targets).run workspace = .ofJson analysis.toJson ∧
      Tool.call workspace "callpath_paths" arguments =
        .text analysis.toBriefJson.indented) ∨
    ((pathsCommand path root targets).run workspace).ending ≠ .success ∧
      (Tool.call workspace "callpath_paths" arguments).Fails := by
  have ran := Invocation.run_pathsCommand path root targets workspace
  have noResponse : ∀ {error toolError},
      (pathsCommand path root targets).runPaths workspace { root, targets } =
        .error error →
      Tool.answerPaths workspace arguments = .error toolError →
      ((pathsCommand path root targets).run workspace).ending ≠ .success ∧
        (Tool.call workspace "callpath_paths" arguments).Fails := by
    intro error toolError failed toolFailed
    rw [ran, failed]
    exact ⟨Response.ending_failed_ne_success error, Tool.call_fails toolFailed⟩
  by_cases loads : ∃ settings document,
      workspace.Loads path ({ root, targets } : AnalysisOptions).overrides
        settings document
  · rcases loads with ⟨settings, document, loads⟩
    have response := Invocation.runPaths_of_loads loads
    have answer := Tool.answerPaths_of_loads asked loads
    cases computed : document.analysisUnder settings with
    | error error =>
        rw [computed] at response answer
        exact Or.inr (noResponse response answer)
    | ok found =>
        rw [computed] at response answer
        cases found with
        | none =>
            right
            rw [ran, response]
            refine ⟨nofun,
              Or.inr ⟨"No targets given", [("results", .arr [])], Or.inr ?_⟩⟩
            simp only [Tool.call, Tool.answer, answer]
            rfl
        | some analysis =>
            left
            refine ⟨settings, document, analysis, loads,
              computed, by rw [ran, response]; rfl, ?_⟩
            simp only [Tool.call, Tool.answer, answer]
            rfl
  · -- Both fail, but not always with the same error: one loads the settings
    -- first, the other the document.
    right
    cases responded :
      (pathsCommand path root targets).runPaths workspace { root, targets } with
    | ok response => exact absurd (Invocation.exists_loads responded) loads
    | error error =>
        cases answered : Tool.answerPaths workspace arguments with
        | ok value => exact absurd (Tool.exists_loads asked answered) loads
        | error toolError => exact noResponse responded answered

theorem Document.analysisUnder_eq_some_iff {analysis : Analysis} :
    document.analysisUnder settings = .ok (some analysis) ↔
      ∃ (rooted : RootedGraph) (matcher : TargetMatcher),
        document.rooted settings = .ok rooted ∧
        document.matcher settings = .ok matcher ∧ matcher.isEmpty = false ∧
        rooted.graph.analyze rooted.root matcher.accepts settings =
          .ok analysis := by
  constructor
  · intro computed
    rcases bind_eq_ok_iff.mp computed with ⟨rooted, isRooted, rest⟩
    rcases bind_eq_ok_iff.mp rest with ⟨matcher, isMatcher, rest⟩
    cases empty : matcher.isEmpty with
    | true =>
        rw [if_pos empty] at rest
        cases rest
    | false =>
        rw [if_neg (by simp [empty])] at rest
        rcases bind_eq_ok_iff.mp rest with ⟨found, analyzed, same⟩
        cases same
        exact ⟨rooted, matcher, isRooted, isMatcher, empty,
          mapError_eq_ok_iff.mp analyzed⟩
  · rintro ⟨rooted, matcher, isRooted, isMatcher, notEmpty, analyzed⟩
    simp only [analysisUnder, isRooted, isMatcher, bind, Except.bind, notEmpty,
      RootedGraph.analyze, analyzed]
    rfl

theorem Document.exists_analyze_of_analysisUnder {analysis : Analysis}
    (computed : document.analysisUnder settings = .ok (some analysis)) :
    ∃ (rooted : RootedGraph) (matcher : TargetMatcher),
      rooted.graph.analyze rooted.root matcher.accepts settings =
        .ok analysis := by
  rcases analysisUnder_eq_some_iff.mp computed with
    ⟨rooted, matcher, -, -, -, analyzed⟩
  exact ⟨rooted, matcher, analyzed⟩

end

/-! ## The same report -/

def Members.AgreeOn (members others : Members) (key : String) : Prop :=
  ∃ value, members.find? key = some value ∧ others.find? key = some value

/-- What is printed and what is told of one target. A failure is printed with
its error, and told as one text that starts with the target. -/
def SameTarget : (printed told : Json) → Prop
  | .obj printed, .obj told => Members.AgreeOn printed told "paths" ∧
      ∃ (target : Node) (errors : List String),
        Members.find? printed "target" = some (.str target) ∧
        Members.find? told "target" = some (.str target) ∧
        Members.find? printed "failures" =
          some (.arr (errors.map fun error =>
            .obj [("entry", .null), ("error", .str error)])) ∧
        Members.find? told "failures" =
          some (Json.texts (errors.map fun error => target ++ ": " ++ error))
  | _, _ => False

def SameReport (printed told : Members) : Prop :=
  printed.AgreeOn told "root" ∧ printed.AgreeOn told "methods_on_paths" ∧
  ∃ targets results : List Json, printed.find? "targets" = some (.arr targets) ∧
    told.find? "results" = some (.arr results) ∧
    List.Forall₂ SameTarget targets results

theorem TargetResult.sameTarget {graph : CallGraph} {root target : Node}
    {limit : Option Nat} {check : Bool} {result : TargetResult}
    (computed : graph.pathsForTarget root target limit check = .ok result) :
    SameTarget result.toJson result.toBriefJson := by
  have target_eq := CallGraph.target_of_pathsForTarget computed
  refine ⟨⟨_, rfl, rfl⟩, result.target, result.failures.map (·.error.message),
    rfl, rfl, ?_, ?_⟩
  · have printed : result.failures.map Failure.toJson =
        result.failures.map fun failure =>
        .obj [("entry", .null), ("error", .str failure.error.message)] := by
      apply List.map_congr_left
      intro failure member
      rw [Failure.toJson,
        (CallGraph.failures_of_pathsForTarget computed member).2]
      rfl
    rw [List.map_map]
    exact congrArg (some <| Json.arr ·) printed
  · have told : result.failures.map Failure.text =
        result.failures.map fun failure =>
        result.target ++ ": " ++ failure.error.message := by
      apply List.map_congr_left
      intro failure member
      rcases CallGraph.failures_of_pathsForTarget computed member with
        ⟨isTarget, isNone⟩
      rw [Failure.text, isNone, isTarget, target_eq]
    rw [List.map_map]
    exact congrArg (some <| Json.texts ·) told

theorem Analysis.IsOf.sameReport {graph : CallGraph} {root : Node}
    {isTarget : Node → Bool} {settings : Settings} {analysis : Analysis}
    (isOf : analysis.IsOf graph root isTarget settings) :
    ∃ printed told : Members, analysis.toJson = .obj printed ∧
      analysis.toBriefJson = .obj told ∧
      SameReport printed told ∧ told.find? "error" = none := by
  refine ⟨_, _, rfl, rfl, ⟨⟨_, rfl, rfl⟩, ⟨_, rfl, rfl⟩, _, _, rfl, rfl, ?_⟩,
    rfl⟩
  rw [List.forall₂_map_left_iff, List.forall₂_map_right_iff, List.forall₂_same]
  intro result member
  exact TargetResult.sameTarget (isOf.result_of_mem member)

/-- The command and the tool for paths agree. For arguments that ask for the
same document, root and targets, in every workspace, they succeed on the same
requests, and then they report the same root, the same targets in the same
order, each with the same paths and failures, and the same methods. -/
theorem paths_agree {arguments : Members} {path : String} {root : Option String}
    {targets : Option (List String)}
    (asked : Tool.AskFor arguments path root targets) (workspace : Workspace) :
    (((pathsCommand path root targets).run workspace).ending = .success ↔
      (Tool.call workspace "callpath_paths" arguments).Succeeds) ∧
    (((pathsCommand path root targets).run workspace).ending ≠ .success ↔
      (Tool.call workspace "callpath_paths" arguments).Fails) ∧
    (((pathsCommand path root targets).run workspace).ending = .success →
      ∃ printed told : Members,
        (pathsCommand path root targets).run workspace =
          .ofJson (.obj printed) ∧
        Tool.call workspace "callpath_paths" arguments =
          .text (Json.obj told).indented ∧
        SameReport printed told) := by
  rcases pathsCommand_cases asked workspace with
    ⟨settings, document, analysis, -, computed, ran, called⟩ | ⟨ended, fails⟩
  · rcases Document.exists_analyze_of_analysisUnder computed with
      ⟨rooted, matcher, returned⟩
    rcases (CallGraph.isOf_of_analyze returned).sameReport with
      ⟨printed, told, asPrinted, asTold, same, noError⟩
    rw [asPrinted] at ran
    rw [asTold] at called
    have succeeds : (Tool.call workspace "callpath_paths" arguments).Succeeds :=
      ⟨told, called, noError⟩
    have success : ((pathsCommand path root targets).run workspace).ending =
        .success := by
      rw [ran]
      rfl
    exact ⟨⟨fun _ => succeeds, fun _ => success⟩,
      ⟨fun failed => absurd success failed,
        fun fails => absurd fails succeeds.not_fails⟩,
      fun _ => ⟨printed, told, ran, called, same⟩⟩
  · exact ⟨⟨fun success => absurd success ended,
      fun succeeds => absurd fails succeeds.not_fails⟩,
      ⟨fun _ => fails, fun _ => ended⟩, fun success => absurd success ended⟩

/-! ## A call below a limit -/

def limitedCall : Workspace :=
  FileTree.toWorkspace
    { entries := [
        (["calls.json"],
          .file
            "\x7b\"edges\": [\x7b\"source\": \"a\", \"target\": \"b\"\x7d]\x7d".toUTF8),
        (["callpath.json"],
          .file
            "\x7b\"root\": \"c\", \"targets\": [\"b\"], \"max_visits\": 2\x7d".toUTF8)] }
    { anchor := "/", parts := ["work"] }

/-- Arguments with an empty root, which replaces the one in the settings, and
with no targets, which replace nothing. -/
def limitedCallArguments : Members :=
  [("graph", .str "calls.json"), ("root", .str ""), ("targets", .arr [])]

theorem settingsWith_limitedCall :
    limitedCall.settingsWith none
      ({ root := some "", targets := some [] } : AnalysisOptions).overrides =
      .ok { root := some "", targets := ["b"], maxVisits := some 2 } := by
  have found : limitedCall.findSettings? =
      some (limitedCall.found ["callpath.json"]) := rfl
  have text : (limitedCall.found ["callpath.json"]).path.text =
      "callpath.json" := by decide +kernel
  have value : limitedCall.readJson (limitedCall.found ["callpath.json"]) =
      .ok (.obj [("root", .str "c"), ("targets", .arr [.str "b"]),
        ("max_visits", .ofNat 2)]) := by
    refine readJson_of_read ?_ rfl (by decide +kernel)
    rw [text]
    simp
  rw [Workspace.settingsWith, Workspace.loadSettings, found]
  simp only [Workspace.readSettings, value]
  decide +kernel

def limitedCallAnalysis : Analysis where
  root := CallGraph.syntheticRoot
  entryPoints := ["a"]
  targets := ["b"]
  results := [{
    target := "b"
    failures := [{
      target := "b"
      entry := none
      error := .budget
        { label := "backward subgraph", limit := 2,
          node := some CallGraph.syntheticRoot } }] }]

def limitedCallTold : Members :=
  [("root", .str "<callpath: void syntheticMain()>"),
    ("results", .arr [.obj [
      ("target", .str "b"), ("paths", .arr []),
      ("failures", .arr
        [.str ("b: backward subgraph exceeded visit budget of 2 " ++
        "nodes at <callpath: void syntheticMain()>")])]]),
    ("methods_on_paths", .arr [])]

theorem paths_agree_limitedCall :
    Tool.AskFor limitedCallArguments "calls.json" (some "") (some []) ∧
    ((pathsCommand "calls.json" (some "") (some [])).run limitedCall).ending =
      .success ∧
    (Tool.call limitedCall "callpath_paths" limitedCallArguments).Succeeds ∧
    (pathsCommand "calls.json" (some "") (some [])).run limitedCall =
      .ofJson limitedCallAnalysis.toJson ∧
    Tool.call limitedCall "callpath_paths" limitedCallArguments =
      .text (Json.obj limitedCallTold).indented ∧
    ∃ printed told : Members,
      (pathsCommand "calls.json" (some "") (some [])).run limitedCall =
        .ofJson (.obj printed) ∧
      Tool.call limitedCall "callpath_paths" limitedCallArguments =
        .text (Json.obj told).indented ∧
      SameReport printed told := by
  have asked : Tool.AskFor limitedCallArguments "calls.json" (some "")
      (some []) :=
    ⟨rfl, rfl, rfl⟩
  have loads : limitedCall.Loads "calls.json"
      ({ root := some "", targets := some [] } : AnalysisOptions).overrides
      { root := some "", targets := ["b"], maxVisits := some 2 }
        singleCallDocument :=
    ⟨settingsWith_limitedCall, documentAt_of_read rfl⟩
  have computed : singleCallDocument.analysisUnder
      { root := some "", targets := ["b"], maxVisits := some 2 } =
        .ok (some limitedCallAnalysis) := by
    decide +kernel
  have brief : limitedCallAnalysis.toBriefJson = .obj limitedCallTold := by
    decide +kernel
  have printed :
      (pathsCommand "calls.json" (some "") (some [])).run limitedCall =
        .ofJson limitedCallAnalysis.toJson := by
    rw [Invocation.run_pathsCommand, Invocation.runPaths_of_loads loads,
      computed]
    rfl
  have told : Tool.call limitedCall "callpath_paths" limitedCallArguments =
      .text (Json.obj limitedCallTold).indented := by
    rw [← brief]
    simp only [Tool.call, Tool.answer, Tool.answerPaths_of_loads asked loads,
      computed]
    rfl
  have success : ((pathsCommand "calls.json" (some "") (some [])).run
      limitedCall).ending = .success := by
    rw [printed]
    rfl
  rcases paths_agree asked limitedCall with ⟨success_iff, -, report⟩
  exact ⟨asked, success, success_iff.mp success, printed, told, report success⟩

end CallChains
