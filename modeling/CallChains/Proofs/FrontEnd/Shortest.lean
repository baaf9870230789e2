import CallChains.Command
import CallChains.Proofs.Route.CallPath
import CallChains.Tool
import CallChains.Workspace.FileTree
/-!
What is answered about a shortest path. The command line and the tool give the
same value, and it is right for two different nodes. From a node to itself there
is the path without calls, but the answer is null as if there were none.
-/

namespace CallChains

/-- A value that is null just where no explicit calls lead from the source to
the target, and that tells of a shortest path with its nodes otherwise. -/
def IsShortestAnswer (graph : CallGraph) (source target : Node)
    (answer : Json) : Prop :=
  (answer = .null ↔ ¬ graph.ReachesExplicitly source target) ∧
  (graph.ReachesExplicitly source target →
    ∃ path : CallPath, answer = path.toJson ∧
    path.entry = source ∧ path.target = target ∧ path.IsShortest graph ∧
    path.nodes = nodesVisited source path.edges)

section Answer

variable {graph : CallGraph} {source target : Node}

theorem answer_none_isShortestAnswer
    (unreached : ¬ graph.ReachesExplicitly source target) :
    IsShortestAnswer graph source target (CallPath.answer none) ∧
    source ≠ target := by
  refine ⟨⟨⟨fun _ => unreached, fun _ => rfl⟩,
    fun reached => absurd reached unreached⟩, ?_⟩
  rintro rfl
  exact unreached (CallGraph.ReachesExplicitly.refl graph source)

theorem answer_some_isShortestAnswer_iff {edges : List Edge}
    (shortest : CallPath.IsShortest graph { entry := source, target, edges }) :
    IsShortestAnswer graph source target
      (CallPath.answer (some { entry := source, target, edges })) ↔
        source ≠ target := by
  have reached : graph.ReachesExplicitly source target := ⟨edges, shortest.walk⟩
  cases edges with
  | nil =>
      have same : source = target := shortest.walk
      constructor
      · rintro ⟨isNull, -⟩
        exact absurd reached (isNull.mp rfl)
      · intro different
        exact absurd same different
  | cons call rest =>
      have told : CallPath.answer
          (some { entry := source, target, edges := call :: rest }) =
          CallPath.toJson { entry := source, target, edges := call :: rest } :=
            rfl
      rw [told]
      constructor
      · rintro - rfl
        exact absurd (shortest.least [] rfl) (Nat.not_succ_le_zero rest.length)
      · intro _
        refine ⟨⟨fun isNull => ?_, fun unreached => absurd reached unreached⟩,
          fun _ => ?_⟩
        · cases isNull
        · exact ⟨_, rfl, rfl, rfl, shortest,
            CallPath.nodes_eq_nodesVisited shortest.walk⟩

end Answer

section Requests

variable {workspace : Workspace} {path : String} {document : Document}
  {settings : Settings} {source target : Node} {found : Option CallPath}

theorem Document.requireNode_of_mem {node : Node}
    (member : node ∈ document.graph.nodes) :
    document.requireNode node = .ok () :=
  if_pos (CallGraph.contains_iff.mpr member)

theorem Invocation.run_shortest {config : Option String}
    (loaded : workspace.documentAt path = .ok document)
    (isSource : source ∈ document.graph.nodes)
    (isTarget : target ∈ document.graph.nodes)
    (configured : workspace.settingsWith config
      ({} : AnalysisOptions).overrides = .ok settings)
    (searched : document.graph.shortestPath source target settings.maxVisits =
      .ok found) :
    run { command := .shortest source target, graph := path, config,
          json := true } workspace =
      .ofJson (pathAnswer found) := by
  have ran : runShortest { command := .shortest source target, graph := path,
                           config, json := true }
      workspace source target = .ok (.ofJson (pathAnswer found)) := by
    simp only [runShortest, loaded, Document.requireNode_of_mem isSource,
      Document.requireNode_of_mem isTarget, Invocation.settings, configured,
      bind, Except.bind, searched]
    rfl
  simp only [run, ran]

theorem Tool.load_eq {arguments : Members}
    (namesGraph : arguments.find? "graph" = some (.str path))
    (loaded : workspace.documentAt path = .ok document)
    (configured : workspace.settingsWith none (overrides arguments) =
      .ok settings) :
    load workspace arguments = .ok (document, settings) := by
  have pathGiven : graphArgument arguments = .ok path := by
    rw [graphArgument, argument, namesGraph]
    rfl
  simp only [load, pathGiven, loaded, configured, bind, Except.bind]
  rfl

theorem Tool.nodeNamed_of_mem {node : Node}
    (member : node ∈ document.graph.nodes) :
    nodeNamed document (.str node) = .ok (some node) :=
  congrArg Except.ok (if_pos (CallGraph.contains_iff.mpr member))

theorem Tool.call_shortest {arguments : Members}
    (loaded : workspace.documentAt path = .ok document)
    (isSource : source ∈ document.graph.nodes)
    (isTarget : target ∈ document.graph.nodes)
    (namesGraph : arguments.find? "graph" = some (.str path))
    (namesSource : arguments.find? "source" = some (.str source))
    (namesTarget : arguments.find? "target" = some (.str target))
    (configured : workspace.settingsWith none (overrides arguments) =
      .ok settings)
    (searched : document.graph.shortestPath source target settings.maxVisits =
      .ok found) :
    call workspace "callpath_shortest" arguments =
      .text (pathAnswer found).indented := by
  have answered : answerShortest workspace arguments =
      .ok (pathAnswer found) := by
    simp only [answerShortest, load_eq namesGraph loaded configured, argument,
      namesSource, namesTarget, nodeNamed_of_mem isSource,
      nodeNamed_of_mem isTarget, bind, Except.bind, searched]
    rfl
  simp only [call, answer, answered]

end Requests

/-- For two nodes of a document that loads, under settings without a limit, the
command and the tool answer with the same value, and it is right just if the
nodes are different. For a node and itself it is null. -/
theorem shortest_answered {workspace : Workspace} {path : String}
    {config : Option String} {source target : Node} {arguments : Members}
    {document : Document} {settings toolSettings : Settings}
    (loaded : workspace.documentAt path = .ok document)
    (isSource : source ∈ document.graph.nodes)
    (isTarget : target ∈ document.graph.nodes)
    (configured : workspace.settingsWith config
      ({} : AnalysisOptions).overrides = .ok settings)
    (unlimited : settings.maxVisits = none)
    (namesGraph : arguments.find? "graph" = some (.str path))
    (namesSource : arguments.find? "source" = some (.str source))
    (namesTarget : arguments.find? "target" = some (.str target))
    (toolConfigured : workspace.settingsWith none (Tool.overrides arguments) =
      .ok toolSettings)
    (toolUnlimited : toolSettings.maxVisits = none) :
    ∃ answer,
      Invocation.run { command := .shortest source target, graph := path,
                       config, json := true }
        workspace = .ofJson (.obj [("path", answer)]) ∧
      Tool.call workspace "callpath_shortest" arguments =
        .text (Json.obj [("path", answer)]).indented ∧
      (IsShortestAnswer document.graph source target answer ↔ source ≠ target) ∧
      (source = target → answer = .null) := by
  rcases document.graph.shortestPath_cases source target with
    ⟨searched, unreached⟩ | ⟨edges, searched, shortest⟩
  · rcases answer_none_isShortestAnswer unreached with ⟨isAnswer, different⟩
    refine ⟨CallPath.answer none, ?_, ?_,
      ⟨fun _ => different, fun _ => isAnswer⟩, fun _ => rfl⟩
    · exact Invocation.run_shortest loaded isSource isTarget configured
        (unlimited ▸ searched)
    · exact Tool.call_shortest loaded isSource isTarget namesGraph namesSource
        namesTarget toolConfigured (toolUnlimited ▸ searched)
  · refine ⟨CallPath.answer (some { entry := source, target, edges }), ?_, ?_,
      answer_some_isShortestAnswer_iff shortest, ?_⟩
    · exact Invocation.run_shortest loaded isSource isTarget configured
        (unlimited ▸ searched)
    · exact Tool.call_shortest loaded isSource isTarget namesGraph namesSource
        namesTarget toolConfigured (toolUnlimited ▸ searched)
    · rintro rfl
      have noCalls : edges = [] :=
        List.eq_nil_of_length_eq_zero (Nat.le_zero.mp (shortest.least [] rfl))
      rw [noCalls]
      rfl

/-! ## A call from one node to another -/

def singleCall : Workspace :=
  FileTree.toWorkspace
    { entries := [(["calls.json"],
        .file
          "\x7b\"edges\": [\x7b\"source\": \"a\", \"target\": \"b\"\x7d]\x7d".toUTF8)] }
    { anchor := "/", parts := ["work"] }

def singleCallDocument : Document where
  graph :=
    (CallGraph.empty.addNodes []).addEdges [{ source := "a", target := "b" }]
  root := none
  superclasses := ∅

def singleCallArguments (source target : Node) : Members :=
  [("graph", .str "calls.json"), ("source", .str source),
    ("target", .str target)]

theorem readJson_of_read {workspace : Workspace} {file : FileName}
    {content : ByteArray} {value : Json}
    (noNull : file.path.text.contains '\x00' = false)
    (held : workspace.read file.path = .ok content)
    (isJson : Json.ofBytes content = .ok value) :
    workspace.readJson file = .ok value := by
  simp only [Workspace.readJson, noNull, held, isJson]
  rfl

theorem documentAt_of_read {workspace : Workspace}
    (held : workspace.read { anchor := "", parts := ["calls.json"] } =
      .ok
        "\x7b\"edges\": [\x7b\"source\": \"a\", \"target\": \"b\"\x7d]\x7d".toUTF8) :
    workspace.documentAt "calls.json" = .ok singleCallDocument := by
  have path : (Workspace.named "calls.json").path =
      { anchor := "", parts := ["calls.json"] } := by
    decide +kernel
  have text : (Workspace.named "calls.json").path.text = "calls.json" := by
    decide +kernel
  have value : workspace.readJson (Workspace.named "calls.json") =
      .ok (.obj [("edges",
        .arr [.obj [("source", .str "a"), ("target", .str "b")]])]) := by
    refine readJson_of_read ?_ (path ▸ held) (by decide +kernel)
    rw [text]
    simp
  rw [Workspace.documentAt, Workspace.loadDocument]
  simp only [value]
  rfl

theorem documentAt_singleCall :
    singleCall.documentAt "calls.json" = .ok singleCallDocument :=
  documentAt_of_read rfl

theorem settingsWith_singleCall :
    singleCall.settingsWith none ({} : AnalysisOptions).overrides =
      .ok .standard := by
  decide +kernel

theorem toolSettings_singleCall (source target : Node) :
    singleCall.settingsWith none
      (Tool.overrides (singleCallArguments source target)) =
      .ok .standard := by
  have nothingGiven : Tool.overrides (singleCallArguments source target) =
      [("root", .null), ("targets", .null)] := rfl
  rw [nothingGiven]
  decide +kernel

theorem shortest_answered_singleCall :
    ∃ answer,
      Invocation.run { command := .shortest "a" "b", graph := "calls.json",
                       json := true } singleCall =
        .ofJson (.obj [("path", answer)]) ∧
      Tool.call singleCall "callpath_shortest" (singleCallArguments "a" "b") =
        .text (Json.obj [("path", answer)]).indented ∧
      IsShortestAnswer singleCallDocument.graph "a" "b" answer := by
  have isSource : "a" ∈ singleCallDocument.graph.nodes := by decide +kernel
  have isTarget : "b" ∈ singleCallDocument.graph.nodes := by decide +kernel
  rcases shortest_answered documentAt_singleCall isSource
    isTarget settingsWith_singleCall rfl rfl rfl rfl
    (toolSettings_singleCall "a" "b") rfl with
    ⟨answer, printed, told, isAnswer, -⟩
  exact ⟨answer, printed, told, isAnswer.mpr (by decide)⟩

/-- Both answers from a node to itself say that there is no path, although there
is one. -/
theorem shortest_null_singleCall :
    Invocation.run { command := .shortest "a" "a", graph := "calls.json",
                     json := true } singleCall =
      { stdout := "\x7b\"path\": null\x7d\n" } ∧
    Tool.call singleCall "callpath_shortest" (singleCallArguments "a" "a") =
      .text "\x7b\n  \"path\": null\n\x7d" ∧
    ¬ IsShortestAnswer singleCallDocument.graph "a" "a" .null := by
  have isNode : "a" ∈ singleCallDocument.graph.nodes := by decide +kernel
  have searched : singleCallDocument.graph.shortestPath "a" "a"
      Settings.standard.maxVisits =
      .ok (some { entry := "a", target := "a", edges := [] }) := by
    decide +kernel
  refine ⟨?_, ?_, ?_⟩
  · rw [Invocation.run_shortest documentAt_singleCall isNode isNode
      settingsWith_singleCall searched]
    decide +kernel
  · rw [Tool.call_shortest documentAt_singleCall isNode isNode rfl rfl rfl
      (toolSettings_singleCall "a" "a") searched]
    decide +kernel
  · rintro ⟨isNull, -⟩
    exact isNull.mp rfl (CallGraph.ReachesExplicitly.refl _ "a")

end CallChains
