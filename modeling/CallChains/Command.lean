import CallChains.Report.Json
import CallChains.Report.Text
import CallChains.Request
/-!
The commands of the command line, each as a function from a workspace to what is
printed.
-/

namespace CallChains

structure AnalysisOptions where
  root : Option String := none
  targets : Option (List String) := none
  maxVisits : Option Int := none
  workers : Option Int := none
  check : Option Bool := none
  deriving DecidableEq, Repr

inductive Command where
  | paths (options : AnalysisOptions)
  | entries (root : Option String)
  | targets (root : Option String) (targets : Option (List String))
  | subgraph (target : Node)
  | shortest (source target : Node)
  | stats
  deriving DecidableEq, Repr

structure Invocation where
  command : Command
  graph : String
  config : Option String := none
  json : Bool := false
  deriving DecidableEq, Repr

inductive Ending where
  | success
  | failure
  | noTargets
  | fatal (fault : FileFault)
  | undisplayable (error : DisplayError)
  deriving DecidableEq, Repr

structure Response where
  stdout : String
  ending : Ending := .success
  deriving DecidableEq, Repr

namespace Response

def noTargets : Response := { stdout := "", ending := .noTargets }

def ofJson (value : Json) : Response := { stdout := value.line ++ "\n" }

/-- A report is shown, and then the command ends as is told, unless the report
cannot be shown. -/
def ofReport (report : TextReport)
    (ending : Ending := .success) : Response where
  stdout := report.text
  ending := match report.error with
    | none => ending
    | some error => .undisplayable error

def failed (error : RequestError) : Response :=
  match error.fatalFault? with
  | some fault => { stdout := "", ending := .fatal fault }
  | none => ofReport (failureReport error.message) .failure

def answer (json : Bool) (value : Json) (report : TextReport) : Response :=
  if json then ofJson value else ofReport report

end Response

def noTargetsMessage : String :=
  "No targets given; use --target or the config file"

namespace AnalysisOptions

/-- The settings that the options replace. An empty list of targets replaces
nothing. -/
def overrides (options : AnalysisOptions) : Members :=
  let targets := match options.targets with
    | none | some [] => .null
    | some targets => Json.texts targets
  [("root", .ofText? options.root), ("targets", targets),
    ("max_visits", (options.maxVisits.map Json.ofInt).getD .null),
    ("workers", (options.workers.map Json.ofInt).getD .null),
    ("check_invariants", (options.check.map Json.bool).getD .null)]

end AnalysisOptions

namespace Invocation

def settings (invocation : Invocation) (workspace : Workspace)
    (options : AnalysisOptions) : Except RequestError Settings :=
  workspace.settingsWith invocation.config options.overrides

def runPaths (invocation : Invocation) (workspace : Workspace)
    (options : AnalysisOptions) : Except RequestError Response := do
  let settings ← invocation.settings workspace options
  let document ← workspace.documentAt invocation.graph
  let rooted ← document.rooted settings
  let matcher ← document.matcher settings
  if matcher.isEmpty then return .noTargets
  let analysis ← rooted.analyze matcher settings
  return .answer invocation.json analysis.toJson analysis.report

def runEntries (invocation : Invocation) (workspace : Workspace)
    (root : Option String) : Except RequestError Response := do
  let settings ← invocation.settings workspace { root }
  let document ← workspace.documentAt invocation.graph
  let rooted ← document.rooted settings
  return .answer invocation.json (entriesAnswer rooted.root rooted.entries)
    (entriesReport rooted.root rooted.entries)

def runTargets (invocation : Invocation) (workspace : Workspace)
    (root : Option String) (targets : Option (List String)) :
    Except RequestError Response := do
  let settings ← invocation.settings workspace { root, targets }
  let document ← workspace.documentAt invocation.graph
  let rooted ← document.rooted settings
  let matcher ← document.matcher settings
  if matcher.isEmpty then return .noTargets
  let reached ← rooted.reachableTargets matcher settings
  return .answer invocation.json (targetsAnswer rooted.root reached)
    (targetsReport reached)

def runSubgraph (invocation : Invocation) (workspace : Workspace)
    (target : Node) : Except RequestError Response := do
  let document ← workspace.documentAt invocation.graph
  document.requireNode target
  let settings ← invocation.settings workspace {}
  let callers ← (document.graph.callersOf target (fun _ => false)
    settings.maxVisits).mapError fun overrun => .search (.budget overrun)
  return .answer invocation.json (Document.toJson callers none)
    (callersReport target callers)

def runShortest (invocation : Invocation) (workspace : Workspace)
    (source target : Node) : Except RequestError Response := do
  let document ← workspace.documentAt invocation.graph
  document.requireNode source
  document.requireNode target
  let settings ← invocation.settings workspace {}
  let path ← (document.graph.shortestPath source target
    settings.maxVisits).mapError .search
  return .answer invocation.json (pathAnswer path)
    (pathReport source target path)

def runStats (invocation : Invocation) (workspace : Workspace) :
    Except RequestError Response := do
  let document ← workspace.documentAt invocation.graph
  return .answer invocation.json document.statistics document.report

def run (invocation : Invocation) (workspace : Workspace) : Response :=
  let response := match invocation.command with
    | .paths options => invocation.runPaths workspace options
    | .entries root => invocation.runEntries workspace root
    | .targets root targets => invocation.runTargets workspace root targets
    | .subgraph target => invocation.runSubgraph workspace target
    | .shortest source target => invocation.runShortest workspace source target
    | .stats => invocation.runStats workspace
  match response with
  | .ok response => response
  | .error error => .failed error

end Invocation

end CallChains
