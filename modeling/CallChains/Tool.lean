import CallChains.Report.Json
import CallChains.Request
/-!
The tools that the program offers to other programs. A tool takes the members of
an object as its arguments and answers with one text, which holds JSON.
-/

namespace CallChains

inductive ToolResponse where
  | text (text : String)
  | unusableArgument
  | fatal (fault : FileFault)
  deriving DecidableEq, Repr

inductive ToolError where
  | request (error : RequestError)
  | missing (argument : String)
  | unusable
  deriving DecidableEq, Repr

namespace Tool

/-! ## Arguments -/

def argument (arguments : Members) (name : String) : Except ToolError Json :=
  match arguments.find? name with
  | some value => .ok value
  | none => .error (.missing name)

def graphArgument (arguments : Members) : Except ToolError String := do
  match ← argument arguments "graph" with
  | .str path => return path
  | _ => .error .unusable

/-- The settings that the arguments replace. Targets that are not given replace
nothing. -/
def overrides (arguments : Members) : Members :=
  let targets := (arguments.find? "targets").getD .null
  [("root", (arguments.find? "root").getD .null),
    ("targets", if targets.isGiven then targets else .null)]

def load (workspace : Workspace) (arguments : Members) :
    Except ToolError (Document × Settings) := do
  let path ← graphArgument arguments
  let document ← (workspace.documentAt path).mapError .request
  let settings ← (workspace.settingsWith none (overrides arguments)).mapError
    .request
  return (document, settings)

/-! ## Tools -/

def answerPaths (workspace : Workspace) (arguments : Members) :
    Except ToolError Json := do
  let (document, settings) ← load workspace arguments
  let rooted ← (document.rooted settings).mapError .request
  let matcher ← (document.matcher settings).mapError .request
  if matcher.isEmpty then
    return .obj [("error", .str "No targets given"), ("results", .arr [])]
  let analysis ← (rooted.analyze matcher settings).mapError .request
  return analysis.toBriefJson

def answerEntries (workspace : Workspace) (arguments : Members) :
    Except ToolError Json := do
  let (document, settings) ← load workspace arguments
  let rooted ← (document.rooted settings).mapError .request
  return entriesAnswer rooted.root rooted.entries

def answerTargets (workspace : Workspace) (arguments : Members) :
    Except ToolError Json := do
  let (document, settings) ← load workspace arguments
  let rooted ← (document.rooted settings).mapError .request
  let matcher ← (document.matcher settings).mapError .request
  let reached ← (rooted.reachableTargets matcher settings).mapError .request
  return targetsAnswer rooted.root reached

def noSuchNode (value : Json) : Json :=
  .obj [("error", .str ("No node named '" ++ value.shown ++ "'"))]

/-- The node that a value names. Lists and objects cannot even be looked up. -/
def nodeNamed (document : Document) : Json → Except ToolError (Option Node)
  | .str node => .ok (if document.graph.contains node then some node else none)
  | .arr _ | .obj _ => .error .unusable
  | _ => .ok none

def answerShortest (workspace : Workspace) (arguments : Members) :
    Except ToolError Json := do
  let (document, settings) ← load workspace arguments
  let sourceValue ← argument arguments "source"
  let targetValue ← argument arguments "target"
  match ← nodeNamed document sourceValue with
  | none => return noSuchNode sourceValue
  | some source =>
      match ← nodeNamed document targetValue with
      | none => return noSuchNode targetValue
      | some target =>
          let path ← (document.graph.shortestPath source target
            settings.maxVisits).mapError
            fun error => .request (.search error)
          return pathAnswer path

def answerStats (workspace : Workspace) (arguments : Members) :
    Except ToolError Json := do
  let path ← graphArgument arguments
  let document ← (workspace.documentAt path).mapError .request
  return document.statistics

def answer (workspace : Workspace) (name : String) (arguments : Members) :
    Except ToolError Json :=
  match name with
  | "callpath_paths" => answerPaths workspace arguments
  | "callpath_entries" => answerEntries workspace arguments
  | "callpath_targets" => answerTargets workspace arguments
  | "callpath_shortest" => answerShortest workspace arguments
  | "callpath_stats" => answerStats workspace arguments
  | _ => .ok (.obj [("error", .str ("Unknown tool: " ++ name))])

/-- Calls a tool. An answer is spread over lines; a failure is told on a single
line. -/
def call (workspace : Workspace) (name : String) (arguments : Members) :
    ToolResponse :=
  let failure message :=
    ToolResponse.text (Json.obj [("error", .str message)]).line
  match answer workspace name arguments with
  | .ok value => .text value.indented
  | .error (.request error) =>
      match error.fatalFault? with
      | some fault => .fatal fault
      | none => failure error.message
  | .error (.missing name) => failure (Text.quoted name)
  | .error .unusable => .unusableArgument

/-! ## Descriptions -/

structure Description where
  name : String
  description : String
  properties : Members
  required : List String

namespace Description

def toJson (tool : Description) : Json :=
  .obj [("name", .str tool.name), ("description", .str tool.description),
    ("inputSchema",
      .obj [("type", .str "object"), ("properties", .obj tool.properties),
      ("required", Json.texts tool.required)])]

end Description

def textSchema (description : String) : Json :=
  .obj [("type", .str "string"), ("description", .str description)]

def graphProperty : String × Json :=
  ("graph", textSchema "Path to the call graph JSON document")

def rootProperty : String × Json :=
  ("root", textSchema
    "Synthetic root node (optional; defaults to the document's root)")

def targetsProperty : String × Json :=
  ("targets", .obj
    [("type", .str "array"), ("items", .obj [("type", .str "string")]),
    ("description",
      .str "Target method signatures (optional; defaults to the config file)")])

def descriptions : List Description :=
  [{ name := "callpath_paths"
     description :=
       "Find the shortest explicit call path from every entry point to every " ++
       "reachable target method. Returns paths as ordered call chains."
     properties := [graphProperty, rootProperty, targetsProperty]
     required := ["graph"] },
   { name := "callpath_entries"
     description :=
       "List the entry points called directly by the synthetic root."
     properties := [graphProperty, rootProperty]
     required := ["graph"] },
   { name := "callpath_targets"
     description :=
       "List target methods reachable from the entry points via explicit calls."
     properties := [graphProperty, rootProperty, targetsProperty]
     required := ["graph"] },
   { name := "callpath_shortest"
     description := "Find the shortest explicit call path between two methods."
     properties := [graphProperty,
       ("source", textSchema "Method to start from"),
       ("target", textSchema "Method to reach")]
     required := ["graph", "source", "target"] },
   { name := "callpath_stats"
     description := "Get node and edge counts of a call graph document."
     properties := [graphProperty]
     required := ["graph"] }]

end Tool

end CallChains
