import CallChains.Analysis
import CallChains.Document
import CallChains.Report.Annotation
/-!
Answers of the program as lines of plain text. Each line is written as console
markup and shown by itself. A line that cannot be shown ends the text there: the
lines before it are kept.
-/

namespace CallChains

structure TextReport where
  lines : List String
  error : Option DisplayError := none
  deriving DecidableEq, Repr

namespace TextReport

def empty : TextReport := { lines := [] }

def line (markup : String) : TextReport :=
  match Markup.plain markup with
  | .ok text => { lines := [text] }
  | .error fault => { lines := [], error := some (.markup fault) }

/-- One report after another; nothing comes after an error. -/
def append (first second : TextReport) : TextReport :=
  match first.error with
  | some _ => first
  | none => { lines := first.lines ++ second.lines, error := second.error }

instance : Append TextReport := ⟨append⟩

def concat (reports : List TextReport) : TextReport :=
  reports.foldl append empty

def ofLines (markups : List String) : TextReport := concat (markups.map line)

def annotated (start : String) (edge : Edge) : TextReport :=
  match edge.annotation with
  | .ok annotation => line (start ++ annotation)
  | .error error => { lines := [], error := some error }

def text (report : TextReport) : String :=
  String.join (report.lines.map (· ++ "\n"))

end TextReport

open Markup (escape styled styledByName)

def CallPath.report (path : CallPath) : TextReport :=
  .line ("  " ++ styled "bold cyan" path.entry ++
    s!" [dim]({path.length} hops)[/]") ++
    .concat (path.edges.map fun edge =>
      .annotated ("    └─ " ++ styled "cyan" edge.target) edge)

def TargetResult.report (result : TargetResult) : TextReport :=
  .line ("\n[bold yellow]▶ " ++ escape result.target ++ "[/]") ++
    (if result.paths.isEmpty then .line "  [dim]No explicit path found[/]"
      else .concat (result.paths.map CallPath.report)) ++
    .ofLines (result.failures.map fun failure =>
      "  [red]Failed:[/] " ++ escape failure.text)

def Analysis.report (analysis : Analysis) : TextReport :=
  .ofLines ["[bold]Root:[/] " ++ escape analysis.root,
      s!"Entry points: {analysis.entryPoints.length}",
      s!"Targets: {analysis.targets.length}"] ++
    .concat (analysis.results.map TargetResult.report) ++
    .line (s!"\n[dim]Paths: {analysis.paths.length} | " ++
      s!"Methods on paths: {analysis.methodsOnPaths.size} | " ++
      s!"Failures: {analysis.failures.length}[/]")

def entriesReport (root : Node) (entries : NodeSet) : TextReport :=
  if entries.isEmpty then
    .line ("No entry points under '" ++ styledByName "cyan" root ++ "'")
  else .ofLines (entries.toList.map (styledByName "cyan"))

def targetsReport (targets : NodeSet) : TextReport :=
  if targets.isEmpty then .line "No reachable targets"
  else .ofLines (targets.toList.map (styledByName "yellow"))

def callersReport (node : Node) (callers : CallGraph) : TextReport :=
  .line ("\n[bold]Callers of " ++ styledByName "cyan" node ++ "[/]") ++
    (if callers.edges.isEmpty then .line "  [dim]No callers found[/]"
    else .empty) ++
    .concat (callers.edges.map fun edge =>
      .annotated ("  " ++ styled "cyan" edge.source ++ " → " ++
        escape edge.target) edge) ++
    .line s!"\n[dim]Nodes: {callers.nodeCount} | Edges: {callers.edgeCount}[/]"

def pathReport (source target : Node) : Option CallPath → TextReport
  | some path => path.report
  | none =>
      .line ("No explicit path from '" ++ styledByName "cyan" source ++
        "' to '" ++
        styledByName "cyan" target ++ "'")

def Document.report (document : Document) : TextReport :=
  let graph := document.graph
  let explicitCount := graph.edges.countP (·.explicit)
  .ofLines ([s!"Nodes: {graph.nodeCount}",
      s!"Edges: {graph.edgeCount} ({explicitCount} explicit)"] ++
    match document.root with
    | none | some "" => []
    | some root => ["Root: " ++ escape root])

def failureReport (message : String) : TextReport :=
  .line ("[red]Error:[/red] " ++ escape message)

end CallChains
