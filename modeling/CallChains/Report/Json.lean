import CallChains.Analysis
import CallChains.Document
/-!
Answers of the program as JSON values.
-/

namespace CallChains

def NodeSet.toJson (nodes : NodeSet) : Json := Json.texts nodes.toList

namespace Failure

def toJson (failure : Failure) : Json :=
  .obj [("entry", .ofText? failure.entry),
    ("error", .str failure.error.message)]

end Failure

namespace TargetResult

def toJson (result : TargetResult) : Json :=
  .obj [("target", .str result.target), ("entries", Json.texts result.entries),
    ("paths", .arr (result.paths.map CallPath.toJson)),
    ("unreachable_from", Json.texts result.unreachable),
    ("failures", .arr (result.failures.map Failure.toJson))]

def toBriefJson (result : TargetResult) : Json :=
  .obj [("target", .str result.target),
    ("paths", .arr (result.paths.map CallPath.toJson)),
    ("failures", Json.texts (result.failures.map Failure.text))]

end TargetResult

namespace Analysis

def toJson (analysis : Analysis) : Json :=
  .obj [("root", .str analysis.root),
    ("entry_points", Json.texts analysis.entryPoints),
    ("targets", .arr (analysis.results.map TargetResult.toJson)),
    ("methods_on_paths", analysis.methodsOnPaths.toJson)]

def toBriefJson (analysis : Analysis) : Json :=
  .obj [("root", .str analysis.root),
    ("results", .arr (analysis.results.map TargetResult.toBriefJson)),
    ("methods_on_paths", analysis.methodsOnPaths.toJson)]

end Analysis

def Document.statistics (document : Document) : Json :=
  .obj [("nodes", .ofNat document.graph.nodeCount),
    ("edges", .ofNat document.graph.edgeCount),
    ("explicit_edges", .ofNat (document.graph.edges.countP (·.explicit))),
    ("root", .ofText? document.root)]

def entriesAnswer (root : Node) (entries : NodeSet) : Json :=
  .obj [("root", .str root), ("entries", entries.toJson)]

def targetsAnswer (root : Node) (targets : NodeSet) : Json :=
  .obj [("root", .str root), ("targets", targets.toJson)]

def pathAnswer (path : Option CallPath) : Json :=
  .obj [("path", CallPath.answer path)]

end CallChains
