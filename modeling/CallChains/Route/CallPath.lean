import CallChains.Route.Search
/-!
Call paths: the chains of calls that are reported.
-/

namespace CallChains

def nodesAlong : List Edge → List Node
  | [] => []
  | edge :: rest => edge.source :: edge.target :: rest.map (·.target)

structure CallPath where
  entry : Node
  target : Node
  edges : List Edge
  deriving DecidableEq, Repr

namespace CallPath

def nodes (path : CallPath) : List Node :=
  if path.edges.isEmpty then [path.entry] else nodesAlong path.edges

def length (path : CallPath) : Nat := path.edges.length

def toJson (path : CallPath) : Json :=
  .obj [("entry", .str path.entry), ("target", .str path.target),
    ("length", Json.ofNat path.length), ("nodes", Json.texts path.nodes),
    ("edges", .arr (path.edges.map Edge.toJson))]

def summary (path : CallPath) : String :=
  "Path(" ++ " -> ".intercalate path.nodes ++ ")"

/-- How a path is answered where there may be none. A path without calls counts
as none. -/
def answer : Option CallPath → Json
  | some path => if path.edges.isEmpty then .null else path.toJson
  | none => .null

end CallPath

def CallGraph.shortestPath (graph : CallGraph) (source target : Node)
    (limit : Option Nat) : Except SearchError (Option CallPath) := do
  let tree ← graph.shortestPaths source limit true
  return (tree.pathTo target).map fun edges =>
    { entry := source, target, edges }

end CallChains
