import CallChains.Graph.CallGraph
import CallChains.Json.Shown
import CallChains.Target.Hierarchy
/-!
Call graph documents: a graph as a JSON object, together with its root and the
superclasses of the classes in it.
-/

namespace CallChains

structure Document where
  graph : CallGraph
  root : Option Node
  superclasses : Hierarchy

inductive EdgeFault where
  | notObject
  | missing (key : String)
  | endpoints
  | explicit
  deriving DecidableEq, Repr

inductive DocumentError where
  | notObject
  | edgesNotList
  | nodesNotList
  | node (value : Json)
  | edge (position : Nat) (fault : EdgeFault)
  | root
  | classes
  deriving DecidableEq, Repr

def EdgeFault.message : EdgeFault → String
  | .notObject => " must be an object"
  | .missing key => " is missing " ++ Text.quoted key
  | .endpoints => " endpoints must be strings"
  | .explicit => " 'explicit' must be a boolean"

def DocumentError.message (origin : String) (error : DocumentError) : String :=
  origin ++ ": " ++ match error with
    | .notObject => "top level must be an object"
    | .edgesNotList => "'edges' must be a list"
    | .nodesNotList => "'nodes' must be a list"
    | .node value => "node " ++ value.quoted ++ " must be a string"
    | .edge position fault => s!"edge #{position}" ++ fault.message
    | .root => "'root' must be a string"
    | .classes => "'classes' must map class names to superclass names"

namespace Document

/-! ## Reading -/

def listUnder (members : Members) (key : String) (error : DocumentError) :
    Except DocumentError (List Json) :=
  match members.find? key with
  | none => .ok []
  | some (.arr items) => .ok items
  | some _ => .error error

def readNode : Json → Except DocumentError Node
  | .str node => .ok node
  | value => .error (.node value)

/-- Whether a call is explicit; it is unless the document says otherwise. -/
def readExplicit (members : Members) : Except EdgeFault Bool :=
  match members.find? "explicit" with
  | none => .ok true
  | some (.bool value) => .ok value
  | some _ => .error .explicit

def readEdge : Json → Except EdgeFault Edge
  | .obj members =>
      match Members.find? members "source", Members.find? members "target" with
      | none, _ => .error (.missing "source")
      | some _, none => .error (.missing "target")
      | some (.str source), some (.str target) => do
          let explicit ← readExplicit members
          return {
            source, target, explicit
            line := (Members.find? members "line").getD .null
            kind := (Members.find? members "kind").getD .null }
      | some _, some _ => .error .endpoints
  | _ => .error .notObject

def readEdges : (position : Nat) → List Json → Except DocumentError (List Edge)
  | _, [] => .ok []
  | position, entry :: rest => do
      let edge ← (readEdge entry).mapError (.edge position)
      let edges ← readEdges (position + 1) rest
      return edge :: edges

def readRoot (members : Members) : Except DocumentError (Option Node) :=
  match members.find? "root" with
  | none | some .null => .ok none
  | some (.str root) => .ok (some root)
  | some _ => .error .root

def readClass : String × Json → Except DocumentError (String × String)
  | (className, .str superclass) => .ok (className, superclass)
  | _ => .error .classes

def readClasses (members : Members) : Except DocumentError Hierarchy :=
  match members.find? "classes" with
  | none => .ok ∅
  | some (.obj classes) => do
      let pairs ← classes.mapM readClass
      return pairs.foldl (fun hierarchy (className, superclass) =>
        hierarchy.insert className superclass) ∅
  | some _ => .error .classes

/-- Reads a document. Listed nodes come first in the graph; of several faults
the first one in reading order is told. -/
def ofJson : Json → Except DocumentError Document
  | .obj members => do
      let entries ← listUnder members "edges" .edgesNotList
      let nodeValues ← listUnder members "nodes" .nodesNotList
      let nodes ← nodeValues.mapM readNode
      let edges ← readEdges 0 entries
      let root ← readRoot members
      let superclasses ← readClasses members
      return { graph := (CallGraph.empty.addNodes nodes).addEdges edges, root,
               superclasses }
  | _ => .error .notObject

/-! ## Writing -/

def isolatedNodes (graph : CallGraph) : List Node :=
  graph.nodes.filter fun node =>
    graph.inDegree node = 0 && graph.outDegree node = 0

/-- A graph and its root as the members of a document. Nodes are listed only if
no edge mentions them. -/
def members (graph : CallGraph) (root : Option Node) : Members :=
  let isolated := isolatedNodes graph
  ("edges", .arr (graph.edges.map Edge.toJson)) ::
    (if isolated.isEmpty then [] else [("nodes", Json.texts isolated)]) ++
    match root with
    | some root => [("root", .str root)]
    | none => []

def toJson (graph : CallGraph) (root : Option Node) : Json :=
  .obj (members graph root)

end Document

end CallChains
