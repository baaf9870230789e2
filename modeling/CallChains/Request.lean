import CallChains.Analysis
import CallChains.Target.Matcher
import CallChains.Workspace.Loading
/-!
What every way to ask the program has in common: which root a document is
analysed under, which targets are looked for, and how a request can fail.
-/

namespace CallChains

inductive RequestError where
  | graph (error : GraphError)
  | config (error : ConfigError)
  | unknownRoot (root : Node)
  | unknownNode (node : Node)
  | target (error : TargetError)
  | search (error : SearchError)
  deriving DecidableEq, Repr

def RequestError.message : RequestError → String
  | .graph error => error.message
  | .config error => error.message
  | .unknownRoot root => "Root '" ++ root ++ "' is not in the call graph"
  | .unknownNode node => "Node '" ++ node ++ "' is not in the call graph"
  | .target error => error.message
  | .search error => error.message

def RequestError.fatalFault? : RequestError → Option FileFault
  | .graph error => error.fatalFault?
  | .config error => error.fatalFault?
  | .unknownRoot _ | .unknownNode _ | .target _ | .search _ => none

structure RootedGraph where
  graph : CallGraph
  root : Node

namespace Document

/-- The root that a document is analysed under: the one in the settings, or else
its own. An empty root in the settings is none. -/
def rootUnder (document : Document) (settings : Settings) : Option Node :=
  match settings.root with
  | none | some "" => document.root
  | some root => some root

/-- The graph of a document under its root. A root must be a node of the graph;
without one the graph gets a root that calls every uncalled node. -/
def rooted (document : Document) (settings : Settings) :
    Except RequestError RootedGraph :=
  match document.rootUnder settings with
  | none => .ok { graph := document.graph.withSyntheticRoot,
                  root := CallGraph.syntheticRoot }
  | some root =>
      if document.graph.contains root then .ok { graph := document.graph, root }
      else .error (.unknownRoot root)

def matcher (document : Document) (settings : Settings) :
    Except RequestError TargetMatcher :=
  (TargetMatcher.ofDefinitions (settings.targets.map .str)
    document.superclasses).mapError .target

def requireNode (document : Document) (node : Node) :
    Except RequestError Unit :=
  if document.graph.contains node then .ok () else .error (.unknownNode node)

end Document

namespace RootedGraph

def entries (rooted : RootedGraph) : NodeSet :=
  rooted.graph.directCallees rooted.root

def reachableTargets (rooted : RootedGraph) (matcher : TargetMatcher)
    (settings : Settings) : Except RequestError NodeSet :=
  (rooted.graph.reachableTargets rooted.entries.toList matcher.accepts
    settings.maxVisits).mapError
    fun overrun => .search (.budget overrun)

def analyze (rooted : RootedGraph) (matcher : TargetMatcher)
    (settings : Settings) : Except RequestError Analysis :=
  (rooted.graph.analyze rooted.root matcher.accepts settings).mapError .search

end RootedGraph

namespace Workspace

def settingsWith (workspace : Workspace) (path : Option String)
    (overrides : Members) : Except RequestError Settings := do
  let loaded ← (workspace.loadSettings path).mapError .config
  let changed ← (loaded.settings.withOverrides overrides).mapError
    fun error => .config (.setting error)
  return changed.settings

def documentAt (workspace : Workspace) (path : String) :
    Except RequestError Document :=
  (workspace.loadDocument path).mapError .graph

end Workspace

end CallChains
