import CallChains.Graph.Exploration
import CallChains.Graph.Root
import CallChains.Route.CallPath
import CallChains.Settings
/-!
The analysis as a whole: the entries under a root, the targets that they reach,
and for each target a shortest path from every entry that leads to it. Every
computation stands for itself; one that is cut short is recorded and leaves the
others alone.
-/

namespace CallChains

structure Failure where
  target : Node
  entry : Option Node
  error : SearchError
  deriving DecidableEq, Repr

def Failure.text (failure : Failure) : String :=
  let place := match failure.entry with
    | some entry => entry ++ " -> " ++ failure.target
    | none => failure.target
  place ++ ": " ++ failure.error.message

structure TargetResult where
  target : Node
  entries : List Node := []
  paths : List CallPath := []
  /-- The entries from which no explicit path leads to the target. -/
  unreachable : List Node := []
  failures : List Failure := []
  deriving DecidableEq, Repr

/-! ## One target -/

inductive EntryOutcome where
  | path (path : CallPath)
  | unreachable (entry : Node)
  | failed (failure : Failure)
  deriving DecidableEq, Repr

namespace EntryOutcome

def path? : EntryOutcome → Option CallPath
  | .path found => some found
  | _ => none

def unreachable? : EntryOutcome → Option Node
  | .unreachable entry => some entry
  | _ => none

def failure? : EntryOutcome → Option Failure
  | .failed failure => some failure
  | _ => none

end EntryOutcome

/-- Whether an error concerns one search alone. A node without a number would be
a fault of the whole analysis. -/
def SearchError.isRecoverable : SearchError → Bool
  | .unnumbered _ => false
  | _ => true

namespace CallGraph

def outcomeFrom (graph : CallGraph) (entry target : Node) (limit : Option Nat)
    (check : Bool) : Except SearchError EntryOutcome :=
  match graph.shortestPaths entry limit check with
  | .error error =>
      if error.isRecoverable then
        .ok (.failed { target, entry := some entry, error })
      else .error error
  | .ok tree =>
      match tree.pathTo target with
      | some edges => .ok (.path { entry, target, edges })
      | none => .ok (.unreachable entry)

/-- Shortest paths to a target from every entry among its callers. Entries are
calls of the root of any kind, because the explicit ones are told apart by the
search. -/
def pathsForTarget (graph : CallGraph) (root target : Node) (limit : Option Nat)
    (check : Bool) : Except SearchError TargetResult :=
  match graph.callersOf target (fun _ => false) limit with
  | .error overrun =>
      .ok { target,
            failures := [{ target, entry := none, error := .budget overrun }] }
  | .ok callers => do
      let entries := (callers.entriesUnder root).toList
      let outcomes ← entries.mapM fun entry =>
        callers.outcomeFrom entry target limit check
      return {
        target, entries
        paths := outcomes.filterMap EntryOutcome.path?
        unreachable := outcomes.filterMap EntryOutcome.unreachable?
        failures := outcomes.filterMap EntryOutcome.failure? }

end CallGraph

/-! ## All targets -/

structure Analysis where
  root : Node
  entryPoints : List Node
  targets : List Node
  results : List TargetResult
  deriving DecidableEq, Repr

namespace Analysis

def paths (analysis : Analysis) : List CallPath :=
  analysis.results.flatMap (·.paths)

def failures (analysis : Analysis) : List Failure :=
  analysis.results.flatMap (·.failures)

def pathsTo (analysis : Analysis) (target : Node) : List CallPath :=
  match analysis.results.find? (·.target = target) with
  | some result => result.paths
  | none => []

def methodsOnPaths (analysis : Analysis) : NodeSet :=
  Std.TreeSet.ofList (analysis.paths.flatMap CallPath.nodes)

end Analysis

/-- Works on all inputs at once. Whichever answer comes first, the answers are
taken up in the order of the inputs, and so is the first failure. -/
def pooledMap {Input Answer Error : Type}
    (compute : Input → Except Error Answer) (inputs : List Input) :
    Except Error (List Answer) :=
  (inputs.map compute).mapM id

theorem pooledMap_eq_mapM {Input Answer Error : Type}
    (compute : Input → Except Error Answer) (inputs : List Input) :
    pooledMap compute inputs = inputs.mapM compute := by
  rw [pooledMap, List.mapM_map]
  rfl

namespace CallGraph

/-- Finds shortest paths from the entries under a root to every target that they
reach. Only explicit calls lead to targets. -/
def analyze (graph : CallGraph) (root : Node) (isTarget : Node → Bool)
    (settings : Settings) : Except SearchError Analysis := do
  let entryPoints := (graph.directCallees root).toList
  let reached ←
    (graph.reachableTargets entryPoints isTarget settings.maxVisits).mapError
      .budget
  let targets := reached.toList
  let pathsFor target :=
    graph.pathsForTarget root target settings.maxVisits settings.checkInvariants
  let results ←
    if 1 < settings.workers ∧ 1 < targets.length then pooledMap pathsFor targets
    else targets.mapM pathsFor
  return { root, entryPoints, targets, results }

/-- The number of workers has no influence on an analysis. -/
theorem analyze_eq_serial (graph : CallGraph) (root : Node)
    (isTarget : Node → Bool) (settings : Settings) :
    graph.analyze root isTarget settings = (do
      let reached ← (graph.reachableTargets (graph.directCallees root).toList
        isTarget settings.maxVisits).mapError .budget
      let results ← reached.toList.mapM fun target =>
        graph.pathsForTarget root target settings.maxVisits
          settings.checkInvariants
      return {
        root
        entryPoints := (graph.directCallees root).toList
        targets := reached.toList
        results }) := by
  simp only [analyze, pooledMap_eq_mapM, ite_self]

end CallGraph

end CallChains
