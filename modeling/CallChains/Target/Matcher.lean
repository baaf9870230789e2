import CallChains.Json.Shown
import CallChains.Target.Hierarchy
import CallChains.Target.Signature
import Std.Data.TreeSet
/-!
Target definitions: which callables are worth reaching. A signature stands for
the methods with the same member in its class and all subclasses; any other text
stands for the callable of that name.
-/

namespace CallChains

inductive TargetError where
  | invalid (definition : Json)
  | malformed (definition : String)
  deriving DecidableEq, Repr

def TargetError.message : TargetError → String
  | .invalid definition => "Invalid target definition: " ++ definition.quoted
  | .malformed definition =>
      "Malformed target signature: " ++ Text.quoted definition

inductive Target where
  | name (name : String)
  | signature (signature : Signature)
  deriving DecidableEq, Repr

/-- Reads one definition. A text that opens like a signature has to be one. -/
def Target.ofText (definition : String) : Except TargetError Target :=
  let characters := definition.toList
  if (Text.strip characters).isEmpty then .error (.invalid (.str definition))
  else
    match Signature.ofText? definition with
    | some found => .ok (.signature found)
    | none =>
        if (Text.dropBlanks characters).head? = some '<' then
          .error (.malformed definition)
        else .ok (.name (String.ofList (Text.strip characters)))

def Target.ofJson : Json → Except TargetError Target
  | .str definition => Target.ofText definition
  | value => .error (.invalid value)

structure TargetMatcher where
  superclasses : Hierarchy
  names : Std.TreeSet String
  /-- The classes of the defined signatures, by member. -/
  classes : Std.TreeMap String (List String)

namespace TargetMatcher

def empty (superclasses : Hierarchy) : TargetMatcher :=
  { superclasses, names := ∅, classes := ∅ }

def add (matcher : TargetMatcher) : Target → TargetMatcher
  | .name name => { matcher with names := matcher.names.insert name }
  | .signature signature =>
      let classes := matcher.classes.getD signature.subSignature []
      { matcher with
        classes := matcher.classes.insert signature.subSignature
          (classes ++ [signature.declaringClass]) }

def ofDefinitions (definitions : List Json) (superclasses : Hierarchy) :
    Except TargetError TargetMatcher := do
  let targets ← definitions.mapM Target.ofJson
  return targets.foldl add (empty superclasses)

def accepts (matcher : TargetMatcher) (node : String) : Bool :=
  matcher.names.contains node ||
    match Signature.ofText? node with
    | none => false
    | some signature =>
        (matcher.classes.getD signature.subSignature []).any fun ancestor =>
          matcher.superclasses.isOrInherits signature.declaringClass ancestor

def isEmpty (matcher : TargetMatcher) : Bool :=
  matcher.names.isEmpty && matcher.classes.isEmpty

/-- Different names and all signatures, repeated ones included. -/
def size (matcher : TargetMatcher) : Nat :=
  matcher.classes.foldl (fun count _ classes => count + classes.length)
    matcher.names.size

def summary (matcher : TargetMatcher) : String :=
  s!"TargetMatcher(definitions={matcher.size})"

end TargetMatcher

end CallChains
