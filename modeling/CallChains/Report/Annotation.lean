import CallChains.Console.Markup.Shown
import CallChains.Graph.Edge
/-!
Annotations of calls in reports: whether the call is ambiguous, its kind, and
its line.
-/

namespace CallChains

inductive DisplayError where
  | kind
  | markup (fault : Markup.Fault)
  deriving DecidableEq, Repr

namespace Edge

def kindNote (edge : Edge) : Except DisplayError (List String) :=
  match edge.kind with
  | .str kind => .ok (if kind = "" then [] else [Text.lowerCase kind])
  | kind => if kind.isGiven then .error .kind else .ok []

def notes (edge : Edge) : Except DisplayError (List String) := do
  let kind ← edge.kindNote
  let line := if edge.line = .null then [] else ["line " ++ edge.line.shown]
  return (if edge.explicit then [] else ["ambiguous"]) ++ kind ++ line

/-- The notes in brackets, as console markup. The notes are not escaped: markup
in them has its effect. -/
def annotation (edge : Edge) : Except DisplayError String := do
  match ← edge.notes with
  | [] => return ""
  | notes => return " [yellow]\\[" ++ ", ".intercalate notes ++ "][/]"

end Edge

end CallChains
