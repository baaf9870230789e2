import CallChains.Json.Shown
/-!
Calls between two callables. A call whose callee could not be confirmed
statically is not explicit; it is kept in the graph but never part of a chain
that is claimed to exist.
-/

namespace CallChains

/-- The name of a callable, in practice a method signature. -/
abbrev Node := String

structure Edge where
  source : Node
  target : Node
  explicit : Bool := true
  line : Json := .null
  kind : Json := .null
  deriving DecidableEq, Repr

namespace Edge

def toJson (edge : Edge) : Json :=
  .obj [("source", .str edge.source), ("target", .str edge.target),
    ("explicit", .bool edge.explicit), ("line", edge.line), ("kind", edge.kind)]

def text (edge : Edge) : String :=
  edge.source ++ (if edge.explicit then " -> " else " ~> ") ++ edge.target

end Edge

end CallChains
