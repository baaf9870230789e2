import CallChains.Graph.CallGraph
/-!
Numbering of nodes: the nodes of a search have the numbers from zero on, in the
order in which they were added, and can be looked up both ways.
-/

namespace CallChains

structure VertexIndex where
  nodeOrder : Array Node
  numbers : Std.TreeMap Node Nat
  inverse : ∀ (node : Node) (number : Nat),
    numbers[node]? = some number ↔ nodeOrder[number]? = some node

namespace VertexIndex

def size (vertices : VertexIndex) : Nat := vertices.nodeOrder.size

def nodes (vertices : VertexIndex) : List Node := vertices.nodeOrder.toList

def contains (vertices : VertexIndex) (node : Node) : Bool :=
  vertices.numbers.contains node

def indexOf? (vertices : VertexIndex) (node : Node) :
    Option (Fin vertices.size) :=
  match found : vertices.numbers[node]? with
  | none => none
  | some number =>
      some ⟨number, (Array.getElem?_eq_some_iff.mp
        ((vertices.inverse node number).mp found)).1⟩

theorem val_lt_size_nodeOrder {vertices : VertexIndex}
    (index : Fin vertices.size) :
    index.val < vertices.nodeOrder.size :=
  index.isLt

def nodeAt (vertices : VertexIndex) (index : Fin vertices.size) : Node :=
  have inside := val_lt_size_nodeOrder index
  vertices.nodeOrder[index.val]

/-- The node with a number from outside; negative numbers count from the end. -/
def nodeAt? (vertices : VertexIndex) (index : Int) : Option Node :=
  let place := if index < 0 then index + vertices.size else index
  if place < 0 then none else vertices.nodeOrder[place.toNat]?

def empty : VertexIndex where
  nodeOrder := #[]
  numbers := ∅
  inverse := by simp

theorem inverse_push (vertices : VertexIndex) {node : Node}
    (fresh : node ∉ vertices.numbers) (other : Node) (number : Nat) :
    (vertices.numbers.insert node vertices.nodeOrder.size)[other]? =
        some number ↔
      (vertices.nodeOrder.push node)[number]? = some other := by
  have unnumbered : vertices.numbers[node]? = none :=
    Std.TreeMap.getElem?_eq_none fresh
  have old := vertices.inverse other number
  have new := vertices.inverse node number
  simp only [Std.TreeMap.getElem?_insert, Std.LawfulEqCmp.compare_eq_iff_eq,
    Array.getElem?_push]
  by_cases sameNode : node = other
  · subst sameNode
    by_cases last : number = vertices.nodeOrder.size
    · simp [last]
    · have notOld : vertices.nodeOrder[number]? ≠ some node := by
        intro found
        simp [unnumbered] at new
        exact new found
      simp [last, Ne.symm last, notOld]
  · by_cases last : number = vertices.nodeOrder.size
    · subst last
      simp [sameNode, old]
    · simp [sameNode, last, old]

def add (vertices : VertexIndex) (node : Node) : VertexIndex :=
  if present : node ∈ vertices.numbers then vertices
  else
    { nodeOrder := vertices.nodeOrder.push node
      numbers := vertices.numbers.insert node vertices.nodeOrder.size
      inverse := vertices.inverse_push present }

def ofNodes (nodes : List Node) : VertexIndex := nodes.foldl add empty

def ofGraph (graph : CallGraph) (extra : List Node) : VertexIndex :=
  extra.foldl add (ofNodes graph.nodes)

theorem indexOf?_eq_some_iff {vertices : VertexIndex} {node : Node}
    {index : Fin vertices.size} :
    vertices.indexOf? node = some index ↔ vertices.nodeAt index = node := by
  have inverse := vertices.inverse node index.val
  have inside : index.val < vertices.nodeOrder.size := index.isLt
  have read : vertices.nodeOrder[index.val]? = some (vertices.nodeAt index) :=
    Array.getElem?_eq_getElem inside
  unfold indexOf?
  split
  · rename_i absent
    simp_all
  · rename_i number found
    rw [found, read] at inverse
    constructor
    · intro equal
      have numbersEqual : number = index.val :=
        congrArg Fin.val (Option.some.inj equal)
      exact Option.some.inj (inverse.mp (congrArg some numbersEqual))
    · intro equal
      have numbersEqual := Option.some.inj (inverse.mpr (congrArg some equal))
      exact congrArg some (Fin.ext numbersEqual)

theorem indexOf?_nodeAt (vertices : VertexIndex) (index : Fin vertices.size) :
    vertices.indexOf? (vertices.nodeAt index) = some index :=
  indexOf?_eq_some_iff.mpr rfl

end VertexIndex

end CallChains
