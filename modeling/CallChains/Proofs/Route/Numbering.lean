import CallChains.Route.VertexIndex
import Mathlib.Data.List.Nodup
/-!
Which nodes a numbering knows: the nodes it was built from, each once.
-/

namespace CallChains.VertexIndex

theorem exists_indexOf?_iff {vertices : VertexIndex} {node : Node} :
    (∃ index, vertices.indexOf? node = some index) ↔ node ∈ vertices.nodes := by
  rw [nodes, Array.mem_toList_iff, Array.mem_iff_getElem]
  constructor
  · rintro ⟨index, found⟩
    exact ⟨index.val, index.isLt, indexOf?_eq_some_iff.mp found⟩
  · rintro ⟨number, inside, found⟩
    exact ⟨⟨number, inside⟩, indexOf?_eq_some_iff.mpr found⟩

theorem mem_nodes_iff {vertices : VertexIndex} {node : Node} :
    node ∈ vertices.nodes ↔ ∃ index, vertices.nodeAt index = node := by
  rw [← exists_indexOf?_iff]
  exact exists_congr fun index => indexOf?_eq_some_iff

theorem mem_nodes_of_indexOf? {vertices : VertexIndex} {node : Node}
    {index : Fin vertices.size} (found : vertices.indexOf? node = some index) :
    node ∈ vertices.nodes :=
  exists_indexOf?_iff.mp ⟨index, found⟩

theorem indexOf?_eq_none {vertices : VertexIndex} {node : Node}
    (unknown : node ∉ vertices.nodes) :
    vertices.indexOf? node = none :=
  Option.eq_none_iff_forall_ne_some.mpr fun _ found =>
    unknown (mem_nodes_of_indexOf? found)

theorem nodeAt_injective (vertices : VertexIndex) :
    Function.Injective vertices.nodeAt := by
  intro first second equal
  have found := indexOf?_nodeAt vertices first
  rw [equal, indexOf?_nodeAt] at found
  exact (Option.some.inj found).symm

theorem nodes_nodup (vertices : VertexIndex) : vertices.nodes.Nodup := by
  rw [List.nodup_iff_injective_getElem]
  intro first second equal
  have inside (place : Fin vertices.nodes.length) : place.val < vertices.size :=
    place.isLt
  have same : (⟨first, inside first⟩ : Fin vertices.size) =
      ⟨second, inside second⟩ :=
    vertices.nodeAt_injective equal
  exact Fin.ext (Fin.mk.inj same)

@[simp] theorem length_nodes (vertices : VertexIndex) :
    vertices.nodes.length = vertices.size :=
  Array.length_toList

/-! ## Building -/

theorem mem_nodes_add {vertices : VertexIndex} {node other : Node} :
    other ∈ (vertices.add node).nodes ↔
      other = node ∨ other ∈ vertices.nodes := by
  unfold add
  split
  · rename_i present
    rcases Option.isSome_iff_exists.mp
      (Std.TreeMap.mem_iff_isSome_getElem?.mp present) with
      ⟨number, found⟩
    have member : node ∈ vertices.nodes :=
      Array.mem_toList_iff.mpr
        (Array.mem_of_getElem? ((vertices.inverse node number).mp found))
    exact ⟨Or.inr, fun either => either.elim (fun equal => equal ▸ member) id⟩
  · simp [nodes, or_comm]

theorem mem_nodes_addAll {vertices : VertexIndex} {added : List Node}
    {node : Node} :
    node ∈ (added.foldl add vertices).nodes ↔
      node ∈ added ∨ node ∈ vertices.nodes := by
  induction added generalizing vertices with
  | nil => simp
  | cons first rest induction =>
      rw [List.foldl_cons, induction, mem_nodes_add, List.mem_cons]
      tauto

theorem mem_nodes_ofGraph {graph : CallGraph} {extra : List Node}
    {node : Node} :
    node ∈ (ofGraph graph extra).nodes ↔ node ∈ extra ∨ node ∈ graph.nodes := by
  have none : (empty).nodes = [] := rfl
  rw [ofGraph, ofNodes, mem_nodes_addAll, mem_nodes_addAll, none]
  simp

theorem size_ofGraph_of_mem {graph : CallGraph} {node : Node}
    (member : node ∈ graph.nodes) :
    (ofGraph graph [node]).size = graph.nodeCount := by
  have same : (ofGraph graph [node]).nodes.Perm graph.nodes := by
    apply (List.perm_ext_iff_of_nodup (nodes_nodup _) graph.nodes_nodup).mpr
    intro other
    rw [mem_nodes_ofGraph, List.mem_singleton]
    exact ⟨fun either => either.elim (fun equal => equal ▸ member) id, Or.inr⟩
  rw [← length_nodes, same.length_eq, CallGraph.length_nodes]

end CallChains.VertexIndex
