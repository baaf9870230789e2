import CallChains.Graph.CallGraph
/-!
Walks along calls. What the searches answer is told by walks: which nodes lead
to which by calls of any kind or by explicit calls only, and how many explicit
calls it takes at least.
-/

namespace CallChains

/-! ## Walks -/

/-- The calls lead from the source to the target, each is admitted, and each
starts where the one before it ended. -/
def Walk (admitted : Edge → Prop) (source : Node) : List Edge → Node → Prop
  | [], target => source = target
  | call :: rest, target =>
      call.source = source ∧ admitted call ∧
      Walk admitted call.target rest target

def nodesVisited (source : Node) (calls : List Edge) : List Node :=
  source :: calls.map (·.target)

section Walk

variable {admitted : Edge → Prop} {source middle target : Node} {call : Edge}
  {calls first second : List Edge}

@[simp] theorem walk_nil : Walk admitted source [] target ↔ source = target :=
  Iff.rfl

@[simp] theorem walk_cons : Walk admitted source (call :: calls) target ↔
    call.source = source ∧ admitted call ∧
    Walk admitted call.target calls target := Iff.rfl

theorem walk_append : Walk admitted source (first ++ second) target ↔
    ∃ middle, Walk admitted source first middle ∧
      Walk admitted middle second target := by
  induction first generalizing source with
  | nil => simp
  | cons call rest induction => simp [induction, and_assoc]

theorem Walk.append (before : Walk admitted source first middle)
    (after : Walk admitted middle second target) :
    Walk admitted source (first ++ second) target :=
  walk_append.mpr ⟨middle, before, after⟩

theorem walk_concat : Walk admitted source (calls ++ [call]) target ↔
    Walk admitted source calls call.source ∧ admitted call ∧
    call.target = target := by
  rw [walk_append]
  constructor
  · rintro ⟨middle, before, rfl, allowed, after⟩
    exact ⟨before, allowed, after⟩
  · rintro ⟨before, allowed, after⟩
    exact ⟨call.source, before, rfl, allowed, after⟩

theorem Walk.admitted_of_mem (walk : Walk admitted source calls target)
    (member : call ∈ calls) :
    admitted call := by
  induction calls generalizing source with
  | nil => cases member
  | cons head rest induction =>
      rcases walk with ⟨-, allowed, after⟩
      rcases List.mem_cons.mp member with equal | member
      · exact equal ▸ allowed
      · exact induction after member

theorem Walk.of_forall_mem {other : Edge → Prop}
    (walk : Walk admitted source calls target)
    (allowed : ∀ call ∈ calls, other call) :
    Walk other source calls target := by
  induction calls generalizing source with
  | nil => exact walk
  | cons head rest induction =>
      rcases walk with ⟨start, -, after⟩
      exact ⟨start, allowed head List.mem_cons_self,
        induction after fun call member =>
          allowed call (List.mem_cons_of_mem head member)⟩

theorem Walk.mono {other : Edge → Prop}
    (walk : Walk admitted source calls target)
    (weaker : ∀ call, admitted call → other call) :
    Walk other source calls target :=
  walk.of_forall_mem fun call member =>
    weaker call (walk.admitted_of_mem member)

theorem Walk.replace {other : Edge → Prop}
    (walk : Walk admitted source calls target)
    (each : ∀ call, admitted call → ∃ replacement, other replacement ∧
      replacement.source = call.source ∧ replacement.target = call.target) :
    ∃ replacements, Walk other source replacements target ∧
      replacements.length = calls.length := by
  induction calls generalizing source with
  | nil => exact ⟨[], walk, rfl⟩
  | cons head rest induction =>
      rcases walk with ⟨start, allowed, after⟩
      rcases each head allowed with ⟨first, isOther, sameStart, sameEnd⟩
      rcases induction after with ⟨later, isWalk, length⟩
      exact ⟨first :: later, ⟨sameStart.trans start, isOther, sameEnd ▸ isWalk⟩,
        congrArg (· + 1) length⟩

theorem Walk.from_target (walk : Walk admitted source calls target)
    (member : call ∈ calls) :
    ∃ rest, rest.Sublist calls ∧ Walk admitted call.target rest target := by
  induction calls generalizing source with
  | nil => cases member
  | cons head rest induction =>
      rcases walk with ⟨-, -, after⟩
      rcases List.mem_cons.mp member with equal | member
      · exact ⟨rest, List.sublist_cons_self head rest, equal ▸ after⟩
      · rcases induction after member with ⟨later, shorter, walk⟩
        exact ⟨later, shorter.cons head, walk⟩

theorem Walk.split_at (walk : Walk admitted source calls target) {node : Node}
    (visited : node ∈ nodesVisited source calls) :
    ∃ before after, calls = before ++ after ∧
      Walk admitted source before node ∧ Walk admitted node after target := by
  induction calls generalizing source with
  | nil =>
      rcases List.mem_singleton.mp visited with rfl
      exact ⟨[], [], rfl, rfl, walk⟩
  | cons head rest induction =>
      rcases List.mem_cons.mp visited with rfl | later
      · exact ⟨[], head :: rest, rfl, rfl, walk⟩
      · rcases walk with ⟨start, allowed, after⟩
        rcases induction after later with
          ⟨before, behind, split, there, onwards⟩
        exact ⟨head :: before, behind, congrArg (head :: ·) split,
          ⟨start, allowed, there⟩, onwards⟩

/-- A walk that ends elsewhere either starts elsewhere or leaves a node for good
by one of its calls. -/
theorem Walk.last_departure (walk : Walk admitted source calls target)
    {node : Node} (elsewhere : target ≠ node) :
    source ≠ node ∨ ∃ call ∈ calls, call.source = node ∧ call.target ≠ node ∧
      ∃ rest, Walk admitted call.target rest target := by
  induction calls generalizing source with
  | nil => exact Or.inl (walk ▸ elsewhere)
  | cons head rest induction =>
      rcases walk with ⟨rfl, -, after⟩
      -- The call at hand is the last departure only if there is none later.
      rcases induction after with leaves | ⟨call, member, departure⟩
      · by_cases atNode : head.source = node
        · exact Or.inr ⟨head, List.mem_cons_self, atNode, leaves, rest, after⟩
        · exact Or.inl atNode
      · exact Or.inr ⟨call, List.mem_cons_of_mem head member, departure⟩

@[simp] theorem nodesVisited_concat :
    nodesVisited source (calls ++ [call]) =
      nodesVisited source calls ++ [call.target] := by
  simp [nodesVisited]

end Walk

/-! ## Walks in a graph -/

namespace CallGraph

def IsExplicitCall (graph : CallGraph) (call : Edge) : Prop :=
  call ∈ graph.edges ∧ call.explicit = true

def ExplicitWalk (graph : CallGraph) (source : Node) (calls : List Edge)
    (target : Node) : Prop :=
  Walk graph.IsExplicitCall source calls target

def Reaches (graph : CallGraph) (source target : Node) : Prop :=
  ∃ calls, Walk (· ∈ graph.edges) source calls target

def ReachesExplicitly (graph : CallGraph) (source target : Node) : Prop :=
  ∃ calls, graph.ExplicitWalk source calls target

def IsDistance (graph : CallGraph) (source target : Node) (hops : Nat) : Prop :=
  (∃ calls, graph.ExplicitWalk source calls target ∧ calls.length = hops) ∧
    ∀ calls, graph.ExplicitWalk source calls target → hops ≤ calls.length

variable {graph : CallGraph} {source middle target : Node}

theorem Reaches.refl (graph : CallGraph) (node : Node) :
    graph.Reaches node node := ⟨[], rfl⟩

theorem ReachesExplicitly.refl (graph : CallGraph) (node : Node) :
    graph.ReachesExplicitly node node := ⟨[], rfl⟩

theorem ReachesExplicitly.reaches
    (reached : graph.ReachesExplicitly source target) :
    graph.Reaches source target := by
  rcases reached with ⟨calls, walk⟩
  exact ⟨calls, walk.mono fun _ allowed => allowed.1⟩

theorem IsDistance.unique {hops other : Nat}
    (distance : graph.IsDistance source target hops)
    (otherDistance : graph.IsDistance source target other) : hops = other := by
  rcases distance with ⟨⟨calls, walk, rfl⟩, least⟩
  rcases otherDistance with ⟨⟨otherCalls, otherWalk, rfl⟩, otherLeast⟩
  exact Nat.le_antisymm (least otherCalls otherWalk) (otherLeast calls walk)

end CallGraph

end CallChains
