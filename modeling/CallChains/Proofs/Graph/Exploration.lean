import CallChains.Graph.Exploration
import CallChains.Proofs.Graph.Walk
import Mathlib.Data.List.Perm.Subperm
import Mathlib.Data.Set.Card
import Mathlib.Logic.Relation
/-!
Breadth-first search is exact. It visits every node that steps lead to from the
roots, each once, and nothing else; under a limit it gives the same answer or
fails at the first visit past the limit.
-/

namespace CallChains

def ReachedFrom (next : Node → List Node) (roots : List Node)
    (node : Node) : Prop :=
  ∃ root ∈ roots,
    Relation.ReflTransGen (fun before after => after ∈ next before) root node

theorem ReachedFrom.mem_append {next : Node → List Node}
    {roots domain : List Node} {node : Node}
    (reached : ReachedFrom next roots node)
    (inside : ∀ node, ∀ other ∈ next node, other ∈ domain) :
    node ∈ domain ++ roots := by
  rcases reached with ⟨root, isRoot, steps⟩
  cases steps with
  | refl => exact List.mem_append_right domain isRoot
  | tail _ step => exact List.mem_append_left roots (inside _ node step)

/-! ## The frontier -/

namespace Frontier

variable {visited : List Node} {frontier : Frontier} {node : Node}

theorem mem_met_meet {other : Node} :
    other ∈ (frontier.meet node).met ↔ other = node ∨ other ∈ frontier.met := by
  unfold meet
  split
  · rename_i present
    exact ⟨Or.inr, fun either => either.elim (fun equal => equal ▸ present) id⟩
  · simp [Std.TreeSet.mem_insert, eq_comm (a := node)]

theorem mem_met_meetAll {nodes : List Node} {other : Node} :
    other ∈ (frontier.meetAll nodes).met ↔
      other ∈ nodes ∨ other ∈ frontier.met := by
  induction nodes generalizing frontier with
  | nil => simp [meetAll]
  | cons first rest induction =>
      have unfolded : frontier.meetAll (first :: rest) =
          (frontier.meet first).meetAll rest := rfl
      rw [unfolded, induction, mem_met_meet, List.mem_cons]
      tauto

structure Tidy (visited : List Node) (frontier : Frontier) : Prop where
  met_iff : ∀ node, node ∈ frontier.met ↔
    node ∈ visited ∨ node ∈ frontier.pending
  nodup : (visited ++ frontier.pending).Nodup

theorem Tidy.meet (tidy : Tidy visited frontier) (node : Node) :
    Tidy visited (frontier.meet node) := by
  unfold Frontier.meet
  split
  · exact tidy
  · rename_i fresh
    constructor
    · intro other
      simp only [Std.TreeSet.mem_insert, Std.LawfulEqCmp.compare_eq_iff_eq,
        List.mem_append, List.mem_singleton, tidy.met_iff]
      tauto
    · rw [← List.append_assoc, List.nodup_append]
      refine ⟨tidy.nodup, by simp, fun other member single last equal => ?_⟩
      rw [equal, List.mem_singleton.mp last] at member
      exact fresh ((tidy.met_iff node).mpr (List.mem_append.mp member))

theorem Tidy.meetAll (tidy : Tidy visited frontier) (nodes : List Node) :
    Tidy visited (frontier.meetAll nodes) := by
  induction nodes generalizing frontier with
  | nil => exact tidy
  | cons first rest induction => exact induction (tidy.meet first)

end Frontier

/-! ## The invariant -/

/-- The state of a search that has visited some nodes: it has met the roots and
whatever one step leads to from a visited node, and only nodes that are
reached. -/
structure Explored (next : Node → List Node) (roots visited : List Node)
    (frontier : Frontier) : Prop where
  tidy : frontier.Tidy visited
  started : ∀ root ∈ roots, root ∈ frontier.met
  closed : ∀ node ∈ visited, ∀ other ∈ next node, other ∈ frontier.met
  sound : ∀ node ∈ frontier.met, ReachedFrom next roots node

variable {next : Node → List Node} {roots visited : List Node}
  {frontier : Frontier}

theorem explored_ofRoots (next : Node → List Node) (roots : List Node) :
    Explored next roots [] (Frontier.ofRoots roots) := by
  have met {node : Node} : node ∈ (Frontier.ofRoots roots).met ↔
      node ∈ roots := by
    simp [Frontier.ofRoots, Frontier.mem_met_meetAll]
  refine ⟨Frontier.Tidy.meetAll ⟨by simp, by simp⟩ roots,
    fun root member => met.mpr member, by simp, ?_⟩
  intro node member
  exact ⟨node, met.mp member, .refl⟩

theorem Explored.visit {node : Node} {rest : List Node}
    (explored : Explored next roots visited frontier)
    (pending : frontier.pending = node :: rest) :
    Explored next roots (visited ++ [node])
      (Frontier.meetAll { frontier with pending := rest } (next node)) := by
  have tidy : Frontier.Tidy (visited ++ [node])
      { frontier with pending := rest } := by
    constructor
    · intro other
      rw [explored.tidy.met_iff, pending]
      simp [or_assoc]
    · simpa [pending] using explored.tidy.nodup
  have visitedNow : node ∈ frontier.met :=
    (explored.tidy.met_iff node).mpr (Or.inr (pending ▸ List.mem_cons_self))
  refine ⟨tidy.meetAll _, ?_, ?_, ?_⟩
  · intro root member
    exact Frontier.mem_met_meetAll.mpr (Or.inr (explored.started root member))
  · intro before member after step
    rw [Frontier.mem_met_meetAll]
    rcases List.mem_append.mp member with member | last
    · exact Or.inr (explored.closed before member after step)
    · exact Or.inl (List.mem_singleton.mp last ▸ step)
  · intro other member
    rcases Frontier.mem_met_meetAll.mp member with step | member
    · rcases explored.sound node visitedNow with ⟨root, isRoot, steps⟩
      exact ⟨root, isRoot, steps.tail step⟩
    · exact explored.sound other member

theorem Explored.mem_visited_iff
    (explored : Explored next roots visited frontier)
    (finished : frontier.pending = []) {node : Node} :
    node ∈ visited ↔ ReachedFrom next roots node := by
  have met (node : Node) : node ∈ frontier.met ↔ node ∈ visited := by
    simp [explored.tidy.met_iff, finished]
  constructor
  · intro member
    exact explored.sound node ((met node).mpr member)
  · rintro ⟨root, isRoot, steps⟩
    induction steps with
    | refl => exact (met root).mp (explored.started root isRoot)
    | tail _ step induction =>
        exact (met _).mp (explored.closed _ induction _ step)

theorem Explored.pending_eq_nil {domain : List Node}
    (explored : Explored next roots visited frontier)
    (inside : ∀ node, ReachedFrom next roots node → node ∈ domain)
    (enough : domain.length ≤ visited.length) : frontier.pending = [] := by
  have met : ∀ node ∈ visited ++ frontier.pending, node ∈ domain :=
    fun node member =>
    inside node (explored.sound node
      ((explored.tidy.met_iff node).mpr (List.mem_append.mp member)))
  have fewer := (explored.tidy.nodup.subperm met).length_le
  rw [List.length_append] at fewer
  exact List.eq_nil_of_length_eq_zero (by omega)

/-! ## Runs -/

/-- What a search answers that would visit these nodes without a limit: it fails
at the first of them that its budget does not cover. -/
def VisitBudget.answer (budget : VisitBudget) (visits : List Node) :
    Except Overrun (List Node) :=
  match budget.limit with
  | none => .ok visits
  | some limit =>
      if visits.length ≤ limit - budget.visited then .ok visits
      else .error { label := budget.label, limit,
                    node := visits[limit - budget.visited]? }

theorem VisitBudget.answer_cases (limit : Option Nat) (label : String)
    (visits : List Node) :
    (answer { limit, label } visits = .ok visits ∧ ∀ most, limit = some most →
      visits.length ≤ most) ∨
    ∃ most, limit = some most ∧ most < visits.length ∧ ∃ node ∈ visits,
      answer { limit, label } visits =
        .error { label, limit := most, node := some node } := by
  cases limit with
  | none => exact Or.inl ⟨rfl, fun _ limited => nomatch limited⟩
  | some most =>
      by_cases enough : visits.length ≤ most
      · refine Or.inl ⟨if_pos enough, ?_⟩
        rintro _ ⟨⟩
        exact enough
      · have past : most < visits.length := Nat.lt_of_not_le enough
        refine Or.inr ⟨most, rfl, past, visits[most], List.getElem_mem past, ?_⟩
        rw [← List.getElem?_eq_getElem past]
        exact if_neg enough

def Exceeds (limit : Option Nat) (nodes : Set Node) : Prop :=
  ∃ most, limit = some most ∧ (most : ℕ∞) < nodes.encard

theorem exceeds_iff_of_nodup (limit : Option Nat) {nodes : Set Node}
    {visits : List Node} (nodup : visits.Nodup)
    (visited : ∀ node, node ∈ visits ↔ node ∈ nodes) :
    Exceeds limit nodes ↔ ∃ most, limit = some most ∧ most < visits.length := by
  have same : nodes = (visits.toFinset : Set Node) := by
    ext node
    simp [visited]
  rw [Exceeds, same, Set.encard_coe_eq_coe_finsetCard,
    List.toFinset_card_of_nodup nodup]
  simp only [Nat.cast_lt]

theorem VisitBudget.answer_limited {limit : Option Nat} {nodes : Set Node}
    {visits : List Node} (label : String)
    (counted : Exceeds limit nodes ↔
      ∃ most, limit = some most ∧ most < visits.length) :
    (¬ Exceeds limit nodes ∧ answer { limit, label } visits = .ok visits) ∨
    (Exceeds limit nodes ∧ ∃ overrun : Overrun, limit = some overrun.limit ∧
      answer { limit, label } visits = .error overrun) := by
  rcases answer_cases limit label visits with
    ⟨answered, enough⟩ | ⟨most, limited, past, node, -, failed⟩
  · refine Or.inl ⟨fun exceeds => ?_, answered⟩
    rcases counted.mp exceeds with ⟨most, limited, past⟩
    exact absurd (enough most limited) (Nat.not_le_of_lt past)
  · exact Or.inr ⟨counted.mpr ⟨most, limited, past⟩, _, limited, failed⟩

theorem VisitBudget.answer_nil (budget : VisitBudget) :
    budget.answer [] = .ok [] := by
  unfold answer
  split
  · rfl
  · exact if_pos (Nat.zero_le _)

theorem VisitBudget.answer_cons (budget : VisitBudget) (node : Node)
    (later : List Node) :
    budget.answer (node :: later) =
      (budget.spend node).bind fun budget =>
        (budget.answer later).bind fun later => .ok (node :: later) := by
  rcases budget with ⟨limit, label, visited⟩
  cases limit with
  | none => rfl
  | some limit =>
      rw [spend_limited]
      by_cases covered : visited < limit
      · have remaining : ∃ left, limit - visited = left + 1 :=
          ⟨limit - visited - 1, by omega⟩
        rcases remaining with ⟨left, leftover⟩
        have afterwards : limit - (visited + 1) = left := by omega
        by_cases enough : later.length ≤ left
        · simp [answer, covered, leftover, afterwards, enough, Except.bind]
        · simp [answer, covered, leftover, afterwards, enough, Except.bind]
      · have spent : limit - visited = 0 := by omega
        simp [answer, covered, spent, Except.bind]

theorem visitPending_nil (next : Node → List Node) (rounds : Nat)
    (budget : VisitBudget) (finished : frontier.pending = []) :
    visitPending next rounds budget frontier = .ok [] := by
  cases rounds with
  | zero => rfl
  | succ rounds =>
      rw [visitPending]
      simp only [finished]

theorem visitPending_cons (next : Node → List Node) (rounds : Nat)
    (budget : VisitBudget) {node : Node} {rest : List Node}
    (pending : frontier.pending = node :: rest) :
    visitPending next (rounds + 1) budget frontier =
      (budget.spend node).bind fun budget =>
        (visitPending next rounds budget
          (Frontier.meetAll { frontier with pending := rest } (next node))).bind
          fun later =>
            .ok (node :: later) := by
  rw [visitPending]
  simp only [pending]
  rfl

/-- A search that has as many rounds left as there are nodes left to visit
empties its frontier, unless it goes past its limit. -/
theorem Explored.visitPending {domain : List Node} {rounds : Nat}
    (explored : Explored next roots visited frontier)
    (inside : ∀ node, ReachedFrom next roots node → node ∈ domain)
    (enough : domain.length ≤ rounds + visited.length) :
    ∃ later last, Explored next roots (visited ++ later) last ∧
      last.pending = [] ∧
      ∀ budget, CallChains.visitPending next rounds budget frontier =
        budget.answer later := by
  -- Each round visits one more node of the domain, so no rounds are left only
  -- when all of it has been visited.
  induction rounds generalizing visited frontier with
  | zero =>
      have emptied := explored.pending_eq_nil inside (by omega)
      exact ⟨[], frontier, by simpa using explored, emptied,
        fun budget => budget.answer_nil.symm⟩
  | succ rounds induction =>
      cases pending : frontier.pending with
      | nil =>
          refine ⟨[], frontier, by simpa using explored, pending,
            fun budget => ?_⟩
          rw [budget.answer_nil, visitPending_nil next _ budget pending]
      | cons node rest =>
          rcases induction (explored.visit pending) (by simp; omega) with
            ⟨later, last, finished, emptied, ran⟩
          refine ⟨node :: later, last, by simpa using finished, emptied,
            fun budget => ?_⟩
          rw [visitPending_cons next rounds budget pending, budget.answer_cons]
          simp only [ran]

namespace CallGraph

/-- Breadth-first search from roots by steps to nodes of the graph: there is one
list of nodes without repetitions, those that are reached, and every search
visits it as far as its limit allows. -/
theorem explore_eq (graph : CallGraph) (next : Node → List Node)
    (roots : List Node)
    (inside : ∀ node, ∀ other ∈ next node, other ∈ graph.nodes) :
    ∃ visited, visited.Nodup ∧
      (∀ node, node ∈ visited ↔ ReachedFrom next roots node) ∧
      ∀ budget, graph.explore next roots budget = budget.answer visited := by
  have reached : ∀ node, ReachedFrom next roots node →
      node ∈ graph.nodes ++ roots :=
    fun _ reached => reached.mem_append inside
  have enough : (graph.nodes ++ roots).length ≤
      graph.nodeCount + roots.length + ([] : List Node).length := by
    simp
  rcases (explored_ofRoots next roots).visitPending reached enough with
    ⟨visited, last, finished, emptied, ran⟩
  refine ⟨visited, ?_, fun node => finished.mem_visited_iff emptied, ran⟩
  simpa [emptied] using finished.tidy.nodup

end CallGraph

end CallChains
