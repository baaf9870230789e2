import CallChains.Graph.Edge
/-!
Visit budgets. A traversal pays for every node that it visits, and fails at the
first visit past its limit.
-/

namespace CallChains

structure Overrun where
  label : String
  limit : Nat
  node : Option Node
  deriving DecidableEq, Repr

def Overrun.message (overrun : Overrun) : String :=
  let place := match overrun.node with
    | some node => " at " ++ node
    | none => ""
  s!"{overrun.label} exceeded visit budget of {overrun.limit} nodes" ++ place

structure VisitBudget where
  limit : Option Nat
  label : String
  visited : Nat := 0
  deriving DecidableEq, Repr

namespace VisitBudget

def limitOf : Option Int → Except String (Option Nat)
  | none => .ok none
  | some limit =>
      if limit < 0 then .error s!"Visit limit must be non-negative, got {limit}"
      else .ok (some limit.toNat)

/-- One more visit; it counts even when it goes past the limit. -/
def charge (budget : VisitBudget) : VisitBudget :=
  { budget with visited := budget.visited + 1 }

def overrun? (budget : VisitBudget) (node : Option Node) : Option Overrun :=
  match budget.limit with
  | none => none
  | some limit =>
      if limit < budget.visited then some { label := budget.label, limit, node }
      else none

def spend (budget : VisitBudget) (node : Node) : Except Overrun VisitBudget :=
  match budget.charge.overrun? (some node) with
  | some overrun => .error overrun
  | none => .ok budget.charge

def summary (budget : VisitBudget) : String :=
  let limit := match budget.limit with
    | some limit => toString limit
    | none => "None"
  s!"VisitBudget(limit={limit}, visited={budget.visited})"

theorem spend_limited (limit : Nat) (label : String) (visited : Nat)
    (node : Node) :
    spend { limit := some limit, label, visited } node =
      if visited < limit then
        .ok { limit := some limit, label, visited := visited + 1 }
      else .error { label, limit, node := some node } := by
  by_cases within : visited < limit
  · have notPast : ¬ limit < visited + 1 := by omega
    simp [spend, charge, overrun?, within, notPast]
  · have past : limit < visited + 1 := by omega
    simp [spend, charge, overrun?, within, past]

end VisitBudget

end CallChains
