import CallChains.Target.Hierarchy
import Mathlib.Data.Nat.Find
import Mathlib.Logic.Relation
/-!
Walking up a hierarchy decides inheritance, even where the hierarchy goes round
in a circle. A walk that comes back to a class has met all ancestors before: the
first way up to an ancestor passes no class twice.
-/

namespace CallChains

namespace Hierarchy

/-- Inheritance: every class inherits from itself, from its superclass, and from
what that inherits from. -/
def Inherits (hierarchy : Hierarchy) : String → String → Prop :=
  Relation.ReflTransGen fun className superclass =>
    hierarchy[className]? = some superclass

def above (hierarchy : Hierarchy) :
    (steps : Nat) → (className : String) → Option String
  | 0, className => some className
  | steps + 1, className => hierarchy[className]?.bind (hierarchy.above steps)

variable {hierarchy : Hierarchy} {className superclass ancestor : String}

/-! ## Steps up -/

theorem above_succ (found : hierarchy[className]? = some superclass)
    (steps : Nat) :
    hierarchy.above (steps + 1) className =
      hierarchy.above steps superclass := by
  rw [above, found, Option.bind_some]

theorem above_add (first second : Nat) (className : String) :
    hierarchy.above (first + second) className =
      (hierarchy.above first className).bind (hierarchy.above second) := by
  induction first generalizing className with
  | zero => rw [Nat.zero_add, above, Option.bind_some]
  | succ first induction =>
      rw [Nat.succ_add, above, above, Option.bind_assoc]
      exact congrArg _ (funext induction)

theorem inherits_iff_above :
    hierarchy.Inherits className ancestor ↔
      ∃ steps, hierarchy.above steps className = some ancestor := by
  constructor
  · intro inherits
    induction inherits using Relation.ReflTransGen.head_induction_on with
    | refl => exact ⟨0, rfl⟩
    | head found _ induction =>
        rcases induction with ⟨steps, reached⟩
        exact ⟨steps + 1, (above_succ found steps).trans reached⟩
  · rintro ⟨steps, reached⟩
    induction steps generalizing className with
    | zero => exact Option.some.inj reached ▸ .refl
    | succ steps induction =>
        rcases Option.bind_eq_some_iff.mp reached with
          ⟨superclass, found, reachedThence⟩
        exact .head found (induction reachedThence)

/-! ## First ways up -/

structure IsFirstWay (hierarchy : Hierarchy) (className ancestor : String)
    (steps : Nat) : Prop where
  reached : hierarchy.above steps className = some ancestor
  first : ∀ earlier < steps, hierarchy.above earlier className ≠ some ancestor

theorem Inherits.exists_isFirstWay
    (inherits : hierarchy.Inherits className ancestor) :
    ∃ steps, hierarchy.IsFirstWay className ancestor steps := by
  have reachable := inherits_iff_above.mp inherits
  exact ⟨Nat.find reachable, Nat.find_spec reachable,
    fun _ earlier => Nat.find_min reachable earlier⟩

theorem IsFirstWay.after {steps : Nat}
    (way : hierarchy.IsFirstWay className ancestor (steps + 1))
    (found : hierarchy[className]? = some superclass) :
    hierarchy.IsFirstWay superclass ancestor steps where
  reached := (above_succ found steps).symm.trans way.reached
  first earlier before reached :=
    way.first (earlier + 1) (Nat.succ_lt_succ before)
      ((above_succ found earlier).trans reached)

/-- A first way up passes no class twice: what comes after the second time could
follow the first. -/
theorem IsFirstWay.no_return {steps start later : Nat} {passed : String}
    (way : hierarchy.IsFirstWay className ancestor steps)
    (there : hierarchy.above start className = some passed)
    (onward : start < later) (within : later ≤ steps) :
    hierarchy.above later className ≠ some passed := by
  intro again
  have shortcut : hierarchy.above (start + (steps - later)) className =
      some ancestor := by
    rw [above_add, there, ← again, ← above_add, Nat.add_sub_cancel' within]
    exact way.reached
  exact way.first _ (by omega) shortcut

/-! ## The walk up -/

theorem inherits_of_climbs {met : Std.TreeSet String}
    (climbed : hierarchy.climbs ancestor met className) :
    hierarchy.Inherits className ancestor := by
  fun_induction climbs hierarchy ancestor met className with
  | case1 => cases climbed
  | case2 => exact .refl
  | case3 => cases climbed
  | case4 met className _ _ superclass found induction =>
      exact .head found (induction climbed)

/-- A walk follows the first way up to an ancestor to its end, if it has met no
class on it before. -/
theorem climbs_of_isFirstWay {met : Std.TreeSet String} {steps : Nat}
    (way : hierarchy.IsFirstWay className ancestor steps)
    (unmet : ∀ passed ≤ steps, ∀ other,
      hierarchy.above passed className = some other → other ∉ met) :
    hierarchy.climbs ancestor met className = true := by
  induction steps generalizing className met with
  | zero =>
      rw [climbs, if_neg (unmet 0 (Nat.le_refl 0) className rfl),
        if_pos (Option.some.inj way.reached)]
  | succ steps induction =>
      rcases Option.bind_eq_some_iff.mp way.reached with ⟨superclass, found, -⟩
      have elsewhere : className ≠ ancestor := fun same =>
        way.first 0 (Nat.succ_pos steps) (congrArg some same)
      -- The class is met now, but the rest of a first way does not come back to
      -- it.
      have unmetThence : ∀ passed ≤ steps, ∀ other,
          hierarchy.above passed superclass = some other →
          other ∉ met.insert className := by
        intro passed within other reached member
        rw [← above_succ found] at reached
        rcases Std.TreeSet.mem_insert.mp member with same | metBefore
        · rcases Std.LawfulEqCmp.eq_of_compare same with rfl
          exact way.no_return rfl (Nat.succ_pos passed)
            (Nat.succ_le_succ within) reached
        · exact unmet (passed + 1) (Nat.succ_le_succ within) other
            reached metBefore
      rw [climbs, if_neg (unmet 0 (Nat.zero_le _) className rfl),
        if_neg elsewhere]
      split
      · rename_i ended
        cases found.symm.trans ended
      · rename_i next upward
        rcases Option.some.inj (found.symm.trans upward) with rfl
        exact induction (way.after found) unmetThence

theorem isOrInherits_iff :
    hierarchy.isOrInherits className ancestor = true ↔
      hierarchy.Inherits className ancestor := by
  constructor
  · exact inherits_of_climbs
  · intro inherits
    rcases inherits.exists_isFirstWay with ⟨steps, way⟩
    exact climbs_of_isFirstWay way fun _ _ _ _ => Std.TreeSet.not_mem_emptyc

/-- The walk up decides inheritance: it comes to a class just if some number of
steps leads there. So every class inherits from itself and from the ancestors of
its ancestors. When the walk comes back to a class that it has passed, the
classes met until then are all ancestors and none of them is missed. -/
theorem isOrInherits_decides (hierarchy : Hierarchy) :
    (∀ className ancestor, hierarchy.isOrInherits className ancestor = true ↔
      hierarchy.Inherits className ancestor) ∧
    (∀ className ancestor, hierarchy.isOrInherits className ancestor = true ↔
      ∃ steps, hierarchy.above steps className = some ancestor) ∧
    (∀ className, hierarchy.isOrInherits className className = true) ∧
    (∀ className superclass ancestor,
      hierarchy.isOrInherits className superclass = true →
      hierarchy.isOrInherits superclass ancestor = true →
      hierarchy.isOrInherits className ancestor = true) ∧
    (∀ className entered start later, start < later →
      hierarchy.above start className = some entered →
      hierarchy.above later className = some entered →
      ∀ ancestor, hierarchy.isOrInherits className ancestor = true ↔
        ∃ steps < later, hierarchy.above steps className = some ancestor) := by
  refine ⟨fun _ _ => isOrInherits_iff,
    fun _ _ => isOrInherits_iff.trans inherits_iff_above,
    fun _ => isOrInherits_iff.mpr .refl, ?_, ?_⟩
  · intro className superclass ancestor lower upper
    exact isOrInherits_iff.mpr
      ((isOrInherits_iff.mp lower).trans (isOrInherits_iff.mp upper))
  · intro className entered start later onward there again ancestor
    rw [isOrInherits_iff]
    constructor
    · intro inherits
      rcases inherits.exists_isFirstWay with ⟨steps, way⟩
      refine ⟨steps, Nat.lt_of_not_le fun within => ?_, way.reached⟩
      exact way.no_return there onward within again
    · rintro ⟨steps, -, reached⟩
      exact inherits_iff_above.mpr ⟨steps, reached⟩

/-- Two classes that are each other's superclass have no further ancestor. -/
example : isOrInherits (.ofList [("X", "Y"), ("Y", "X")]) "X" "A" = false := by
  decide +kernel

end Hierarchy

end CallChains
