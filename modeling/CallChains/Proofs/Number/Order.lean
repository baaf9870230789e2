import CallChains.Number.Basic
import Mathlib.Order.Basic
import Mathlib.Order.WithBot
/-!
The order of numbers. Places on the extended number line are in a linear order,
and the comparisons of numbers are comparisons of their places.
-/

namespace CallChains.Number

/-! ## Places -/

namespace Place

def extended : Place → WithBot (WithTop Int)
  | .below => ⊥
  | .at steps => ((steps : WithTop Int) : WithBot (WithTop Int))
  | .above => ((⊤ : WithTop Int) : WithBot (WithTop Int))

theorem extended_injective : Function.Injective extended := by
  intro left right equal
  cases left <;> cases right <;> simp_all [extended]

instance : LinearOrder Place := LinearOrder.lift' extended extended_injective

theorem le_above (place : Place) : place ≤ .above := by
  change place.extended ≤ ((⊤ : WithTop Int) : WithBot (WithTop Int))
  cases place <;> simp [extended]

theorem at_lt_at {left right : Int} :
    Place.at left < Place.at right ↔ left < right := by
  change (Place.at left).extended < (Place.at right).extended ↔ left < right
  simp [extended]

theorem lt_eq_true {left right : Place} :
    left.lt right = true ↔ left < right := by
  change left.lt right = true ↔ left.extended < right.extended
  have atEnd (steps : Int) : (Place.at steps).extended < Place.above.extended :=
    WithBot.coe_lt_coe.mpr (WithTop.coe_lt_top steps)
  cases left <;> cases right <;> simp [Place.lt, extended]
  exact atEnd _

end Place

/-! ## Numbers -/

theorem place?_int (value : Int) :
    (Number.int value).place? = some (.at (value * Binary64.stepsPerUnit)) :=
  rfl

theorem place?_infinity : infinity.place? = some .above := rfl

theorem stepsPerUnit_pos : 0 < (Binary64.stepsPerUnit : Int) := by
  unfold Binary64.stepsPerUnit
  generalize (-Binary64.leastExponent).toNat = exponent
  exact Int.natCast_pos.mpr (Nat.two_pow_pos exponent)

theorem lt_of_places {left right : Number} {leftPlace rightPlace : Place}
    (atLeft : left.place? = some leftPlace)
    (atRight : right.place? = some rightPlace) :
    left.lt right = true ↔ leftPlace < rightPlace := by
  cases left with
  | int leftValue =>
      cases right with
      | int rightValue =>
          rw [place?_int, Option.some.injEq] at atLeft atRight
          subst atLeft atRight
          rw [Place.at_lt_at, Int.mul_lt_mul_right stepsPerUnit_pos]
          simp
      | float rightValue => simp [lt, atLeft, atRight, Place.lt_eq_true]
  | float leftValue => simp [lt, atLeft, atRight, Place.lt_eq_true]

theorem same_of_places {left right : Number} {leftPlace rightPlace : Place}
    (atLeft : left.place? = some leftPlace)
    (atRight : right.place? = some rightPlace) :
    left.same right = true ↔ leftPlace = rightPlace := by
  simp [same, atLeft, atRight]

theorem atLeast_of_places {left right : Number} {leftPlace rightPlace : Place}
    (atLeft : left.place? = some leftPlace)
    (atRight : right.place? = some rightPlace) :
    left.atLeast right = true ↔ rightPlace ≤ leftPlace := by
  rw [atLeast, Bool.or_eq_true, lt_of_places atRight atLeft,
    same_of_places atLeft atRight, le_iff_lt_or_eq, eq_comm (a := leftPlace)]

/-- Only "not a number" has no place. -/
theorem exists_place? {number : Number}
    (isNumber : number ≠ .float .notANumber) :
    ∃ place, number.place? = some place := by
  cases number with
  | int value => exact ⟨_, place?_int value⟩
  | float value =>
      cases value with
      | notANumber => exact absurd rfl isNumber
      | infinite negative => cases negative <;> exact ⟨_, rfl⟩
      | finite negative significand exponent => exact ⟨_, rfl⟩

/-! ## Whole numbers and infinity -/

@[simp] theorem addOne_infinity : infinity.addOne = infinity := rfl

@[simp] theorem int_lt_infinity (value : Int) :
    (Number.int value).lt infinity = true := rfl

@[simp] theorem not_infinity_lt (number : Number) :
    infinity.lt number = false := by
  cases found : number.place? with
  | none => simp [lt, infinity, found]
  | some place =>
      rw [Bool.eq_false_iff]
      intro less
      exact absurd ((lt_of_places place?_infinity found).mp less)
        (not_lt.mpr place.le_above)

@[simp] theorem same_int (left right : Int) :
    (Number.int left).same (.int right) = decide (left = right) := by
  rw [Bool.eq_iff_iff, same_of_places (place?_int left) (place?_int right),
    Place.at.injEq, Int.mul_eq_mul_right_iff (Int.ne_of_gt stepsPerUnit_pos),
    decide_eq_true_iff]

@[simp] theorem infinity_same_infinity : infinity.same infinity = true := rfl

@[simp] theorem not_infinity_same_int (value : Int) :
    infinity.same (.int value) = false := rfl

@[simp] theorem not_int_same_infinity (value : Int) :
    (Number.int value).same infinity = false := rfl

@[simp] theorem int_ne_infinity (value : Int) : Number.int value ≠ infinity :=
  nofun

@[simp] theorem infinity_ne_int (value : Int) : infinity ≠ Number.int value :=
  nofun

end CallChains.Number
