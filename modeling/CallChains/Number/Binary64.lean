/-!
Binary floating-point numbers with 53 significant bits, held as exact values.
Rounding is done once, from an exact fraction, so no operation depends on a
machine's arithmetic and every comparison is a comparison of whole numbers.
-/

namespace CallChains

/-- A double: `finite negative significand exponent` is `± significand * 2 ^
exponent`. The two zeros differ in their sign. -/
inductive Binary64 where
  | notANumber
  | infinite (negative : Bool)
  | finite (negative : Bool) (significand : Nat) (exponent : Int)
  deriving DecidableEq, Repr, Inhabited

namespace Binary64

/-- The exponent of the smallest steps; every finite double is a whole multiple
of `2 ^ leastExponent`. -/
def leastExponent : Int := -1074

def greatestExponent : Int := 971

def fullSignificand : Nat := Nat.pow 2 52

def zero : Binary64 := .finite false 0 leastExponent

def infinity : Binary64 := .infinite false

/-! ## Rounding -/

/-- The whole number nearest to a quotient; a half goes to the even
neighbour. -/
def roundQuotient (numerator denominator : Nat) : Nat :=
  let quotient := numerator / denominator
  let rest := numerator % denominator
  if 2 * rest < denominator then quotient
  else if denominator < 2 * rest then quotient + 1
  else quotient + quotient % 2

def inSteps (numerator denominator : Nat) (exponent : Int) : Nat × Nat :=
  if 0 ≤ exponent then (numerator, denominator * Nat.pow 2 exponent.toNat)
  else (numerator * Nat.pow 2 (-exponent).toNat, denominator)

/-- The double nearest to a fraction: the steps are chosen so that 53 bits
remain in front of the point, or are the smallest steps there are. Past the
widest steps nothing but infinity is left. -/
def ofFraction (negative : Bool) (numerator denominator : Nat) : Binary64 :=
  if numerator = 0 then .finite negative 0 leastExponent
  else
    let estimate : Int := (numerator.log2 : Int) - denominator.log2 - 52
    let estimated := inSteps numerator denominator estimate
    let exact := if estimated.1 / estimated.2 < fullSignificand then estimate -
      1 else estimate
    let exponent := max exact leastExponent
    let measured := inSteps numerator denominator exponent
    let significand := roundQuotient measured.1 measured.2
    let carried := significand = 2 * fullSignificand
    let exponent := if carried then exponent + 1 else exponent
    if greatestExponent < exponent then .infinite negative
    else .finite negative
      (if carried then fullSignificand else significand) exponent

/-- The double nearest to `digits * 10 ^ exponent`. Exponents far outside the
range are answered before their power of ten is formed. -/
def ofDecimal (negative : Bool) (digits : Nat) (exponent : Int) : Binary64 :=
  let magnitude : Int := exponent + (Nat.toDigits 10 digits).length
  if digits = 0 ∨ magnitude < -330 then .finite negative 0 leastExponent
  else if 330 < magnitude then .infinite negative
  else if 0 ≤ exponent then
    ofFraction negative (digits * Nat.pow 10 exponent.toNat) 1
  else ofFraction negative digits (Nat.pow 10 (-exponent).toNat)

/-! ## Position on the number line -/

def stepsPerUnit : Nat := Nat.pow 2 (-leastExponent).toNat

def steps (negative : Bool) (significand : Nat) (exponent : Int) : Int :=
  let magnitude : Nat :=
    significand * Nat.pow 2 (exponent - leastExponent).toNat
  if negative then -magnitude else magnitude

/-- One more than a number, rounded. The sum of opposite numbers is the positive
zero. -/
def addOne : Binary64 → Binary64
  | .notANumber => .notANumber
  | .infinite negative => .infinite negative
  | .finite negative significand exponent =>
      let sum := steps negative significand exponent + stepsPerUnit
      ofFraction (sum < 0) sum.natAbs stepsPerUnit

def isZero : Binary64 → Bool
  | .finite _ significand _ => significand = 0
  | _ => false

end Binary64

end CallChains
