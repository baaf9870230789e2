import CallChains.Number.Binary64
/-!
The shortest decimal text of a double. Digits are chosen by exact arithmetic: on
the coarsest decimal grid that has a point among the reals which round to the
number, the point nearest to it. A layout record then decides how digits and
exponent are written.
-/

namespace CallChains

/-- Significant digits and the place of the decimal point: the value is
`0.digits * 10 ^ point`. -/
structure Decimal where
  digits : List Char
  point : Int
  deriving DecidableEq, Repr

namespace Decimal

/-! ## Choosing digits -/

/-- A positive double and the reals that round to it, as whole numbers in one
common unit, beside that unit's count in a step of a decimal grid. The ends
belong to the interval when the significand is even. -/
structure Interval where
  value : Nat
  lower : Nat
  upper : Nat
  closed : Bool
  gridStep : Nat

/-- The interval of `significand * 2 ^ exponent` measured against the grid of
step `10 ^ grid`. A quarter of the number's own step is the coarsest unit in
which both ends are whole: the gap below a power of two is half as wide as the
gap above it. -/
def Interval.of (significand : Nat) (exponent : Int) (grid : Int) : Interval :=
  let decimalScale := Nat.pow 10 (-grid).toNat
  let quarter := Nat.pow 2 (exponent - 2).toNat * decimalScale
  let below := if significand = Binary64.fullSignificand ∧
    Binary64.leastExponent < exponent
    then 1 else 2
  { value := 4 * significand * quarter
    lower := (4 * significand - below) * quarter
    upper := (4 * significand + 2) * quarter
    closed := significand % 2 = 0
    gridStep := Nat.pow 10 grid.toNat * Nat.pow 2 (2 - exponent).toNat }

def Interval.readsBack (interval : Interval) (point : Nat) : Bool :=
  let position := point * interval.gridStep
  if interval.closed then interval.lower ≤ position && position ≤ interval.upper
  else interval.lower < position && position < interval.upper

/-- The grid point nearest to the value among its two neighbours that read back;
of two equally near ones the even one. -/
def Interval.nearest? (interval : Interval) : Option Nat :=
  let floor := interval.value / interval.gridStep
  match interval.readsBack floor, interval.readsBack (floor + 1) with
  | false, false => none
  | true, false => some floor
  | false, true => some (floor + 1)
  | true, true => some (Binary64.roundQuotient interval.value interval.gridStep)

def searchGrids (significand : Nat) (exponent : Int) :
    (grids : Nat) → (grid : Int) → Nat × Int
  | 0, grid => (significand, grid)
  | grids + 1, grid =>
      match (Interval.of significand exponent grid).nearest? with
      | some point => (point, grid)
      | none => searchGrids significand exponent grids (grid - 1)

/-- A grid whose step exceeds `significand * 2 ^ exponent`; 0.30103 is just
above the decimal logarithm of two. -/
def coarseGrid (significand : Nat) (exponent : Int) : Int :=
  (significand.log2 + exponent + 1) * 30103 / 100000 + 1

/-- The shortest decimal that reads back as `significand * 2 ^ exponent`.
Seventeen digits always suffice, so the search ends within twenty grids. -/
def shortest (significand : Nat) (exponent : Int) : Decimal :=
  let found :=
    searchGrids significand exponent 25 (coarseGrid significand exponent)
  let digits := Nat.toDigits 10 found.1
  { digits, point := found.2 + digits.length }

/-! ## Writing digits -/

structure Layout where
  /-- Positional notation is used while the decimal point stands after this
  place ... -/
  leastPoint : Int
  /-- ... and not behind this one. -/
  greatestPoint : Int
  exponentWidth : Nat

/-- Numbers are positional from `0.0001` on and below `1e+16`; exponents have a
sign and two digits. -/
def Layout.standard : Layout :=
  { leastPoint := -3, greatestPoint := 16, exponentWidth := 2 }

def zeros (count : Nat) : List Char := List.replicate count '0'

def positional (decimal : Decimal) : List Char :=
  if decimal.point ≤ 0 then
    '0' :: '.' :: zeros (-decimal.point).toNat ++ decimal.digits
  else
    let whole := decimal.point.toNat
    let padded := decimal.digits ++ zeros (whole - decimal.digits.length)
    let fraction := padded.drop whole
    padded.take whole ++ '.' :: (if fraction.isEmpty then ['0'] else fraction)

def scientific (layout : Layout) (decimal : Decimal) : List Char :=
  let exponent := decimal.point - 1
  let digits := Nat.toDigits 10 exponent.natAbs
  let fraction := decimal.digits.drop 1
  decimal.digits.take 1 ++ (if fraction.isEmpty then [] else '.' :: fraction) ++
    'e' :: (if exponent < 0 then '-' else '+') ::
      zeros (layout.exponentWidth - digits.length) ++ digits

def write (layout : Layout) (decimal : Decimal) : List Char :=
  if layout.leastPoint ≤ decimal.point ∧
  decimal.point ≤ layout.greatestPoint then
    positional decimal
  else scientific layout decimal

end Decimal

namespace Binary64

def text : Binary64 → String
  | .notANumber => "nan"
  | .infinite negative => if negative then "-inf" else "inf"
  | .finite negative significand exponent =>
      let magnitude : List Char :=
        if significand = 0 then ['0', '.', '0']
        else (Decimal.shortest significand exponent).write
          Decimal.Layout.standard
      String.ofList (if negative then '-' :: magnitude else magnitude)

end Binary64

end CallChains
