import CallChains.Number.Decimal
/-!
Numbers as a call graph document may hold them: whole numbers of any size, and
doubles. The two are compared by exact value, so no whole number is rounded for
a comparison.
-/

namespace CallChains

inductive Number where
  | int (value : Int)
  | float (value : Binary64)
  deriving DecidableEq, Repr

namespace Number

instance : Inhabited Number := ⟨.int 0⟩

def infinity : Number := .float .infinity

/-- How many decimal digits a whole number may have where it is read. -/
def digitLimit : Nat := 4300

/-! ## Order -/

/-- A place on the extended number line; finite places are counted in the
smallest steps of a double. -/
inductive Place where
  | below
  | at (steps : Int)
  | above
  deriving DecidableEq, Repr

def Place.lt : Place → Place → Bool
  | .below, .below => false
  | .below, _ => true
  | .at left, .at right => left < right
  | .at _, .above => true
  | _, _ => false

def place? : Number → Option Place
  | .int value => some (.at (value * Binary64.stepsPerUnit))
  | .float .notANumber => none
  | .float (.infinite true) => some .below
  | .float (.infinite false) => some .above
  | .float (.finite negative significand exponent) =>
      some (.at (Binary64.steps negative significand exponent))

/-- Strictly smaller in value. Nothing is smaller than "not a number", nor it
than anything. -/
def lt : Number → Number → Bool
  | .int left, .int right => left < right
  | left, right =>
      match left.place?, right.place? with
      | some left, some right => left.lt right
      | _, _ => false

/-- Equal in value: both zeros and the whole number zero are equal, and "not a
number" differs from itself. -/
def same (left right : Number) : Bool :=
  match left.place?, right.place? with
  | some left, some right => left = right
  | _, _ => false

def atLeast (left right : Number) : Bool := right.lt left || left.same right

def isReached (number : Number) : Bool := number.lt infinity

/-! ## Arithmetic and text -/

def addOne : Number → Number
  | .int value => .int (value + 1)
  | .float value => .float value.addOne

def isZero : Number → Bool
  | .int value => value = 0
  | .float value => value.isZero

def text : Number → String
  | .int value => toString value
  | .float value => value.text

@[simp] theorem lt_int (left right : Int) :
    lt (.int left) (.int right) = decide (left < right) := rfl

@[simp] theorem addOne_int (value : Int) :
    addOne (.int value) = .int (value + 1) := rfl

@[simp] theorem isReached_int (value : Int) : isReached (.int value) = true :=
  rfl

@[simp] theorem isReached_infinity : isReached infinity = false := rfl

end Number

end CallChains
