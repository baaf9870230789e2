/-!
Ranges of code points, the form in which character properties are tabulated.
-/

namespace CallChains.Text

structure CodeRange where
  first : Nat
  last : Nat
  deriving DecidableEq, Repr

namespace CodeRange

def listOf (ranges : List (Nat × Nat)) : List CodeRange :=
  ranges.map fun (first, last) => { first, last }

def covers (ranges : List CodeRange) (character : Char) : Bool :=
  ranges.any fun range =>
    range.first ≤ character.toNat && character.toNat ≤ range.last

end CodeRange

end CallChains.Text
