import CallChains.Console.Literal.Basic
/-!
Names in literals: those of the constants, and `set`, whose letters may have
other shapes.
-/

namespace CallChains.Literal

/-! ## The name of sets -/

def mathematical (first : Nat) : List Nat :=
  (List.range 13).map fun alphabet => first + 52 * alphabet

/-- The code points of the other shapes of a letter: superscript, subscript,
wide, and mathematical. A long s is an s, and the natural exponent is an e, of
which one mathematical shape is no letter. -/
def shapes : Char → List Nat
  | 's' => [0x17F, 0x2E2, 0x209B, 0xFF53] ++ mathematical 0x1D42C
  | 'e' => [0x1D49, 0x2091, 0x212F, 0x2147, 0xFF45] ++
      (mathematical 0x1D41E).erase 0x1D4BA
  | 't' => [0x1D57, 0x209C, 0xFF54] ++ mathematical 0x1D42D
  | _ => []

def hasShapeOf (letter character : Char) : Bool :=
  character = letter || (shapes letter).contains character.toNat

def isSetName : List Char → Bool
  | [first, second, third] =>
      hasShapeOf 's' first && hasShapeOf 'e' second && hasShapeOf 't' third
  | _ => false

/-! ## Names -/

def named? (characters : List Char) : Option (Kind × List Char) :=
  let name := characters.takeWhile isNameCharacter
  let rest := characters.drop name.length
  if ["True", "False", "None"].contains (String.ofList name) then
    some (.fixed, rest)
  else if isSetName name then some (.setName, rest)
  else none

end CallChains.Literal
