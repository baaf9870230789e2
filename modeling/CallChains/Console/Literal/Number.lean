import CallChains.Console.Literal.Basic
import CallChains.Number.Basic
/-!
Numbers in literals: whole numbers in four bases, decimal fractions, and
imaginary numbers.
-/

namespace CallChains.Literal

/-- Takes the further digits of a numeral off a text. Single underscores may
stand between digits. -/
def moreDigits? (isDigit : Char → Bool) :
    List Char → Option (List Char × List Char)
  | '_' :: digit :: rest =>
      if isDigit digit then
        (moreDigits? isDigit rest).map fun (digits, rest) =>
          (digit :: digits, rest)
      else none
  | digit :: rest =>
      if isDigit digit then
        (moreDigits? isDigit rest).map fun (digits, rest) =>
          (digit :: digits, rest)
      else some ([], digit :: rest)
  | [] => some ([], [])

def digits? (isDigit : Char → Bool) : List Char → Option (List Char × List Char)
  | digit :: rest =>
      if isDigit digit then moreDigits? isDigit (digit :: rest) else none
  | [] => none

def endNumber (kind : Kind) (rest : List Char) : Option (Kind × List Char) :=
  if rest.head?.any isNameCharacter then none else some (kind, rest)

/-- A whole number is huge if it lies beyond all doubles, even when it is
rounded. -/
def isHuge (value : Nat) : Bool := Nat.pow 2 1024 - Nat.pow 2 970 ≤ value

def basedNumber? (base : Nat) (isDigit : Char → Bool) (characters : List Char) :
    Option (Kind × List Char) := do
  let characters := match characters with
    | '_' :: rest => rest
    | other => other
  let (digits, rest) ← digits? isDigit characters
  endNumber (.real false (isHuge (numeralValue base digits))) rest

def afterExponent? (characters : List Char) : Option (Bool × List Char) :=
  match characters with
  | mark :: rest =>
      if mark = 'e' || mark = 'E' then
        let unsigned := match rest with
          | '+' :: rest | '-' :: rest => rest
          | other => other
        (digits? Char.isDigit unsigned).map fun (_, rest) => (true, rest)
      else some (false, characters)
  | [] => some (false, [])

/-- What a decimal whole number is. One that is not zero starts with no zero,
and its digits are limited. -/
def wholeKind? (digits : List Char) : Option Kind :=
  if digits.all (· = '0') then some (.real false false)
  else if digits.head? = some '0' || Number.digitLimit < digits.length then none
  else some (.real false (isHuge (numeralValue 10 digits)))

def decimalNumber? (characters : List Char) : Option (Kind × List Char) := do
  let (whole, rest) ← if characters.head? = some '.' then some ([], characters)
    else digits? Char.isDigit characters
  let (point, rest) ← match rest with
    | '.' :: rest =>
        if rest.head?.any Char.isDigit then
          (digits? Char.isDigit rest).map fun (_, rest) => (true, rest)
        else some (true, rest)
    | other => some (false, other)
  let (exponent, rest) ← afterExponent? rest
  match rest with
  | 'j' :: rest | 'J' :: rest => endNumber .imaginary rest
  | rest => do
      let kind ← if point || exponent then some (.real false false)
      else wholeKind? whole
      endNumber kind rest

def number? (characters : List Char) : Option (Kind × List Char) :=
  match characters with
  | '0' :: 'x' :: rest | '0' :: 'X' :: rest => basedNumber? 16 isHexDigit rest
  | '0' :: 'o' :: rest | '0' :: 'O' :: rest =>
      basedNumber? 8 (fun digit => '0' ≤ digit && digit ≤ '7') rest
  | '0' :: 'b' :: rest | '0' :: 'B' :: rest =>
      basedNumber? 2 (fun digit => digit = '0' || digit = '1') rest
  | characters => decimalNumber? characters

def startsNumber : List Char → Bool
  | '.' :: digit :: _ => digit.isDigit
  | digit :: _ => digit.isDigit
  | [] => false

end CallChains.Literal
