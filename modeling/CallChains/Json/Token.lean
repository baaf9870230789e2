import CallChains.Json.Basic
/-!
The tokens of a JSON text. Besides the standard's tokens there are three number
names, `NaN`, `Infinity` and `-Infinity`. Only space, tab, line feed and
carriage return may stand between tokens. What is no token, or a number that is
too long, is a token of its own, so that a reader meets it in its place.
-/

namespace CallChains.Json

inductive Token where
  | leftBracket
  | rightBracket
  | leftBrace
  | rightBrace
  | comma
  | colon
  | text (value : String)
  | scalar (value : Json)
  | longNumber (digits : Nat)
  /-- The rest of the text, which starts with no token. -/
  | invalid

namespace Token

/-! ## Texts -/

def hexDigit? (character : Char) : Option Nat :=
  let code := character.toNat
  if '0'.toNat ≤ code ∧ code ≤ '9'.toNat then some (code - '0'.toNat)
  else if 'a'.toNat ≤ code ∧ code ≤ 'f'.toNat then some (code - 'a'.toNat + 10)
  else if 'A'.toNat ≤ code ∧ code ≤ 'F'.toNat then some (code - 'A'.toNat + 10)
  else none

def codeUnit? (first second third fourth : Char) : Option Nat := do
  let first ← hexDigit? first
  let second ← hexDigit? second
  let third ← hexDigit? third
  let fourth ← hexDigit? fourth
  return ((first * 16 + second) * 16 + third) * 16 + fourth

def isHighSurrogate (unit : Nat) : Bool := 0xD800 ≤ unit && unit < 0xDC00

def isLowSurrogate (unit : Nat) : Bool := 0xDC00 ≤ unit && unit < 0xE000

/-- The characters of code points and code units. Two halves of a surrogate pair
in a row are one character. A half on its own is none, so it is replaced, and
texts that differ only in such halves are read as one. -/
def joinPairs : List Nat → List Char
  | [] => []
  | [unit] =>
      [if isHighSurrogate unit || isLowSurrogate unit then '\uFFFD'
      else Char.ofNat unit]
  | unit :: next :: rest =>
      if isHighSurrogate unit && isLowSurrogate next then
        Char.ofNat (0x10000 + (unit - 0xD800) * 0x400 + (next - 0xDC00)) ::
          joinPairs rest
      else if isHighSurrogate unit || isLowSurrogate unit then
        '\uFFFD' :: joinPairs (next :: rest)
      else Char.ofNat unit :: joinPairs (next :: rest)

def escaped? : Char → Option Char
  | '"' => some '"'
  | '\\' => some '\\'
  | '/' => some '/'
  | 'b' => some '\x08'
  | 'f' => some '\x0C'
  | 'n' => some '\n'
  | 'r' => some '\r'
  | 't' => some '\t'
  | _ => none

/-- Reads a text up to its closing quote, with the code points so far in
reverse. Unescaped control characters are refused. -/
def readText (reversed : List Nat) : List Char → Option (String × List Char)
  | [] => none
  | '"' :: rest => some (String.ofList (joinPairs reversed.reverse), rest)
  | '\\' :: 'u' :: first :: second :: third :: fourth :: rest =>
      match codeUnit? first second third fourth with
      | none => none
      | some unit => readText (unit :: reversed) rest
  | '\\' :: letter :: rest =>
      match escaped? letter with
      | none => none
      | some character => readText (character.toNat :: reversed) rest
  | character :: rest =>
      if character.toNat < 0x20 || character = '\\' then none
      else readText (character.toNat :: reversed) rest

/-! ## Numbers -/

def natOfDigits (digits : List Char) : Nat :=
  digits.foldl (fun value digit => value * 10 + (digit.toNat - '0'.toNat)) 0

def readFraction : List Char → List Char × List Char
  | '.' :: rest =>
      match rest.takeWhile Char.isDigit with
      | [] => ([], '.' :: rest)
      | digits => (digits, rest.dropWhile Char.isDigit)
  | rest => ([], rest)

def readExponent : List Char → Option Int × List Char
  | mark :: rest =>
      if mark = 'e' || mark = 'E' then
        let negative := rest.head? = some '-'
        let unsigned := match rest with
          | '-' :: rest => rest
          | '+' :: rest => rest
          | rest => rest
        match unsigned.takeWhile Char.isDigit with
        | [] => (none, mark :: rest)
        | digits =>
            let magnitude : Int := natOfDigits digits
            (some (if negative then -magnitude else magnitude),
              unsigned.dropWhile Char.isDigit)
      else (none, mark :: rest)
  | [] => (none, [])

/-- Reads a number without its sign. A number without fraction and exponent is
whole; any other is rounded to a double. No digit may follow a leading zero,
which therefore ends the whole part. -/
def readNumber (negative : Bool) (characters : List Char) :
    Option (Token × List Char) :=
  let whole := match characters with
    | '0' :: _ => ['0']
    | other => other.takeWhile Char.isDigit
  if whole.isEmpty then none
  else
    let (fraction, afterFraction) := readFraction (characters.drop whole.length)
    let (exponent?, rest) := readExponent afterFraction
    if fraction.isEmpty && exponent?.isNone then
      if Number.digitLimit < whole.length then
        some (.longNumber whole.length, rest)
      else
        let magnitude : Int := natOfDigits whole
        some (.scalar
          (.number (.int (if negative then -magnitude else magnitude))), rest)
    else
      let exponent := exponent?.getD 0 - fraction.length
      let value :=
        Binary64.ofDecimal negative (natOfDigits (whole ++ fraction)) exponent
      some (.scalar (.number (.float value)), rest)

/-! ## Tokens -/

def isSpace (character : Char) : Bool :=
  character = ' ' || character = '\t' || character = '\n' || character = '\r'

def first? : List Char → Option (Token × List Char)
  | '[' :: rest => some (.leftBracket, rest)
  | ']' :: rest => some (.rightBracket, rest)
  | '\x7b' :: rest => some (.leftBrace, rest)
  | '\x7d' :: rest => some (.rightBrace, rest)
  | ',' :: rest => some (.comma, rest)
  | ':' :: rest => some (.colon, rest)
  | '"' :: rest =>
      (readText [] rest).map fun (value, rest) => (.text value, rest)
  | 'n' :: 'u' :: 'l' :: 'l' :: rest => some (.scalar .null, rest)
  | 't' :: 'r' :: 'u' :: 'e' :: rest => some (.scalar (.bool true), rest)
  | 'f' :: 'a' :: 'l' :: 's' :: 'e' :: rest =>
      some (.scalar (.bool false), rest)
  | 'N' :: 'a' :: 'N' :: rest =>
      some (.scalar (.number (.float .notANumber)), rest)
  | 'I' :: 'n' :: 'f' :: 'i' :: 'n' :: 'i' :: 't' :: 'y' :: rest =>
      some (.scalar (.number (.float (.infinite false))), rest)
  | '-' :: 'I' :: 'n' :: 'f' :: 'i' :: 'n' :: 'i' :: 't' :: 'y' :: rest =>
      some (.scalar (.number (.float (.infinite true))), rest)
  | '-' :: rest => readNumber true rest
  | characters => readNumber false characters

/-- Cuts a text of at most `length` characters into tokens; every token takes at
least one. -/
def split : (length : Nat) → List Char → List Token
  | 0, characters => if characters.all isSpace then [] else [.invalid]
  | length + 1, characters =>
      match characters.dropWhile isSpace with
      | [] => []
      | characters =>
          match first? characters with
          | some (token, rest) => token :: split length rest
          | none => [.invalid]

def ofText (characters : List Char) : List Token :=
  split characters.length characters

end Token

end CallChains.Json
