/-!
Literals are the values that a tag may hand to its handler: numbers, quoted
texts, the constants `True`, `False`, `None` and `...`, and tuples, sets and
dictionaries of literals. Only whether a text is a literal matters, not its
value. Here is what all literals have in common.
-/

namespace CallChains.Literal

def unifyLineEnds : List Char → List Char
  | '\r' :: '\n' :: rest => '\n' :: unifyLineEnds rest
  | '\r' :: rest => '\n' :: unifyLineEnds rest
  | character :: rest => character :: unifyLineEnds rest
  | [] => []

inductive Gap where
  | blanks
  | comment
  /-- A line end behind a backslash, which joins two lines. -/
  | joint
  deriving DecidableEq, Repr

/-- What follows blanks and comments. Inside brackets line ends are blanks. -/
def skipGap (bracketed : Bool) : Gap → List Char → List Char
  | _, [] => []
  | gap, character :: rest =>
      if character = '\n' then
        if bracketed || gap = .joint then skipGap bracketed .blanks rest
        else character :: rest
      else if gap = .comment || character = ' ' || character = '\t' ||
        character = '\x0c' then
        skipGap bracketed gap rest
      else if character = '#' then skipGap bracketed .comment rest
      else if character = '\\' && rest.head? = some '\n' then
        skipGap bracketed .joint rest
      else character :: rest

def skipBlanks (bracketed : Bool) (characters : List Char) : List Char :=
  skipGap bracketed .blanks characters

def isNameCharacter (character : Char) : Bool :=
  character.isAlphanum || character = '_' || 0x80 ≤ character.toNat

def isHexDigit (character : Char) : Bool :=
  character.isDigit || ('a' ≤ character && character ≤ 'f') ||
    ('A' ≤ character && character ≤ 'F')

def numeralValue (base : Nat) (digits : List Char) : Nat :=
  digits.foldl
    (fun value digit =>
      base * value +
        if digit.isDigit then digit.toNat - 48 else digit.toLower.toNat - 87) 0

inductive Kind where
  /-- A real number. To a huge one no imaginary number can be added. -/
  | real (signed huge : Bool)
  | imaginary
  | fixed
  /-- A set, a dictionary, or a tuple that holds one. -/
  | changing
  /-- The name `set`. It has to be called to be a value, which is then an empty
  set. -/
  | setName
  deriving DecidableEq, Repr

namespace Kind

def isValue (kind : Kind) : Bool := kind ≠ .setName

/-- Sets and dictionaries can be no members of sets and no keys. -/
def isKey (kind : Kind) : Bool := kind.isValue && kind ≠ .changing

end Kind

/-! ## Levels

Whatever is nested is read some levels deeper than what encloses it. How many
they are depends on the place.
-/

def levelLimit : Nat := 6000

inductive Enclosure where
  | text
  | roundBrackets
  | braces
  deriving DecidableEq, Repr

namespace Enclosure

/-- How much deeper an element is read, by its position among the elements. -/
def levels : Enclosure → (position : Nat) → Nat
  | .text, 0 => 25
  | .text, _ => 27
  | .roundBrackets, 0 => 28
  | .roundBrackets, 1 => 30
  | .roundBrackets, _ => 31
  | .braces, 0 => 29
  | .braces, _ => 30

/-- How many levels are left at a position, of those that are left around it.
There is nothing if they do not suffice, which matters even where no element
follows: that has to be found out at its level. -/
def room? (enclosure : Enclosure) (position room : Nat) : Option Nat :=
  if enclosure.levels position ≤ room then
    some (room - enclosure.levels position)
  else none

def closing? : Enclosure → Option Char
  | .text => none
  | .roundBrackets => some ')'
  | .braces => some '\x7d'

def isBracketed (enclosure : Enclosure) : Bool := enclosure ≠ .text

def afterEnd? (enclosure : Enclosure) (characters : List Char) :
    Option (List Char) :=
  match enclosure.closing?, characters with
  | some bracket, character :: rest =>
      if character = bracket then some rest else none
  | some _, [] => none
  | none, characters =>
      if (skipBlanks true characters).isEmpty then some [] else none

end Enclosure

def signLevels : Nat := 1

def quotedLevels : Nat := 2

def callLevels : Nat := 24

abbrev Reader := (room : Nat) → List Char → Option (Kind × List Char)

end CallChains.Literal
