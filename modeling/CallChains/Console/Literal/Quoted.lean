import CallChains.Console.Literal.Basic
import CallChains.Text.CharacterName.Basic
/-!
Quoted texts in literals. A text stands between single or triple quotation
marks, and a prefix tells whether it is raw and whether it is bytes.
-/

namespace CallChains.Literal

structure Quoting where
  mark : Char
  /-- Three marks on each side let the text run over lines. -/
  triple : Bool
  /-- In a raw text a backslash is not the start of an escape. -/
  raw : Bool
  bytes : Bool
  deriving DecidableEq, Repr

def prefixes : List (List Char × Bool × Bool) :=
  [([], false, false), (['u'], false, false), (['r'], true, false),
    (['b'], false, true), (['b', 'r'], true, true), (['r', 'b'], true, true)]

def opening? (characters : List Char) : Option (Quoting × List Char) := do
  let letters := (characters.takeWhile Char.isAlpha).map Char.toLower
  let (_, raw, bytes) ← prefixes.find? fun entry => entry.1 = letters
  let mark ← (characters.drop letters.length).head?
  if mark ≠ '\'' && mark ≠ '"' then none
  let rest := characters.drop (letters.length + 1)
  if rest.take 2 = [mark, mark] then
    some ({ mark, triple := true, raw, bytes }, rest.drop 2)
  else some ({ mark, triple := false, raw, bytes }, rest)

namespace Quoting

def admits (quoting : Quoting) (character : Char) : Bool :=
  !quoting.bytes || character.toNat < 0x80

def startsWithHex (count : Nat) (characters : List Char) : Bool :=
  count ≤ characters.length && (characters.take count).all isHexDigit

def startsWithName (characters : List Char) : Bool :=
  match characters with
  | '\x7b' :: rest =>
      let name := rest.takeWhile (· ≠ '\x7d')
      name.length < rest.length && Text.isCharacterName name
  | _ => false

def escapes (quoting : Quoting) (character : Char) (rest : List Char) : Bool :=
  match character with
  | 'x' => startsWithHex 2 rest
  | 'u' => quoting.bytes || startsWithHex 4 rest
  | 'U' => quoting.bytes ||
      (startsWithHex 8 rest && numeralValue 16 (rest.take 8) ≤ 0x10FFFF)
  | 'N' => quoting.bytes || startsWithName rest
  | _ => true

def afterClosing? (quoting : Quoting) : List Char → Option (List Char)
  | [] => none
  | '\\' :: escaped :: rest =>
      if quoting.admits escaped &&
        (quoting.raw || quoting.escapes escaped rest) then
        quoting.afterClosing? rest
      else none
  | character :: rest =>
      if character = quoting.mark then
        if !quoting.triple then some rest
        else if rest.take 2 = [quoting.mark, quoting.mark] then
          some (rest.drop 2)
        else quoting.afterClosing? rest
      else if quoting.admits character &&
        (quoting.triple || character ≠ '\n') then
        quoting.afterClosing? rest
      else none

end Quoting

/-- Takes quoted texts that follow each other off a text, of which there are at
most `count`. They are all bytes, or none is. -/
def quotedTexts? (bracketed : Bool) :
    (count : Nat) → Option Bool → List Char → Option (List Char)
  | 0, _, _ => none
  | count + 1, bytes?, characters =>
      match opening? characters, bytes? with
      | none, none => none
      | none, some _ => some characters
      | some (quoting, rest), bytes? =>
          if bytes?.any (· ≠ quoting.bytes) then none
          else
            (quoting.afterClosing? rest).bind fun rest =>
              quotedTexts? bracketed count (some quoting.bytes)
                (skipBlanks bracketed rest)

end CallChains.Literal
