import CallChains.Console.Literal.Name
import CallChains.Console.Literal.Number
import CallChains.Console.Literal.Quoted
/-!
Which texts are literals: names, numbers and quoted texts, and what brackets
make of them.
-/

namespace CallChains.Literal

/-! ## Elements -/

def signed? (bracketed : Bool) (atom : Reader) : Reader
  | room, '+' :: rest | room, '-' :: rest => do
      if room < signLevels then none
      let (kind, rest) ← atom (room - signLevels) (skipBlanks bracketed rest)
      match kind with
      | .real false huge => some (.real true huge, rest)
      | .imaginary => some (.fixed, rest)
      | _ => none
  | room, characters => atom room characters

/-- An element: a literal, or a real number and an imaginary one that is added
or taken away. -/
def element? (bracketed : Bool) (atom : Reader) : Reader :=
  fun room characters => do
  let (kind, rest) ← signed? bracketed atom room
    (skipBlanks bracketed characters)
  match skipBlanks bracketed rest with
  | '+' :: rest | '-' :: rest =>
      match kind, ← atom room (skipBlanks bracketed rest) with
      | .real _ false, (.imaginary, rest) =>
          some (.fixed, skipBlanks bracketed rest)
      | _, _ => none
  | rest => some (kind, rest)

/-- Elements between commas from a position to their end, where a comma may
stand behind the last one as well. Tells what the elements are, whether there is
a comma, and what follows. -/
def elements? (element : Reader) (enclosure : Enclosure) (room : Nat) :
    (count position : Nat) → List Char → Option (List Kind × Bool × List Char)
  | 0, _, _ => none
  | count + 1, position, characters => do
      let inside ← enclosure.room? position room
      let (kind, rest) ← element inside characters
      match rest with
      | ',' :: rest => do
          let rest := skipBlanks enclosure.isBracketed rest
          let _ ← enclosure.room? (position + 1) room
          match enclosure.afterEnd? rest with
          | some rest => some ([kind], true, rest)
          | none => do
              let (kinds, _, rest) ← elements? element enclosure room count
                (position + 1) rest
              some (kind :: kinds, true, rest)
      | rest => do
          let rest ← enclosure.afterEnd? rest
          some ([kind], false, rest)

/-- What elements between commas make: a single one without a comma is itself,
all others are a tuple. -/
def tupleKind? (kinds : List Kind) (comma : Bool) : Option Kind :=
  match kinds, comma with
  | [kind], false => some kind
  | kinds, _ =>
      if kinds.all Kind.isKey then some .fixed
      else if kinds.all Kind.isValue then some .changing
      else none

/-! ## Brackets -/

def round? (element : Reader) : Reader := fun room characters => do
  let _ ← Enclosure.roundBrackets.room? 0 room
  match skipBlanks true characters with
  | ')' :: rest => some (.fixed, rest)
  | characters => do
      let (kinds, comma, rest) ←
        elements? element .roundBrackets room characters.length 0 characters
      let kind ← tupleKind? kinds comma
      some (kind, rest)

def afterValue? (element : Reader) (room : Nat) (characters : List Char) :
    Option (List Char) := do
  let (value, rest) ← element room characters
  if value.isValue then some rest else none

def afterEntries? (element : Reader) (room : Nat) :
    (count : Nat) → List Char → Option (List Char)
  | 0, _ => none
  | count + 1, characters =>
      match characters with
      | '\x7d' :: rest => some rest
      | ',' :: rest => do
          let inside ← Enclosure.braces.room? 1 room
          match skipBlanks true rest with
          | '\x7d' :: rest => some rest
          | rest => do
              let (key, rest) ← element inside rest
              match rest with
              | ':' :: rest => do
                  let rest ← afterValue? element inside rest
                  if key.isKey then afterEntries? element room count rest
                  else none
              | _ => none
      | _ => none

def braced? (element : Reader) : Reader := fun room characters => do
  let inside ← Enclosure.braces.room? 0 room
  match skipBlanks true characters with
  | '\x7d' :: rest => some (.changing, rest)
  | characters => do
      let (first, rest) ← element inside characters
      if !first.isKey then none
      match rest with
      | ':' :: rest => do
          let rest ← afterValue? element inside rest
          let rest ← afterEntries? element room rest.length rest
          some (.changing, rest)
      | _ => do
          let (kinds, _, rest) ←
            elements? element .braces room characters.length 0 characters
          if kinds.all Kind.isKey then some (.changing, rest) else none

/-! ## Literals -/

def plainAtom? (bracketed : Bool) : Reader := fun room characters =>
  if startsNumber characters then number? characters
  else if (opening? characters).isSome then
    if room < quotedLevels then none
    else
      (quotedTexts? bracketed (characters.length + 1) none characters).map
      fun rest => (.fixed, rest)
  else
    match characters with
    | '.' :: '.' :: '.' :: rest => some (.fixed, rest)
    | characters => named? characters

def called? (bracketed : Bool) : Reader := fun room characters =>
  match skipBlanks bracketed characters with
  | '(' :: rest =>
      match skipBlanks true rest with
      | ')' :: rest =>
          if room < callLevels then none else some (.changing, rest)
      | _ => none
  | _ => some (.setName, characters)

def atom? (bracketed : Bool) : (depth : Nat) → Reader
  | 0, room, characters => plainAtom? bracketed room characters
  | depth + 1, room, characters => do
      let (kind, rest) ← match characters with
        | '(' :: rest => round? (element? true (atom? true depth)) room rest
        | '\x7b' :: rest => braced? (element? true (atom? true depth)) room rest
        | characters => plainAtom? bracketed room characters
      if kind = .setName then called? bracketed room rest else some (kind, rest)

def maximalDepth : Nat := 200

inductive Margin where
  /-- Blanks at the start of a line, which may be indented. A line that goes on
  behind a backslash is as far indented as it was there. -/
  | indentation (indented fixed : Bool)
  | comment
  deriving DecidableEq, Repr

/-- What follows the lines at the front of a text that hold nothing but blanks
and comments. There is nothing if the line behind them is indented. A form feed
takes an indentation back. -/
def afterMargin? : Margin → List Char → Option (List Char)
  | _, [] => none
  | _, '\n' :: rest => afterMargin? (.indentation false false) rest
  | .comment, _ :: rest => afterMargin? .comment rest
  | .indentation indented fixed, '\\' :: '\n' :: rest =>
      afterMargin? (.indentation indented (fixed || indented)) rest
  | .indentation indented fixed, character :: rest =>
      if character = ' ' || character = '\t' then
        afterMargin? (.indentation true fixed) rest
      else if character = '\x0c' then
        afterMargin? (.indentation false fixed) rest
      else if character = '#' then afterMargin? .comment rest
      else if indented || fixed then none
      else some (character :: rest)

def isLiteral (text : List Char) : Bool :=
  let read := do
    let start ← afterMargin? (.indentation false false) (unifyLineEnds text)
    let (kinds, _, _) ←
      elements? (element? false (atom? false maximalDepth)) .text levelLimit
        start.length 0 start
    some (kinds.all Kind.isValue)
  !text.contains '\x00' && read = some true

end CallChains.Literal
