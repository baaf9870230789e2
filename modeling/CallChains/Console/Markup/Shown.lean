import CallChains.Console.Emoji
import CallChains.Console.Literal.Expression
import CallChains.Console.Markup.Basic
import CallChains.Console.Style
import CallChains.Text.CellWidth
import CallChains.Text.WordCharacter
/-!
What a console without styles shows of markup: the text between the tags, with
emoji in the place of their codes, without control characters, and with tabs
filled up. Every tag must say something that a console with styles could follow.
-/

namespace CallChains.Markup

inductive Fault where
  | nothingToClose
  | notLiteral
  | share (fault : ShareFault)
  deriving DecidableEq, Repr

/-! ## Pieces -/

structure Tag where
  name : String
  parameters : Option String := none
  deriving DecidableEq, Repr

namespace Tag

def ofContent (content : List Char) : Tag :=
  let name := content.takeWhile (· ≠ '=')
  { name := String.ofList name
    parameters := match content.drop name.length with
      | _ :: parameters => some (String.ofList parameters)
      | [] => none }

def styleText (tag : Tag) : String :=
  match tag.parameters with
  | some parameters => tag.name ++ " " ++ parameters
  | none => tag.name

def isHandler (tag : Tag) : Bool := tag.name.toList.head? = some '@'

/-- The part of the parameters of a handler that has to be a literal. A call,
which is a name with arguments in brackets, hands over its arguments, and a name
alone hands over nothing. -/
def literalPart (parameters : List Char) : List Char :=
  let name := parameters.takeWhile fun character =>
    Text.isWordCharacter character || character = '.'
  match parameters.drop name.length with
  | [] => ['(', ')']
  | '(' :: rest =>
      if rest.getLast? = some ')' && !rest.contains '\n' then '(' :: rest
      else parameters
  | _ => parameters

def takesParameters (tag : Tag) : Bool :=
  match tag.parameters with
  | none | some "" => true
  | some parameters =>
      Literal.isLiteral (literalPart (Text.strip parameters.toList))

end Tag

inductive Piece where
  | text (characters : List Char)
  | tag (tag : Tag)
  deriving DecidableEq, Repr

def dropBackslashes : List Char → List Char
  | '\\' :: '[' :: rest => '[' :: dropBackslashes rest
  | character :: rest => character :: dropBackslashes rest
  | [] => []

/-- The pieces of a part. Of the backslashes before a tag every second one is
text, and an odd one makes the tag text. -/
def Part.pieces : Part → List Piece
  | .plain characters => [.text (dropBackslashes characters)]
  | .bracketed backslashes content =>
      (if backslashes < 2 then []
      else [.text (List.replicate (backslashes / 2) '\\')]) ++
        if backslashes % 2 = 0 then [.tag (.ofContent content)]
        else [.text ('[' :: content ++ [']'])]

/-! ## Reading -/

def hiddenControls : List Char := ['\x07', '\x08', '\x0b', '\x0c', '\r']

def isShown (character : Char) : Bool := !hiddenControls.contains character

structure Span where
  start : Nat
  stop : Nat
  style : String
  deriving DecidableEq, Repr

structure Reading where
  /-- The shown stretches of text, the last one first. -/
  shown : List (List Char) := []
  length : Nat := 0
  /-- The tags that are open, with their names in normal form and the positions
  behind them, the last one first. -/
  opened : List (Nat × Tag) := []
  /-- The styles that have come to their end, the last one first. -/
  closed : List Span := []
  deriving DecidableEq, Repr

namespace Reading

def close (reading : Reading) (start : Nat) (tag : Tag) :
    Except Fault Reading :=
  let opened := reading.opened.erase (start, tag)
  if tag.isHandler then
    if tag.takesParameters then .ok { reading with opened }
    else .error .notLiteral
  else
    let span := { start, stop := reading.length, style := tag.styleText }
    .ok { reading with opened, closed := span :: reading.closed }

def normalName (name : String) : Except Fault String :=
  (Style.normalForm name).mapError .share

/-- The open tag that a closing tag with this name closes: without a name the
last one, with a name the last one of that name. -/
def toClose (reading : Reading) (name : String) : Except Fault (Nat × Tag) := do
  let found ← if name = "" then pure reading.opened.head?
    else do
      let name ← normalName name
      pure (reading.opened.find? fun (_, tag) => tag.name = name)
  match found with
  | some opened => return opened
  | none => .error .nothingToClose

def addTag (reading : Reading) (tag : Tag) : Except Fault Reading :=
  match tag.name.toList with
  | '/' :: name => do
      let (start, opened) ← reading.toClose (String.ofList (Text.strip name))
      reading.close start opened
  | _ => do
      let name ← normalName tag.name
      return { reading with
        opened := (reading.length, { tag with name }) :: reading.opened }

def add (reading : Reading) : Piece → Except Fault Reading
  | .text characters =>
      let shown := (Emoji.replace characters).filter isShown
      .ok { reading with shown := shown :: reading.shown,
                         length := reading.length + shown.length }
  | .tag tag => reading.addTag tag

def text (reading : Reading) : List Char := reading.shown.reverse.flatten

/-- The spans of a text by their starts. Of those that start together the one
that is closed last comes first. Tags that are still open end with the text. -/
def spans (reading : Reading) : List Span :=
  let unclosed := reading.opened.reverse.map fun (start, tag) =>
    { start, stop := reading.length, style := tag.styleText }
  (unclosed ++ reading.closed).mergeSort fun left right =>
    left.start ≤ right.start

end Reading

/-! ## Showing -/

/-- Cuts a text into stretches, each from one position up to another: lines
without their ends, and in a line also what ends in a tab. -/
def stretches (start position : Nat) : List Char → List (Nat × Nat)
  | [] => [(start, position)]
  | '\n' :: rest =>
      (start, position) :: stretches (position + 1) (position + 1) rest
  | '\t' :: rest =>
      (start, position + 1) :: stretches (position + 1) (position + 1) rest
  | _ :: rest => stretches start (position + 1) rest

theorem stretches_eq_singleton {text : List Char}
    (uncut : ∀ character ∈ text, character ≠ '\n' ∧ character ≠ '\t')
    (start position : Nat) :
    stretches start position text = [(start, position + text.length)] := by
  induction text generalizing position with
  | nil => rfl
  | cons character rest induction =>
      obtain ⟨noLineEnd, noTab⟩ := uncut character List.mem_cons_self
      have tail := induction
        (fun other inside => uncut other (List.mem_cons_of_mem _ inside))
        (position + 1)
      rw [stretches, tail, List.length_cons, Nat.add_right_comm, Nat.add_assoc]
      · exact noLineEnd
      · exact noTab

def Span.meets (span : Span) (stretch : Nat × Nat) : Bool :=
  max span.start stretch.1 < min span.stop stretch.2

/-- The spans whose styles are looked up, in this order: all spans of a text
that is a single stretch, and else for each stretch those that it has a part in.
So an empty span counts in a single stretch only. -/
def lookedUp (spans : List Span) (text : List Char) : List Span :=
  match stretches 0 0 text with
  | [_] => spans
  | stretches => stretches.flatMap fun stretch =>
      spans.filter fun span => span.meets stretch

theorem lookedUp_of_uncut {text : List Char}
    (uncut : ∀ character ∈ text, character ≠ '\n' ∧ character ≠ '\t')
    (spans : List Span) :
    lookedUp spans text = spans := by
  rw [lookedUp, stretches_eq_singleton uncut]

def Span.fault? (span : Span) : Option ShareFault :=
  match Style.ofText span.style with
  | .error (.share fault) => some fault
  | .ok _ | .error .unknown => none

def styleFault? (spans : List Span) (text : List Char) : Option ShareFault :=
  (lookedUp (spans.filter fun span => span.fault?.isSome) text).findSome?
    Span.fault?

/-- Fills up to the next tab stop in the place of each tab. Stops are eight
cells apart, and `column` is the number of cells that are taken in the line. -/
def expandTabs (column : Nat) : List Char → List Char
  | [] => []
  | '\n' :: rest => '\n' :: expandTabs 0 rest
  | '\t' :: rest =>
      let width := 8 - column % 8
      List.replicate width ' ' ++ expandTabs (column + width) rest
  | character :: rest =>
      character :: expandTabs (column + Text.cellWidth character) rest

def plain (markup : String) : Except Fault String := do
  let reading ← ((parts markup.toList).flatMap Part.pieces).foldlM
    Reading.add {}
  match styleFault? reading.spans reading.text with
  | some fault => .error (.share fault)
  | none => return String.ofList (expandTabs 0 reading.text)

end CallChains.Markup
