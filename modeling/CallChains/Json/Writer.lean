import CallChains.Json.Basic
/-!
Writing JSON. Texts are ASCII: every other character is written as an escape, in
two halves where it lies outside the basic plane. A value is written on one
line, or spread over lines with an indent.
-/

namespace CallChains.Json

/-! ## Texts -/

def hexDigits (width value : Nat) : List Char :=
  let digits := Nat.toDigits 16 value
  List.replicate (width - digits.length) '0' ++ digits

def escapedUnit (unit : Nat) : List Char := '\\' :: 'u' :: hexDigits 4 unit

def writtenCharacter (character : Char) : List Char :=
  let code := character.toNat
  if character = '"' then ['\\', '"']
  else if character = '\\' then ['\\', '\\']
  else if character = '\n' then ['\\', 'n']
  else if character = '\r' then ['\\', 'r']
  else if character = '\t' then ['\\', 't']
  else if character = '\x08' then ['\\', 'b']
  else if character = '\x0C' then ['\\', 'f']
  else if 0x20 ≤ code && code < 0x7F then [character]
  else if code < 0x10000 then escapedUnit code
  else
    escapedUnit (0xD800 + (code - 0x10000) / 0x400) ++
      escapedUnit (0xDC00 + (code - 0x10000) % 0x400)

def writtenText (text : String) : String :=
  String.ofList ('"' :: text.toList.flatMap writtenCharacter ++ ['"'])

/-! ## Numbers -/

def writtenNumber : Number → String
  | .int value => toString value
  | .float .notANumber => "NaN"
  | .float (.infinite negative) => if negative then "-Infinity" else "Infinity"
  | .float value => value.text

/-! ## Values -/

structure Spacing where
  /-- Between a bracket and the part inside it, given the depth of that part or
  of the bracket. -/
  inside : Nat → String
  /-- Between two parts at a depth. -/
  between : Nat → String

def Spacing.line : Spacing :=
  { inside := fun _ => "", between := fun _ => ", " }

def Spacing.indented : Spacing :=
  let newLine depth := String.ofList ('\n' :: List.replicate (2 * depth) ' ')
  { inside := newLine, between := fun depth => "," ++ newLine depth }

mutual
def written (spacing : Spacing) (depth : Nat) : Json → String
  | .null => "null"
  | .bool value => if value then "true" else "false"
  | .number value => writtenNumber value
  | .str text => writtenText text
  | .arr [] => "[]"
  | .arr (item :: items) =>
      "[" ++ spacing.inside (depth + 1) ++ written spacing (depth + 1) item ++
        writtenItems spacing (depth + 1) items ++ spacing.inside depth ++ "]"
  | .obj [] => "\x7b\x7d"
  | .obj ((key, value) :: members) =>
      "\x7b" ++ spacing.inside (depth + 1) ++ writtenText key ++ ": " ++
        written spacing (depth + 1) value ++
        writtenMembers spacing (depth + 1) members ++
        spacing.inside depth ++ "\x7d"

def writtenItems (spacing : Spacing) (depth : Nat) : List Json → String
  | [] => ""
  | item :: items =>
      spacing.between depth ++ written spacing depth item ++
        writtenItems spacing depth items

def writtenMembers (spacing : Spacing) (depth : Nat) :
    List (String × Json) → String
  | [] => ""
  | (key, value) :: members =>
      spacing.between depth ++ writtenText key ++ ": " ++
        written spacing depth value ++
        writtenMembers spacing depth members
end

def line (value : Json) : String := written .line 0 value

def indented (value : Json) : String := written .indented 0 value

end CallChains.Json
