import CallChains.Json.Writer
import CallChains.Text.Printable
/-!
Values as messages show them. Texts inside messages are quoted so that their
ends and all invisible characters can be seen; a value that stands for itself is
shown without quotes.
-/

namespace CallChains

namespace Text

/-- The quote that a text is put in: the single quote, unless only that one
occurs in the text. -/
def quoteFor (characters : List Char) : Char :=
  if characters.contains '\'' && !characters.contains '"' then '"' else '\''

/-- An escape whose width depends on the size of the code point. -/
def codeEscape (code : Nat) : List Char :=
  if code < 0x100 then '\\' :: 'x' :: Json.hexDigits 2 code
  else if code < 0x10000 then '\\' :: 'u' :: Json.hexDigits 4 code
  else '\\' :: 'U' :: Json.hexDigits 8 code

def quotedCharacter (quote character : Char) : List Char :=
  if character = quote || character = '\\' then ['\\', character]
  else if character = '\n' then ['\\', 'n']
  else if character = '\r' then ['\\', 'r']
  else if character = '\t' then ['\\', 't']
  else if isPrintable character then [character]
  else codeEscape character.toNat

def quoted (text : String) : String :=
  let characters := text.toList
  let quote := quoteFor characters
  String.ofList (quote :: characters.flatMap (quotedCharacter quote) ++ [quote])

end Text

namespace Json

mutual
def quoted : Json → String
  | .null => "None"
  | .bool value => if value then "True" else "False"
  | .number value => value.text
  | .str text => Text.quoted text
  | .arr [] => "[]"
  | .arr (item :: items) => "[" ++ quoted item ++ quotedItems items ++ "]"
  | .obj [] => "\x7b\x7d"
  | .obj ((key, value) :: members) =>
      "\x7b" ++ Text.quoted key ++ ": " ++ quoted value ++
        quotedMembers members ++ "\x7d"

def quotedItems : List Json → String
  | [] => ""
  | item :: items => ", " ++ quoted item ++ quotedItems items

def quotedMembers : List (String × Json) → String
  | [] => ""
  | (key, value) :: members =>
      ", " ++ Text.quoted key ++ ": " ++ quoted value ++ quotedMembers members
end

def shown : Json → String
  | .str text => text
  | value => value.quoted

end Json

end CallChains
