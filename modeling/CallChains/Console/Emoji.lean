import Std.Data.TreeMap
import CallChains.Console.EmojiCodes
import CallChains.Text.LowerCase
import CallChains.Text.Split
/-!
Emoji in console text. A code between colons, such as `:warning:`, is shown as
the emoji that it names; a code that names none is left as it is.
-/

namespace CallChains.Emoji

def addWords (table : Std.TreeMap String String) :
    List String → Std.TreeMap String String
  | code :: emoji :: rest => addWords (table.insert code emoji) rest
  | _ => table

def table : Std.TreeMap String String :=
  codeLines.foldl (fun table line => addWords table (Text.words line)) ∅

/-- Endings of codes that ask for a form of the emoji, with the character that
selects the form. -/
def forms : List (List Char × Char) :=
  [("-text".toList, '\ufe0e'), ("-emoji".toList, '\ufe0f')]

def ofCode? (code : List Char) : Option (List Char) :=
  let (name, selector) :=
    match forms.find? fun form => form.1.isSuffixOf code with
    | some (ending, selector) =>
        (code.take (code.length - ending.length), [selector])
    | none => (code, [])
  table[Text.lowerCase (String.ofList name)]?.map fun emoji =>
    emoji.toList ++ selector

/-- Puts emoji in the place of the codes in a text of at most `length`
characters. A code runs from a colon to the next one, without blanks. -/
def replaceIn : (length : Nat) → List Char → List Char
  | 0, characters => characters
  | _ + 1, [] => []
  | length + 1, ':' :: rest =>
      let code := rest.takeWhile fun character =>
        character ≠ ':' && !Text.isBlank character
      match rest.drop code.length with
      | ':' :: behind =>
          (ofCode? code).getD (':' :: code ++ [':']) ++ replaceIn length behind
      | _ => ':' :: replaceIn length rest
  | length + 1, character :: rest => character :: replaceIn length rest

def replace (characters : List Char) : List Char :=
  replaceIn characters.length characters

end CallChains.Emoji
