import CallChains.Text.CharacterName.AToB
import CallChains.Text.CharacterName.CToD
import CallChains.Text.CharacterName.EToK
import CallChains.Text.CharacterName.LToM
import CallChains.Text.CharacterName.NToS
import CallChains.Text.CharacterName.TToZ
import CallChains.Text.CodeRange
/-!
The names of the characters of Unicode 14, with the other names that the
standard allows. Most are listed; those of syllables and of numbered characters
follow rules.
-/

namespace CallChains.Text.CharacterName

/-! ## Listed names -/

def wordsOf (before : List String) (short : String) : List String :=
  match short.toList with
  | shared :: rest =>
      before.take (shared.toNat - '0'.toNat) ++ (String.ofList rest).splitOn " "
  | [] => []

def expand (before : List String) : List String → List (List String)
  | [] => []
  | short :: rest => wordsOf before short :: expand (wordsOf before short) rest

def listed : List (List String) :=
  [linesAToB, linesCToD, linesEToK, linesLToM, linesNToS, linesTToZ].flatMap
    fun lines => expand [] (lines.flatMap (String.splitOn · ","))

/-! ## Names by rules -/

def leads : List String :=
  ["G", "GG", "N", "D", "DD", "R", "M", "B", "BB", "S", "SS", "", "J", "JJ",
    "C", "K", "T", "P", "H"]

def vowels : List String :=
  ["A", "AE", "YA", "YAE", "EO", "E", "YEO", "YE", "O", "WA", "WAE", "OE", "YO",
    "U", "WEO", "WE", "WI", "YU", "EU", "YI", "I"]

def tails : List String :=
  ["", "G", "GG", "GS", "N", "NJ", "NH", "D", "L", "LG", "LM", "LB", "LS", "LT",
    "LP", "LH", "M", "B", "BS", "S", "SS", "NG", "J", "C", "K", "T", "P", "H"]

def isSyllable (name : String) : Bool :=
  leads.any fun lead =>
    vowels.any fun vowel => tails.any fun tail => name = lead ++ vowel ++ tail

def isHexDigit (character : Char) : Bool :=
  character.isDigit || ('A' ≤ character && character ≤ 'F')

def numberedBy (digits : List Char) : Char :=
  .ofNat (digits.foldl
    (fun value digit =>
      16 * value + if digit.isDigit then digit.toNat - '0'.toNat
      else digit.toNat - 'A'.toNat + 10)
    0)

def ideographs : List CodeRange :=
  CodeRange.listOf [(0x3400, 0x4DBF), (0x4E00, 0x9FFF), (0x20000, 0x2A6DF),
    (0x2A700, 0x2B738), (0x2B740, 0x2B81D), (0x2B820, 0x2CEA1),
    (0x2CEB0, 0x2EBE0), (0x30000, 0x3134A)]

def numbered : List (String × List CodeRange) :=
  [("CJK COMPATIBILITY IDEOGRAPH-",
      CodeRange.listOf
        [(0xF900, 0xFA6D), (0xFA70, 0xFAD9), (0x2F800, 0x2FA1D)]),
    ("KHITAN SMALL SCRIPT CHARACTER-", CodeRange.listOf [(0x18B00, 0x18CD5)]),
    ("NUSHU CHARACTER-", CodeRange.listOf [(0x1B170, 0x1B2FB)])]

def after? (start : String) (name : List Char) : Option (List Char) :=
  if start.toList.isPrefixOf name then some (name.drop start.length) else none

def isIdeographNumber (digits : List Char) : Bool :=
  (digits.length = 4 || digits.length = 5) && digits.all isHexDigit &&
    CodeRange.covers ideographs (numberedBy digits)

/-- Whether a name ends in the code point of its character. The number starts
with no zero. -/
def isNumbered (name : List Char) : Bool :=
  numbered.any fun (start, ranges) =>
    (after? start name).any fun digits =>
      digits.all isHexDigit && digits.head? ≠ some '0' &&
        CodeRange.covers ranges (numberedBy digits)

end CharacterName

/-- Whether a character has this name. The names of syllables and of unified
ideographs are written in capital letters; in all others small letters do as
well. -/
def isCharacterName (name : List Char) : Bool :=
  match CharacterName.after? "HANGUL SYLLABLE " name,
      CharacterName.after? "CJK UNIFIED IDEOGRAPH-" name with
  | some syllable, _ => CharacterName.isSyllable (String.ofList syllable)
  | none, some digits => CharacterName.isIdeographNumber digits
  | none, none =>
      let capitals := name.map Char.toUpper
      CharacterName.isNumbered capitals ||
        CharacterName.listed.contains ((String.ofList capitals).splitOn " ")

end CallChains.Text
