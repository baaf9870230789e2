/-!
Blank characters, and text without the blanks around it.
-/

namespace CallChains.Text

/-- Blank characters: the controls from tab to carriage return, the four
separators `U+001C` to `U+001F`, next line, and every space, line or paragraph
separator of Unicode. -/
def isBlank (character : Char) : Bool :=
  let code := character.toNat
  (0x09 ≤ code && code ≤ 0x0D) || (0x1C ≤ code && code ≤ 0x20) || code = 0x85 ||
    code = 0xA0 ||
    code = 0x1680 || (0x2000 ≤ code && code ≤ 0x200A) || code = 0x2028 ||
    code = 0x2029 ||
    code = 0x202F || code = 0x205F || code = 0x3000

def dropBlanks (characters : List Char) : List Char :=
  characters.dropWhile isBlank

def dropBlanksAtEnd (characters : List Char) : List Char :=
  (dropBlanks characters.reverse).reverse

def strip (characters : List Char) : List Char :=
  dropBlanksAtEnd (dropBlanks characters)

end CallChains.Text
