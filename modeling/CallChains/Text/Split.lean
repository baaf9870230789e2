import CallChains.Text.Blank
/-!
Cutting a text into parts at separators.
-/

namespace CallChains.Text

/-- The parts of a text between separators; there is one part more than there
are separators. -/
def splitAt (separates : Char → Bool) : List Char → List (List Char)
  | [] => [[]]
  | character :: rest =>
      if separates character then [] :: splitAt separates rest
      else
        match splitAt separates rest with
        | [] => [[character]]
        | part :: parts => (character :: part) :: parts

def words (text : String) : List String :=
  ((splitAt isBlank text.toList).filter (· ≠ [])).map String.ofList

end CallChains.Text
