/-!
Console markup: tags in square brackets set the style of what follows up to a
closing tag. A backslash before a tag makes it text, and brackets that do not
look like a tag are text as well. Here a text is cut into the parts that look
like tags and those that do not, which loses nothing, and escaped.
-/

namespace CallChains.Markup

/-! ## Tags in a text -/

def opensTag (character : Char) : Bool :=
  character.isLower || character = '#' || character = '/' || character = '@'

/-- Takes the content of a tag off a text behind the opening bracket. No bracket
may open in it. -/
def content? (reversed : List Char) : List Char → Option (List Char × List Char)
  | [] => none
  | ']' :: rest => some (reversed.reverse, rest)
  | '[' :: _ => none
  | character :: rest => content? (character :: reversed) rest

inductive Part where
  | plain (characters : List Char)
  | bracketed (backslashes : Nat) (content : List Char)
  deriving DecidableEq, Repr

def countBackslashes : List Char → Nat × List Char
  | '\\' :: rest => ((countBackslashes rest).1 + 1, (countBackslashes rest).2)
  | characters => (0, characters)

def bracketed? (characters : List Char) : Option (Part × List Char) :=
  match countBackslashes characters with
  | (backslashes, '[' :: first :: rest) =>
      if opensTag first then
        (content? [first] rest).map fun (content, behind) =>
          (.bracketed backslashes content, behind)
      else none
  | _ => none

def plainPart (reversed : List Char) : List Part :=
  if reversed.isEmpty then [] else [.plain reversed.reverse]

def partsFrom : (length : Nat) → (reversed : List Char) → List Char → List Part
  | 0, reversed, _ => plainPart reversed
  | _ + 1, reversed, [] => plainPart reversed
  | length + 1, reversed, character :: rest =>
      match bracketed? (character :: rest) with
      | some (part, behind) =>
          plainPart reversed ++ part :: partsFrom length [] behind
      | none => partsFrom length (character :: reversed) rest

def parts (characters : List Char) : List Part :=
  partsFrom characters.length [] characters

/-! ### The parts make the text -/

def Part.source : Part → List Char
  | .plain characters => characters
  | .bracketed backslashes content =>
      List.replicate backslashes '\\' ++ '[' :: content ++ [']']

theorem append_of_content? {reversed characters content behind : List Char}
    (found : content? reversed characters = some (content, behind)) :
    reversed.reverse ++ characters = content ++ ']' :: behind := by
  fun_induction content? reversed characters with
  | case1 => simp at found
  | case2 reversed rest =>
      obtain ⟨rfl, rfl⟩ := Prod.mk.inj (Option.some.inj found)
      rfl
  | case3 => simp at found
  | case4 reversed character rest _ _ induction => simpa using induction found

theorem append_of_countBackslashes (characters : List Char) :
    List.replicate (countBackslashes characters).1 '\\' ++
      (countBackslashes characters).2 =
      characters := by
  fun_induction countBackslashes characters with
  | case1 rest induction => simpa [List.replicate_succ] using induction
  | case2 => rfl

theorem source_append_of_bracketed? {characters behind : List Char}
    {part : Part} (found : bracketed? characters = some (part, behind)) :
    part.source ++ behind = characters := by
  have whole := append_of_countBackslashes characters
  unfold bracketed? at found
  split at found
  · rename_i backslashes first rest counted
    split at found
    · obtain ⟨⟨content, after⟩, inside, made⟩ := Option.map_eq_some_iff.mp found
      obtain ⟨rfl, rfl⟩ := Prod.mk.inj made
      have tail := append_of_content? inside
      rw [counted] at whole
      simp only [List.reverse_cons, List.reverse_nil, List.nil_append,
        List.cons_append] at tail
      simp only [tail] at whole
      simpa [Part.source] using whole
    · simp at found
  · simp at found

theorem length_lt_of_bracketed? {characters behind : List Char} {part : Part}
    (found : bracketed? characters = some (part, behind)) :
    behind.length < characters.length := by
  rw [← source_append_of_bracketed? found]
  unfold bracketed? at found
  split at found
  · split at found
    · obtain ⟨⟨content, after⟩, _, made⟩ := Option.map_eq_some_iff.mp found
      obtain ⟨rfl, rfl⟩ := Prod.mk.inj made
      simp only [Part.source, List.length_append, List.length_cons]
      omega
    · simp at found
  · simp at found

theorem source_plainPart (reversed : List Char) :
    (plainPart reversed).flatMap Part.source = reversed.reverse := by
  unfold plainPart
  split
  · rename_i empty
    simp [List.isEmpty_iff.mp empty]
  · simp [Part.source]

theorem source_partsFrom {length : Nat} {reversed characters : List Char}
    (enough : characters.length ≤ length) :
    (partsFrom length reversed characters).flatMap Part.source =
      reversed.reverse ++ characters := by
  induction length generalizing reversed characters with
  | zero =>
      obtain rfl := List.eq_nil_of_length_eq_zero (Nat.le_zero.mp enough)
      simpa [partsFrom] using source_plainPart reversed
  | succ length induction =>
      cases characters with
      | nil => simpa [partsFrom] using source_plainPart reversed
      | cons character rest =>
          simp only [partsFrom]
          split
          · rename_i part behind found
            have whole := source_append_of_bracketed? found
            have shorter : behind.length ≤ length := by
              have fewer := length_lt_of_bracketed? found
              rw [List.length_cons] at enough fewer
              omega
            simp [source_plainPart, induction shorter, ← whole]
          · have shorter : rest.length ≤ length := by
              simpa using enough
            simp [induction shorter]

/-- Nothing is lost in the parts of a text. -/
theorem source_parts (characters : List Char) :
    (parts characters).flatMap Part.source = characters := by
  simpa [parts] using @source_partsFrom characters.length [] characters
    (Nat.le_refl _)

/-! ## Escaping -/

def Part.escaped : Part → List Char
  | .plain characters => characters
  | .bracketed backslashes content =>
      List.replicate (2 * backslashes + 1) '\\' ++ '[' :: content ++ [']']

/-- Doubles a single backslash at the end, which would otherwise join a tag
behind it. -/
def guardEnd (characters : List Char) : List Char :=
  match characters.reverse with
  | ['\\'] => ['\\', '\\']
  | '\\' :: before :: _ =>
      if before = '\\' then characters else characters ++ ['\\']
  | _ => characters

def escape (text : String) : String :=
  String.ofList (guardEnd ((parts text.toList).flatMap Part.escaped))

def styled (style text : String) : String :=
  "[" ++ style ++ "]" ++ escape text ++ "[/]"

def styledByName (style text : String) : String :=
  "[" ++ style ++ "]" ++ escape text ++ "[/" ++ style ++ "]"

end CallChains.Markup
