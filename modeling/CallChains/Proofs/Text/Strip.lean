import CallChains.Text.Blank
import Mathlib.Data.List.TakeWhile
/-!
Stripping a text takes away the blanks at both ends and nothing else, so blanks
around a text make no difference.
-/

namespace CallChains.Text

abbrev Blanks :=
  { characters : List Char // ∀ character ∈ characters,
    isBlank character = true }

variable {characters : List Char} {character : Char}

/-! ## Blanks at one end -/

theorem dropBlanks_append (before : Blanks) (characters : List Char) :
    dropBlanks (before.val ++ characters) = dropBlanks characters :=
  List.dropWhile_append_of_pos before.property

theorem dropBlanks_eq_nil_iff :
    dropBlanks characters = [] ↔
      ∀ character ∈ characters, isBlank character = true :=
  List.dropWhile_eq_nil_iff

theorem dropBlanks_cons_of_not_blank (visible : isBlank character = false)
    (rest : List Char) :
    dropBlanks (character :: rest) = character :: rest :=
  List.dropWhile_cons_of_neg (Bool.eq_false_iff.mp visible)

theorem exists_dropBlanks (characters : List Char) :
    ∃ before : Blanks, before.val ++ dropBlanks characters = characters :=
  ⟨⟨characters.takeWhile isBlank,
    fun _ member => List.mem_takeWhile_imp member⟩,
    List.takeWhile_append_dropWhile⟩

theorem head?_dropBlanks_eq_some_iff (visible : isBlank character = false) :
    (dropBlanks characters).head? = some character ↔
      ∃ (before : Blanks) (rest : List Char),
        characters = before.val ++ character :: rest := by
  constructor
  · intro first
    rcases List.head?_eq_some_iff.mp first with ⟨rest, opens⟩
    rcases exists_dropBlanks characters with ⟨before, same⟩
    exact ⟨before, rest, by rw [← same, opens]⟩
  · rintro ⟨before, rest, rfl⟩
    rw [dropBlanks_append, dropBlanks_cons_of_not_blank visible,
      List.head?_cons]

theorem dropBlanksAtEnd_append (characters : List Char) (after : Blanks) :
    dropBlanksAtEnd (characters ++ after.val) = dropBlanksAtEnd characters := by
  have reversed : ∀ character ∈ after.val.reverse, isBlank character = true :=
    fun character member =>
    after.property character (List.mem_reverse.mp member)
  rw [dropBlanksAtEnd, List.reverse_append, dropBlanks_append ⟨_, reversed⟩,
    dropBlanksAtEnd]

theorem exists_dropBlanksAtEnd (characters : List Char) :
    ∃ after : Blanks, dropBlanksAtEnd characters ++ after.val = characters := by
  rcases exists_dropBlanks characters.reverse with ⟨before, same⟩
  refine ⟨⟨before.val.reverse, fun character member =>
    before.property character (List.mem_reverse.mp member)⟩, ?_⟩
  rw [dropBlanksAtEnd, ← List.reverse_append, same, List.reverse_reverse]

/-! ## Blanks at both ends -/

theorem strip_append (before : Blanks) (characters : List Char)
    (after : Blanks) :
    strip (before.val ++ characters ++ after.val) = strip characters := by
  rw [strip, List.append_assoc, dropBlanks_append, strip]
  by_cases blank : dropBlanks characters = []
  · have allBlank :=
      (dropBlanks_append ⟨characters, dropBlanks_eq_nil_iff.mp blank⟩
        after.val).trans
      (dropBlanks_eq_nil_iff.mpr after.property)
    rw [allBlank, blank]
  · have shorter : dropBlanks (characters ++ after.val) =
        dropBlanks characters ++ after.val := by
      rw [dropBlanks, List.dropWhile_append,
        if_neg (by simpa [dropBlanks] using blank)]
      rfl
    rw [shorter, dropBlanksAtEnd_append]

theorem exists_strip (characters : List Char) :
    ∃ before after : Blanks,
      before.val ++ strip characters ++ after.val = characters := by
  rcases exists_dropBlanks characters with ⟨before, same⟩
  rcases exists_dropBlanksAtEnd (dropBlanks characters) with ⟨after, sameRest⟩
  exact ⟨before, after, by rw [strip, List.append_assoc, sameRest, same]⟩

theorem strip_strip (characters : List Char) :
    strip (strip characters) = strip characters := by
  rcases exists_strip characters with ⟨before, after, same⟩
  calc strip (strip characters)
      = strip (before.val ++ strip characters ++ after.val) :=
        (strip_append before _ after).symm
    _ = strip characters := by rw [same]

theorem mem_of_mem_strip (member : character ∈ strip characters) :
    character ∈ characters := by
  rcases exists_strip characters with ⟨before, after, same⟩
  rw [← same]
  exact List.mem_append_left _ (List.mem_append_right _ member)

theorem strip_eq_nil_iff :
    strip characters = [] ↔
      ∀ character ∈ characters, isBlank character = true := by
  constructor
  · intro nothing character member
    rcases exists_strip characters with ⟨before, after, same⟩
    rw [nothing, List.append_nil] at same
    rcases List.mem_append.mp (same ▸ member) with isBefore | isAfter
    · exact before.property character isBefore
    · exact after.property character isAfter
  · intro blank
    have stripped := strip_append ⟨characters, blank⟩ [] ⟨[], nofun⟩
    rwa [List.append_nil, List.append_nil] at stripped

theorem strip_between {first last : Char} (visibleFirst : isBlank first = false)
    (visibleLast : isBlank last = false) (inner : List Char) :
    strip (first :: inner ++ [last]) = first :: inner ++ [last] := by
  rw [strip, List.cons_append, dropBlanks_cons_of_not_blank visibleFirst,
    ← List.cons_append, dropBlanksAtEnd, List.reverse_append,
    List.reverse_singleton, List.singleton_append, dropBlanks_cons_of_not_blank
      visibleLast, List.reverse_cons, List.reverse_reverse]

end CallChains.Text
