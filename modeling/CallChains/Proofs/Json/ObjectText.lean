import CallChains.Json.Writer
/-!
What the text of an object gives away. Its first key can be read off the text if
the key is written as it is, and so can whether the object stands on one line or
is spread over lines.
-/

namespace CallChains.Json

/-! ## Texts -/

theorem writtenCharacter_cases (character : Char) :
    (writtenCharacter character = [character] ∧ character ≠ '"') ∨
    ∃ rest, writtenCharacter character = '\\' :: rest := by
  unfold writtenCharacter
  by_cases quote : character = '"'
  · exact Or.inr ⟨_, if_pos quote⟩
  · rw [if_neg quote]
    split
    iterate 6
      · exact Or.inr ⟨_, rfl⟩
      split
    · exact Or.inl ⟨rfl, quote⟩
    · split <;> exact Or.inr ⟨_, rfl⟩

def IsPlain (characters : List Char) : Prop :=
  ∀ character ∈ characters, writtenCharacter character = [character] ∧
    character ≠ '"' ∧ character ≠ '\\'

-- Not over all characters there are, but over those in the list.
instance (characters : List Char) : Decidable (IsPlain characters) :=
  List.decidableBAll _ characters

theorem eq_of_written_append {plain characters rest others : List Char}
    (isPlain : IsPlain plain)
    (same : characters.flatMap writtenCharacter ++ '"' :: rest =
      plain.flatMap writtenCharacter ++ '"' :: others) :
    characters = plain := by
  induction plain generalizing characters with
  | nil =>
      cases characters with
      | nil => rfl
      | cons first later =>
          rcases writtenCharacter_cases first with
            ⟨written, notQuote⟩ | ⟨tail, written⟩
          · simp [written, notQuote] at same
          · simp [written] at same
  | cons expected plain induction =>
      rcases isPlain expected List.mem_cons_self with
        ⟨asIs, notQuote, notBackslash⟩
      cases characters with
      | nil => simp [asIs, notQuote.symm] at same
      | cons first later =>
          rcases writtenCharacter_cases first with
            ⟨written, -⟩ | ⟨tail, written⟩
          · simp only [List.flatMap_cons, written, asIs, List.cons_append,
              List.nil_append, List.cons.injEq] at same
            rcases same with ⟨rfl, same⟩
            rw [induction (fun other member =>
              isPlain other (List.mem_cons_of_mem first member)) same]
          · simp [written, asIs, notBackslash.symm] at same

/-! ## Objects -/

theorem written_obj_cons (spacing : Spacing) (depth : Nat) (key : String)
    (value : Json) (members : Members) : ∃ rest,
      (written spacing depth (.obj ((key, value) :: members))).toList =
        '\x7b' :: ((spacing.inside (depth + 1)).toList ++ '"' ::
          (key.toList.flatMap writtenCharacter ++ '"' :: rest)) := by
  refine ⟨": ".toList ++ (written spacing (depth + 1) value).toList ++
    (writtenMembers spacing (depth + 1) members).toList ++
    (spacing.inside depth).toList ++
    ['\x7d'], ?_⟩
  simp [written, writtenText]

theorem exists_of_indented_eq {key : String} {value : Json}
    {members others : Members} (isPlain : IsPlain key.toList)
    (same : (obj others).indented = (obj ((key, value) :: members)).indented) :
    ∃ other rest, others = (key, other) :: rest := by
  have sameCharacters := congrArg String.toList same
  rcases written_obj_cons .indented 0 key value members with ⟨behind, text⟩
  rw [indented, indented, text] at sameCharacters
  cases others with
  | nil => simp [written, Spacing.indented] at sameCharacters
  | cons first rest =>
      rcases first with ⟨otherKey, other⟩
      rcases written_obj_cons .indented 0 otherKey other rest with
        ⟨otherBehind, otherText⟩
      rw [otherText] at sameCharacters
      have fromKey :=
        List.append_cancel_left (List.tail_eq_of_cons_eq sameCharacters)
      have sameKey :=
        eq_of_written_append isPlain (List.tail_eq_of_cons_eq fromKey)
      exact ⟨other, rest, by rw [String.toList_inj.mp sameKey]⟩

/-- An object with members is not written on one line in the way that one is
spread over lines. -/
theorem indented_ne_line (others : Members) (key : String) (value : Json)
    (members : Members) :
    (obj others).indented ≠ (obj ((key, value) :: members)).line := by
  intro same
  have sameCharacters := congrArg String.toList same
  rcases written_obj_cons .line 0 key value members with ⟨behind, text⟩
  rw [indented, line, text] at sameCharacters
  cases others with
  | nil => simp [written, Spacing.line] at sameCharacters
  | cons first rest =>
      rcases first with ⟨otherKey, other⟩
      rcases written_obj_cons .indented 0 otherKey other rest with
        ⟨otherBehind, otherText⟩
      rw [otherText] at sameCharacters
      simp [Spacing.line, Spacing.indented] at sameCharacters

end CallChains.Json
