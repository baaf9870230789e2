import CallChains.Proofs.Text.Strip
import CallChains.Target.Signature
/-!
The grammar of signatures, and that reading accepts exactly what it describes.
Every signature is spelled in one way only, and blanks at the ends of its parts
make no difference.
-/

namespace CallChains

open Text (Blanks isBlank strip)

namespace Signature

/-- What stands between and around the angle brackets of a signature: a class,
which ends at the colon, a blank, and a member, which may hold further colons
and blanks. -/
structure Spelling where
  declaringClass : List Char
  blank : Char
  member : List Char
  declaringClass_ne_nil : declaringClass ≠ []
  of_mem_declaringClass : ∀ character ∈ declaringClass,
    character ≠ ':' ∧ character ≠ '<' ∧ character ≠ '>'
  isBlank_blank : isBlank blank = true
  member_ne_nil : member ≠ []
  of_mem_member : ∀ character ∈ member, character ≠ '<' ∧ character ≠ '>'

structure Padding where
  before : Blanks
  opening : Blanks
  beforeColon : Blanks
  afterColon : Blanks
  closing : Blanks
  after : Blanks

namespace Spelling

def body (spelling : Spelling) : List Char :=
  spelling.declaringClass ++ ':' :: spelling.blank :: spelling.member

def characters (spelling : Spelling) : List Char :=
  '<' :: spelling.body ++ ['>']

def signature (spelling : Spelling) : Signature where
  declaringClass := String.ofList (strip spelling.declaringClass)
  subSignature := String.ofList (strip spelling.member)

def padded (spelling : Spelling) (padding : Padding) : List Char :=
  padding.before.val ++ '<' :: padding.opening.val ++ spelling.declaringClass ++
    padding.beforeColon.val ++ ':' :: padding.afterColon.val ++
    spelling.blank :: spelling.member ++
    padding.closing.val ++ '>' :: padding.after.val

end Spelling

variable {signature : Signature} {text : String}

/-! ## Reading a spelling -/

theorem not_isAngle_iff {character : Char} :
    isAngle character = false ↔ character ≠ '<' ∧ character ≠ '>' := by
  simp [isAngle]

theorem any_isAngle_eq_false_iff {characters : List Char} :
    characters.any isAngle = false ↔
      ∀ character ∈ characters, character ≠ '<' ∧ character ≠ '>' := by
  simp only [List.any_eq_false, Bool.not_eq_true, not_isAngle_iff]

theorem Spelling.ne_colon (spelling : Spelling) :
    ∀ character ∈ spelling.declaringClass, decide (character ≠ ':') = true :=
  fun character isIn =>
    decide_eq_true (spelling.of_mem_declaringClass character isIn).1

theorem Spelling.takeWhile_body (spelling : Spelling) :
    spelling.body.takeWhile (· ≠ ':') = spelling.declaringClass := by
  rw [body, List.takeWhile_append_of_pos spelling.ne_colon,
    List.takeWhile_cons_of_neg (by simp), List.append_nil]

theorem Spelling.dropWhile_body (spelling : Spelling) :
    spelling.body.dropWhile (· ≠ ':') =
      ':' :: spelling.blank :: spelling.member := by
  rw [body, List.dropWhile_append_of_pos spelling.ne_colon,
    List.dropWhile_cons_of_neg (by simp)]

theorem ofBody?_body (spelling : Spelling) :
    ofBody? spelling.body = some spelling.signature := by
  have classAngles := any_isAngle_eq_false_iff.mpr fun character member =>
    (spelling.of_mem_declaringClass character member).2
  have memberAngles := any_isAngle_eq_false_iff.mpr spelling.of_mem_member
  simp only [ofBody?, spelling.takeWhile_body, spelling.dropWhile_body]
  rw [if_pos (by
    simp [spelling.declaringClass_ne_nil, spelling.isBlank_blank,
      spelling.member_ne_nil,
    classAngles, memberAngles]), Spelling.signature]

theorem exists_spelling_of_ofBody? {body : List Char}
    (read : ofBody? body = some signature) :
    ∃ spelling : Spelling, spelling.body = body ∧
      spelling.signature = signature := by
  simp only [ofBody?] at read
  split at read
  · rename_i colon blank member afterClass
    have colonFirst : colon = ':' := by
      have stopped := List.head?_dropWhile_not (· ≠ ':') body
      rw [afterClass] at stopped
      simpa using stopped
    subst colonFirst
    have parts : body.takeWhile (· ≠ ':') ++ ':' :: blank :: member = body := by
      rw [← afterClass, List.takeWhile_append_dropWhile]
    split at read
    · rename_i conditions
      simp only [Bool.and_eq_true, Bool.not_eq_true',
        decide_eq_true_eq] at conditions
      rcases conditions with
        ⟨⟨⟨⟨someClass, blankThere⟩, someMember⟩, classAngles⟩, memberAngles⟩
      exact ⟨{
        declaringClass := body.takeWhile (· ≠ ':')
        blank, member
        declaringClass_ne_nil := someClass
        of_mem_declaringClass := fun character isIn =>
          ⟨by simpa using List.mem_takeWhile_imp isIn,
            any_isAngle_eq_false_iff.mp classAngles character isIn⟩
        isBlank_blank := blankThere
        member_ne_nil := someMember
        of_mem_member := any_isAngle_eq_false_iff.mp memberAngles }, parts,
          Option.some.inj read⟩
    · cases read
  · cases read

theorem ofText?_eq_some_iff : ofText? text = some signature ↔
    ∃ spelling : Spelling, strip text.toList = spelling.characters ∧
      spelling.signature = signature := by
  constructor
  · intro read
    unfold ofText? at read
    split at read
    · rename_i rest opens
      split at read
      · rename_i closes
        rcases List.getLast?_eq_some_iff.mp closes with ⟨body, rfl⟩
        rw [List.dropLast_concat] at read
        rcases exists_spelling_of_ofBody? read with ⟨spelling, rfl, same⟩
        exact ⟨spelling, opens, same⟩
      · cases read
    · cases read
  · rintro ⟨spelling, spelled, rfl⟩
    have closes : (spelling.body ++ ['>']).getLast? = some '>' :=
      List.getLast?_concat
    simp only [ofText?, spelled, Spelling.characters, List.cons_append, closes,
      if_true, List.dropLast_concat, ofBody?_body]

theorem Spelling.eq_of_characters {spelling other : Spelling}
    (same : spelling.characters = other.characters) : spelling = other := by
  have sameBody : spelling.body = other.body :=
    List.append_cancel_right (List.cons.inj same).2
  have sameClass := congrArg (List.takeWhile (· ≠ ':')) sameBody
  have sameRest := congrArg (List.dropWhile (· ≠ ':')) sameBody
  rw [takeWhile_body, takeWhile_body] at sameClass
  rw [dropWhile_body, dropWhile_body] at sameRest
  cases spelling
  cases other
  simp_all

/-! ## Blanks around the parts -/

theorem Spelling.strip_characters (spelling : Spelling) :
    strip spelling.characters = spelling.characters :=
  Text.strip_between (by decide) (by decide) spelling.body

theorem ofText?_of_spelling (before : Blanks) (spelling : Spelling)
    (after : Blanks) :
    ofText? (String.ofList (before.val ++ spelling.characters ++ after.val)) =
      some spelling.signature := by
  refine ofText?_eq_some_iff.mpr ⟨spelling, ?_, rfl⟩
  rw [String.toList_ofList, Text.strip_append, spelling.strip_characters]

theorem ne_of_isBlank {character : Char} (blank : isBlank character = true) :
    character ≠ ':' ∧ character ≠ '<' ∧ character ≠ '>' := by
  refine ⟨?_, ?_, ?_⟩ <;> rintro rfl <;> exact absurd blank (by decide)

def Spelling.padClass (spelling : Spelling)
    (opening beforeColon : Blanks) : Spelling :=
  { spelling with
    declaringClass := opening.val ++ spelling.declaringClass ++ beforeColon.val
    declaringClass_ne_nil := by simp [spelling.declaringClass_ne_nil]
    of_mem_declaringClass := by
      intro character isIn
      simp only [List.mem_append] at isIn
      rcases isIn with (isOpening | isClass) | isBeforeColon
      · exact ne_of_isBlank (opening.property character isOpening)
      · exact spelling.of_mem_declaringClass character isClass
      · exact ne_of_isBlank (beforeColon.property character isBeforeColon) }

/-- Blanks may stand around the member too. Of those after the colon, the first
is the blank that has to stand there and the others belong to the member. -/
theorem Spelling.exists_padMember (spelling : Spelling)
    (afterColon closing : Blanks) :
    ∃ other : Spelling, other.declaringClass = spelling.declaringClass ∧
      other.blank :: other.member =
        afterColon.val ++ spelling.blank :: spelling.member ++ closing.val ∧
      strip other.member = strip spelling.member := by
  have blanks : ∀ character ∈ afterColon.val ++ [spelling.blank],
      isBlank character = true := by
    intro character isIn
    rcases List.mem_append.mp isIn with isAfterColon | isLast
    · exact afterColon.property character isAfterColon
    · exact List.mem_singleton.mp isLast ▸ spelling.isBlank_blank
  -- One blank stands there in any case, so there is a first one.
  cases split : afterColon.val ++ [spelling.blank] with
  | nil => simp at split
  | cons first others =>
      rw [split] at blanks
      have othersBlank : ∀ character ∈ others, isBlank character = true :=
        fun character isIn =>
        blanks character (List.mem_cons_of_mem first isIn)
      refine ⟨{ spelling with
        blank := first
        member := others ++ spelling.member ++ closing.val
        isBlank_blank := blanks first List.mem_cons_self
        member_ne_nil := by simp [spelling.member_ne_nil]
        of_mem_member := ?_ }, rfl, ?_,
          Text.strip_append ⟨others, othersBlank⟩ spelling.member closing⟩
      · intro character isIn
        simp only [List.mem_append] at isIn
        rcases isIn with (isOther | isMember) | isClosing
        · exact (ne_of_isBlank (othersBlank character isOther)).2
        · exact spelling.of_mem_member character isMember
        · exact (ne_of_isBlank (closing.property character isClosing)).2
      · rw [List.append_cons, split]
        simp only [List.cons_append, List.append_assoc]

theorem Spelling.exists_padded (spelling : Spelling) (padding : Padding) :
    ∃ other : Spelling, other.signature = spelling.signature ∧
      spelling.padded padding =
        padding.before.val ++ other.characters ++ padding.after.val := by
  rcases (spelling.padClass padding.opening
    padding.beforeColon).exists_padMember
    padding.afterColon padding.closing with
      ⟨other, sameClass, sameRest, sameMember⟩
  refine ⟨other, ?_, ?_⟩
  · rw [signature, signature, sameClass, sameMember, padClass,
      Text.strip_append]
  · rw [characters, body, sameClass, sameRest]
    simp [padded, padClass]

/-! ## The usual spelling -/

def Spelling.usual (spelling : Spelling)
    (someClass : strip spelling.declaringClass ≠ [])
    (someMember : strip spelling.member ≠ []) : Spelling where
  declaringClass := strip spelling.declaringClass
  blank := ' '
  member := strip spelling.member
  declaringClass_ne_nil := someClass
  of_mem_declaringClass character isIn :=
    spelling.of_mem_declaringClass character (Text.mem_of_mem_strip isIn)
  isBlank_blank := by decide
  member_ne_nil := someMember
  of_mem_member character isIn :=
    spelling.of_mem_member character (Text.mem_of_mem_strip isIn)

theorem Spelling.signature_usual (spelling : Spelling)
    (someClass : strip spelling.declaringClass ≠ [])
    (someMember : strip spelling.member ≠ []) :
    (spelling.usual someClass someMember).signature = spelling.signature := by
  rw [signature, signature, usual, Text.strip_strip, Text.strip_strip]

theorem Spelling.characters_usual (spelling : Spelling)
    (someClass : strip spelling.declaringClass ≠ [])
    (someMember : strip spelling.member ≠ []) :
    (spelling.usual someClass someMember).characters =
      spelling.signature.text.toList := by
  simp [characters, body, usual, text, signature, String.toList_append]

/-- Reading accepts exactly the grammar. A text is a signature just if without
the blanks around it it is an opening bracket, a class without colons and
brackets, a colon, a blank, a member without brackets, and a closing bracket.
There is only one way to take it apart like this, and the signature has the two
parts without the blanks around them. So blanks put in at the ends of the text,
inside the brackets or around the colon make no difference, and a signature
whose parts are not empty is read back from its usual text. -/
theorem ofText?_grammar (text : String) :
    (∀ signature, ofText? text = some signature ↔
      ∃ spelling : Spelling, strip text.toList = spelling.characters ∧
        spelling.signature = signature) ∧
    (∀ spelling other : Spelling, spelling.characters = other.characters →
      spelling = other) ∧
    (∀ signature, ofText? text = some signature →
      ∃ (before : Blanks) (spelling : Spelling) (after : Blanks),
        text.toList = before.val ++ spelling.characters ++ after.val ∧
        ∀ padding : Padding, ofText? (String.ofList (spelling.padded padding)) =
          some signature) ∧
    (∀ signature, ofText? text = some signature →
      signature.declaringClass ≠ "" →
      signature.subSignature ≠ "" →
      ofText? signature.text = some signature) := by
  refine ⟨fun _ => ofText?_eq_some_iff, fun _ _ => Spelling.eq_of_characters,
    ?_, ?_⟩
  · intro signature read
    rcases ofText?_eq_some_iff.mp read with ⟨spelling, spelled, rfl⟩
    rcases Text.exists_strip text.toList with ⟨before, after, around⟩
    refine ⟨before, spelling, after, by rw [← spelled, around],
      fun padding => ?_⟩
    rcases spelling.exists_padded padding with ⟨other, same, padded⟩
    rw [padded, ofText?_of_spelling, same]
  · intro signature read someClass someMember
    rcases ofText?_eq_some_iff.mp read with ⟨spelling, -, rfl⟩
    have classLeft : strip spelling.declaringClass ≠ [] := fun nothing =>
      someClass (congrArg String.ofList nothing)
    have memberLeft : strip spelling.member ≠ [] := fun nothing =>
      someMember (congrArg String.ofList nothing)
    rw [← spelling.signature_usual classLeft memberLeft]
    refine ofText?_eq_some_iff.mpr
      ⟨spelling.usual classLeft memberLeft, ?_, rfl⟩
    rw [spelling.signature_usual,
      ← spelling.characters_usual classLeft memberLeft,
      Spelling.strip_characters]

end Signature

end CallChains
