import CallChains.Proofs.Target.Ancestry
import CallChains.Proofs.Text.Strip
import CallChains.Target.Matcher
/-!
What one target definition means: whether it is refused, and otherwise which
nodes it covers.
-/

namespace CallChains

open Text (Blanks isBlank strip)

namespace Target

variable {definition : Json} {text : String} {target : Target}
  {error : TargetError}

/-! ## Refused definitions -/

/-- The definitions that are refused, each with its error: what is not a text, a
blank text, and a text that opens like a signature, perhaps after blanks, but is
none. -/
inductive Refused : Json → TargetError → Prop where
  | notText {definition : Json} (notText : ∀ text, definition ≠ .str text) :
      Refused definition (.invalid definition)
  | blank {text : String}
      (blank : ∀ character ∈ text.toList, isBlank character = true) :
      Refused (.str text) (.invalid (.str text))
  | malformed {text : String} (before : Blanks) (rest : List Char)
      (opens : text.toList = before.val ++ '<' :: rest)
      (noSignature : Signature.ofText? text = none) :
      Refused (.str text) (.malformed text)

theorem Refused.message_eq (refused : Refused definition error) :
    error.message = "Invalid target definition: " ++ definition.quoted ∨
      error.message = "Malformed target signature: " ++ definition.quoted := by
  cases refused with
  | notText => exact Or.inl rfl
  | blank => exact Or.inl rfl
  | malformed => exact Or.inr rfl

theorem ofText_of_blank
    (blank : ∀ character ∈ text.toList, isBlank character = true) :
    ofText text = .error (.invalid (.str text)) := by
  rw [ofText, Text.strip_eq_nil_iff.mpr blank, List.isEmpty_nil, if_pos rfl]

section Visible

variable (visible : ¬ ∀ character ∈ text.toList, isBlank character = true)

include visible

theorem isEmpty_strip_of_visible : (strip text.toList).isEmpty = false :=
  List.isEmpty_eq_false_iff.mpr fun nothing =>
    visible (Text.strip_eq_nil_iff.mp nothing)

theorem ofText_of_signature {signature : Signature}
    (isSignature : Signature.ofText? text = some signature) :
    ofText text = .ok (.signature signature) := by
  simp only [ofText, isEmpty_strip_of_visible visible, isSignature,
    Bool.false_eq_true, if_false]

theorem ofText_of_noSignature (noSignature : Signature.ofText? text = none) :
    ofText text = if (Text.dropBlanks text.toList).head? = some '<' then
      .error (.malformed text)
      else .ok (.name (String.ofList (strip text.toList))) := by
  simp only [ofText, isEmpty_strip_of_visible visible, noSignature,
    Bool.false_eq_true, if_false]

end Visible

theorem ofText_cases (text : String) :
    (∃ error, ofText text = .error error ∧ Refused (.str text) error) ∨
    (∃ signature, ofText text = .ok (.signature signature) ∧
      Signature.ofText? text = some signature) ∨
    (ofText text = .ok (.name (String.ofList (strip text.toList))) ∧
      Signature.ofText? text = none) := by
  by_cases blank : ∀ character ∈ text.toList, isBlank character = true
  · exact Or.inl ⟨_, ofText_of_blank blank, .blank blank⟩
  · cases isSignature : Signature.ofText? text with
    | some signature =>
        exact Or.inr
          (Or.inl ⟨signature, ofText_of_signature blank isSignature, rfl⟩)
    | none =>
        rw [ofText_of_noSignature blank isSignature]
        split
        · rename_i first
          rcases (Text.head?_dropBlanks_eq_some_iff (by decide)).mp first with
            ⟨before, rest, opens⟩
          exact Or.inl ⟨_, rfl, .malformed before rest opens isSignature⟩
        · exact Or.inr (Or.inr ⟨rfl, rfl⟩)

theorem ofJson_of_refused (refused : Refused definition error) :
    ofJson definition = .error error := by
  cases refused with
  | notText notText =>
      cases definition with
      | str text => exact absurd rfl (notText text)
      | null | bool | number | arr | obj => rfl
  | blank blank => exact ofText_of_blank blank
  | malformed before rest opens noSignature =>
      have visible : ¬ ∀ character ∈ _, isBlank character = true := fun blank =>
        absurd (blank '<' (opens ▸ List.mem_append_right _ List.mem_cons_self))
          (by decide)
      have first := (Text.head?_dropBlanks_eq_some_iff (by decide)).mpr
        ⟨before, rest, opens⟩
      rw [ofJson, ofText_of_noSignature visible noSignature, if_pos first]

theorem ofJson_eq_error_iff :
    ofJson definition = .error error ↔ Refused definition error := by
  refine ⟨fun failed => ?_, ofJson_of_refused⟩
  cases definition with
  | str text =>
      rcases ofText_cases text with
        ⟨other, failedToo, refused⟩ | ⟨signature, read, -⟩ | ⟨read, -⟩
      · exact Except.error.inj (failedToo.symm.trans failed) ▸ refused
      · cases read.symm.trans failed
      · cases read.symm.trans failed
  | null | bool | number | arr | obj =>
      exact Except.error.inj failed ▸ .notText nofun

theorem exists_ofJson_iff :
    (∃ target, ofJson definition = .ok target) ↔
      ∀ error, ¬ Refused definition error := by
  simp only [← ofJson_eq_error_iff]
  cases ofJson definition <;> simp

/-! ## What definitions cover -/

/-- The nodes that a target stands for: the node of its name, or the methods
with its member in its class and all classes that inherit from it. -/
def Matches (superclasses : Hierarchy) (node : String) : Target → Prop
  | .name plain => plain = node
  | .signature defined => ∃ found, Signature.ofText? node = some found ∧
      found.subSignature = defined.subSignature ∧
      superclasses.Inherits found.declaringClass defined.declaringClass

/-- A definition covers a node. It is a plain name, and the node is this name
without the blanks around it; or both are signatures with the same member, and
the node's class inherits from the defined one. -/
def Covers (superclasses : Hierarchy) (definition node : String) : Prop :=
  (Signature.ofText? definition = none ∧
    String.ofList (strip definition.toList) = node) ∨
  ∃ defined found, Signature.ofText? definition = some defined ∧
    Signature.ofText? node = some found ∧
    found.subSignature = defined.subSignature ∧
    superclasses.Inherits found.declaringClass defined.declaringClass

theorem matches_iff_covers {superclasses : Hierarchy} {node : String}
    (read : ofJson definition = .ok target) :
    target.Matches superclasses node ↔
      ∃ text, definition = .str text ∧ Covers superclasses text node := by
  cases definition with
  | str text =>
      rcases ofText_cases text with
        ⟨error, failed, -⟩ | ⟨signature, readToo, isSignature⟩ |
        ⟨readToo, noSignature⟩
      · cases failed.symm.trans read
      · rcases Except.ok.inj (readToo.symm.trans read) with rfl
        simp [Matches, Covers, isSignature]
      · rcases Except.ok.inj (readToo.symm.trans read) with rfl
        simp [Matches, Covers, noSignature]
  | null | bool | number | arr | obj => cases read

end Target

end CallChains
