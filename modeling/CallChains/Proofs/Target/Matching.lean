import CallChains.Proofs.Fallible
import CallChains.Proofs.Target.Definitions
/-!
What a list of target definitions means. The first definition that is refused
fails the list. A list without such definitions accepts the nodes that some
definition covers, so neither order nor repetition makes a difference. A
definition covers the node of its own name unless it is a plain name with blanks
at an end: those are taken from the definition, but not from the node.
-/

namespace CallChains

open Text (strip)

namespace TargetMatcher

variable {matcher : TargetMatcher} {superclasses : Hierarchy} {node : String}
  {definitions : List Json}

/-! ## Adding targets -/

theorem superclasses_add (matcher : TargetMatcher) (target : Target) :
    (matcher.add target).superclasses = matcher.superclasses := by
  cases target <;> rfl

theorem accepts_iff : matcher.accepts node = true ↔
    node ∈ matcher.names ∨ ∃ found, Signature.ofText? node = some found ∧
      ∃ ancestor ∈ matcher.classes.getD found.subSignature [],
        matcher.superclasses.Inherits found.declaringClass ancestor := by
  rw [accepts, Bool.or_eq_true, Std.TreeSet.contains_iff_mem]
  cases Signature.ofText? node with
  | none => simp
  | some found => simp [Hierarchy.isOrInherits_iff]

theorem accepts_add (matcher : TargetMatcher) (target : Target)
    (node : String) :
    (matcher.add target).accepts node = true ↔
      matcher.accepts node = true ∨
      target.Matches matcher.superclasses node := by
  rw [accepts_iff, accepts_iff, superclasses_add]
  cases target with
  | name name =>
      simp only [add, Std.TreeSet.mem_insert, Std.LawfulEqCmp.compare_eq_iff_eq,
        Target.Matches]
      exact or_assoc.trans or_comm
  | signature signature =>
      simp only [add, Std.TreeMap.getD_insert,
        Std.LawfulEqCmp.compare_eq_iff_eq, Target.Matches, or_assoc]
      -- Both sides ask how the node reads as a signature, so they are compared
      -- for each signature.
      refine or_congr_right ?_
      rw [← exists_or]
      refine exists_congr fun found => ?_
      rw [← and_or_left]
      refine and_congr_right fun _ => ?_
      by_cases sameMember : signature.subSignature = found.subSignature
      · simp [sameMember, List.mem_append, or_and_right, exists_or]
      · simp [sameMember, Ne.symm sameMember]

theorem isEmpty_empty (superclasses : Hierarchy) :
    (empty superclasses).isEmpty = true := by
  simp [empty, isEmpty]

theorem isEmpty_add (matcher : TargetMatcher) (target : Target) :
    (matcher.add target).isEmpty = false := by
  cases target with
  | name name => simp [add, isEmpty]
  | signature signature => simp [add, isEmpty]

theorem isEmpty_foldl_add {targets : List Target} {superclasses : Hierarchy} :
    (targets.foldl add (empty superclasses)).isEmpty = true ↔ targets = [] := by
  rcases List.eq_nil_or_concat targets with rfl | ⟨earlier, last, rfl⟩
  · simp [isEmpty_empty]
  · simp [isEmpty_add]

theorem accepts_of_isEmpty (nothing : matcher.isEmpty = true) (node : String) :
    matcher.accepts node = false := by
  rw [isEmpty, Bool.and_eq_true] at nothing
  rw [accepts, Std.TreeSet.contains_of_isEmpty nothing.1]
  cases Signature.ofText? node with
  | none => rfl
  | some signature => simp [Std.TreeMap.getD_of_isEmpty nothing.2]

theorem accepts_foldl_add (matcher : TargetMatcher) (targets : List Target)
    (node : String) :
    (targets.foldl add matcher).accepts node = true ↔
      matcher.accepts node = true ∨
      ∃ target ∈ targets, target.Matches matcher.superclasses node := by
  induction targets generalizing matcher with
  | nil => simp
  | cons target rest induction =>
      rw [List.foldl_cons, induction, accepts_add, superclasses_add,
        List.exists_mem_cons_iff, or_assoc]

/-! ## Lists of definitions -/

theorem ofDefinitions_eq (definitions : List Json) (superclasses : Hierarchy) :
    ofDefinitions definitions superclasses =
      (definitions.mapM Target.ofJson).map
        (·.foldl add (empty superclasses)) := by
  rw [ofDefinitions]
  cases definitions.mapM Target.ofJson <;> rfl

theorem exists_targets
    (built : ofDefinitions definitions superclasses = .ok matcher) :
    ∃ targets, List.Forall₂
      (fun definition target => Target.ofJson definition = .ok target)
      definitions targets ∧
        targets.foldl add (empty superclasses) = matcher := by
  rw [ofDefinitions_eq] at built
  rcases map_eq_ok_iff.mp built with ⟨targets, read, same⟩
  exact ⟨targets, forall₂_of_mapM read, same⟩

theorem ofDefinitions_eq_error_iff {error : TargetError} :
    ofDefinitions definitions superclasses = .error error ↔
      ∃ earlier refused later, definitions = earlier ++ refused :: later ∧
        (∀ definition ∈ earlier, ∀ other, ¬ Target.Refused definition other) ∧
        Target.Refused refused error := by
  rw [ofDefinitions_eq, map_eq_error_iff, mapM_eq_error_iff]
  simp only [Target.exists_ofJson_iff, Target.ofJson_eq_error_iff]

theorem exists_ofDefinitions_iff :
    (∃ matcher, ofDefinitions definitions superclasses = .ok matcher) ↔
      ∀ definition ∈ definitions, ∀ error,
        ¬ Target.Refused definition error := by
  constructor
  · rintro ⟨matcher, built⟩ definition member
    rcases exists_targets built with ⟨targets, read, -⟩
    rcases exists_of_mem_left read definition member with ⟨target, -, readOne⟩
    exact Target.exists_ofJson_iff.mp ⟨target, readOne⟩
  · intro allowed
    rw [ofDefinitions_eq]
    rcases exists_mapM fun definition member =>
      Target.exists_ofJson_iff.mpr (allowed definition member) with
        ⟨targets, read⟩
    exact ⟨_, map_eq_ok_iff.mpr ⟨targets, read, rfl⟩⟩

theorem accepts_iff_covers
    (built : ofDefinitions definitions superclasses = .ok matcher) :
    matcher.accepts node = true ↔
      ∃ text, .str text ∈ definitions ∧
        Target.Covers superclasses text node := by
  rcases exists_targets built with ⟨targets, read, rfl⟩
  rw [accepts_foldl_add, accepts_of_isEmpty (isEmpty_empty superclasses),
    Bool.false_eq_true, false_or]
  constructor
  · rintro ⟨target, isTarget, isMatch⟩
    rcases exists_of_mem_right read target isTarget with
      ⟨definition, member, readOne⟩
    rcases (Target.matches_iff_covers readOne).mp isMatch with
      ⟨text, rfl, covers⟩
    exact ⟨text, member, covers⟩
  · rintro ⟨text, member, covers⟩
    rcases exists_of_mem_left read _ member with ⟨target, isTarget, readOne⟩
    exact ⟨target, isTarget,
      (Target.matches_iff_covers readOne).mpr ⟨text, rfl, covers⟩⟩

theorem exists_of_same_definitions {others : List Json}
    (built : ofDefinitions definitions superclasses = .ok matcher)
    (same : ∀ definition, definition ∈ others ↔ definition ∈ definitions) :
    ∃ other, ofDefinitions others superclasses = .ok other ∧
      ∀ node, other.accepts node = matcher.accepts node := by
  have allowed := exists_ofDefinitions_iff.mp ⟨matcher, built⟩
  have allowedToo : ∃ other, ofDefinitions others superclasses = .ok other :=
    exists_ofDefinitions_iff.mpr fun definition member =>
      allowed definition ((same definition).mp member)
  rcases allowedToo with ⟨other, builtToo⟩
  refine ⟨other, builtToo, fun node => ?_⟩
  rw [Bool.eq_iff_iff, accepts_iff_covers built, accepts_iff_covers builtToo]
  simp only [same]

theorem exists_of_parts {parts : List (List Json)}
    (built : ofDefinitions definitions superclasses = .ok matcher)
    (split : ∀ definition, definition ∈ definitions ↔
      ∃ part ∈ parts, definition ∈ part) :
    ∃ matchers, parts.mapM (ofDefinitions · superclasses) = .ok matchers ∧
      ∀ node, matcher.accepts node = matchers.any (·.accepts node) := by
  have allowed := exists_ofDefinitions_iff.mp ⟨matcher, built⟩
  have each : ∀ part ∈ parts,
      ∃ ofPart, ofDefinitions part superclasses = .ok ofPart :=
    fun part isPart => exists_ofDefinitions_iff.mpr fun definition inPart =>
      allowed definition ((split definition).mpr ⟨part, isPart, inPart⟩)
  rcases exists_mapM each with ⟨matchers, builtAll⟩
  have all := forall₂_of_mapM builtAll
  refine ⟨matchers, builtAll, fun node => ?_⟩
  rw [Bool.eq_iff_iff, accepts_iff_covers built, List.any_eq_true]
  constructor
  · rintro ⟨text, member, covers⟩
    rcases (split _).mp member with ⟨part, isPart, inPart⟩
    rcases exists_of_mem_left all part isPart with
      ⟨ofPart, isMatcher, builtPart⟩
    exact ⟨ofPart, isMatcher,
      (accepts_iff_covers builtPart).mpr ⟨text, inPart, covers⟩⟩
  · rintro ⟨ofPart, isMatcher, accepted⟩
    rcases exists_of_mem_right all ofPart isMatcher with
      ⟨part, isPart, builtPart⟩
    rcases (accepts_iff_covers builtPart).mp accepted with
      ⟨text, inPart, covers⟩
    exact ⟨text, (split _).mpr ⟨part, isPart, inPart⟩, covers⟩

/-- What a list of definitions means. It fails just if it has a definition that
is refused, and with the error of the first of these, which is shown in the
message. Otherwise it accepts the nodes that some definition covers. So it makes
no difference in which order the definitions come and how often, and a list that
is cut into parts accepts what one of the parts accepts. -/
theorem ofDefinitions_meaning (definitions : List Json)
    (superclasses : Hierarchy) :
    ((∃ error, ofDefinitions definitions superclasses = .error error) ↔
      ∃ definition ∈ definitions, ∃ error, Target.Refused definition error) ∧
    (∀ error, ofDefinitions definitions superclasses = .error error →
      ∃ earlier refused later, definitions = earlier ++ refused :: later ∧
        (∀ definition ∈ earlier, ∀ other, ¬ Target.Refused definition other) ∧
        Target.Refused refused error ∧
        (error.message = "Invalid target definition: " ++ refused.quoted ∨
          error.message = "Malformed target signature: " ++ refused.quoted)) ∧
    ∀ matcher, ofDefinitions definitions superclasses = .ok matcher →
      (∀ node, matcher.accepts node = true ↔
        ∃ text, .str text ∈ definitions ∧
          Target.Covers superclasses text node) ∧
      (∀ others, (∀ definition, definition ∈ others ↔
        definition ∈ definitions) →
        ∃ other, ofDefinitions others superclasses = .ok other ∧
          ∀ node, other.accepts node = matcher.accepts node) ∧
      (∀ parts : List (List Json),
        (∀ definition, definition ∈ definitions ↔
          ∃ part ∈ parts, definition ∈ part) →
        ∃ matchers, parts.mapM (ofDefinitions · superclasses) = .ok matchers ∧
          ∀ node, matcher.accepts node = matchers.any (·.accepts node)) := by
  refine ⟨⟨?_, ?_⟩, ?_, ?_⟩
  · rintro ⟨error, failed⟩
    rcases ofDefinitions_eq_error_iff.mp failed with
      ⟨earlier, refused, later, rfl, -, isRefused⟩
    exact ⟨refused, List.mem_append_right _ List.mem_cons_self, error,
      isRefused⟩
  · rintro ⟨definition, member, error, refused⟩
    cases built : ofDefinitions definitions superclasses with
    | error other => exact ⟨other, rfl⟩
    | ok matcher =>
        exact absurd refused
          (exists_ofDefinitions_iff.mp ⟨matcher, built⟩ definition member error)
  · intro error failed
    rcases ofDefinitions_eq_error_iff.mp failed with
      ⟨earlier, refused, later, same, allowed, isRefused⟩
    exact ⟨earlier, refused, later, same, allowed, isRefused,
      isRefused.message_eq⟩
  · intro matcher built
    exact ⟨fun _ => accepts_iff_covers built,
      fun _ => exists_of_same_definitions built, fun _ => exists_of_parts built⟩

/-! ## The node of a definition's own name -/

/-- The node that is named exactly as a definition is accepted just if the
definition is a signature or has no blanks at its ends. -/
theorem accepts_definition_iff {text : String}
    (built : ofDefinitions definitions superclasses = .ok matcher)
    (defined : .str text ∈ definitions) :
    matcher.accepts text = true ↔
      (∃ signature, Signature.ofText? text = some signature) ∨
      strip text.toList = text.toList := by
  rw [accepts_iff_covers built]
  constructor
  · rintro ⟨definition, -, ⟨-, same⟩ | ⟨_, found, -, isSignature, -⟩⟩
    · rw [← same, String.toList_ofList, Text.strip_strip]
      exact Or.inr rfl
    · exact Or.inl ⟨found, isSignature⟩
  · intro eitherWay
    refine ⟨text, defined, ?_⟩
    cases isSignature : Signature.ofText? text with
    | some signature =>
        exact Or.inr ⟨signature, signature, isSignature, isSignature, rfl,
          .refl⟩
    | none =>
        rcases eitherWay with ⟨signature, isSome⟩ | same
        · cases isSignature.symm.trans isSome
        · exact Or.inl ⟨isSignature, by rw [same, String.ofList_toList]⟩

def spacedDefinitions : List Json := [.str " <A: f> ", .str " os.system"]

theorem accepts_spacedName :
    (ofDefinitions spacedDefinitions ∅).map (·.accepts " os.system") =
      .ok false := by
  decide +kernel

theorem spacedSignature_accepted :
    ∃ matcher, ofDefinitions spacedDefinitions ∅ = .ok matcher ∧
      .str " <A: f> " ∈ spacedDefinitions ∧
      matcher.accepts " <A: f> " = true := by
  rcases map_eq_ok_iff.mp accepts_spacedName with ⟨matcher, built, -⟩
  have defined : .str " <A: f> " ∈ spacedDefinitions := List.mem_cons_self
  have isSignature : Signature.ofText? " <A: f> " =
      some { declaringClass := "A", subSignature := "f" } := by decide +kernel
  exact ⟨matcher, built, defined,
    (accepts_definition_iff built defined).mpr (Or.inl ⟨_, isSignature⟩)⟩

/-- A plain name with a blank in front does not cover the node of the same
name. -/
theorem spacedName_not_accepted :
    ∃ matcher, ofDefinitions spacedDefinitions ∅ = .ok matcher ∧
      .str " os.system" ∈ spacedDefinitions ∧
      matcher.accepts " os.system" = false := by
  rcases map_eq_ok_iff.mp accepts_spacedName with ⟨matcher, built, notAccepted⟩
  exact ⟨matcher, built, List.mem_cons_of_mem _ List.mem_cons_self, notAccepted⟩

end TargetMatcher

end CallChains
