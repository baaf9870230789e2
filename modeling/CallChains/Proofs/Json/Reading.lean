import CallChains.Json.Reader
import CallChains.Proofs.Json.Overlay
/-!
What is read from a JSON text: values whose objects have each key once, whatever
keys the text repeats.
-/

namespace CallChains.Json

/-! ## Tokens -/

namespace Token

variable {characters rest : List Char} {value : Json}

theorem isLeaf_of_readNumber {negative : Bool}
    (read : readNumber negative characters = some (.scalar value, rest)) :
    value.IsLeaf := by
  unfold readNumber at read
  extract_lets whole at read
  by_cases empty : whole.isEmpty = true
  · rw [if_pos empty] at read
    cases read
  · rw [if_neg empty] at read
    dsimp only at read
    split at read
    · split at read
      · cases read
      · cases read
        nofun
    · cases read
      nofun

theorem isLeaf_of_first?
    (found : first? characters = some (.scalar value, rest)) :
    value.IsLeaf := by
  unfold first? at found
  split at found
  -- Marks and texts are no tokens of this kind, names have their values, and
  -- the rest are numbers.
  all_goals first
    | exact isLeaf_of_readNumber found
    | (simp at found; done)
    | (cases found; nofun)

def ArePlain (tokens : List Token) : Prop :=
  ∀ value, .scalar value ∈ tokens → value.IsLeaf

theorem arePlain_cons {token : Token} {tokens : List Token} :
    ArePlain (token :: tokens) ↔
      (∀ value, token = .scalar value → value.IsLeaf) ∧ ArePlain tokens := by
  simp only [ArePlain, List.mem_cons, or_imp, forall_and, eq_comm]

theorem arePlain_split (length : Nat) (characters : List Char) :
    ArePlain (split length characters) := by
  induction length generalizing characters with
  | zero =>
      unfold split
      split <;> simp [ArePlain]
  | succ length induction =>
      unfold split
      split
      · simp [ArePlain]
      · split
        · rename_i token rest found
          refine arePlain_cons.mpr ⟨?_, induction rest⟩
          rintro value rfl
          exact isLeaf_of_first? found
        · simp [ArePlain]

end Token

/-! ## Values -/

def Pending.IsTidy : Pending → Prop
  | .list _ => True
  | .object members _ => (obj members).DistinctKeys

theorem DistinctKeys.put {members : Members}
    (distinct : (obj members).DistinctKeys) (key : String) {value : Json}
    (valueDistinct : value.DistinctKeys) :
    (obj (members.put key value)).DistinctKeys := by
  rcases distinct with isLeaf | ⟨nodup, values⟩
  · exact absurd rfl (isLeaf members)
  · refine .object (Members.nodup_keys_put nodup key value)
      fun other inner found => ?_
    by_cases same : key = other
    · rw [← same, Members.find?_put_self, Option.some.injEq] at found
      exact found ▸ valueDistinct
    · rw [Members.find?_put_other value members same] at found
      exact values other inner found

def AreTidy (pending : List Pending) : Prop := ∀ opened ∈ pending, opened.IsTidy

theorem areTidy_cons {opened : Pending} {pending : List Pending} :
    AreTidy (opened :: pending) ↔ opened.IsTidy ∧ AreTidy pending :=
  List.forall_mem_cons

/-! ## Steps of the reader -/

/-- Where a reader is: before a value, or behind a complete one. -/
inductive Stage where
  | before (pending : List Pending) (tokens : List Token)
  | behind (value : Json) (pending : List Pending) (tokens : List Token)

namespace Stage

def tokens : Stage → List Token
  | .before _ tokens => tokens
  | .behind _ _ tokens => tokens

def outcome : Stage → Except ReadError Json
  | .before pending tokens => readValue pending tokens
  | .behind value pending tokens => readAfter value pending tokens

inductive Step : Stage → Stage → Prop
  | scalar {pending value rest} :
      Step (.before pending (.scalar value :: rest))
        (.behind value pending rest)
  | text {pending value rest} :
      Step (.before pending (.text value :: rest))
        (.behind (.str value) pending rest)
  | emptyList {pending rest} :
      Step (.before pending (.leftBracket :: .rightBracket :: rest))
        (.behind (.arr []) pending rest)
  | openList {pending rest} :
      Step (.before pending (.leftBracket :: rest))
        (.before (.list [] :: pending) rest)
  | emptyObject {pending rest} :
      Step (.before pending (.leftBrace :: .rightBrace :: rest))
        (.behind (.obj []) pending rest)
  | openObject {pending key rest} :
      Step (.before pending (.leftBrace :: .text key :: .colon :: rest))
        (.before (.object [] key :: pending) rest)
  | nextItem {value reversed outer rest} :
      Step (.behind value (.list reversed :: outer) (.comma :: rest))
        (.before (.list (value :: reversed) :: outer) rest)
  | nextMember {value members key outer next rest} :
      Step (.behind value (.object members key :: outer)
          (.comma :: .text next :: .colon :: rest))
        (.before (.object (members.put key value) next :: outer) rest)
  | closeList {value reversed outer rest} :
      Step (.behind value (.list reversed :: outer) (.rightBracket :: rest))
        (.behind (.arr (value :: reversed).reverse) outer rest)
  | closeObject {value members key outer rest} :
      Step (.behind value (.object members key :: outer) (.rightBrace :: rest))
        (.behind (.obj (members.put key value)) outer rest)

variable {stage next : Stage} {pending : List Pending} {tokens : List Token}
  {value result : Json}

theorem Step.length_lt (step : stage.Step next) :
    next.tokens.length < stage.tokens.length := by
  cases step <;> simp only [Stage.tokens, List.length_cons] <;> omega

theorem exists_step_of_leftBracket {rest : List Token}
    (read : readValue pending (.leftBracket :: rest) = .ok result) :
    ∃ next, (before pending (.leftBracket :: rest)).Step next ∧
      next.outcome = .ok result := by
  rw [readValue.eq_def] at read
  dsimp only at read
  split at read
  · cases read
  · split at read
    · exact ⟨_, .emptyList, read⟩
    · exact ⟨_, .openList, read⟩

theorem exists_step_of_leftBrace {rest : List Token}
    (read : readValue pending (.leftBrace :: rest) = .ok result) :
    ∃ next, (before pending (.leftBrace :: rest)).Step next ∧
      next.outcome = .ok result := by
  rw [readValue.eq_def] at read
  dsimp only at read
  split at read
  · cases read
  · split at read
    · exact ⟨_, .emptyObject, read⟩
    · exact ⟨_, .openObject, read⟩
    · cases read

theorem exists_step_of_readValue
    (read : readValue pending tokens = .ok result) :
    ∃ next, (before pending tokens).Step next ∧ next.outcome = .ok result := by
  cases tokens with
  | nil => cases read
  | cons token rest =>
      cases token with
      | scalar value => exact ⟨_, .scalar, read⟩
      | text value => exact ⟨_, .text, read⟩
      | leftBracket => exact exists_step_of_leftBracket read
      | leftBrace => exact exists_step_of_leftBrace read
      | rightBracket | rightBrace | comma | colon | longNumber | invalid =>
          cases read

theorem exists_step_of_comma {rest : List Token}
    (read : readAfter value pending (.comma :: rest) = .ok result) :
    ∃ next, (behind value pending (.comma :: rest)).Step next ∧
      next.outcome = .ok result := by
  rw [readAfter.eq_def] at read
  dsimp only at read
  split at read
  · exact ⟨_, .nextItem, read⟩
  · split at read
    · exact ⟨_, .nextMember, read⟩
    · cases read
  · cases read

theorem readAfter_cases (read : readAfter value pending tokens = .ok result) :
    (tokens = [] ∧ result = value) ∨
    ∃ next, (behind value pending tokens).Step next ∧
      next.outcome = .ok result := by
  cases tokens with
  | nil =>
      rw [readAfter] at read
      split at read
      · exact Or.inl ⟨rfl, (Except.ok.inj read).symm⟩
      · cases read
  | cons token rest =>
      right
      cases token with
      | comma => exact exists_step_of_comma read
      | rightBracket =>
          rw [readAfter.eq_def] at read
          dsimp only at read
          split at read
          · exact ⟨_, .closeList, read⟩
          · cases read
      | rightBrace =>
          rw [readAfter.eq_def] at read
          dsimp only at read
          split at read
          · exact ⟨_, .closeObject, read⟩
          · cases read
      | scalar | text | leftBracket | leftBrace | colon | longNumber | invalid =>
          cases read

theorem outcome_cases (ended : stage.outcome = .ok result) :
    (∃ pending, stage = .behind result pending []) ∨
    ∃ next, stage.Step next ∧ next.outcome = .ok result := by
  cases stage with
  | before pending tokens => exact Or.inr (exists_step_of_readValue ended)
  | behind value pending tokens =>
      rcases readAfter_cases ended with ⟨rfl, rfl⟩ | step
      · exact Or.inl ⟨pending, rfl⟩
      · exact Or.inr step

/-! ## Keys stay distinct -/

def IsTidy : Stage → Prop
  | .before pending tokens => Token.ArePlain tokens ∧ AreTidy pending
  | .behind value pending tokens =>
      value.DistinctKeys ∧ Token.ArePlain tokens ∧ AreTidy pending

theorem Step.isTidy (step : stage.Step next) (tidy : stage.IsTidy) :
    next.IsTidy := by
  cases step with
  | scalar =>
      rcases tidy with ⟨plain, pendingTidy⟩
      rcases Token.arePlain_cons.mp plain with ⟨isLeaf, plainRest⟩
      exact ⟨.leaf (isLeaf _ rfl), plainRest, pendingTidy⟩
  | text => exact ⟨.leaf nofun, (Token.arePlain_cons.mp tidy.1).2, tidy.2⟩
  | emptyList =>
      simp only [IsTidy, Token.arePlain_cons] at tidy
      exact ⟨.leaf nofun, tidy.1.2.2, tidy.2⟩
  | openList =>
      exact ⟨(Token.arePlain_cons.mp tidy.1).2,
        areTidy_cons.mpr ⟨trivial, tidy.2⟩⟩
  | emptyObject =>
      simp only [IsTidy, Token.arePlain_cons] at tidy
      exact ⟨.nil, tidy.1.2.2, tidy.2⟩
  | openObject =>
      simp only [IsTidy, Token.arePlain_cons] at tidy
      exact ⟨tidy.1.2.2.2, areTidy_cons.mpr ⟨.nil, tidy.2⟩⟩
  | nextItem =>
      rcases tidy with ⟨-, plain, pendingTidy⟩
      exact ⟨(Token.arePlain_cons.mp plain).2,
        areTidy_cons.mpr ⟨trivial, (areTidy_cons.mp pendingTidy).2⟩⟩
  | @nextMember value members key =>
      rcases tidy with ⟨distinct, plain, pendingTidy⟩
      simp only [Token.arePlain_cons] at plain
      rcases areTidy_cons.mp pendingTidy with ⟨objectTidy, outerTidy⟩
      exact ⟨plain.2.2.2,
        areTidy_cons.mpr ⟨objectTidy.put key distinct, outerTidy⟩⟩
  | closeList =>
      rcases tidy with ⟨-, plain, pendingTidy⟩
      exact ⟨.leaf nofun, (Token.arePlain_cons.mp plain).2,
        (areTidy_cons.mp pendingTidy).2⟩
  | @closeObject value members key =>
      rcases tidy with ⟨distinct, plain, pendingTidy⟩
      rcases areTidy_cons.mp pendingTidy with ⟨objectTidy, outerTidy⟩
      exact ⟨DistinctKeys.put objectTidy key distinct,
        (Token.arePlain_cons.mp plain).2, outerTidy⟩

/-- Every step takes tokens, so a tidy reader comes to its end and is tidy
there. -/
theorem IsTidy.distinctKeys {stage : Stage} (tidy : stage.IsTidy)
    (ended : stage.outcome = .ok result) : result.DistinctKeys := by
  rcases outcome_cases ended with ⟨pending, rfl⟩ | ⟨next, step, endedToo⟩
  · exact tidy.1
  · have := step.length_lt
    exact (step.isTidy tidy).distinctKeys endedToo
termination_by stage.tokens.length

end Stage

theorem distinctKeys_of_read {text : String} {value : Json}
    (found : read text = .ok value) : value.DistinctKeys := by
  have tidy : (Stage.before [] (Token.ofText text.toList)).IsTidy :=
    ⟨Token.arePlain_split _ _, nofun⟩
  exact tidy.distinctKeys found

end CallChains.Json
