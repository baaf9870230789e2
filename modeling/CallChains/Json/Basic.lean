import CallChains.Number.Basic
/-!
JSON values. An object keeps its members in document order, and numbers keep the
difference between whole numbers and doubles, because both can be seen in
messages and in echoed values.
-/

namespace CallChains

inductive Json where
  | null
  | bool (value : Bool)
  | number (value : Number)
  /-- A text of characters. Halves of surrogate pairs are none. -/
  | str (text : String)
  | arr (items : List Json)
  | obj (members : List (String × Json))
  deriving Inhabited, Repr

namespace Json

def ofInt (value : Int) : Json := .number (.int value)

def ofNat (value : Nat) : Json := .number (.int value)

def ofText? : Option String → Json
  | some text => .str text
  | none => .null

def texts (values : List String) : Json := .arr (values.map .str)

/-! ## Equality -/

mutual
def decideEq : (left right : Json) → Decidable (left = right)
  | .null, .null => isTrue rfl
  | .bool left, .bool right => decidable_of_iff (left = right) (by simp)
  | .number left, .number right => decidable_of_iff (left = right) (by simp)
  | .str left, .str right => decidable_of_iff (left = right) (by simp)
  | .arr left, .arr right =>
      match decideItemsEq left right with
      | isTrue equal => isTrue (congrArg arr equal)
      | isFalse different => isFalse fun equal => different (arr.inj equal)
  | .obj left, .obj right =>
      match decideMembersEq left right with
      | isTrue equal => isTrue (congrArg obj equal)
      | isFalse different => isFalse fun equal => different (obj.inj equal)
  | .null, .bool _ | .null, .number _ | .null, .str _ | .null, .arr _
  | .null, .obj _
  | .bool _, .null | .bool _, .number _ | .bool _, .str _ | .bool _, .arr _
  | .bool _, .obj _
  | .number _, .null | .number _, .bool _ | .number _, .str _
  | .number _, .arr _ | .number _, .obj _
  | .str _, .null | .str _, .bool _ | .str _, .number _ | .str _, .arr _
  | .str _, .obj _
  | .arr _, .null | .arr _, .bool _ | .arr _, .number _ | .arr _, .str _
  | .arr _, .obj _
  | .obj _, .null | .obj _, .bool _ | .obj _, .number _ | .obj _, .str _
  | .obj _, .arr _ =>
      isFalse nofun

def decideItemsEq : (left right : List Json) → Decidable (left = right)
  | [], [] => isTrue rfl
  | [], _ :: _ | _ :: _, [] => isFalse nofun
  | left :: lefts, right :: rights =>
      match decideEq left right, decideItemsEq lefts rights with
      | isTrue heads, isTrue tails => isTrue (heads ▸ tails ▸ rfl)
      | isFalse different, _ =>
          isFalse fun equal => different (List.cons.inj equal).1
      | _, isFalse different =>
          isFalse fun equal => different (List.cons.inj equal).2

def decideMembersEq :
    (left right : List (String × Json)) → Decidable (left = right)
  | [], [] => isTrue rfl
  | [], _ :: _ | _ :: _, [] => isFalse nofun
  | (leftKey, left) :: lefts, (rightKey, right) :: rights =>
      match decEq leftKey rightKey, decideEq left right,
        decideMembersEq lefts rights with
      | isTrue keys, isTrue heads, isTrue tails =>
          isTrue (keys ▸ heads ▸ tails ▸ rfl)
      | isFalse different, _, _ =>
          isFalse fun equal => different (Prod.mk.inj (List.cons.inj equal).1).1
      | _, isFalse different, _ =>
          isFalse fun equal => different (Prod.mk.inj (List.cons.inj equal).1).2
      | _, _, isFalse different =>
          isFalse fun equal => different (List.cons.inj equal).2
end

instance : DecidableEq Json := decideEq

/-! ## Kinds of values -/

/-- Whether a value counts as given where an absent one may stand: null, false,
zero, and empty texts, lists and objects do not. -/
def isGiven : Json → Bool
  | .null => false
  | .bool value => value
  | .number value => !value.isZero
  | .str text => text ≠ ""
  | .arr items => !items.isEmpty
  | .obj members => !members.isEmpty

end Json

/-! ## Members of an object -/

/-- The members of an object, in order. Objects that were read have each key
once. -/
abbrev Members := List (String × Json)

namespace Members

def find? (members : Members) (key : String) : Option Json := members.lookup key

def keys (members : Members) : List String := members.map Prod.fst

/-- Sets the value of a key: a key that is there keeps its place, a new one goes
to the end. -/
def put (key : String) (value : Json) : Members → Members
  | [] => [(key, value)]
  | (other, old) :: rest =>
      if other = key then (key, value) :: rest
      else (other, old) :: put key value rest

def putAll (members changes : Members) : Members :=
  changes.foldl (fun members change => members.put change.1 change.2) members

@[simp] theorem find?_nil (key : String) : find? [] key = none := rfl

theorem find?_cons (other : String) (value : Json) (members : Members)
    (key : String) :
    find? ((other, value) :: members) key =
      if other = key then some value else members.find? key := by
  rw [find?, List.lookup_cons]
  by_cases equal : key = other
  · subst equal
    simp
  · have different : other ≠ key := fun swapped => equal swapped.symm
    rw [beq_eq_false_iff_ne.mpr equal, if_neg different]
    rfl

@[simp] theorem find?_put_self (key : String) (value : Json)
    (members : Members) :
    (members.put key value).find? key = some value := by
  induction members with
  | nil => simp [put, find?_cons]
  | cons head tail induction =>
      rcases head with ⟨other, old⟩
      by_cases equal : other = key
      · simp [put, equal, find?_cons]
      · simp [put, equal, find?_cons, induction]

theorem find?_put_other {key other : String} (value : Json) (members : Members)
    (different : other ≠ key) :
    (members.put other value).find? key = members.find? key := by
  induction members with
  | nil => simp [put, find?_cons, different]
  | cons head tail induction =>
      rcases head with ⟨first, old⟩
      by_cases equal : first = other
      · subst equal
        simp [put, find?_cons, different]
      · simp [put, equal, find?_cons, induction]

theorem keys_put_of_mem {key : String} {members : Members} (value : Json)
    (present : key ∈ members.keys) :
    (members.put key value).keys = members.keys := by
  induction members with
  | nil => cases present
  | cons head tail induction =>
      rcases head with ⟨other, old⟩
      by_cases equal : other = key
      · simp [put, keys, equal]
      · have inTail : key ∈ keys tail := by
          rcases List.mem_cons.mp present with here | there
          · exact absurd here.symm equal
          · exact there
        simpa [put, keys, equal] using induction inTail

theorem keys_put_of_not_mem {key : String} {members : Members} (value : Json)
    (absent : key ∉ members.keys) :
    (members.put key value).keys = members.keys ++ [key] := by
  induction members with
  | nil => rfl
  | cons head tail induction =>
      rcases head with ⟨other, old⟩
      have different : other ≠ key :=
        fun equal => absent (by simp [keys, equal])
      have notInTail : key ∉ keys tail := fun present =>
        absent (by simpa [keys] using Or.inr (by simpa [keys] using present))
      simpa [put, keys, different] using induction notInTail

end Members

end CallChains
