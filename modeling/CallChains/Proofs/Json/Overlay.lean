import CallChains.Proofs.Json.Members
/-!
Objects laid over one another, seen from their leaves: the values at paths of
keys that are no objects. The leaves of the upper object all show, and those of
the lower object show where the upper one gives way.
-/

namespace CallChains

namespace Json

/-! ## Leaves -/

def IsLeaf (value : Json) : Prop := ∀ members, value ≠ .obj members

def valueAt? : Json → List String → Option Json
  | value, [] => some value
  | .obj members, key :: path =>
      match Members.find? members key with
      | some inner => inner.valueAt? path
      | none => none
  | _, _ :: _ => none

def HasLeaf (value : Json) (path : List String) (leaf : Json) : Prop :=
  value.valueAt? path = some leaf ∧ leaf.IsLeaf

/-- Nothing stands at a path, and no leaf stands in its way. -/
def GivesWay (value : Json) (path : List String) : Prop :=
  value.valueAt? path = none ∧ ∀ earlier, earlier <+: path → earlier ≠ path →
    value.valueAt? earlier = none ∨
    ∃ members, value.valueAt? earlier = some (.obj members)

/-- Each key of an object stands for one value, and so does each key of the
objects in it. -/
inductive DistinctKeys : Json → Prop
  | leaf {value : Json} (isLeaf : value.IsLeaf) : DistinctKeys value
  | object {members : Members} (nodup : members.keys.Nodup)
      (values : ∀ key value, members.find? key = some value →
        DistinctKeys value) : DistinctKeys (.obj members)

section Leaves

variable {value inner upper leaf : Json} {members lower : Members}
  {key : String} {path : List String}

theorem valueAt?_of_found (found : members.find? key = some inner) :
    (obj members).valueAt? (key :: path) = inner.valueAt? path := by
  rw [valueAt?, found]

theorem valueAt?_of_absent (absent : members.find? key = none) :
    (obj members).valueAt? (key :: path) = none := by
  rw [valueAt?, absent]

theorem IsLeaf.valueAt?_cons (isLeaf : value.IsLeaf) :
    value.valueAt? (key :: path) = none := by
  cases value with
  | obj members => exact absurd rfl (isLeaf members)
  | null | bool | number | str | arr => rfl

theorem not_hasLeaf_obj_nil : ¬ (obj members).HasLeaf [] leaf := by
  rintro ⟨here, isLeaf⟩
  exact isLeaf members (Option.some.inj here).symm

theorem hasLeaf_of_found (found : members.find? key = some inner) :
    (obj members).HasLeaf (key :: path) leaf ↔ inner.HasLeaf path leaf := by
  rw [HasLeaf, HasLeaf, valueAt?_of_found found]

theorem not_hasLeaf_of_absent (absent : members.find? key = none) :
    ¬ (obj members).HasLeaf (key :: path) leaf := by
  rw [HasLeaf, valueAt?_of_absent absent]
  exact fun found => nomatch found.1

theorem not_givesWay_nil : ¬ value.GivesWay [] :=
  fun givesWay => nomatch givesWay.1

theorem givesWay_of_found (found : members.find? key = some inner) :
    (obj members).GivesWay (key :: path) ↔ inner.GivesWay path := by
  rw [GivesWay, GivesWay, valueAt?_of_found found]
  apply and_congr_right
  intro _
  constructor
  · intro passable earlier within shorter
    rw [← valueAt?_of_found found]
    exact passable (key :: earlier) (List.cons_prefix_cons.mpr ⟨rfl, within⟩)
      (by simpa using shorter)
  · intro passable earlier within shorter
    cases earlier with
    | nil => exact Or.inr ⟨members, rfl⟩
    | cons first earlier =>
        rcases List.cons_prefix_cons.mp within with ⟨rfl, withinRest⟩
        rw [valueAt?_of_found found]
        exact passable earlier withinRest (by simpa using shorter)

theorem givesWay_of_absent (absent : members.find? key = none) :
    (obj members).GivesWay (key :: path) := by
  refine ⟨valueAt?_of_absent absent, fun earlier within _ => ?_⟩
  cases earlier with
  | nil => exact Or.inr ⟨members, rfl⟩
  | cons first earlier =>
      rcases List.cons_prefix_cons.mp within with ⟨rfl, -⟩
      exact Or.inl (valueAt?_of_absent absent)

theorem IsLeaf.not_givesWay (isLeaf : value.IsLeaf) :
    ¬ value.GivesWay path := by
  rintro ⟨nothing, passable⟩
  cases path with
  | nil => cases nothing
  | cons key path =>
      rcases passable [] List.nil_prefix (List.cons_ne_nil key path).symm with
        missing | ⟨members, isObject⟩
      · cases missing
      · exact isLeaf members (Option.some.inj isObject)

end Leaves

/-! ## Leaves of an overlay -/

section Overlay

variable {lower : Option Json} {upper leaf : Json}

theorem IsLeaf.overlay (isLeaf : upper.IsLeaf) (lower : Option Json) :
    Json.overlay lower upper = upper := by
  cases upper with
  | obj members => exact absurd rfl (isLeaf members)
  | null | bool | number | str | arr => rfl

theorem overlay_of_no_object (noObject : ∀ members, lower ≠ some (.obj members))
    (upper : Json) :
    Json.overlay lower upper = upper := by
  cases upper with
  | obj upper =>
      unfold Json.overlay
      split
      · exact absurd rfl (noObject _)
      · rfl
  | null | bool | number | str | arr => rfl

theorem overlay_obj_cases (lower : Option Json) (upper : Members) :
    (∃ members : Members, lower = some (.obj members) ∧
        Json.overlay lower (.obj upper) = .obj (members.overlay upper)) ∨
      (∀ members, lower ≠ some (.obj members)) ∧
      Json.overlay lower (.obj upper) = .obj upper := by
  by_cases object : ∃ members, lower = some (.obj members)
  · rcases object with ⟨members, rfl⟩
    exact Or.inl ⟨members, rfl, rfl⟩
  · have noObject (members : Members) : lower ≠ some (.obj members) :=
      fun same => object ⟨members, same⟩
    exact Or.inr ⟨noObject, overlay_of_no_object noObject _⟩

theorem exists_find?_hasLeaf {members : Members} {key : String}
    {path : List String} :
    (∃ base, members.find? key = some base ∧ base.HasLeaf path leaf) ↔
      (obj members).HasLeaf (key :: path) leaf := by
  cases found : Members.find? members key with
  | some inner => simp [hasLeaf_of_found found]
  | none => simp [not_hasLeaf_of_absent found]

/-- The leaves of an overlay are those of the upper value, and those of the
lower value for which the upper one gives way. -/
theorem hasLeaf_overlay_iff (distinct : upper.DistinctKeys)
    (lower : Option Json) (path : List String) :
    (Json.overlay lower upper).HasLeaf path leaf ↔ upper.HasLeaf path leaf ∨
      (∃ base, lower = some base ∧ base.HasLeaf path leaf) ∧
      upper.GivesWay path := by
  -- Where both values are objects they are overlaid key by key, and anything
  -- else gives way as a whole.
  induction distinct generalizing lower path with
  | @leaf upper isLeaf =>
      rw [isLeaf.overlay]
      simp [isLeaf.not_givesWay]
  | @object upper nodup values induction =>
      rcases overlay_obj_cases lower upper with
        ⟨lower, rfl, overlaid⟩ | ⟨noObject, overlaid⟩
      · simp only [Option.some.injEq, exists_eq_left', overlaid]
        cases path with
        | nil => simp [not_hasLeaf_obj_nil]
        | cons key path =>
            cases found : Members.find? upper key with
            | some value =>
                rw [hasLeaf_of_found (Members.find?_overlay_of_found nodup
                  found), hasLeaf_of_found found,
                  givesWay_of_found found, induction key value found,
                  exists_find?_hasLeaf]
            | none =>
                rw [← exists_find?_hasLeaf,
                  Members.find?_overlay_of_absent found, exists_find?_hasLeaf]
                simp [not_hasLeaf_of_absent found, givesWay_of_absent found]
      · rw [overlaid]
        cases path with
        | nil => simp [not_givesWay_nil]
        | cons key path =>
            have noLeaf : ¬ ∃ base, lower = some base ∧
                base.HasLeaf (key :: path) leaf := by
              rintro ⟨base, rfl, found, -⟩
              have isLeaf : base.IsLeaf :=
                fun members same => noObject members (congrArg some same)
              cases isLeaf.valueAt?_cons.symm.trans found
            simp [noLeaf]

/-! ## Laws -/

theorem overlay_overlay (distinct : upper.DistinctKeys) (lower : Option Json) :
    Json.overlay (some (Json.overlay lower upper)) upper =
      Json.overlay lower upper := by
  induction distinct generalizing lower with
  | leaf isLeaf => rw [isLeaf.overlay, isLeaf.overlay]
  | @object upper nodup values induction =>
      rcases overlay_obj_cases lower upper with
        ⟨lower, rfl, overlaid⟩ | ⟨-, overlaid⟩
      · rw [overlaid]
        apply congrArg obj
        apply Members.overlay_eq_left nodup
        intro key value found
        exact ⟨_, Members.find?_overlay_of_found nodup found,
          induction key value found _⟩
      · rw [overlaid]
        apply congrArg obj
        apply Members.overlay_eq_left nodup
        intro key value found
        have again := induction key value found none
        rw [overlay_none] at again
        exact ⟨value, found, again⟩

theorem overlay_self (distinct : upper.DistinctKeys) :
    Json.overlay (some upper) upper = upper := by
  have again := overlay_overlay distinct none
  rwa [overlay_none] at again

theorem DistinctKeys.nodup {members : Members}
    (distinct : (obj members).DistinctKeys) :
    members.keys.Nodup := by
  cases distinct with
  | leaf isLeaf => exact absurd rfl (isLeaf members)
  | object nodup values => exact nodup

theorem DistinctKeys.nil : (obj []).DistinctKeys := .object List.nodup_nil nofun

theorem DistinctKeys.cons {members : Members} {key : String} {value : Json}
    (fresh : key ∉ members.keys) (head : value.DistinctKeys)
    (rest : (obj members).DistinctKeys) :
    (obj ((key, value) :: members)).DistinctKeys := by
  rcases rest with isLeaf | ⟨nodup, values⟩
  · exact absurd rfl (isLeaf members)
  · refine .object (List.nodup_cons.mpr ⟨fresh, nodup⟩) fun other inner found =>
      ?_
    rw [Members.find?_cons] at found
    split at found
    · exact Option.some.inj found ▸ head
    · exact values other inner found

theorem DistinctKeys.overlay (distinct : upper.DistinctKeys)
    {lower : Option Json}
    (lowerDistinct : ∀ base, lower = some base → base.DistinctKeys) :
    (Json.overlay lower upper).DistinctKeys := by
  induction distinct generalizing lower with
  | leaf isLeaf =>
      rw [isLeaf.overlay]
      exact .leaf isLeaf
  | @object upper nodup values induction =>
      rcases overlay_obj_cases lower upper with
        ⟨lower, rfl, overlaid⟩ | ⟨-, overlaid⟩
      · rw [overlaid]
        rcases lowerDistinct _ rfl with isLeaf | ⟨lowerNodup, lowerValues⟩
        · exact absurd rfl (isLeaf lower)
        · refine .object (Members.nodup_keys_overlay lowerNodup upper)
            fun key value found => ?_
          cases above : Members.find? upper key with
          | none =>
              rw [Members.find?_overlay_of_absent above] at found
              exact lowerValues key value found
          | some inner =>
              rw [Members.find?_overlay_of_found nodup above,
                Option.some.injEq] at found
              exact found ▸ induction key inner above fun base below =>
                lowerValues key base below
      · rw [overlaid]
        exact .object nodup values

end Overlay

end Json

/-- An object laid over another one shows all of its leaves. A leaf of the lower
object is found at its path just if the upper object has nothing there and no
leaf on the way, or has the same leaf there, and no other leaf is found. Laying
an object over itself changes nothing, nor does laying an empty object over it
or it over an empty object; and to lay an object over another twice is to lay it
there once. -/
theorem Members.overlay_leaves {lower upper : Members}
    (lowerDistinct : (Json.obj lower).DistinctKeys)
    (upperDistinct : (Json.obj upper).DistinctKeys) :
    (Json.obj (lower.overlay upper)).DistinctKeys ∧
    (∀ path leaf, (Json.obj upper).HasLeaf path leaf →
      (Json.obj (lower.overlay upper)).HasLeaf path leaf) ∧
    (∀ path leaf, (Json.obj lower).HasLeaf path leaf →
      ((Json.obj (lower.overlay upper)).HasLeaf path leaf ↔
        (Json.obj upper).GivesWay path ∨ (Json.obj upper).HasLeaf path leaf)) ∧
    (∀ path leaf, (Json.obj (lower.overlay upper)).HasLeaf path leaf →
      (Json.obj upper).HasLeaf path leaf ∨ (Json.obj lower).HasLeaf path leaf) ∧
    lower.overlay lower = lower ∧ lower.overlay [] = lower ∧
    Members.overlay [] lower = lower ∧
    (lower.overlay upper).overlay upper = lower.overlay upper := by
  have leaves (path : List String) (leaf : Json) :
      (Json.obj (lower.overlay upper)).HasLeaf path leaf ↔
      (Json.obj upper).HasLeaf path leaf ∨
        (Json.obj lower).HasLeaf path leaf ∧
        (Json.obj upper).GivesWay path := by
    have overlaid : Json.overlay (some (.obj lower)) (.obj upper) =
        .obj (lower.overlay upper) := rfl
    rw [← overlaid, Json.hasLeaf_overlay_iff upperDistinct]
    simp only [Option.some.injEq, exists_eq_left']
  refine ⟨?_, ?_, ?_, ?_, ?_, rfl, ?_, ?_⟩
  · exact upperDistinct.overlay fun base below =>
      Option.some.inj below ▸ lowerDistinct
  · exact fun path leaf above => (leaves path leaf).mpr (Or.inl above)
  · intro path leaf below
    rw [leaves, or_comm, and_iff_right below]
  · intro path leaf found
    exact ((leaves path leaf).mp found).imp_right And.left
  · exact Json.obj.inj (Json.overlay_self lowerDistinct)
  · exact overlay_eq_append lowerDistinct.nodup fun _ _ => List.not_mem_nil
  · exact Json.obj.inj (Json.overlay_overlay upperDistinct (some (.obj lower)))

def Members.twoLimits : Members :=
  [("limits", .obj [("hops", .null), ("visits", .bool true)]),
    ("root", .str "core")]

def Members.deeperLimit : Members :=
  [("limits", .obj [("hops", .obj [("most", .null)])]), ("root", .obj [])]

theorem Members.overlay_leaves_deeperLimit :
    (Json.obj twoLimits).DistinctKeys ∧ (Json.obj deeperLimit).DistinctKeys ∧
    (Json.obj (twoLimits.overlay deeperLimit)).HasLeaf ["limits", "visits"]
      (.bool true) ∧
    (Json.obj (twoLimits.overlay deeperLimit)).HasLeaf
      ["limits", "hops", "most"] .null ∧
    ¬ (Json.obj (twoLimits.overlay deeperLimit)).HasLeaf
      ["limits", "hops"] .null ∧
    ¬ (Json.obj (twoLimits.overlay deeperLimit)).HasLeaf ["root"]
      (.str "core") := by
  have lowerDistinct : (Json.obj twoLimits).DistinctKeys :=
    .cons (by decide)
      (.cons (by decide) (.leaf nofun) (.cons (by decide) (.leaf nofun) .nil))
      (.cons (by decide) (.leaf nofun) .nil)
  have upperDistinct : (Json.obj deeperLimit).DistinctKeys :=
    .cons (by decide)
      (.cons (by decide) (.cons (by decide) (.leaf nofun) .nil) .nil)
      (.cons (by decide) .nil .nil)
  rcases overlay_leaves lowerDistinct upperDistinct with ⟨_, shown, kept, _⟩
  refine ⟨lowerDistinct, upperDistinct, ?_, ?_, ?_, ?_⟩
  · apply (kept ["limits", "visits"] (.bool true) ⟨rfl, nofun⟩).mpr
    left
    exact (Json.givesWay_of_found rfl).mpr (Json.givesWay_of_absent rfl)
  · exact shown ["limits", "hops", "most"] .null ⟨rfl, nofun⟩
  · rw [kept ["limits", "hops"] .null ⟨rfl, nofun⟩]
    exact fun found => found.elim (fun givesWay => nomatch givesWay.1)
      (fun leaf => nomatch leaf.1)
  · rw [kept ["root"] (.str "core") ⟨rfl, nofun⟩]
    exact fun found => found.elim (fun givesWay => nomatch givesWay.1)
      (fun leaf => nomatch leaf.1)

end CallChains
