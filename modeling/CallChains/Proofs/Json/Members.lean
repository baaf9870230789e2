import CallChains.Json.Overlay
import Mathlib.Data.List.Basic
import Mathlib.Data.List.Nodup
/-!
What stands under the keys of an object once values are set in it, taken out of
it, or laid over it. The keys of objects are taken to be distinct where this
matters.
-/

namespace CallChains

@[simp]
theorem Json.overlay_none (value : Json) : Json.overlay none value = value := by
  cases value <;> rfl

namespace Members

variable {members changes lower upper : Members} {key : String} {value : Json}

/-! ## Keys and their values -/

theorem mem_of_find? (found : members.find? key = some value) :
    (key, value) ∈ members := by
  induction members with
  | nil => cases found
  | cons head rest induction =>
      rcases head with ⟨other, old⟩
      rw [find?_cons] at found
      split at found
      · rename_i same
        rw [Option.some.injEq] at found
        rw [same, found]
        exact List.mem_cons_self
      · exact List.mem_cons_of_mem _ (induction found)

theorem find?_eq_none_iff : members.find? key = none ↔ key ∉ members.keys := by
  induction members with
  | nil => simp [keys]
  | cons head rest induction =>
      rcases head with ⟨other, old⟩
      rw [find?_cons, keys, List.map_cons, List.mem_cons, not_or, ← keys,
        ← induction]
      by_cases same : other = key
      · simp [same]
      · simp [same, Ne.symm same]

theorem put_of_find? (found : members.find? key = some value) :
    members.put key value = members := by
  induction members with
  | nil => cases found
  | cons head rest induction =>
      rcases head with ⟨other, old⟩
      rw [find?_cons] at found
      by_cases same : other = key
      · rw [if_pos same, Option.some.injEq] at found
        rw [put, if_pos same, same, found]
      · rw [if_neg same] at found
        rw [put, if_neg same, induction found]

theorem put_of_not_mem (fresh : key ∉ members.keys) (value : Json) :
    members.put key value = members ++ [(key, value)] := by
  induction members with
  | nil => rfl
  | cons head rest induction =>
      rcases head with ⟨other, old⟩
      rw [keys, List.map_cons, List.mem_cons, not_or] at fresh
      rw [put, if_neg (Ne.symm fresh.1), induction fresh.2, List.cons_append]

theorem nodup_keys_put (nodup : members.keys.Nodup) (key : String)
    (value : Json) :
    (members.put key value).keys.Nodup := by
  by_cases present : key ∈ members.keys
  · rwa [keys_put_of_mem value present]
  · rw [keys_put_of_not_mem value present]
    exact List.nodup_append.mpr ⟨nodup, List.nodup_singleton key, by
      intro other member last isLast same
      exact present (by
        rw [← List.mem_singleton.mp isLast, ← same]; exact member)⟩

theorem find?_putAll (nodup : changes.keys.Nodup) (members : Members)
    (key : String) :
    (members.putAll changes).find? key =
      (changes.find? key).or (members.find? key) := by
  induction changes generalizing members with
  | nil => rfl
  | cons head rest induction =>
      rcases head with ⟨other, value⟩
      rcases List.nodup_cons.mp nodup with ⟨fresh, restNodup⟩
      have set : members.putAll ((other, value) :: rest) =
          (members.put other value).putAll rest := rfl
      rw [set, induction restNodup, find?_cons]
      by_cases same : other = key
      · subst same
        rw [find?_eq_none_iff.mpr fresh, find?_put_self, if_pos rfl]
        rfl
      · rw [find?_put_other _ _ same, if_neg same]

theorem nodup_keys_putAll (nodup : members.keys.Nodup) (changes : Members) :
    (members.putAll changes).keys.Nodup := by
  induction changes generalizing members with
  | nil => exact nodup
  | cons head rest induction => exact induction (nodup_keys_put nodup _ _)

theorem find?_filter (nodup : members.keys.Nodup) (wanted : Json → Bool)
    (key : String) :
    Members.find? (members.filter fun member => wanted member.2) key =
      (members.find? key).filter wanted := by
  induction members with
  | nil => rfl
  | cons head rest induction =>
      rcases head with ⟨other, value⟩
      rcases List.nodup_cons.mp nodup with ⟨fresh, restNodup⟩
      rw [List.filter_cons, find?_cons]
      by_cases same : other = key
      · subst same
        have elsewhere := induction restNodup
        rw [find?_eq_none_iff.mpr fresh] at elsewhere
        cases isWanted : wanted value with
        | false => simpa [isWanted, Option.filter] using elsewhere
        | true => simp [isWanted, Option.filter, find?_cons]
      · rw [if_neg same, ← induction restNodup]
        split
        · rw [find?_cons, if_neg same]
        · rfl

theorem nodup_keys_filter (nodup : members.keys.Nodup)
    (wanted : String × Json → Bool) :
    Members.keys (members.filter wanted) |>.Nodup :=
  nodup.sublist (List.filter_sublist.map Prod.fst)

/-! ## Overlaying -/

theorem nodup_keys_overlay (nodup : lower.keys.Nodup) (upper : Members) :
    (lower.overlay upper).keys.Nodup := by
  induction upper generalizing lower with
  | nil => exact nodup
  | cons head rest induction => exact induction (nodup_keys_put nodup _ _)

theorem keys_overlay_of_subset (within : upper.keys ⊆ lower.keys) :
    (lower.overlay upper).keys = lower.keys := by
  induction upper generalizing lower with
  | nil => rfl
  | cons head rest induction =>
      rcases head with ⟨key, value⟩
      rcases List.cons_subset.mp within with ⟨present, restWithin⟩
      have sameKeys :=
        keys_put_of_mem (Json.overlay (lower.find? key) value) present
      rw [overlay_cons, induction (sameKeys ▸ restWithin), sameKeys]

theorem find?_overlay_of_absent (absent : upper.find? key = none) :
    (lower.overlay upper).find? key = lower.find? key := by
  induction upper generalizing lower with
  | nil => rfl
  | cons head rest induction =>
      rcases head with ⟨other, value⟩
      rw [find?_cons] at absent
      by_cases same : other = key
      · simp [same] at absent
      · rw [if_neg same] at absent
        rw [overlay_cons, induction absent, find?_put_other _ _ same]

theorem find?_overlay_of_found (nodup : upper.keys.Nodup)
    (found : upper.find? key = some value) :
    (lower.overlay upper).find? key =
      some (Json.overlay (lower.find? key) value) := by
  induction upper generalizing lower with
  | nil => cases found
  | cons head rest induction =>
      rcases head with ⟨other, first⟩
      rcases List.nodup_cons.mp nodup with ⟨fresh, restNodup⟩
      rw [find?_cons] at found
      by_cases same : other = key
      · subst same
        rw [if_pos rfl, Option.some.injEq] at found
        rw [overlay_cons, find?_overlay_of_absent (find?_eq_none_iff.mpr fresh),
          find?_put_self, found]
      · rw [if_neg same] at found
        rw [overlay_cons, induction restNodup found, find?_put_other _ _ same]

theorem overlay_eq_left (nodup : upper.keys.Nodup)
    (held : ∀ key value, upper.find? key = some value → ∃ base,
      lower.find? key = some base ∧ Json.overlay (some base) value = base) :
    lower.overlay upper = lower := by
  induction upper with
  | nil => rfl
  | cons head rest induction =>
      rcases head with ⟨first, value⟩
      rcases List.nodup_cons.mp nodup with ⟨fresh, restNodup⟩
      rcases held first value (by rw [find?_cons, if_pos rfl]) with
        ⟨base, found, kept⟩
      rw [overlay_cons, found, kept, put_of_find? found]
      apply induction restNodup
      intro key inner foundLater
      apply held key inner
      have different : first ≠ key := by
        rintro rfl
        exact fresh (List.mem_map.mpr ⟨_, mem_of_find? foundLater, rfl⟩)
      rw [find?_cons, if_neg different, foundLater]

theorem overlay_eq_append (nodup : upper.keys.Nodup)
    (others : ∀ key ∈ upper.keys, key ∉ lower.keys) :
    lower.overlay upper = lower ++ upper := by
  induction upper generalizing lower with
  | nil => exact (List.append_nil lower).symm
  | cons head rest induction =>
      rcases head with ⟨first, value⟩
      rcases List.nodup_cons.mp nodup with ⟨fresh, restNodup⟩
      have notBelow := others first List.mem_cons_self
      rw [overlay_cons, find?_eq_none_iff.mpr notBelow, Json.overlay_none,
        put_of_not_mem notBelow, induction restNodup, List.append_assoc,
        List.singleton_append]
      intro key member below
      rcases List.mem_append.mp (List.map_append ▸ below : key ∈
        lower.keys ++ keys [(first, value)]) with
        before | isFirst
      · exact others key (List.mem_cons_of_mem first member) before
      · rw [List.mem_singleton.mp isFirst] at member
        exact fresh member

end Members

end CallChains
