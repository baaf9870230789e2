import CallChains.Proofs.Fallible
import CallChains.Proofs.Json.Overlay
import CallChains.Settings
/-!
Settings are read from any object whose settings have values that can be used,
and from no other. What is read depends on the values that count under the five
keys alone, so that replacing settings twice is to replace them once, by the
later value wherever there is one.
-/

namespace CallChains

namespace Settings

/-! ## Single settings -/

theorem readRoot_eq_ok_iff {value : Json} {root : Option String} :
    readRoot value = .ok root ↔ value = .ofText? root := by
  cases root <;> cases value <;> simp [readRoot, Json.ofText?]

theorem readTarget_eq_ok_iff {value : Json} {target : String} :
    readTarget value = .ok target ↔ value = .str target := by
  cases value <;> simp [readTarget]

theorem readTargets_eq_ok_iff {value : Json} {targets : List String} :
    readTargets value = .ok targets ↔ value = .texts targets := by
  cases value with
  | arr items =>
      rw [readTargets, mapM_eq_ok_iff_eq_map fun _ _ => readTarget_eq_ok_iff,
        Json.texts, Json.arr.injEq]
  | null | bool | number | str | obj => simp [readTargets, Json.texts]

theorem positive?_eq_some_iff {value : Json}
    {count : { value : Nat // 0 < value }} :
    positive? value = some count ↔ value = .ofNat count.val := by
  rcases count with ⟨count, positive⟩
  unfold positive?
  split
  · rename_i whole
    by_cases above : 0 < whole
    · simp only [above, dite_true, Option.some.injEq, Subtype.mk.injEq,
        Json.ofNat, Json.number.injEq, Number.int.injEq]
      omega
    · simp only [above, dite_false, Json.ofNat, Json.number.injEq,
        Number.int.injEq]
      constructor
      · nofun
      · omega
  · rename_i notWhole
    constructor
    · nofun
    · exact fun same => absurd same (notWhole _)

theorem readMaxVisits_eq_ok_iff {value : Json}
    {limit : Option { value : Nat // 0 < value }} :
    readMaxVisits value = .ok limit ↔
      value = ((limit.map Subtype.val).map Json.ofNat).getD .null := by
  unfold readMaxVisits
  split
  · cases limit <;> simp [Json.ofNat]
  · rename_i notNull
    cases limit with
    | none =>
        have noCount : value ≠ .null := fun same => notNull same
        cases positive? value <;> simp [noCount]
    | some limit =>
        have counted : positive? value = some limit ↔
            value = .ofNat limit.val := positive?_eq_some_iff
        cases read : positive? value <;> simp_all

theorem readCheckInvariants_eq_ok_iff {value : Json} {check : Bool} :
    readCheckInvariants value = .ok check ↔ value = .bool check := by
  cases value <;> simp [readCheckInvariants]

theorem readWorkers_eq_ok_iff {value : Json}
    {workers : { value : Nat // 0 < value }} :
    readWorkers value = .ok workers ↔ value = .ofNat workers.val := by
  rw [← positive?_eq_some_iff, readWorkers]
  cases positive? value <;> simp

/-! ## All settings -/

theorem pos_of_limit (limit : Option { value : Nat // 0 < value }) :
    ∀ most, limit.map Subtype.val = some most → 0 < most := by
  intro most found
  rcases Option.map_eq_some_iff.mp found with ⟨count, -, rfl⟩
  exact count.property

theorem pos_of_count (count : { value : Nat // 0 < value }) : 0 < count.val :=
  count.property

def ofValues (value : String → Json) : Except SettingsError Settings := do
  let root ← readRoot (value "root")
  let targets ← readTargets (value "targets")
  let maxVisits ← readMaxVisits (value "max_visits")
  let checkInvariants ← readCheckInvariants (value "check_invariants")
  let workers ← readWorkers (value "workers")
  return {
    root, targets, checkInvariants
    maxVisits := maxVisits.map Subtype.val
    workers := workers.val
    maxVisits_pos := pos_of_limit maxVisits
    workers_pos := pos_of_count workers }

@[mk_iff]
structure ToldBy (settings : Settings) (value : String → Json) : Prop where
  root : value "root" = .ofText? settings.root
  targets : value "targets" = .texts settings.targets
  maxVisits : value "max_visits" =
    (settings.maxVisits.map Json.ofNat).getD .null
  checkInvariants : value "check_invariants" = .bool settings.checkInvariants
  workers : value "workers" = .ofNat settings.workers

theorem ofValues_eq_ok_iff {value : String → Json} {settings : Settings} :
    ofValues value = .ok settings ↔ settings.ToldBy value := by
  unfold ofValues
  simp only [bind_eq_ok_iff, readRoot_eq_ok_iff, readTargets_eq_ok_iff,
    readMaxVisits_eq_ok_iff, readCheckInvariants_eq_ok_iff,
    readWorkers_eq_ok_iff]
  constructor
  · rintro ⟨root, hasRoot, targets, hasTargets, limit, hasLimit, check,
      hasCheck, workers, hasWorkers, same⟩
    cases same
    exact ⟨hasRoot, hasTargets, hasLimit, hasCheck, hasWorkers⟩
  · rcases settings with
      ⟨root, targets, limit, check, workers, limitPositive, workersPositive⟩
    rintro ⟨hasRoot, hasTargets, hasLimit, hasCheck, hasWorkers⟩
    have sameLimit : (limit.pmap Subtype.mk limitPositive).map Subtype.val =
        limit := by
      cases limit <;> rfl
    refine ⟨root, hasRoot, targets, hasTargets,
      limit.pmap Subtype.mk limitPositive, ?_, check, hasCheck,
      ⟨workers, workersPositive⟩, hasWorkers, ?_⟩
    · rw [sameLimit]
      exact hasLimit
    · simp only [sameLimit]
      rfl

theorem exists_ofValues_iff {value : String → Json} :
    (∃ settings, ofValues value = .ok settings) ↔
    (∃ root, value "root" = .ofText? root) ∧
      (∃ targets, value "targets" = .texts targets) ∧
      (∃ limit : Option { value : Nat // 0 < value },
        value "max_visits" =
          ((limit.map Subtype.val).map Json.ofNat).getD .null) ∧
      (∃ check, value "check_invariants" = .bool check) ∧
      ∃ workers : { value : Nat // 0 < value },
        value "workers" = .ofNat workers.val := by
  simp only [ofValues, bind_eq_ok_iff, readRoot_eq_ok_iff,
    readTargets_eq_ok_iff, readMaxVisits_eq_ok_iff,
    readCheckInvariants_eq_ok_iff, readWorkers_eq_ok_iff]
  constructor
  · rintro ⟨_, root, hasRoot, targets, hasTargets, limit, hasLimit, check,
      hasCheck, workers, hasWorkers, _⟩
    exact ⟨⟨root, hasRoot⟩, ⟨targets, hasTargets⟩, ⟨limit, hasLimit⟩,
      ⟨check, hasCheck⟩, ⟨workers, hasWorkers⟩⟩
  · rintro ⟨⟨root, hasRoot⟩, ⟨targets, hasTargets⟩, ⟨limit, hasLimit⟩,
      ⟨check, hasCheck⟩, ⟨workers, hasWorkers⟩⟩
    exact ⟨_, root, hasRoot, targets, hasTargets, limit, hasLimit, check,
      hasCheck, workers, hasWorkers, rfl⟩

def valueOf (settings : Settings) (key : String) : Json :=
  (settings.toMembers.find? key).getD .null

theorem keys_toMembers (settings : Settings) :
    settings.toMembers.keys = defaultMembers.keys := rfl

theorem nodup_keys_toMembers (settings : Settings) :
    settings.toMembers.keys.Nodup := by
  rw [keys_toMembers]
  decide

theorem find?_toMembers {key : String} (settings : Settings)
    (isSetting : key ∈ defaultMembers.keys) :
    settings.toMembers.find? key = some (settings.valueOf key) := by
  cases found : settings.toMembers.find? key with
  | none =>
      rw [← keys_toMembers settings] at isSetting
      exact absurd isSetting (Members.find?_eq_none_iff.mp found)
  | some value => rw [valueOf, found, Option.getD_some]

theorem forall_mem_keys_iff {holds : String → Prop} :
    (∀ key ∈ defaultMembers.keys, holds key) ↔
    holds "root" ∧ holds "targets" ∧ holds "max_visits" ∧
    holds "check_invariants" ∧ holds "workers" := by
  have keys : defaultMembers.keys =
      ["root", "targets", "max_visits", "check_invariants", "workers"] := rfl
  simp [keys]

theorem toldBy_iff_valueOf {value : String → Json} {settings : Settings} :
    settings.ToldBy value ↔
      ∀ key ∈ defaultMembers.keys, value key = settings.valueOf key := by
  rw [toldBy_iff, forall_mem_keys_iff]
  rfl

theorem ofValues_congr {value other : String → Json}
    (same : ∀ key ∈ defaultMembers.keys, value key = other key) :
    ofValues value = ofValues other := by
  rcases forall_mem_keys_iff.mp same with
    ⟨root, targets, maxVisits, check, workers⟩
  rw [ofValues, root, targets, maxVisits, check, workers, ← ofValues]

/-! ## Given settings -/

section Given

variable {given : Members} {key : String} {value : Json}

/-- The value that counts for a key: the given one, or else the default. -/
def counting (given : Members) (key : String) : Json :=
  (given.find? key).getD (standard.valueOf key)

theorem default_isLeaf (found : defaultMembers.find? key = some value) :
    value.IsLeaf := by
  rintro members rfl
  have member := Members.mem_of_find? found
  simp [defaultMembers, standard, toMembers, Json.ofText?, Json.texts,
    Json.ofNat] at member

theorem find?_overlay_defaults (nodup : given.keys.Nodup) (key : String) :
    ((defaultMembers.overlay given).find? key).getD .null =
      counting given key := by
  cases found : given.find? key with
  | none =>
      rw [Members.find?_overlay_of_absent found, counting, found]
      rfl
  | some value =>
      have noObject (members : Members) : defaultMembers.find? key ≠
          some (.obj members) :=
        fun object => default_isLeaf object members rfl
      rw [Members.find?_overlay_of_found nodup found,
        Json.overlay_of_no_object noObject, counting, found]
      rfl

theorem ofMembers_eq (nodup : given.keys.Nodup) :
    ofMembers given = (ofValues (counting given)).map fun settings =>
      { settings, warnings := warningsFor (defaultMembers.overlay given) } := by
  unfold ofMembers ofValues
  simp only [find?_overlay_defaults nodup]
  rcases readRoot (counting given "root") with _ | root
  · rfl
  rcases readTargets (counting given "targets") with _ | targets
  · rfl
  rcases readMaxVisits (counting given "max_visits") with _ | maxVisits
  · rfl
  rcases readCheckInvariants (counting given "check_invariants") with _ | check
  · rfl
  rcases readWorkers (counting given "workers") with _ | workers
  · rfl
  · rfl

theorem map_settings_ofMembers (nodup : given.keys.Nodup) :
    (ofMembers given).map SettingsReading.settings =
      ofValues (counting given) := by
  rw [ofMembers_eq nodup]
  cases ofValues (counting given) <;> rfl

@[mk_iff]
structure Admissible (given : Members) : Prop where
  root : ∀ value, given.find? "root" = some value →
    value = .null ∨ ∃ root, value = .str root
  targets : ∀ value, given.find? "targets" = some value →
    ∃ targets, value = .texts targets
  maxVisits : ∀ value, given.find? "max_visits" = some value →
    value = .null ∨ ∃ limit, 0 < limit ∧ value = .ofNat limit
  checkInvariants : ∀ value, given.find? "check_invariants" = some value →
    ∃ check, value = .bool check
  workers : ∀ value, given.find? "workers" = some value →
    ∃ count, 0 < count ∧ value = .ofNat count

theorem exists_counting_iff {Value : Type} {kind : Value → Json}
    (default : Value) (isDefault : standard.valueOf key = kind default) :
    (∃ setting, counting given key = kind setting) ↔
      ∀ value, given.find? key = some value →
        ∃ setting, value = kind setting := by
  cases found : given.find? key with
  | none =>
      simp only [counting, found, Option.getD_none]
      exact ⟨nofun, fun _ => ⟨default, isDefault⟩⟩
  | some value => simp [counting, found]

theorem exists_ofMembers_iff (nodup : given.keys.Nodup) :
    (∃ reading, ofMembers given = .ok reading) ↔ Admissible given := by
  have readable : (∃ reading, ofMembers given = .ok reading) ↔
      ∃ settings, ofValues (counting given) = .ok settings := by
    simp [ofMembers_eq nodup, map_eq_ok_iff]
  rw [readable, exists_ofValues_iff, exists_counting_iff none rfl,
    exists_counting_iff [] rfl, exists_counting_iff none rfl,
    exists_counting_iff true rfl, exists_counting_iff
      (⟨1, Nat.one_pos⟩ : { value : Nat // 0 < value }) rfl, admissible_iff]
  simp only [Option.exists, Subtype.exists, Json.ofText?, Option.map_none,
    Option.map_some, Option.getD_none, Option.getD_some, exists_prop]

end Given

/-! ## Overrides -/

section Overrides

variable {overrides earlier later : Members} {settings : Settings}
  {key : String}

/-- The value that replaces a setting. A null replaces nothing. -/
def replacing (overrides : Members) (key : String) : Option Json :=
  (overrides.find? key).filter (· ≠ .null)

theorem map_settings_withOverrides (nodup : overrides.keys.Nodup)
    (settings : Settings) :
    (settings.withOverrides overrides).map SettingsReading.settings =
      ofValues fun key =>
        (replacing overrides key).getD (settings.valueOf key) := by
  have distinct :
      (settings.toMembers.putAll (overrides.filter (·.2 ≠ .null))).keys.Nodup :=
    Members.nodup_keys_putAll settings.nodup_keys_toMembers _
  rw [withOverrides, map_settings_ofMembers distinct]
  apply ofValues_congr
  intro key isSetting
  have replaced := Members.find?_filter nodup (· ≠ .null) key
  rw [counting, Members.find?_putAll (Members.nodup_keys_filter nodup _),
    replaced, find?_toMembers settings isSetting, ← replacing, Option.or_some,
    Option.getD_some]

theorem replacing_putAll (laterNodup : later.keys.Nodup) (earlier : Members)
    (key : String) :
    replacing (earlier.putAll (later.filter (·.2 ≠ .null))) key =
      (replacing later key).or (replacing earlier key) := by
  have replaced := Members.find?_filter laterNodup (· ≠ .null) key
  rw [replacing, Members.find?_putAll (Members.nodup_keys_filter laterNodup _),
    replaced, replacing, replacing]
  rcases later.find? key with _ | value
  · rfl
  · by_cases isNull : value = .null <;> simp [Option.filter, isNull]

theorem withOverrides_of_nulls (settings : Settings)
    (nulls : ∀ override ∈ overrides, override.2 = .null) :
    settings.withOverrides overrides = .ok { settings, warnings := [] } := by
  have nothing : overrides.filter (·.2 ≠ .null) = [] := by
    simpa using nulls
  have told : settings.ToldBy (counting settings.toMembers) := by
    rw [toldBy_iff_valueOf]
    intro key isSetting
    rw [counting, find?_toMembers settings isSetting, Option.getD_some]
  have sameKeys : (defaultMembers.overlay settings.toMembers).keys =
      defaultMembers.keys :=
    Members.keys_overlay_of_subset (List.Subset.refl _)
  have noWarning : warningsFor (defaultMembers.overlay settings.toMembers) =
      [] := by
    rw [warningsFor, unknownKeys, sameKeys]
    rfl
  rw [withOverrides, nothing, Members.putAll, List.foldl_nil,
    ofMembers_eq settings.nodup_keys_toMembers, ofValues_eq_ok_iff.mpr told,
    Except.map, noWarning]

/-- Settings replaced once more are settings replaced by the values that win. -/
theorem withOverrides_withOverrides (earlierNodup : earlier.keys.Nodup)
    (laterNodup : later.keys.Nodup) {first : SettingsReading}
    (replaced : settings.withOverrides earlier = .ok first) :
    (first.settings.withOverrides later).map SettingsReading.settings =
      (settings.withOverrides (earlier.putAll (later.filter (·.2 ≠ .null)))).map
        SettingsReading.settings := by
  rw [map_settings_withOverrides laterNodup,
    map_settings_withOverrides (Members.nodup_keys_putAll earlierNodup _)]
  have told : first.settings.ToldBy fun key =>
      (replacing earlier key).getD (settings.valueOf key) := by
    rw [← ofValues_eq_ok_iff, ← map_settings_withOverrides earlierNodup,
      replaced, Except.map]
  -- For each setting the later value counts, else the earlier one, else that of
  -- the settings.
  apply ofValues_congr
  intro key isSetting
  rw [replacing_putAll laterNodup, Option.getD_or,
    toldBy_iff_valueOf.mp told key isSetting]

/-- Settings can be read from an object just if each setting in it has a value
that can be used, whatever else is in it. Replacing no setting, or replacing
settings by nulls, gives the same settings again. Replacing settings twice gives
the settings, or the error, of replacing them once by the earlier values with
the later ones that are no nulls laid over them. -/
theorem overrides_compose :
    (∀ given : Members, given.keys.Nodup →
      ((∃ reading, ofMembers given = .ok reading) ↔ Admissible given)) ∧
    ∀ settings : Settings,
      (∀ overrides : Members, (∀ override ∈ overrides, override.2 = .null) →
        settings.withOverrides overrides = .ok { settings, warnings := [] }) ∧
      ∀ earlier later : Members, earlier.keys.Nodup → later.keys.Nodup →
        ∀ first, settings.withOverrides earlier = .ok first →
          (first.settings.withOverrides later).map SettingsReading.settings =
            (settings.withOverrides
              (earlier.putAll (later.filter (·.2 ≠ .null)))).map
              SettingsReading.settings := by
  refine ⟨fun given nodup => exists_ofMembers_iff nodup,
    fun settings => ⟨?_, ?_⟩⟩
  · exact fun overrides nulls => withOverrides_of_nulls settings nulls
  · exact fun earlier later earlierNodup laterNodup first replaced =>
      withOverrides_withOverrides earlierNodup laterNodup replaced

theorem overrides_compose_null_and_refusal :
    (∃ reading, ofMembers [("depth", .null), ("max_visits", .null)] =
      .ok reading) ∧
    ∃ first, standard.withOverrides
        [("max_visits", .ofNat 3), ("root", .null)] = .ok first ∧
      (first.settings.withOverrides [("max_visits", .null)]).map
        (fun reading => reading.settings.maxVisits) =
        .ok (some 3) ∧
      (standard.withOverrides
        (Members.putAll [("max_visits", .ofNat 3), ("root", .null)]
          (List.filter (·.2 ≠ .null)
            [("workers", .ofNat 0), ("max_visits", .bool true)]))).map
            SettingsReading.settings = .error .maxVisits := by
  rcases overrides_compose with ⟨readable, composed⟩
  rcases composed standard with ⟨_, twice⟩
  refine ⟨(readable _ (by decide)).mpr ?_, _, rfl, rfl, ?_⟩
  · constructor <;> simp [Members.find?_cons]
  · rw [← twice [("max_visits", .ofNat 3), ("root", .null)]
      [("workers", .ofNat 0), ("max_visits", .bool true)] (by decide)
      (by decide) _ rfl]
    rfl

end Overrides

end Settings

end CallChains
