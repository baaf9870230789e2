import Mathlib.Data.List.Forall2
/-!
Computations that may fail, one after the other or over a list, and lists of
their answers.
-/

namespace CallChains

theorem bind_eq_ok_iff {Error Value Result : Type} {first : Except Error Value}
    {rest : Value → Except Error Result} {result : Result} :
    first >>= rest = .ok result ↔
      ∃ value, first = .ok value ∧ rest value = .ok result := by
  cases first <;> simp [bind, Except.bind]

theorem bind_eq_error_iff {Error Value Result : Type}
    {first : Except Error Value} {rest : Value → Except Error Result}
    {error : Error} :
    first >>= rest = .error error ↔
      first = .error error ∨
      ∃ value, first = .ok value ∧ rest value = .error error := by
  cases first <;> simp [bind, Except.bind]

theorem mapError_eq_ok_iff {Error Other Value : Type}
    {first : Except Error Value} {change : Error → Other} {value : Value} :
    first.mapError change = .ok value ↔ first = .ok value := by
  cases first <;> simp [Except.mapError]

theorem mapError_eq_error_iff {Error Other Value : Type}
    {first : Except Error Value} {change : Error → Other} {error : Other} :
    first.mapError change = .error error ↔
      ∃ cause, first = .error cause ∧ change cause = error := by
  cases first <;> simp [Except.mapError]

theorem map_eq_ok_iff {Error Value Result : Type} {first : Except Error Value}
    {change : Value → Result} {result : Result} :
    first.map change = .ok result ↔
      ∃ value, first = .ok value ∧ change value = result := by
  cases first <;> simp [Except.map]

theorem map_eq_error_iff {Error Value Result : Type}
    {first : Except Error Value} {change : Value → Result} {error : Error} :
    first.map change = .error error ↔ first = .error error := by
  cases first <;> simp [Except.map]

theorem mapError_id {Error Value : Type} (first : Except Error Value) :
    first.mapError id = first := by
  cases first <;> rfl

/-- Computations over a list fail as the first of them that fails. -/
theorem mapM_eq_error_iff {error input output : Type}
    {compute : input → Except error output} {inputs : List input}
    {failure : error} :
    inputs.mapM compute = .error failure ↔
      ∃ earlier failing later, inputs = earlier ++ failing :: later ∧
        (∀ value ∈ earlier, ∃ answer, compute value = .ok answer) ∧
        compute failing = .error failure := by
  constructor
  · intro failed
    induction inputs with
    | nil => cases failed
    | cons value rest induction =>
        rw [List.mapM_cons] at failed
        rcases bind_eq_error_iff.mp failed with
          failed | ⟨answer, answered, failedLater⟩
        · exact ⟨[], value, rest, rfl, nofun, failed⟩
        · rcases bind_eq_error_iff.mp failedLater with
            failedRest | ⟨_, _, impossible⟩
          · rcases induction failedRest with
              ⟨earlier, failing, later, rfl, passed, failed⟩
            exact ⟨value :: earlier, failing, later, rfl,
              List.forall_mem_cons.mpr ⟨⟨answer, answered⟩, passed⟩, failed⟩
          · cases impossible
  · rintro ⟨earlier, failing, later, rfl, passed, failed⟩
    induction earlier with
    | nil =>
        rw [List.nil_append, List.mapM_cons, failed]
        rfl
    | cons value earlier induction =>
        rcases List.forall_mem_cons.mp passed with
          ⟨⟨answer, answered⟩, passedRest⟩
        rw [List.cons_append, List.mapM_cons, answered, induction passedRest]
        rfl

theorem exists_mapM_ok {error input output : Type}
    {compute : input → Except error output} {answers : input → output → Prop}
    {inputs : List input}
    (each : ∀ value ∈ inputs,
      ∃ answer, compute value = .ok answer ∧ answers value answer) :
    ∃ all, inputs.mapM compute = .ok all ∧ List.Forall₂ answers inputs all := by
  induction inputs with
  | nil => exact ⟨[], rfl, .nil⟩
  | cons value rest induction =>
      rcases each value List.mem_cons_self with ⟨answer, computed, isAnswer⟩
      rcases induction fun other member =>
        each other (List.mem_cons_of_mem value member) with
        ⟨all, computedAll, areAnswers⟩
      refine ⟨answer :: all, ?_, .cons isAnswer areAnswers⟩
      rw [List.mapM_cons, computed, computedAll]
      rfl

theorem exists_mapM {error input output : Type}
    {compute : input → Except error output} {inputs : List input}
    (each : ∀ value ∈ inputs, ∃ answer, compute value = .ok answer) :
    ∃ all, inputs.mapM compute = .ok all := by
  cases computed : inputs.mapM compute with
  | ok all => exact ⟨all, rfl⟩
  | error failure =>
      rcases mapM_eq_error_iff.mp computed with
        ⟨earlier, failing, later, rfl, -, failed⟩
      rcases each failing (List.mem_append_right _ List.mem_cons_self) with
        ⟨answer, answered⟩
      cases failed.symm.trans answered

theorem forall₂_of_mapM {error input output : Type}
    {compute : input → Except error output} {inputs : List input}
    {outputs : List output} (computed : inputs.mapM compute = .ok outputs) :
    List.Forall₂ (fun value answer => compute value = .ok answer) inputs
      outputs := by
  induction inputs generalizing outputs with
  | nil => exact Except.ok.inj computed ▸ .nil
  | cons value rest induction =>
      rw [List.mapM_cons] at computed
      rcases bind_eq_ok_iff.mp computed with ⟨answer, answered, later⟩
      rcases bind_eq_ok_iff.mp later with ⟨answers, answeredRest, same⟩
      exact Except.ok.inj same ▸ .cons answered (induction answeredRest)

theorem mapM_of_forall₂ {error input output : Type}
    {compute : input → Except error output} {inputs : List input}
    {outputs : List output}
    (each : List.Forall₂ (fun value answer => compute value = .ok answer) inputs
      outputs) :
    inputs.mapM compute = .ok outputs := by
  induction each with
  | nil => rfl
  | cons answered _ induction =>
      rw [List.mapM_cons, answered, induction]
      rfl

theorem mapM_eq_ok_iff {error input output : Type}
    {compute : input → Except error output} {inputs : List input}
    {outputs : List output} :
    inputs.mapM compute = .ok outputs ↔
      List.Forall₂ (fun value answer => compute value = .ok answer) inputs
        outputs :=
  ⟨forall₂_of_mapM, mapM_of_forall₂⟩

theorem mapM_eq_ok_iff_eq_map {error input output : Type}
    {read : input → Except error output} {write : output → input}
    (reads : ∀ value answer, read value = .ok answer ↔ value = write answer)
    {inputs : List input} {outputs : List output} :
    inputs.mapM read = .ok outputs ↔ inputs = outputs.map write := by
  rw [mapM_eq_ok_iff, ← List.forall₂_eq_eq_eq, List.forall₂_map_right_iff]
  simp only [reads]

theorem eq_nil_iff_of_mapM {error input output : Type}
    {compute : input → Except error output} {inputs : List input}
    {outputs : List output} (computed : inputs.mapM compute = .ok outputs) :
    outputs = [] ↔ inputs = [] := by
  cases forall₂_of_mapM computed <;> simp

theorem mapM_congr {error input output : Type}
    {compute other : input → Except error output} {inputs : List input}
    (same : ∀ value ∈ inputs, compute value = other value) :
    inputs.mapM compute = inputs.mapM other := by
  induction inputs with
  | nil => rfl
  | cons value rest induction =>
      rw [List.mapM_cons, List.mapM_cons, same value List.mem_cons_self,
        induction fun later member =>
          same later (List.mem_cons_of_mem value member)]

theorem exists_of_mem_right {input output : Type}
    {answers : input → output → Prop} {inputs : List input}
    {outputs : List output} (all : List.Forall₂ answers inputs outputs) :
    ∀ answer ∈ outputs, ∃ value ∈ inputs, answers value answer := by
  induction all with
  | nil => exact fun _ member => nomatch member
  | @cons value answer _ _ isAnswer _ induction =>
      intro other member
      rcases List.mem_cons.mp member with rfl | member
      · exact ⟨value, List.mem_cons_self, isAnswer⟩
      · rcases induction other member with ⟨asked, isAsked, isAnswer⟩
        exact ⟨asked, List.mem_cons_of_mem value isAsked, isAnswer⟩

theorem exists_of_mem_left {input output : Type}
    {answers : input → output → Prop} {inputs : List input}
    {outputs : List output} (all : List.Forall₂ answers inputs outputs) :
    ∀ value ∈ inputs, ∃ answer ∈ outputs, answers value answer :=
  exists_of_mem_right all.flip

theorem forall₂_of_inputs {input output other : Type}
    {answers : input → output → Prop} {others : input → other → Prop}
    {related : output → other → Prop}
    (each : ∀ value answer second, answers value answer → others value second →
      related answer second)
    {inputs : List input} {outputs : List output} {seconds : List other}
    (all : List.Forall₂ answers inputs outputs)
    (allToo : List.Forall₂ others inputs seconds) :
    List.Forall₂ related outputs seconds := by
  induction all generalizing seconds with
  | nil =>
      cases allToo
      exact .nil
  | cons isAnswer _ induction =>
      cases allToo with
      | cons isSecond rest =>
          exact .cons (each _ _ _ isAnswer isSecond) (induction rest)

theorem filterMap_eq_filter {input output : Type}
    {taken : output → Option input} {wanted : input → Bool}
    {inputs : List input} {outputs : List output}
    (all : List.Forall₂ (fun value answer => taken answer =
      if wanted value then some value else none) inputs outputs) :
    outputs.filterMap taken = inputs.filter wanted := by
  induction all with
  | nil => rfl
  | @cons value answer _ _ given _ induction =>
      rw [List.filterMap_cons, List.filter_cons, given, ← induction]
      cases wanted value <;> rfl

end CallChains
