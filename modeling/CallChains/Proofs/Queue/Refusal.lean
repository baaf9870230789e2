import CallChains.Proofs.Queue.KeyMap
/-!
Which requests a queue refuses, and with which error. The index of a request is
looked at first, then whether it is queued, and only then its key; nothing else
is ever refused.
-/

namespace CallChains

def QueueRequest.index? : QueueRequest → Option Int
  | .insert index _ => some index
  | .decreaseKey index _ => some index
  | .keyOf index => some index
  | .contains index => some index
  | .minIndex => none
  | .deleteMin => none

namespace IndexedQueue

variable {capacity : Nat} {queue : IndexedQueue capacity} {index : Fin capacity}
  {key : Number} {error : QueueError}

/-- What a queue must be like to refuse a request with an error. -/
inductive Refuses (queue : IndexedQueue capacity) :
    QueueRequest → QueueError → Prop where
  | outOfRange (request : QueueRequest) (index : Int)
      (asked : request.index? = some index)
      (outside : ¬ (0 ≤ index ∧ index < capacity)) :
      Refuses queue request (.outOfRange index capacity)
  | duplicate (index : Fin capacity) (key : Number)
      (queued : queue.contains index = true) :
      Refuses queue (.insert index.val key) (.duplicate index.val)
  | keyOfAbsent (index : Fin capacity) (absent : queue.contains index = false) :
      Refuses queue (.keyOf index.val) (.notPresent index.val)
  | decreaseAbsent (index : Fin capacity) (key : Number)
      (absent : queue.contains index = false) :
      Refuses queue (.decreaseKey index.val key) (.notPresent index.val)
  | notDecreasing (index : Fin capacity) (key current : Number)
      (held : queue.keyFor? index = some current)
      (notLess : key.atLeast current = true) :
      Refuses queue (.decreaseKey index.val key)
        (.notDecreasing index.val key current)
  | noMinimum (nothing : queue.heap.size = 0) : Refuses queue .minIndex .empty
  | nothingToDelete (nothing : queue.heap.size = 0) :
      Refuses queue .deleteMin .empty

/-! ## Operations -/

theorem validIndex_eq_error_iff {index : Int} :
    validIndex capacity index = .error error ↔
    ¬ (0 ≤ index ∧ index < capacity) ∧ error = .outOfRange index capacity := by
  unfold validIndex
  split
  · rename_i inside
    simp [inside]
  · rename_i outside
    rw [Except.error.injEq, and_iff_right outside, eq_comm]

theorem insert_eq_error_iff : queue.insert index key = .error error ↔
    queue.contains index = true ∧ error = .duplicate index.val := by
  unfold insert
  split
  · rename_i absent
    simp [absent]
  · rename_i queued
    rw [Except.error.injEq, and_iff_right (Bool.eq_true_of_not_eq_false queued),
      eq_comm]

theorem keyOf_eq_error_iff : queue.keyOf index = .error error ↔
    queue.contains index = false ∧ error = .notPresent index.val := by
  unfold keyOf
  split
  · rename_i queued
    simp [queued]
  · rename_i absent
    rw [Except.error.injEq, and_iff_right (Bool.of_not_eq_true absent), eq_comm]

theorem decreaseKey_eq_error_iff : queue.decreaseKey index key = .error error ↔
    queue.contains index = false ∧ error = .notPresent index.val ∨
    ∃ current, queue.keyFor? index = some current ∧ key.atLeast current = true ∧
      error = .notDecreasing index.val key current := by
  cases found : queue.position.get index with
  | none =>
      have absent := get_position_eq_none_iff.mp found
      have unheld : queue.keyFor? index = none := by
        rw [← Option.not_isSome_iff_eq_none, isSome_keyFor?, absent]
        exact Bool.false_ne_true
      rw [decreaseKey_of_absent found, Except.error.injEq]
      simp [absent, unheld, eq_comm (a := error)]
  | some place =>
      have queued : queue.contains index = true :=
        Option.isSome_iff_exists.mpr ⟨place, found⟩
      have held : queue.keyFor? index = some (queue.keys.get index) :=
        keyFor?_eq_some_iff.mpr ⟨queued, rfl⟩
      by_cases notLess : key.atLeast (queue.keys.get index) = true
      · rw [decreaseKey_of_atLeast found notLess, Except.error.injEq]
        simp [queued, held, notLess, eq_comm (a := error)]
      · rcases decreaseKey_of_not_atLeast found notLess with ⟨inside, decreased⟩
        simp [decreased, queued, held, notLess]

theorem minIndex_eq_error_iff :
    queue.minIndex = .error error ↔ queue.heap.size = 0 ∧ error = .empty := by
  rcases Nat.eq_zero_or_pos queue.heap.size with nothing | nonempty
  · rw [minIndex, Array.getElem?_eq_none (Nat.le_of_eq nothing),
      Except.error.injEq, and_iff_right nothing, eq_comm]
  · simp [minIndex, Array.getElem?_eq_getElem nonempty, Nat.ne_of_gt nonempty]

theorem deleteMin_eq_error_iff :
    queue.deleteMin = .error error ↔ queue.heap.size = 0 ∧ error = .empty := by
  rcases Nat.eq_zero_or_pos queue.heap.size with nothing | nonempty
  · rw [deleteMin_of_size_eq_zero nothing, Except.error.injEq,
      and_iff_right nothing, eq_comm]
  · rcases deleteMin_eq_ok nonempty with ⟨rest, deleted⟩
    simp [deleted, Nat.ne_of_gt nonempty]

/-! ## Requests -/

theorem bind_validIndex_eq_error_iff {Result : Type} {index : Int}
    {rest : Fin capacity → Except QueueError Result} :
    validIndex capacity index >>= rest = .error error ↔
      ¬ (0 ≤ index ∧ index < capacity) ∧ error = .outOfRange index capacity ∨
      ∃ valid : Fin capacity, (valid.val : Int) = index ∧
        rest valid = .error error := by
  rw [bind_eq_error_iff, validIndex_eq_error_iff]
  simp only [validIndex_eq_ok_iff]

theorem bind_return_eq_error_iff {Value Result : Type}
    {first : Except QueueError Value} {change : Value → Result} :
    (do return change (← first)) = .error error ↔ first = .error error := by
  cases first <;> simp [bind, Except.bind, pure, Except.pure]

/-- A request is refused with an error just if the queue is such that it has to
be. -/
theorem respond_eq_error_iff {request : QueueRequest} :
    queue.respond request = .error error ↔ queue.Refuses request error := by
  constructor
  · intro refused
    cases request with
    | insert index key =>
        rcases bind_validIndex_eq_error_iff.mp refused with
          ⟨outside, rfl⟩ | ⟨valid, rfl, failed⟩
        · exact .outOfRange _ index rfl outside
        · rcases insert_eq_error_iff.mp
            (bind_return_eq_error_iff.mp failed) with ⟨queued, rfl⟩
          exact .duplicate valid key queued
    | decreaseKey index key =>
        rcases bind_validIndex_eq_error_iff.mp refused with
          ⟨outside, rfl⟩ | ⟨valid, rfl, failed⟩
        · exact .outOfRange _ index rfl outside
        · rcases decreaseKey_eq_error_iff.mp
            (bind_return_eq_error_iff.mp failed) with
            ⟨absent, rfl⟩ | ⟨current, held, notLess, rfl⟩
          · exact .decreaseAbsent valid key absent
          · exact .notDecreasing valid key current held notLess
    | keyOf index =>
        rcases bind_validIndex_eq_error_iff.mp refused with
          ⟨outside, rfl⟩ | ⟨valid, rfl, failed⟩
        · exact .outOfRange _ index rfl outside
        · rcases keyOf_eq_error_iff.mp (bind_return_eq_error_iff.mp failed) with
            ⟨absent, rfl⟩
          exact .keyOfAbsent valid absent
    | contains index =>
        rcases bind_validIndex_eq_error_iff.mp refused with
          ⟨outside, rfl⟩ | ⟨valid, rfl, failed⟩
        · exact .outOfRange _ index rfl outside
        · cases failed
    | minIndex =>
        rcases minIndex_eq_error_iff.mp
          (bind_return_eq_error_iff.mp refused) with ⟨nothing, rfl⟩
        exact .noMinimum nothing
    | deleteMin =>
        rcases deleteMin_eq_error_iff.mp
          (bind_return_eq_error_iff.mp refused) with ⟨nothing, rfl⟩
        exact .nothingToDelete nothing
  · intro refuses
    cases refuses with
    | outOfRange request index asked outside =>
        cases request <;> cases asked <;>
          exact bind_validIndex_eq_error_iff.mpr (Or.inl ⟨outside, rfl⟩)
    | duplicate index key queued =>
        have failed : queue.insert index key = .error (.duplicate index.val) :=
          insert_eq_error_iff.mpr ⟨queued, rfl⟩
        exact bind_validIndex_eq_error_iff.mpr
          (Or.inr ⟨index, rfl, bind_return_eq_error_iff.mpr failed⟩)
    | keyOfAbsent index absent =>
        have failed : queue.keyOf index = .error (.notPresent index.val) :=
          keyOf_eq_error_iff.mpr ⟨absent, rfl⟩
        exact bind_validIndex_eq_error_iff.mpr
          (Or.inr ⟨index, rfl, bind_return_eq_error_iff.mpr failed⟩)
    | decreaseAbsent index key absent =>
        have failed : queue.decreaseKey index key =
            .error (.notPresent index.val) :=
          decreaseKey_eq_error_iff.mpr (Or.inl ⟨absent, rfl⟩)
        exact bind_validIndex_eq_error_iff.mpr
          (Or.inr ⟨index, rfl, bind_return_eq_error_iff.mpr failed⟩)
    | notDecreasing index key current held notLess =>
        have failed : queue.decreaseKey index key =
            .error (.notDecreasing index.val key current) :=
          decreaseKey_eq_error_iff.mpr (Or.inr ⟨current, held, notLess, rfl⟩)
        exact bind_validIndex_eq_error_iff.mpr
          (Or.inr ⟨index, rfl, bind_return_eq_error_iff.mpr failed⟩)
    | noMinimum nothing =>
        exact bind_return_eq_error_iff.mpr
          (minIndex_eq_error_iff.mpr ⟨nothing, rfl⟩)
    | nothingToDelete nothing =>
        exact bind_return_eq_error_iff.mpr
          (deleteMin_eq_error_iff.mpr ⟨nothing, rfl⟩)

end IndexedQueue

end CallChains
