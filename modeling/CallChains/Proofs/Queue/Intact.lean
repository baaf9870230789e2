import CallChains.Proofs.Queue.Refusal
import CallChains.Proofs.Queue.Writes
/-!
Queues lose no index and hold none twice, whatever the keys are. This needs
nothing of the order of the heap, which keys that are no numbers can upset: the
places of the indices settle which of them are there.
-/

namespace CallChains

/-! ## Tables after requests -/

namespace QueueTables

variable {capacity : Nat}

def blank (capacity : Nat) : QueueTables capacity where
  heap := #[]
  position := Vector.replicate capacity none
  keys := Vector.replicate capacity (.int 0)

def afterRequest (tables : QueueTables capacity) (request : QueueRequest) :
    QueueTables capacity :=
  match (QueueRun.perform request).run tables with
  | .ok _ next => next
  | .error _ next => next

def afterRequests (tables : QueueTables capacity)
    (requests : List QueueRequest) : QueueTables capacity :=
  requests.foldl afterRequest tables

end QueueTables

namespace IndexedQueue

variable {capacity : Nat} {queue rest : IndexedQueue capacity}
  {index : Fin capacity}

theorem afterRequest_tables (queue : IndexedQueue capacity)
    (request : QueueRequest) :
    queue.tables.afterRequest request =
      (queue.afterRequest request).tables := by
  rw [QueueTables.afterRequest, QueueRun.perform_run, afterRequest]
  cases queue.respond request <;> rfl

theorem afterRequests_tables (queue : IndexedQueue capacity)
    (requests : List QueueRequest) :
    queue.tables.afterRequests requests =
      (queue.afterRequests requests).tables := by
  induction requests generalizing queue with
  | nil => rfl
  | cons request later induction =>
      rw [QueueTables.afterRequests, List.foldl_cons, afterRequest_tables]
      exact induction (queue.afterRequest request)

/-! ## Places -/

theorem position_of_getElem (queue : IndexedQueue capacity) {place : Nat}
    (inside : place < queue.heap.size) :
    queue.position.get queue.heap[place] = some place :=
  (queue.inverse _ place).mpr (Array.getElem?_eq_getElem inside)

theorem position_eq_none_iff :
    queue.position.get index = none ↔ index ∉ queue.heap := by
  rw [get_position_eq_none_iff, ← contains_iff_mem_heap, Bool.not_eq_true]

theorem nodup_heap (queue : IndexedQueue capacity) :
    queue.heap.toList.Nodup := by
  rw [List.Nodup, List.pairwise_iff_getElem]
  intro first second firstInside secondInside before same
  have atFirst :=
    (queue.inverse _ first).mpr (Array.getElem?_eq_getElem firstInside)
  have atSecond :=
    (queue.inverse _ second).mpr (Array.getElem?_eq_getElem secondInside)
  rw [← Array.getElem_toList, same] at atFirst
  exact absurd (Option.some.inj (atFirst.symm.trans atSecond))
    (Nat.ne_of_lt before)

/-! ## Indices that remain -/

/-- An index has been inserted and was not given out afterwards. -/
def Remains (past : List (QueueRequest × Except QueueError QueueAnswer))
    (index : Fin capacity) : Prop :=
  ∃ earlier key later,
    past = earlier ++ (.insert index.val key, .ok .done) :: later ∧
    (.deleteMin, .ok (.index index.val)) ∉ later

theorem not_remains_nil : ¬ Remains [] index := by
  rintro ⟨earlier, key, later, nothing, -⟩
  cases earlier <;> cases nothing

theorem remains_cons {entry : QueueRequest × Except QueueError QueueAnswer}
    {later : List (QueueRequest × Except QueueError QueueAnswer)} :
    Remains (entry :: later) index ↔ Remains later index ∨
      (∃ key, entry = (.insert index.val key, .ok .done)) ∧
      (.deleteMin, .ok (.index index.val)) ∉ later := by
  constructor
  · rintro ⟨earlier, key, after, same, kept⟩
    rcases List.cons_eq_append_iff.mp same with
      ⟨rfl, first⟩ | ⟨earlier, rfl, rfl⟩
    · cases first
      exact Or.inr ⟨⟨key, rfl⟩, kept⟩
    · exact Or.inl ⟨earlier, key, after, rfl, kept⟩
  · rintro (⟨earlier, key, after, rfl, kept⟩ | ⟨⟨key, rfl⟩, kept⟩)
    · exact ⟨entry :: earlier, key, after, rfl, kept⟩
    · exact ⟨[], key, later, rfl, kept⟩

theorem contains_afterRequest (queue : IndexedQueue capacity)
    (request : QueueRequest) (index : Fin capacity) :
    (queue.afterRequest request).contains index = true ↔
      (∃ key, (request, (queue.respond request).map Prod.fst) =
        (.insert index.val key, .ok .done)) ∨
      queue.contains index = true ∧
        (request, (queue.respond request).map Prod.fst) ≠
          (.deleteMin, .ok (.index index.val)) := by
  unfold afterRequest
  cases responded : queue.respond request with
  | error refusal => simp [Except.map]
  | ok result =>
      rcases result with ⟨answer, next⟩
      rcases respond_cases responded with ⟨changed, key, rfl, rfl, inserted⟩ |
        ⟨changed, key, rfl, rfl, decreased⟩ | ⟨least, rfl, rfl, deleted⟩
        | ⟨rfl, unchanged⟩
      · rw [contains_of_update (keyFor?_insert inserted)]
        by_cases same : index = changed
        · simp [Except.map, same]
        · have different : (changed.val : Int) ≠ index.val :=
            fun equal => same (Fin.ext (by omega))
          simp [Except.map, same, different]
      · have queued : queue.contains changed = true := by
          rcases exists_decreaseKey_iff.mp ⟨next, decreased⟩ with
            ⟨current, held, -⟩
          exact (keyFor?_eq_some_iff.mp held).1
        rw [contains_of_update (keyFor?_decreaseKey decreased)]
        by_cases same : index = changed
        · simp [Except.map, same, queued]
        · simp [Except.map, same]
      · rw [contains_of_update (keyFor?_deleteMin deleted)]
        by_cases same : index = least
        · simp [Except.map, same]
        · simp [Except.map, same, Fin.val_inj, Ne.symm same]
      -- A request that leaves every map as it is neither inserts an index nor
      -- gives one out.
      · constructor
        · intro queued
          refine Or.inr ⟨queued, fun same => ?_⟩
          cases same
          have impossible := congrFun (unchanged fun _ => some (.int 0)) index
          simp [KeyMap.after, KeyMap.set] at impossible
        · rintro (⟨key, same⟩ | ⟨queued, -⟩)
          · cases same
            have impossible := congrFun (unchanged KeyMap.empty) index
            simp [KeyMap.after, KeyMap.set, KeyMap.empty] at impossible
          · exact queued

theorem contains_afterRequests (queue : IndexedQueue capacity)
    (requests : List QueueRequest) (index : Fin capacity) :
    (queue.afterRequests requests).contains index = true ↔
      Remains (queue.history requests) index ∨
      queue.contains index = true ∧
      (.deleteMin, .ok (.index index.val)) ∉ queue.history requests := by
  induction requests generalizing queue with
  | nil => simp [afterRequests, history, not_remains_nil]
  | cons request later induction =>
      have unfolded : queue.afterRequests (request :: later) =
          (queue.afterRequest request).afterRequests later := rfl
      rw [unfolded, induction, contains_afterRequest, history, remains_cons,
        List.mem_cons, not_or, ne_comm]
      tauto

/-! ## Taking everything out -/

theorem perm_of_deleteMin {least : Fin capacity}
    (deleted : queue.deleteMin = .ok (least, rest)) :
    (least :: rest.heap.toList).Perm queue.heap.toList := by
  have kept (index : Fin capacity) : index ∈ rest.heap ↔
      index ≠ least ∧ index ∈ queue.heap := by
    rw [← contains_iff_mem_heap, ← contains_iff_mem_heap,
      contains_of_update (keyFor?_deleteMin deleted)]
    simp
  have queued : least ∈ queue.heap :=
    contains_iff_mem_heap.mp (contains_of_deleteMin deleted)
  apply (List.perm_ext_iff_of_nodup _ queue.nodup_heap).mpr
  · intro index
    rw [List.mem_cons, Array.mem_toList_iff, Array.mem_toList_iff, kept]
    by_cases first : index = least
    · simp [first, queued]
    · simp [first]
  · refine List.nodup_cons.mpr ⟨fun again => ?_, rest.nodup_heap⟩
    exact ((kept least).mp (Array.mem_toList_iff.mp again)).1 rfl

theorem drain_perm_of_size_eq_zero (noPlace : queue.heap.size = 0)
    (rounds : Nat) :
    (queue.drain rounds).1.Perm queue.heap.toList ∧
    (queue.drain rounds).2.isEmpty = true := by
  rw [drain_of_size_eq_zero noPlace, isEmpty, Array.size_eq_zero_iff.mp noPlace]
  exact ⟨List.Perm.nil, rfl⟩

theorem drain_perm {rounds : Nat} (enough : queue.size ≤ rounds) :
    (queue.drain rounds).1.Perm queue.heap.toList ∧
    (queue.drain rounds).2.isEmpty = true := by
  induction rounds generalizing queue with
  | zero => exact drain_perm_of_size_eq_zero (Nat.le_zero.mp enough) 0
  | succ rounds induction =>
      rcases Nat.eq_zero_or_pos queue.heap.size with noPlace | nonempty
      · exact drain_perm_of_size_eq_zero noPlace (rounds + 1)
      · rcases deleteMin_eq_ok nonempty with ⟨rest, deleted⟩
        have oneLess := size_of_deleteMin deleted
        have covered : rest.size ≤ rounds := by omega
        rcases induction covered with ⟨others, nothingLeft⟩
        rw [drain, deleted]
        exact ⟨(others.cons _).trans (perm_of_deleteMin deleted), nothingLeft⟩

/-! ## Intact queues -/

/-- A queue that holds what is left of its past, each index once and each where
its place says. A request that is done by writes on its tables does what the
queue does; one that is refused, for one of the reasons there are, leaves the
tables as they were. -/
structure Intact (queue : IndexedQueue capacity)
    (past : List (QueueRequest × Except QueueError QueueAnswer)) : Prop where
  nodup : queue.heap.toList.Nodup
  placed : ∀ (place : Nat) (inside : place < queue.heap.size),
    queue.position.get queue.heap[place] = some place
  unplaced : ∀ index : Fin capacity, queue.position.get index = none ↔
    index ∉ queue.heap
  remaining : ∀ index : Fin capacity, index ∈ queue.heap ↔ Remains past index
  granted : ∀ request answer tables,
    (QueueRun.perform request).run queue.tables = .ok answer tables →
    ∃ next, queue.respond request = .ok (answer, next) ∧ next.tables = tables
  refuses : ∀ request error, queue.respond request = .error error ↔
    queue.Refuses request error
  refused : ∀ request fault tables,
    (QueueRun.perform request).run queue.tables = .error fault tables →
    tables = queue.tables ∧ ∃ error, fault = .refused error ∧
    queue.Refuses request error
  drained : ∀ rounds, queue.size ≤ rounds →
    (queue.drain rounds).1.Perm queue.heap.toList ∧
    (queue.drain rounds).2.isEmpty = true

theorem ending_eq_ok {Value : Type}
    {result : Except QueueError (Value × IndexedQueue capacity)} {value : Value}
    {tables : QueueTables capacity}
    (ended : queue.ending result = .ok value tables) :
    ∃ next, result = .ok (value, next) ∧ next.tables = tables := by
  rcases result with error | ⟨given, next⟩
  · cases ended
  · cases ended
    exact ⟨next, rfl, rfl⟩

theorem ending_eq_error {Value : Type}
    {result : Except QueueError (Value × IndexedQueue capacity)}
    {fault : QueueFault} {tables : QueueTables capacity}
    (ended : queue.ending result = .error fault tables) :
    tables = queue.tables ∧ ∃ error, fault = .refused error ∧
    result = .error error := by
  rcases result with error | ⟨given, next⟩
  · cases ended
    exact ⟨rfl, error, rfl, rfl⟩
  · cases ended

/-- After any requests, whatever their keys are, a queue that was empty at first
is intact. Its tables are those that come of doing the requests by writes,
refused ones as far as they get. -/
theorem afterRequests_intact (capacity : Nat) (requests : List QueueRequest) :
    ((empty capacity).afterRequests requests).Intact
        ((empty capacity).history requests) ∧
      (QueueTables.blank capacity).afterRequests requests =
        ((empty capacity).afterRequests requests).tables := by
  refine ⟨?_, afterRequests_tables (empty capacity) requests⟩
  constructor
  case nodup => exact nodup_heap _
  case placed => exact fun place inside => position_of_getElem _ inside
  case unplaced => exact fun index => position_eq_none_iff
  case remaining =>
    intro index
    have notBefore : ¬ (empty capacity).contains index = true := by
      simp [contains, empty]
    rw [← contains_iff_mem_heap, contains_afterRequests,
      or_iff_left fun queued => notBefore queued.1]
  case granted =>
    intro request answer tables ran
    exact ending_eq_ok ((QueueRun.perform_run _ request).symm.trans ran)
  case refuses => exact fun request error => respond_eq_error_iff
  case refused =>
    intro request fault tables stopped
    rcases ending_eq_error
      ((QueueRun.perform_run _ request).symm.trans stopped) with
      ⟨unchanged, error, isRefusal, responded⟩
    exact ⟨unchanged, error, isRefusal, respond_eq_error_iff.mp responded⟩
  case drained => exact fun rounds enough => drain_perm enough

/-- A key that is no number stays in front of smaller ones, and still every
index is given out once. -/
example :
    (((empty 3).afterRequests [.insert 0 (.float .notANumber),
      .insert 1 (.int 1), .insert 2 (.int 0)]).drain 3).1 = [0, 2, 1] := by
  decide +kernel

end IndexedQueue

end CallChains
