import CallChains.Proofs.Fallible
import CallChains.Proofs.Queue.LeastFirst
import CallChains.Queue.Request
/-!
Queues as maps from indices to keys. Replaying the requests that a queue has
granted gives a map, and the queue keeps to it: it holds what the map holds,
gives out an index whose key is at most every other, and so gives out all its
indices in the order of their keys.
-/

namespace CallChains

/-! ## Maps -/

abbrev KeyMap (capacity : Nat) := Fin capacity → Option Number

namespace KeyMap

variable {capacity : Nat}

def empty : KeyMap capacity := fun _ => none

def set (held : KeyMap capacity) (index : Int) (key : Option Number) :
    KeyMap capacity :=
  fun other => if (other.val : Int) = index then key else held other

def after (held : KeyMap capacity) :
    QueueRequest → QueueAnswer → KeyMap capacity
  | .insert index key, .done => held.set index (some key)
  | .decreaseKey index key, .done => held.set index (some key)
  | .deleteMin, .index least => held.set least none
  | _, _ => held

/-- The map after requests with their answers. A request that has been refused
changes nothing. -/
def replay (held : KeyMap capacity) :
    List (QueueRequest × Except QueueError QueueAnswer) → KeyMap capacity
  | [] => held
  | (request, .ok answer) :: later => replay (held.after request answer) later
  | (_, .error _) :: later => replay held later

def IsLeast (held : KeyMap capacity) (least : Fin capacity) : Prop :=
  ∃ key, held least = some key ∧
    ∀ index other, held index = some other → other.atLeast key = true

structure InKeyOrder (held : KeyMap capacity)
    (order : List (Fin capacity)) : Prop where
  nodup : order.Nodup
  mem_iff : ∀ index, index ∈ order ↔ (held index).isSome = true
  ascending : order.Pairwise fun earlier later => ∀ key other,
    held earlier = some key → held later = some other → other.atLeast key = true

theorem replay_cons (held : KeyMap capacity)
    (entry : QueueRequest × Except QueueError QueueAnswer)
    (later : List (QueueRequest × Except QueueError QueueAnswer)) :
    held.replay (entry :: later) = (held.replay [entry]).replay later := by
  rcases entry with ⟨request, refusal | answer⟩ <;> rfl

theorem set_val (held : KeyMap capacity) (index : Fin capacity)
    (key : Option Number) :
    held.set index.val key = Function.update held index key := by
  funext other
  rw [set, Function.update_apply]
  simp only [Int.natCast_inj, Fin.val_inj]

theorem inKeyOrder_nil : (empty : KeyMap capacity).InKeyOrder [] where
  nodup := List.nodup_nil
  mem_iff index := by simp [empty]
  ascending := List.Pairwise.nil

theorem InKeyOrder.cons {held : KeyMap capacity} {least : Fin capacity}
    {order : List (Fin capacity)} (isLeast : held.IsLeast least)
    (others : KeyMap.InKeyOrder (Function.update held least none) order) :
    held.InKeyOrder (least :: order) := by
  rcases isLeast with ⟨leastKey, isHeld, atMost⟩
  have apart (index : Fin capacity) (member : index ∈ order) :
      index ≠ least := by
    intro same
    have stillHeld := (others.mem_iff index).mp member
    rw [same, Function.update_self] at stillHeld
    cases stillHeld
  constructor
  · exact List.nodup_cons.mpr
      ⟨fun member => apart least member rfl, others.nodup⟩
  · intro index
    rw [List.mem_cons, others.mem_iff]
    by_cases first : index = least
    · simp [first, isHeld]
    · simp [first]
  · refine List.pairwise_cons.mpr ⟨?_, ?_⟩
    · intro later _ key other atLeast atLater
      cases isHeld.symm.trans atLeast
      exact atMost later other atLater
    · apply others.ascending.imp_of_mem
      intro earlier later earlierMember laterMember ascending key other
        atEarlier atLater
      apply ascending key other
      · rw [Function.update_of_ne (apart earlier earlierMember), atEarlier]
      · rw [Function.update_of_ne (apart later laterMember), atLater]

end KeyMap

def QueueRequest.key? : QueueRequest → Option Number
  | .insert _ key => some key
  | .decreaseKey _ key => some key
  | _ => none

namespace IndexedQueue

variable {capacity : Nat}

def history (queue : IndexedQueue capacity) :
    List QueueRequest → List (QueueRequest × Except QueueError QueueAnswer)
  | [] => []
  | request :: later =>
      (request, (queue.respond request).map Prod.fst) ::
        (queue.afterRequest request).history later

/-- The queue does what a map would do from which the least key can be taken
out. -/
structure Refines (queue : IndexedQueue capacity)
    (held : KeyMap capacity) : Prop where
  contains : ∀ index, queue.contains index = (held index).isSome
  keyOf : ∀ index key, queue.keyOf index = .ok key ↔ held index = some key
  insert : ∀ index key, (∃ larger, queue.insert index key = .ok larger) ↔
    held index = none
  decreaseKey : ∀ index key,
    (∃ lowered, queue.decreaseKey index key = .ok lowered) ↔
    ∃ current, held index = some current ∧ key.atLeast current = false
  minIndex : (held = KeyMap.empty ∧ queue.minIndex = .error .empty) ∨
    ∃ least, queue.minIndex = .ok least ∧ held.IsLeast least
  deleteMin : (held = KeyMap.empty ∧ queue.deleteMin = .error .empty) ∨
    ∃ least rest, queue.deleteMin = .ok (least, rest) ∧ held.IsLeast least ∧
      rest.keyFor? = Function.update held least none
  drain : held.InKeyOrder (queue.drain queue.size).1
  drained : (queue.drain queue.size).2.isEmpty = true

/-! ## Single requests -/

theorem validIndex_eq_ok_iff {index : Int} {valid : Fin capacity} :
    validIndex capacity index = .ok valid ↔ (valid.val : Int) = index := by
  unfold validIndex
  split
  · rename_i inside
    rw [Except.ok.injEq, Fin.ext_iff]
    change index.toNat = valid.val ↔ _
    omega
  · rename_i outside
    have bound := valid.isLt
    simp only [reduceCtorEq, false_iff]
    omega

theorem respond_cases {queue next : IndexedQueue capacity}
    {request : QueueRequest} {answer : QueueAnswer}
    (granted : queue.respond request = .ok (answer, next)) :
    (∃ (index : Fin capacity) (key : Number),
      request = .insert index.val key ∧ answer = .done ∧
      queue.insert index key = .ok next) ∨
    (∃ (index : Fin capacity) (key : Number),
      request = .decreaseKey index.val key ∧ answer = .done ∧
      queue.decreaseKey index key = .ok next) ∨
    (∃ least, request = .deleteMin ∧ answer = .index least.val ∧
      queue.deleteMin = .ok (least, next)) ∨
    (next = queue ∧ ∀ held : KeyMap capacity,
      held.after request answer = held) := by
  cases request with
  | insert index key =>
      rcases bind_eq_ok_iff.mp granted with ⟨valid, isValid, rest⟩
      rcases bind_eq_ok_iff.mp rest with ⟨larger, inserted, same⟩
      rcases validIndex_eq_ok_iff.mp isValid with rfl
      cases same
      exact Or.inl ⟨valid, key, rfl, rfl, inserted⟩
  | decreaseKey index key =>
      rcases bind_eq_ok_iff.mp granted with ⟨valid, isValid, rest⟩
      rcases bind_eq_ok_iff.mp rest with ⟨lowered, decreased, same⟩
      rcases validIndex_eq_ok_iff.mp isValid with rfl
      cases same
      exact Or.inr (Or.inl ⟨valid, key, rfl, rfl, decreased⟩)
  | deleteMin =>
      rcases bind_eq_ok_iff.mp granted with ⟨⟨least, rest⟩, deleted, same⟩
      cases same
      exact Or.inr (Or.inr (Or.inl ⟨least, rfl, rfl, deleted⟩))
  | keyOf index =>
      rcases bind_eq_ok_iff.mp granted with ⟨valid, -, rest⟩
      rcases bind_eq_ok_iff.mp rest with ⟨key, -, same⟩
      cases same
      exact Or.inr (Or.inr (Or.inr ⟨rfl, fun _ => rfl⟩))
  | contains index =>
      rcases bind_eq_ok_iff.mp granted with ⟨valid, -, same⟩
      cases same
      exact Or.inr (Or.inr (Or.inr ⟨rfl, fun _ => rfl⟩))
  | minIndex =>
      rcases bind_eq_ok_iff.mp granted with ⟨least, -, same⟩
      cases same
      exact Or.inr (Or.inr (Or.inr ⟨rfl, fun _ => rfl⟩))

/-- A request keeps the order of the heap, and does to the contents what it does
to a map. -/
theorem Ordered.respond {queue next : IndexedQueue capacity}
    {request : QueueRequest} {answer : QueueAnswer} (ordered : queue.Ordered)
    (isNumber : request.key? ≠ some (.float .notANumber))
    (granted : queue.respond request = .ok (answer, next)) :
    next.Ordered ∧
    next.keyFor? = KeyMap.after queue.keyFor? request answer := by
  have placed {key : Number} (brought : request.key? = some key) :
      key.place?.isSome = true :=
    Option.isSome_iff_exists.mpr
      (Number.exists_place? fun same =>
        isNumber (brought.trans (congrArg some same)))
  rcases respond_cases granted with ⟨index, key, rfl, rfl, inserted⟩ |
    ⟨index, key, rfl, rfl, decreased⟩ | ⟨least, rfl, rfl, deleted⟩
    | ⟨rfl, unchanged⟩
  · refine ⟨ordered.insert (placed rfl) inserted, ?_⟩
    rw [keyFor?_insert inserted, KeyMap.after, KeyMap.set_val]
  · refine ⟨ordered.decreaseKey (placed rfl) decreased, ?_⟩
    rw [keyFor?_decreaseKey decreased, KeyMap.after, KeyMap.set_val]
  · refine ⟨ordered.deleteMin deleted, ?_⟩
    rw [keyFor?_deleteMin deleted, KeyMap.after, KeyMap.set_val]
  · exact ⟨ordered, (unchanged _).symm⟩

/-! ## Many requests -/

theorem Ordered.afterRequest {queue : IndexedQueue capacity}
    {request : QueueRequest} (ordered : queue.Ordered)
    (isNumber : request.key? ≠ some (.float .notANumber)) :
    (queue.afterRequest request).Ordered ∧
    (queue.afterRequest request).keyFor? =
      KeyMap.replay queue.keyFor?
        [(request, (queue.respond request).map Prod.fst)] := by
  unfold IndexedQueue.afterRequest
  cases responded : queue.respond request with
  | error refusal => exact ⟨ordered, rfl⟩
  | ok result => exact ordered.respond isNumber responded

theorem Ordered.afterRequests {queue : IndexedQueue capacity}
    {requests : List QueueRequest} (ordered : queue.Ordered)
    (numbers : ∀ request ∈ requests, request.key? ≠ some (.float .notANumber)) :
    (queue.afterRequests requests).Ordered ∧
      (queue.afterRequests requests).keyFor? =
        KeyMap.replay queue.keyFor? (queue.history requests) := by
  induction requests generalizing queue with
  | nil => exact ⟨ordered, rfl⟩
  | cons request later induction =>
      rcases List.forall_mem_cons.mp numbers with ⟨isNumber, laterNumbers⟩
      rcases ordered.afterRequest isNumber with ⟨nextOrdered, contents⟩
      rw [history, KeyMap.replay_cons, ← contents]
      exact induction nextOrdered laterNumbers

/-! ## The least key -/

theorem keyFor?_of_size_eq_zero {queue : IndexedQueue capacity}
    (noPlace : queue.heap.size = 0) :
    queue.keyFor? = KeyMap.empty := by
  funext index
  rw [KeyMap.empty, ← Option.not_isSome_iff_eq_none, isSome_keyFor?,
    contains_iff_mem_heap, Array.size_eq_zero_iff.mp noPlace]
  exact Array.not_mem_empty index

theorem Ordered.isLeast_front {queue : IndexedQueue capacity}
    (ordered : queue.Ordered) (nonempty : 0 < queue.heap.size) :
    KeyMap.IsLeast queue.keyFor? queue.heap[0] := by
  have queued : queue.contains queue.heap[0] = true :=
    contains_iff_mem_heap.mpr (Array.getElem_mem nonempty)
  have atFront := keyFor?_eq_some_iff.mpr ⟨queued, rfl⟩
  refine ⟨queue.keys.get queue.heap[0], atFront, ?_⟩
  intro index other atIndex
  rcases Option.isSome_iff_exists.mp (ordered.comparable _ _ atFront) with
    ⟨frontPlace, frontPlaced⟩
  rcases Option.isSome_iff_exists.mp (ordered.comparable _ _ atIndex) with
    ⟨otherPlace, otherPlaced⟩
  have notLess := ordered.front_least nonempty atIndex
  rw [← Bool.not_eq_true,
    Number.lt_of_places otherPlaced frontPlaced] at notLess
  exact (Number.atLeast_of_places otherPlaced frontPlaced).mpr
    (not_lt.mp notLess)

theorem Ordered.minIndex_cases {queue : IndexedQueue capacity}
    (ordered : queue.Ordered) :
    (queue.keyFor? = KeyMap.empty ∧ queue.minIndex = .error .empty) ∨
      ∃ least, queue.minIndex = .ok least ∧
        KeyMap.IsLeast queue.keyFor? least := by
  rcases Nat.eq_zero_or_pos queue.heap.size with noPlace | nonempty
  · refine Or.inl ⟨keyFor?_of_size_eq_zero noPlace, ?_⟩
    rw [minIndex, Array.getElem?_eq_none (Nat.le_of_eq noPlace)]
  · refine Or.inr ⟨queue.heap[0], ?_, ordered.isLeast_front nonempty⟩
    rw [minIndex, Array.getElem?_eq_getElem nonempty]

theorem deleteMin_of_size_eq_zero {queue : IndexedQueue capacity}
    (noPlace : queue.heap.size = 0) :
    queue.deleteMin = .error .empty := by
  rw [deleteMin, dif_neg (by omega)]

theorem Ordered.deleteMin_cases {queue : IndexedQueue capacity}
    (ordered : queue.Ordered) :
    (queue.keyFor? = KeyMap.empty ∧ queue.deleteMin = .error .empty) ∨
      ∃ least rest, queue.deleteMin = .ok (least, rest) ∧
        KeyMap.IsLeast queue.keyFor? least ∧
        rest.keyFor? = Function.update queue.keyFor? least none := by
  rcases Nat.eq_zero_or_pos queue.heap.size with noPlace | nonempty
  · exact Or.inl
      ⟨keyFor?_of_size_eq_zero noPlace, deleteMin_of_size_eq_zero noPlace⟩
  · rcases deleteMin_eq_ok nonempty with ⟨rest, deleted⟩
    exact Or.inr ⟨_, rest, deleted, ordered.isLeast_front nonempty,
      keyFor?_deleteMin deleted⟩

/-! ## Taking everything out -/

theorem size_heap_sink (queue : IndexedQueue capacity) (place : Nat) :
    (queue.sink place).heap.size = queue.heap.size := by
  fun_induction sink queue place with
  | case1 queue place inside child childInside placeInside _ induction =>
      rw [induction, size_heap_exchange]
  | case2 => rfl
  | case3 => rfl

theorem size_of_deleteMin {queue rest : IndexedQueue capacity}
    {least : Fin capacity} (deleted : queue.deleteMin = .ok (least, rest)) :
    rest.size + 1 = queue.size := by
  unfold deleteMin at deleted
  split at deleted
  · rename_i nonempty
    cases deleted
    rw [size, size, size_heap_sink, removeFirst, Array.size_setIfInBounds,
      Array.size_pop]
    omega
  · cases deleted

theorem drain_of_size_eq_zero {queue : IndexedQueue capacity}
    (noPlace : queue.heap.size = 0) (rounds : Nat) :
    queue.drain rounds = ([], queue) := by
  cases rounds with
  | zero => rfl
  | succ rounds => rw [drain, deleteMin_of_size_eq_zero noPlace]

theorem inKeyOrder_drain_of_size_eq_zero {queue : IndexedQueue capacity}
    (noPlace : queue.heap.size = 0) (rounds : Nat) :
    KeyMap.InKeyOrder queue.keyFor? (queue.drain rounds).1 ∧
      (queue.drain rounds).2.isEmpty = true := by
  rw [drain_of_size_eq_zero noPlace, keyFor?_of_size_eq_zero noPlace]
  exact ⟨KeyMap.inKeyOrder_nil, Array.isEmpty_iff_size_eq_zero.mpr noPlace⟩

theorem Ordered.drain {queue : IndexedQueue capacity} {rounds : Nat}
    (ordered : queue.Ordered) (enough : queue.size ≤ rounds) :
    KeyMap.InKeyOrder queue.keyFor? (queue.drain rounds).1 ∧
      (queue.drain rounds).2.isEmpty = true := by
  -- Each round takes one index out, the least of those that are left.
  induction rounds generalizing queue with
  | zero => exact inKeyOrder_drain_of_size_eq_zero (Nat.le_zero.mp enough) 0
  | succ rounds induction =>
      rcases Nat.eq_zero_or_pos queue.heap.size with noPlace | nonempty
      · exact inKeyOrder_drain_of_size_eq_zero noPlace (rounds + 1)
      · rcases deleteMin_eq_ok nonempty with ⟨rest, deleted⟩
        have oneLess := size_of_deleteMin deleted
        rcases induction (ordered.deleteMin deleted) (by omega) with
          ⟨inOrder, nothingLeft⟩
        rw [keyFor?_deleteMin deleted] at inOrder
        rw [IndexedQueue.drain, deleted]
        exact ⟨inOrder.cons (ordered.isLeast_front nonempty), nothingLeft⟩

/-! ## Refinement -/

theorem Ordered.refines {queue : IndexedQueue capacity}
    (ordered : queue.Ordered) :
    queue.Refines queue.keyFor? where
  contains index := (isSome_keyFor? queue index).symm
  keyOf _ _ := keyOf_eq_ok_iff
  insert _ _ := insert_eq_ok_iff
  decreaseKey _ _ := exists_decreaseKey_iff
  minIndex := ordered.minIndex_cases
  deleteMin := ordered.deleteMin_cases
  drain := (ordered.drain le_rfl).1
  drained := (ordered.drain le_rfl).2

/-- After any requests whose keys are numbers, a queue that was empty at first
does what a map does on which the granted requests have been replayed. -/
theorem afterRequests_refines (capacity : Nat) (requests : List QueueRequest)
    (numbers : ∀ request ∈ requests, request.key? ≠ some (.float .notANumber)) :
    ((empty capacity).afterRequests requests).Refines
      (KeyMap.replay KeyMap.empty ((empty capacity).history requests)) := by
  have start : (empty capacity).keyFor? = KeyMap.empty := funext keyFor?_empty
  rcases ordered_empty.afterRequests numbers with ⟨ordered, contents⟩
  rw [← start, ← contents]
  exact ordered.refines

def reinsertions : List QueueRequest :=
  [.insert 0 (.int 5), .insert 1 (.int 5), .insert 2 (.float .infinity),
    .decreaseKey 2 (.int 5), .decreaseKey 1 (.int 6), .deleteMin,
    .insert 0 (.float (.finite true 1 (-1))), .insert 0 (.int (-7)),
    .insert 3 (.int 1)]

theorem reinsertions_refine :
    (∀ request ∈ reinsertions, request.key? ≠ some (.float .notANumber)) ∧
    ((empty 3).afterRequests reinsertions).Refines fun index =>
      if index = 0 then some (.float (.finite true 1 (-1)))
      else some (.int 5) := by
  have numbers : ∀ request ∈ reinsertions,
      request.key? ≠ some (.float .notANumber) := by decide
  have replayed : KeyMap.replay KeyMap.empty ((empty 3).history reinsertions) =
      fun index : Fin 3 =>
      if index = 0 then some (.float (.finite true 1 (-1)))
      else some (.int 5) := by
    funext index
    revert index
    decide +kernel
  exact ⟨numbers, replayed ▸ afterRequests_refines 3 reinsertions numbers⟩

end IndexedQueue

end CallChains
