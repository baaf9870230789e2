import CallChains.Proofs.Queue.Contents
import CallChains.Queue.Request
import Mathlib.Data.Set.Basic
/-!
Queues as three tables that are written entry by entry. Between two writes the
tables need not fit together, and what has been written stays when a run stops
early. Each request, done by such writes, gives the answer of the queue and
leaves its tables; one that is refused stops before the first write.
-/

namespace CallChains

structure QueueTables (capacity : Nat) where
  heap : Array (Fin capacity)
  position : Vector (Option Nat) capacity
  keys : Vector Number capacity

inductive QueueFault where
  | refused (error : QueueError)
  | outside (place : Nat)

/-- A run over the tables. When it stops, they stay as it has left them. -/
abbrev QueueRun (capacity : Nat) (Value : Type) :=
  EStateM QueueFault (QueueTables capacity) Value

namespace QueueRun

variable {capacity : Nat}

/-! ## Reads and writes -/

def indexAt (place : Nat) : QueueRun capacity (Fin capacity) := do
  match (← get).heap[place]? with
  | some index => return index
  | none => throw (.outside place)

def placeOf (index : Fin capacity) : QueueRun capacity (Option Nat) := do
  return (← get).position.get index

def keyAt (index : Fin capacity) : QueueRun capacity Number := do
  return (← get).keys.get index

def size : QueueRun capacity Nat := do
  return (← get).heap.size

def putIndex (place : Nat) (index : Fin capacity) : QueueRun capacity Unit :=
  modify fun tables =>
    { tables with heap := tables.heap.setIfInBounds place index }

def putPlace (index : Fin capacity) (place : Option Nat) :
    QueueRun capacity Unit :=
  modify fun tables =>
    { tables with position := replaced tables.position index place }

def putKey (index : Fin capacity) (key : Number) : QueueRun capacity Unit :=
  modify fun tables => { tables with keys := replaced tables.keys index key }

def push (index : Fin capacity) : QueueRun capacity Unit :=
  modify fun tables => { tables with heap := tables.heap.push index }

def pop : QueueRun capacity Unit :=
  modify fun tables => { tables with heap := tables.heap.pop }

def refuse {Value : Type} (error : QueueError) : QueueRun capacity Value :=
  throw (.refused error)

/-! ## Restoring the order -/

def exchange (first second : Nat) : QueueRun capacity Unit := do
  let secondIndex ← indexAt second
  let firstIndex ← indexAt first
  putIndex first secondIndex
  putIndex second firstIndex
  putPlace (← indexAt first) (some first)
  putPlace (← indexAt second) (some second)

def less (first second : Nat) : QueueRun capacity Bool := do
  let firstKey ← keyAt (← indexAt first)
  let secondKey ← keyAt (← indexAt second)
  return firstKey.lt secondKey

def swim (place : Nat) : QueueRun capacity Unit :=
  if place = 0 then return ()
  else do
    let parent := (place - 1) / 2
    if ← less place parent then
      exchange place parent
      swim parent
    else return ()
termination_by place
decreasing_by omega

def smallerChild (size place : Nat) :
    QueueRun capacity { child // place < child } :=
  if 2 * place + 2 < size then do
    if ← less (2 * place + 2) (2 * place + 1) then
      return ⟨2 * place + 2, by omega⟩
    else return ⟨2 * place + 1, by omega⟩
  else return ⟨2 * place + 1, by omega⟩

def sink (size place : Nat) : QueueRun capacity Unit :=
  if 2 * place + 1 < size then do
    let child ← smallerChild size place
    if ← less child place then
      exchange place child
      sink size child
    else return ()
  else return ()
termination_by size - place
decreasing_by
  have := child.property
  omega

/-! ## Requests -/

def valid (index : Int) : QueueRun capacity (Fin capacity) :=
  match IndexedQueue.validIndex capacity index with
  | .ok index => return index
  | .error error => refuse error

def insert (index : Fin capacity) (key : Number) : QueueRun capacity Unit := do
  if (← placeOf index).isSome then refuse (.duplicate index)
  else
    putPlace index (some (← size))
    push index
    putKey index key
    swim ((← size) - 1)

def decreaseKey (index : Fin capacity) (key : Number) :
    QueueRun capacity Unit := do
  match ← placeOf index with
  | none => refuse (.notPresent index)
  | some place =>
      let current ← keyAt index
      if key.atLeast current then refuse (.notDecreasing index key current)
      else
        putKey index key
        swim place

def keyOf (index : Fin capacity) : QueueRun capacity Number := do
  if (← placeOf index).isSome then keyAt index else refuse (.notPresent index)

def minIndex : QueueRun capacity (Fin capacity) := do
  if (← size) = 0 then refuse .empty else indexAt 0

def refill (last : Fin capacity) : QueueRun capacity Unit := do
  if (← size) = 0 then return ()
  else
    putIndex 0 last
    putPlace last (some 0)
    sink (← size) 0

def deleteMin : QueueRun capacity (Fin capacity) := do
  if (← size) = 0 then refuse .empty
  else
    let smallest ← indexAt 0
    let last ← indexAt ((← size) - 1)
    pop
    refill last
    putPlace smallest none
    return smallest

def perform : QueueRequest → QueueRun capacity QueueAnswer
  | .insert index key => do
      insert (← valid index) key
      return .done
  | .decreaseKey index key => do
      decreaseKey (← valid index) key
      return .done
  | .keyOf index => do
      return .key (← keyOf (← valid index))
  | .contains index => do
      return .truth (← placeOf (← valid index)).isSome
  | .minIndex => do
      return .index (← minIndex)
  | .deleteMin => do
      return .index (← deleteMin)

end QueueRun

/-! ## Tables of queues -/

namespace QueueTables

variable {capacity : Nat}

/-- The tables hold what a queue holds, and so do the places of those indices
whose places are settled. -/
structure Holds (tables : QueueTables capacity) (queue : IndexedQueue capacity)
    (settled : Set (Fin capacity)) : Prop where
  heap : tables.heap = queue.heap
  keys : tables.keys = queue.keys
  position : ∀ index ∈ settled,
    tables.position.get index = queue.position.get index

end QueueTables

namespace IndexedQueue

variable {capacity : Nat}

def tables (queue : IndexedQueue capacity) : QueueTables capacity where
  heap := queue.heap
  position := queue.position
  keys := queue.keys

/-- How a run over the tables of a queue ends that does what a computation over
the queue does: with the tables of the next queue, or with those of the queue as
it was. -/
def ending {Value : Type} (queue : IndexedQueue capacity) :
    Except QueueError (Value × IndexedQueue capacity) →
    EStateM.Result QueueFault (QueueTables capacity) Value
  | .ok (value, next) => .ok value next.tables
  | .error error => .error (.refused error) queue.tables

theorem holds_tables (queue : IndexedQueue capacity) :
    queue.tables.Holds queue Set.univ :=
  ⟨rfl, rfl, fun _ _ => rfl⟩

end IndexedQueue

namespace QueueTables

variable {capacity : Nat} {tables : QueueTables capacity}
  {queue : IndexedQueue capacity} {settled : Set (Fin capacity)}

theorem Holds.eq_tables (held : tables.Holds queue Set.univ) :
    tables = queue.tables := by
  rcases tables with ⟨heap, position, keys⟩
  rcases held with ⟨rfl, rfl, settled⟩
  have same : position = queue.position :=
    Vector.ext fun index inside => settled ⟨index, inside⟩ (Set.mem_univ _)
  rw [same]
  rfl

end QueueTables

namespace IndexedQueue

variable {capacity : Nat}

theorem eq_of_heap_eq {queue other : IndexedQueue capacity}
    (heap : queue.heap = other.heap) (keys : queue.keys = other.keys) :
    queue = other := by
  have position : queue.position = other.position := by
    apply Vector.ext
    intro index inside
    apply Option.ext
    intro place
    have here := queue.inverse ⟨index, inside⟩ place
    rw [heap, ← other.inverse ⟨index, inside⟩ place] at here
    exact here
  rcases queue with ⟨_, _, _, _⟩
  rcases other with ⟨_, _, _, _⟩
  cases heap
  cases keys
  cases position
  rfl

theorem exchange_comm (queue : IndexedQueue capacity) (first second : Nat)
    (firstInside : first < queue.heap.size)
    (secondInside : second < queue.heap.size) :
    queue.exchange first second firstInside secondInside =
      queue.exchange second first secondInside firstInside :=
  eq_of_heap_eq (Array.swap_comm _ _) rfl

end IndexedQueue

namespace QueueRun

variable {capacity : Nat} {tables : QueueTables capacity}
  {queue : IndexedQueue capacity} {settled : Set (Fin capacity)}

theorem run_bind_of_ok {Value Result : Type} {run : QueueRun capacity Value}
    {rest : Value → QueueRun capacity Result} {value : Value}
    {next : QueueTables capacity} (done : run.run tables = .ok value next) :
    (run >>= rest).run tables = (rest value).run next := by
  rw [EStateM.run_bind, done]

theorem indexAt_run (held : tables.Holds queue settled) {place : Nat}
    (inside : place < queue.heap.size) :
    (indexAt place).run tables = .ok queue.heap[place] tables := by
  have here : tables.heap[place]? = some queue.heap[place] := by
    rw [held.heap, Array.getElem?_eq_getElem inside]
  simp only [indexAt, EStateM.run_bind, EStateM.run_get, here, EStateM.run_pure]

theorem putIndex_run (tables : QueueTables capacity) (place : Nat)
    (index : Fin capacity) :
    (putIndex place index).run tables =
      .ok () { tables with heap := tables.heap.setIfInBounds place index } :=
  rfl

theorem putPlace_run (tables : QueueTables capacity) (index : Fin capacity)
    (place : Option Nat) :
    (putPlace index place).run tables =
      .ok () { tables with position := replaced tables.position index place } :=
  rfl

/-- The heap is written twice and then read again, so that both indices get
their new places. -/
theorem exchange_run (held : tables.Holds queue settled) {first second : Nat}
    (firstInside : first < queue.heap.size)
    (secondInside : second < queue.heap.size) :
    ∃ next, (exchange first second).run tables = .ok () next ∧
      next.Holds (queue.exchange first second firstInside secondInside)
        settled := by
  have written : (tables.heap.setIfInBounds first
      queue.heap[second]).setIfInBounds second queue.heap[first] =
      queue.heap.swap first second := by
    have firstSet : queue.heap.setIfInBounds first queue.heap[second] =
        queue.heap.set first queue.heap[second] := dif_pos firstInside
    rw [held.heap, firstSet]
    exact dif_pos (by rwa [Array.size_set])
  -- Between the writes to the heap and those to the places no place is settled,
  -- but both indices can still be read.
  have between (position : Vector (Option Nat) capacity) :
      QueueTables.Holds { tables with heap := queue.heap.swap first second,
                                      position }
        (queue.exchange first second firstInside secondInside) ∅ :=
    ⟨rfl, held.keys, nofun⟩
  have sameSize :=
    queue.size_heap_exchange first second firstInside secondInside
  have firstNow : (queue.exchange first second firstInside
      secondInside).heap[first] = queue.heap[second] :=
    Array.getElem_swap_left
  have secondNow : (queue.exchange first second firstInside
      secondInside).heap[second] = queue.heap[first] :=
    Array.getElem_swap_right
  refine ⟨{ tables with
    heap := queue.heap.swap first second
    position :=
      replaced (replaced tables.position queue.heap[second] (some first))
      queue.heap[first] (some second) }, ?_, ?_⟩
  · rw [exchange, run_bind_of_ok (indexAt_run held secondInside),
      run_bind_of_ok (indexAt_run held firstInside),
      run_bind_of_ok (putIndex_run _ _ _), run_bind_of_ok (putIndex_run _ _ _),
      written, run_bind_of_ok
        (indexAt_run (between _) (sameSize ▸ firstInside)), firstNow,
      run_bind_of_ok (putPlace_run _ _ _),
      run_bind_of_ok (indexAt_run (between _) (sameSize ▸ secondInside)),
      secondNow, putPlace_run]
  · refine ⟨rfl, held.keys, fun index isSettled => ?_⟩
    have placed :
        (queue.exchange first second firstInside secondInside).position =
          replaced (replaced queue.position queue.heap[second] (some first))
            queue.heap[first] (some second) := rfl
    rw [placed, get_replaced, get_replaced, get_replaced, get_replaced,
      held.position index isSettled]

theorem less_run (held : tables.Holds queue settled) {first second : Nat}
    (firstInside : first < queue.heap.size)
    (secondInside : second < queue.heap.size) :
    (less first second).run tables =
      .ok (queue.less first second firstInside secondInside) tables := by
  simp only [less, keyAt, EStateM.run_bind, indexAt_run held firstInside,
    indexAt_run held secondInside, EStateM.run_get, EStateM.run_pure, held.keys]
  rfl

theorem swim_run (held : tables.Holds queue settled) {place : Nat}
    (inside : place < queue.heap.size) :
    ∃ next, (swim place).run tables = .ok () next ∧
      next.Holds (queue.swim place inside) settled := by
  fun_induction IndexedQueue.swim queue place inside generalizing tables with
  | case1 queue inside =>
      rw [swim]
      exact ⟨tables, rfl, held⟩
  | case2 queue place inside notFront parent parentInside isLess =>
      rename_i induction
      rcases exchange_run held inside parentInside with
        ⟨exchanged, exchangedRun, exchangedHeld⟩
      rcases induction exchangedHeld with ⟨next, ran, nextHeld⟩
      refine ⟨next, ?_, nextHeld⟩
      rw [swim, if_neg notFront,
        run_bind_of_ok (less_run held inside parentInside), isLess, if_pos rfl,
        run_bind_of_ok exchangedRun, ran]
  | case3 queue place inside notFront parent parentInside =>
      rename_i notLess
      refine ⟨tables, ?_, held⟩
      rw [swim, if_neg notFront,
        run_bind_of_ok (less_run held inside parentInside), if_neg notLess,
        EStateM.run_pure]

theorem smallerChild_run (held : tables.Holds queue settled) {place : Nat}
    (inside : 2 * place + 1 < queue.heap.size) :
    ∃ child,
      (smallerChild queue.heap.size place).run tables = .ok child tables ∧
      child.val = queue.smallerChild place inside := by
  unfold smallerChild IndexedQueue.smallerChild
  split
  · rename_i right
    rw [run_bind_of_ok (less_run held right inside)]
    split
    · exact ⟨_, rfl, rfl⟩
    · exact ⟨_, rfl, rfl⟩
  · exact ⟨_, rfl, rfl⟩

theorem sink_run (held : tables.Holds queue settled) (place : Nat) :
    ∃ next, (sink queue.heap.size place).run tables = .ok () next ∧
      next.Holds (queue.sink place) settled := by
  fun_induction IndexedQueue.sink queue place generalizing tables with
  | case1 queue place inside child childInside placeInside isLess =>
      rename_i induction
      rcases smallerChild_run held inside with ⟨⟨found, below⟩, foundRun, rfl⟩
      rcases exchange_run held placeInside childInside with
        ⟨exchanged, exchangedRun, exchangedHeld⟩
      rw [IndexedQueue.exchange_comm] at exchangedHeld
      rcases induction exchangedHeld with ⟨next, ran, nextHeld⟩
      refine ⟨next, ?_, nextHeld⟩
      rw [sink, if_pos inside, run_bind_of_ok foundRun,
        run_bind_of_ok (less_run held childInside placeInside), isLess,
        if_pos rfl, run_bind_of_ok exchangedRun, ← ran,
        IndexedQueue.size_heap_exchange]
  | case2 queue place inside child childInside placeInside =>
      rename_i notLess
      rcases smallerChild_run held inside with ⟨⟨found, below⟩, foundRun, rfl⟩
      refine ⟨tables, ?_, held⟩
      rw [sink, if_pos inside, run_bind_of_ok foundRun,
        run_bind_of_ok (less_run held childInside placeInside), if_neg notLess,
        EStateM.run_pure]
  | case3 queue place =>
      rename_i notInside
      rw [sink, if_neg notInside]
      exact ⟨tables, rfl, held⟩

/-! ## Requests -/

theorem insert_run (queue : IndexedQueue capacity) (index : Fin capacity)
    (key : Number) :
    (insert index key).run queue.tables =
      queue.ending ((queue.insert index key).map fun larger =>
        ((), larger)) := by
  rw [insert, IndexedQueue.insert]
  simp only [EStateM.run_bind, placeOf, EStateM.run_get, EStateM.run_pure]
  by_cases absent : queue.contains index = false
  · have notQueued : ¬ (queue.tables.position.get index).isSome = true :=
      Bool.not_eq_true _ ▸ absent
    have inside : queue.heap.size <
        (queue.append index key absent).heap.size := by
      simp [IndexedQueue.append]
    rcases swim_run (queue.append index key absent).holds_tables inside with
      ⟨next, ran, held⟩
    rw [dif_pos absent, if_neg notQueued]
    simp only [EStateM.run_bind, size, putPlace, push, putKey, EStateM.run_get,
      EStateM.run_pure, EStateM.run_modify, Array.size_push, Nat.add_sub_cancel]
    exact ran.trans (congrArg _ held.eq_tables)
  · have queued : (queue.tables.position.get index).isSome = true :=
      Bool.eq_true_of_not_eq_false absent
    rw [dif_neg absent, if_pos queued]
    rfl

theorem decreaseKey_run (queue : IndexedQueue capacity) (index : Fin capacity)
    (key : Number) :
    (decreaseKey index key).run queue.tables =
      queue.ending ((queue.decreaseKey index key).map fun lowered =>
        ((), lowered)) := by
  rw [decreaseKey]
  simp only [EStateM.run_bind, placeOf, EStateM.run_get, EStateM.run_pure]
  cases found : queue.tables.position.get index with
  | none =>
      rw [IndexedQueue.decreaseKey_of_absent found]
      rfl
  | some place =>
      simp only [EStateM.run_bind, keyAt, EStateM.run_get, EStateM.run_pure]
      by_cases notLess : key.atLeast (queue.tables.keys.get index) = true
      · rw [IndexedQueue.decreaseKey_of_atLeast found notLess, if_pos notLess]
        rfl
      · rcases IndexedQueue.decreaseKey_of_not_atLeast found notLess with
          ⟨inside, decreased⟩
        rcases swim_run (queue.withKey index key).holds_tables inside with
          ⟨next, ran, held⟩
        rw [decreased, if_neg notLess]
        simp only [EStateM.run_bind, putKey, EStateM.run_modify]
        exact ran.trans (congrArg _ held.eq_tables)

theorem holds_of_cleared {index : Fin capacity}
    (held : tables.Holds queue {other | other ≠ index})
    (absent : queue.position.get index = none) :
    QueueTables.Holds { tables with
      position := replaced tables.position index none } queue Set.univ := by
  refine ⟨held.heap, held.keys, fun other _ => ?_⟩
  rw [get_replaced]
  by_cases same : other = index
  · rw [if_pos same, same, absent]
  · rw [if_neg same, held.position other same]

/-- The gap at the front is filled while the index that was there still has its
place. -/
theorem refill_run (queue : IndexedQueue capacity)
    (nonempty : 0 < queue.heap.size)
    (lastInside : queue.heap.size - 1 < queue.heap.size) :
    ∃ next, (refill queue.heap[queue.heap.size - 1]).run
        { heap := queue.heap.pop, position := queue.position,
          keys := queue.keys } = .ok () next ∧
      next.Holds ((queue.removeFirst nonempty).sink 0)
        {other | other ≠ queue.heap[0]} := by
  have placed : (queue.removeFirst nonempty).position =
      replaced (replaced queue.position queue.heap[queue.heap.size - 1]
        (some 0)) queue.heap[0] none := rfl
  rw [refill]
  simp only [EStateM.run_bind, size, EStateM.run_get, EStateM.run_pure]
  by_cases single : queue.heap.pop.size = 0
  · have isLast : queue.heap.size - 1 = 0 := Array.size_pop.symm.trans single
    have sameIndex : queue.heap[queue.heap.size - 1] = queue.heap[0] := by
      simp only [isLast]
    have noOther : ¬ 2 * 0 + 1 < (queue.removeFirst nonempty).heap.size := by
      simp [IndexedQueue.removeFirst, isLast]
    rw [if_pos single, IndexedQueue.sink, dif_neg noOther]
    refine ⟨_, rfl, ?_, rfl, fun other notFirst => ?_⟩
    · exact (Array.setIfInBounds_eq_of_size_le (Nat.le_of_eq single)).symm
    · rw [placed, sameIndex, get_replaced, get_replaced, if_neg notFirst,
        if_neg notFirst]
  · have settled : QueueTables.Holds
        { heap := queue.heap.pop.setIfInBounds 0 queue.heap[queue.heap.size - 1]
          position :=
            replaced queue.position queue.heap[queue.heap.size - 1] (some 0)
          keys := queue.keys }
        (queue.removeFirst nonempty) {other | other ≠ queue.heap[0]} := by
      refine ⟨rfl, rfl, fun other notFirst => ?_⟩
      rw [placed, get_replaced _ queue.heap[0], if_neg notFirst]
    rw [if_neg single]
    exact sink_run settled 0

theorem deleteMin_run (queue : IndexedQueue capacity) :
    deleteMin.run queue.tables = queue.ending queue.deleteMin := by
  have sized : size.run queue.tables = .ok queue.heap.size queue.tables := rfl
  rw [deleteMin, run_bind_of_ok sized]
  by_cases nonempty : 0 < queue.heap.size
  · have deleted : queue.deleteMin =
        .ok (queue.heap[0], (queue.removeFirst nonempty).sink 0) :=
      dif_pos nonempty
    have popped : pop.run queue.tables =
        .ok () { heap := queue.heap.pop, position := queue.position,
                 keys := queue.keys } := rfl
    have cleared : ((queue.removeFirst nonempty).sink 0).position.get
        queue.heap[0] = none := by
      rw [IndexedQueue.get_position_eq_none_iff,
        IndexedQueue.contains_of_update
          (IndexedQueue.keyFor?_deleteMin deleted), if_pos rfl]
      rfl
    rcases refill_run queue nonempty (Nat.sub_one_lt_of_lt nonempty) with
      ⟨next, refilled, held⟩
    rw [deleted, if_neg (Nat.ne_of_gt nonempty),
      run_bind_of_ok (indexAt_run queue.holds_tables nonempty),
      run_bind_of_ok sized,
      run_bind_of_ok
        (indexAt_run queue.holds_tables (Nat.sub_one_lt_of_lt nonempty)),
        run_bind_of_ok popped, run_bind_of_ok refilled]
    exact congrArg (EStateM.Result.ok queue.heap[0])
      (holds_of_cleared held cleared).eq_tables
  · rw [if_pos (Nat.eq_zero_of_not_pos nonempty), IndexedQueue.deleteMin,
      dif_neg nonempty]
    rfl

theorem keyOf_run (queue : IndexedQueue capacity) (index : Fin capacity) :
    (keyOf index).run queue.tables =
      queue.ending ((queue.keyOf index).map fun key => (key, queue)) := by
  rw [keyOf, IndexedQueue.keyOf]
  simp only [EStateM.run_bind, placeOf, EStateM.run_get, EStateM.run_pure]
  by_cases queued : queue.contains index = true
  · have isPlaced : (queue.tables.position.get index).isSome = true := queued
    rw [if_pos queued, if_pos isPlaced]
    rfl
  · have notPlaced : ¬ (queue.tables.position.get index).isSome = true := queued
    rw [if_neg queued, if_neg notPlaced]
    rfl

theorem minIndex_run (queue : IndexedQueue capacity) :
    minIndex.run queue.tables =
      queue.ending (queue.minIndex.map fun least => (least, queue)) := by
  rw [minIndex, IndexedQueue.minIndex]
  simp only [EStateM.run_bind, size, EStateM.run_get, EStateM.run_pure]
  by_cases nonempty : 0 < queue.heap.size
  · have notZero : ¬ queue.tables.heap.size = 0 := Nat.ne_of_gt nonempty
    rw [if_neg notZero, indexAt_run queue.holds_tables nonempty,
      Array.getElem?_eq_getElem nonempty]
    rfl
  · have isZero : queue.tables.heap.size = 0 := Nat.eq_zero_of_not_pos nonempty
    rw [if_pos isZero, Array.getElem?_eq_none (Nat.not_lt.mp nonempty)]
    rfl

theorem valid_bind_run {Value : Type} {index : Int}
    {rest : Fin capacity → QueueRun capacity Value}
    {results : Fin capacity → Except QueueError (Value × IndexedQueue capacity)}
    (same : ∀ index,
      (rest index).run queue.tables = queue.ending (results index)) :
    (valid index >>= rest).run queue.tables =
      queue.ending (IndexedQueue.validIndex capacity index >>= results) := by
  rw [valid]
  cases IndexedQueue.validIndex capacity index with
  | error error => rfl
  | ok index => exact same index

theorem answer_run {Value : Type} {run : QueueRun capacity Value}
    {result : Except QueueError (Value × IndexedQueue capacity)}
    (same : run.run queue.tables = queue.ending result)
    (answer : Value → QueueAnswer) :
    (do return answer (← run)).run queue.tables =
      queue.ending (result.map fun (value, next) => (answer value, next)) := by
  rw [EStateM.run_bind, same]
  rcases result with _ | ⟨value, next⟩ <;> rfl

/-- A request that is done by writes gives the answer of the queue and leaves
its tables. -/
theorem perform_run (queue : IndexedQueue capacity) (request : QueueRequest) :
    (perform request).run queue.tables =
      queue.ending (queue.respond request) := by
  cases request with
  | insert index key =>
      apply valid_bind_run
      intro index
      rw [answer_run (insert_run queue index key) fun _ => .done]
      cases queue.insert index key <;> rfl
  | decreaseKey index key =>
      apply valid_bind_run
      intro index
      rw [answer_run (decreaseKey_run queue index key) fun _ => .done]
      cases queue.decreaseKey index key <;> rfl
  | keyOf index =>
      apply valid_bind_run
      intro index
      rw [answer_run (keyOf_run queue index) .key]
      cases queue.keyOf index <;> rfl
  | contains index => exact valid_bind_run fun index => rfl
  | minIndex =>
      rw [perform, answer_run (minIndex_run queue) fun least => .index least]
      rw [IndexedQueue.respond]
      cases queue.minIndex <;> rfl
  | deleteMin =>
      rw [perform, answer_run (deleteMin_run queue) fun least => .index least]
      rw [IndexedQueue.respond]
      rcases queue.deleteMin with _ | ⟨least, rest⟩ <;> rfl

end QueueRun

end CallChains
