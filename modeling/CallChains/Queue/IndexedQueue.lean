import CallChains.Number.Basic
/-!
A priority queue of small whole numbers, ordered by their keys: a binary heap of
indices, and beside it the place of every index in the heap, so that the key of
a queued index can be lowered. The type holds that the heap and the table of
places are inverse to each other.
-/

namespace CallChains

/-! ## Inverse tables

What keeps two tables inverse to each other, whatever they hold: the place of
every index, and the index at every place.
-/

section InverseTables

variable {Index : Type} [DecidableEq Index] {position : Index → Option Nat}
  {heap : Nat → Option Index}

theorem inverse_exchange
    (inverse : ∀ index place, position index = some place ↔
      heap place = some index)
    {first second : Nat} {firstIndex secondIndex : Index}
    (atFirst : heap first = some firstIndex)
    (atSecond : heap second = some secondIndex) (index : Index) (place : Nat) :
    (if firstIndex = index then some second
      else if secondIndex = index then some first else position index) =
        some place ↔
    (if second = place then some firstIndex
      else if first = place then some secondIndex else heap place) =
        some index := by
  have firstPlace := (inverse firstIndex first).mpr atFirst
  have secondPlace := (inverse secondIndex second).mpr atSecond
  grind

theorem inverse_append
    (inverse : ∀ index place, position index = some place ↔
      heap place = some index)
    {size : Nat} {added : Index} (free : heap size = none)
    (absent : position added = none) (index : Index) (place : Nat) :
    (if added = index then some size else position index) = some place ↔
    (if place = size then some added else heap place) = some index := by
  grind

theorem inverse_remove
    (inverse : ∀ index place, position index = some place ↔
      heap place = some index)
    {lastPlace : Nat} {first last : Index} (atFront : heap 0 = some first)
    (atEnd : heap lastPlace = some last)
    (full : ∀ place, lastPlace < place → heap place = none) (index : Index)
    (place : Nat) :
    (if first = index then none else if last = index then some 0
    else position index) = some place ↔
    (if place < lastPlace then
      if place = 0 then some last else heap place else none) =
      some index := by
  have frontPlace := (inverse first 0).mpr atFront
  have endPlace := (inverse last lastPlace).mpr atEnd
  have here := inverse index place
  have beyond := full place
  grind

end InverseTables

/-! ## Queues -/

structure IndexedQueue (capacity : Nat) where
  /-- The queued indices; the index at a place has no smaller key than the one
  at the place above it. -/
  heap : Array (Fin capacity)
  position : Vector (Option Nat) capacity
  keys : Vector Number capacity
  inverse : ∀ (index : Fin capacity) (place : Nat),
    position[index] = some place ↔ heap[place]? = some index

inductive QueueError where
  | outOfRange (index : Int) (capacity : Nat)
  | duplicate (index : Nat)
  | notPresent (index : Nat)
  | notDecreasing (index : Nat) (key current : Number)
  | empty
  deriving DecidableEq, Repr

def QueueError.message : QueueError → String
  | .outOfRange index capacity => s!"Index {index} out of range [0, {capacity})"
  | .duplicate index => s!"Index {index} is already in the queue"
  | .notPresent index => s!"Index {index} is not in the queue"
  | .notDecreasing index key current =>
      "Key " ++ key.text ++ " does not decrease current key " ++ current.text ++
        s!" of index {index}"
  | .empty => "Priority queue is empty"

namespace IndexedQueue

variable {capacity : Nat}

/-! ## Views -/

def empty (capacity : Nat) : IndexedQueue capacity where
  heap := #[]
  position := Vector.replicate capacity none
  keys := Vector.replicate capacity (.int 0)
  inverse := by simp

def size (queue : IndexedQueue capacity) : Nat := queue.heap.size

def isEmpty (queue : IndexedQueue capacity) : Bool := queue.heap.isEmpty

def contains (queue : IndexedQueue capacity) (index : Fin capacity) : Bool :=
  queue.position[index].isSome

def keyOf (queue : IndexedQueue capacity) (index : Fin capacity) :
    Except QueueError Number :=
  if queue.contains index then .ok queue.keys[index]
  else .error (.notPresent index)

/-- The index with the least key. Which of several it is depends on the history
of the heap. -/
def minIndex (queue : IndexedQueue capacity) :
    Except QueueError (Fin capacity) :=
  match queue.heap[0]? with
  | some index => .ok index
  | none => .error .empty

def summary (queue : IndexedQueue capacity) : String :=
  s!"IndexMinPQ(size={queue.size}, capacity={capacity})"

/-! ## Restoring the order -/

def less (queue : IndexedQueue capacity) (first second : Nat)
    (firstInside : first < queue.heap.size)
    (secondInside : second < queue.heap.size) : Bool :=
  queue.keys[queue.heap[first]].lt queue.keys[queue.heap[second]]

theorem inverse_swap (queue : IndexedQueue capacity) (first second : Nat)
    (firstInside : first < queue.heap.size)
    (secondInside : second < queue.heap.size) (index : Fin capacity)
    (place : Nat) :
    ((queue.position.set queue.heap[second] (some first)).set queue.heap[first]
      (some second))[index] =
        some place ↔
      (queue.heap.swap first second)[place]? = some index := by
  have moved :=
    inverse_exchange queue.inverse (Array.getElem?_eq_getElem firstInside)
    (Array.getElem?_eq_getElem secondInside) index place
  simpa only [Fin.getElem_fin, Vector.getElem_set, Fin.val_inj,
    Array.getElem?_swap] using moved

def exchange (queue : IndexedQueue capacity) (first second : Nat)
    (firstInside : first < queue.heap.size)
    (secondInside : second < queue.heap.size) : IndexedQueue capacity where
  heap := queue.heap.swap first second
  position := (queue.position.set queue.heap[second] (some first)).set
    queue.heap[first] (some second)
  keys := queue.keys
  inverse := queue.inverse_swap first second firstInside secondInside

@[simp] theorem size_heap_exchange (queue : IndexedQueue capacity)
    (first second : Nat) (firstInside : first < queue.heap.size)
    (secondInside : second < queue.heap.size) :
    (queue.exchange first second firstInside secondInside).heap.size =
      queue.heap.size := by
  simp [exchange]

def swim (queue : IndexedQueue capacity) (place : Nat)
    (inside : place < queue.heap.size) : IndexedQueue capacity :=
  if atFront : place = 0 then queue
  else
    let parent := (place - 1) / 2
    have parentInside : parent < queue.heap.size := by omega
    if queue.less place parent inside parentInside then
      (queue.exchange place parent inside parentInside).swim parent
        (by simpa using parentInside)
    else queue
termination_by place
decreasing_by omega

/-- The child with the smaller key of a place that has a child; of two equal
ones the left. -/
def smallerChild (queue : IndexedQueue capacity) (place : Nat)
    (inside : 2 * place + 1 < queue.heap.size) : Nat :=
  if right : 2 * place + 2 < queue.heap.size then
    if queue.less (2 * place + 2) (2 * place + 1) right inside then
      2 * place + 2
    else 2 * place + 1
  else 2 * place + 1

theorem smallerChild_lt (queue : IndexedQueue capacity) (place : Nat)
    (inside : 2 * place + 1 < queue.heap.size) :
    queue.smallerChild place inside < queue.heap.size := by
  unfold smallerChild
  split
  · split <;> assumption
  · assumption

theorem lt_smallerChild (queue : IndexedQueue capacity) (place : Nat)
    (inside : 2 * place + 1 < queue.heap.size) :
    place < queue.smallerChild place inside := by
  unfold smallerChild
  split
  · split <;> omega
  · omega

def sink (queue : IndexedQueue capacity) (place : Nat) :
    IndexedQueue capacity :=
  if inside : 2 * place + 1 < queue.heap.size then
    let child := queue.smallerChild place inside
    have childInside : child < queue.heap.size :=
      queue.smallerChild_lt place inside
    have placeInside : place < queue.heap.size := by omega
    if queue.less child place childInside placeInside then
      (queue.exchange child place childInside placeInside).sink child
    else queue
  else queue
termination_by queue.heap.size - place
decreasing_by
  have := queue.lt_smallerChild place inside
  simp only [size_heap_exchange]
  omega

/-! ## Requests -/

theorem inverse_push (queue : IndexedQueue capacity) (index : Fin capacity)
    (absent : queue.contains index = false) (other : Fin capacity)
    (place : Nat) :
    (queue.position.set index (some queue.heap.size))[other] = some place ↔
      (queue.heap.push index)[place]? = some other := by
  have noPlace : queue.position[index] = none := by
    cases found : queue.position[index] with
    | none => rfl
    | some place => simp [contains, found] at absent
  have added :=
    inverse_append queue.inverse (Array.getElem?_size) noPlace other place
  simpa only [Fin.getElem_fin, Vector.getElem_set, Fin.val_inj,
    Array.getElem?_push] using added

def append (queue : IndexedQueue capacity) (index : Fin capacity) (key : Number)
    (absent : queue.contains index = false) : IndexedQueue capacity where
  heap := queue.heap.push index
  position := queue.position.set index (some queue.heap.size)
  keys := queue.keys.set index key
  inverse := queue.inverse_push index absent

def insert (queue : IndexedQueue capacity) (index : Fin capacity)
    (key : Number) : Except QueueError (IndexedQueue capacity) :=
  if absent : queue.contains index = false then
    .ok ((queue.append index key absent).swim queue.heap.size
      (by simp [append]))
  else .error (.duplicate index)

def decreaseKey (queue : IndexedQueue capacity) (index : Fin capacity)
    (key : Number) : Except QueueError (IndexedQueue capacity) :=
  match found : queue.position[index] with
  | none => .error (.notPresent index)
  | some place =>
      let current := queue.keys[index]
      if key.atLeast current then .error (.notDecreasing index key current)
      else
        let lowered : IndexedQueue capacity :=
          { queue with keys := queue.keys.set index key }
        .ok (lowered.swim place (by
          have atPlace := (queue.inverse index place).mp found
          exact (Array.getElem?_eq_some_iff.mp atPlace).1))

theorem inverse_pop (queue : IndexedQueue capacity)
    (nonempty : 0 < queue.heap.size) (index : Fin capacity) (place : Nat) :
    ((queue.position.set queue.heap[queue.heap.size - 1] (some 0)).set
      queue.heap[0] none)[index] =
        some place ↔
      (queue.heap.pop.setIfInBounds 0 queue.heap[queue.heap.size - 1])[place]? =
        some index := by
  have removed :=
    inverse_remove queue.inverse (Array.getElem?_eq_getElem nonempty)
    (Array.getElem?_eq_getElem
      (by omega : queue.heap.size - 1 < queue.heap.size))
    (fun place beyond => Array.getElem?_eq_none (by omega)) index place
  have shortened :
      (queue.heap.pop.setIfInBounds 0 queue.heap[queue.heap.size - 1])[place]? =
        if place < queue.heap.size - 1 then
          if place = 0 then some queue.heap[queue.heap.size - 1]
          else queue.heap[place]?
      else none := by
    rw [Array.getElem?_setIfInBounds, Array.getElem?_pop, Array.size_pop]
    by_cases front : 0 = place
    · subst front
      simp
    · simp [front, Ne.symm front]
  rw [shortened]
  simpa only [Fin.getElem_fin, Vector.getElem_set, Fin.val_inj] using removed

def removeFirst (queue : IndexedQueue capacity)
    (nonempty : 0 < queue.heap.size) : IndexedQueue capacity where
  heap := queue.heap.pop.setIfInBounds 0 queue.heap[queue.heap.size - 1]
  position := (queue.position.set queue.heap[queue.heap.size - 1] (some 0)).set
    queue.heap[0] none
  keys := queue.keys
  inverse := queue.inverse_pop nonempty

def deleteMin (queue : IndexedQueue capacity) :
    Except QueueError (Fin capacity × IndexedQueue capacity) :=
  if nonempty : 0 < queue.heap.size then
    .ok (queue.heap[0], (queue.removeFirst nonempty).sink 0)
  else .error .empty

def drain :
    (rounds : Nat) → IndexedQueue capacity →
    List (Fin capacity) × IndexedQueue capacity
  | 0, queue => ([], queue)
  | rounds + 1, queue =>
      match queue.deleteMin with
      | .error _ => ([], queue)
      | .ok (index, queue) =>
          let drained := drain rounds queue
          (index :: drained.1, drained.2)

end IndexedQueue

end CallChains
