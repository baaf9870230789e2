import CallChains.Queue.IndexedQueue
/-!
Requests to a queue from outside, where indices and capacities are any whole
numbers. A request that is refused leaves the queue as it was.
-/

namespace CallChains

inductive QueueRequest where
  | insert (index : Int) (key : Number)
  | decreaseKey (index : Int) (key : Number)
  | keyOf (index : Int)
  | contains (index : Int)
  | minIndex
  | deleteMin
  deriving DecidableEq, Repr

inductive QueueAnswer where
  | done
  | index (value : Nat)
  | key (value : Number)
  | truth (value : Bool)
  deriving DecidableEq, Repr

namespace IndexedQueue

variable {capacity : Nat}

def capacityOf (capacity : Int) : Except String Nat :=
  if capacity < 0 then .error s!"Capacity must be non-negative, got {capacity}"
  else .ok capacity.toNat

def validIndex (capacity : Nat) (index : Int) :
    Except QueueError (Fin capacity) :=
  if valid : 0 ≤ index ∧ index < capacity then .ok ⟨index.toNat, by omega⟩
  else .error (.outOfRange index capacity)

def respond (queue : IndexedQueue capacity) :
    QueueRequest → Except QueueError (QueueAnswer × IndexedQueue capacity)
  | .insert index key => do
      let index ← validIndex capacity index
      return (.done, ← queue.insert index key)
  | .decreaseKey index key => do
      let index ← validIndex capacity index
      return (.done, ← queue.decreaseKey index key)
  | .keyOf index => do
      let index ← validIndex capacity index
      return (.key (← queue.keyOf index), queue)
  | .contains index => do
      let index ← validIndex capacity index
      return (.truth (queue.contains index), queue)
  | .minIndex => do
      return (.index (← queue.minIndex), queue)
  | .deleteMin => do
      let (index, queue) ← queue.deleteMin
      return (.index index, queue)

def afterRequest (queue : IndexedQueue capacity) (request : QueueRequest) :
    IndexedQueue capacity :=
  match queue.respond request with
  | .ok (_, next) => next
  | .error _ => queue

def afterRequests (queue : IndexedQueue capacity)
    (requests : List QueueRequest) : IndexedQueue capacity :=
  requests.foldl afterRequest queue

def holds (queue : IndexedQueue capacity) (index : Int) : Bool :=
  match validIndex capacity index with
  | .ok index => queue.contains index
  | .error _ => false

end IndexedQueue

end CallChains
