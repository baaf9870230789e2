import CallChains.Queue.IndexedQueue
import Mathlib.Logic.Function.Basic
/-!
What a queue holds: a key for each queued index. Restoring the order of the heap
moves indices about and changes none of this; each request changes it at one
index.
-/

namespace CallChains

def replaced {Value : Type} {size : Nat} (values : Vector Value size)
    (index : Fin size) (value : Value) : Vector Value size :=
  values.set index value index.isLt

theorem get_replaced {Value : Type} {size : Nat} (values : Vector Value size)
    (index other : Fin size) (value : Value) :
    (replaced values index value).get other =
      if other = index then value else values.get other := by
  by_cases equal : other = index
  · rw [if_pos equal, equal]
    exact Vector.getElem_set_self index.isLt
  · have different : index.val ≠ other.val :=
      fun same => equal (Fin.ext same.symm)
    rw [if_neg equal]
    exact Vector.getElem_set_ne index.isLt other.isLt different

theorem get_replicate {Value : Type} {size : Nat} (value : Value)
    (index : Fin size) :
    (Vector.replicate size value).get index = value :=
  Vector.getElem_replicate index.isLt

namespace IndexedQueue

variable {capacity : Nat}

def keyFor? (queue : IndexedQueue capacity) (index : Fin capacity) :
    Option Number :=
  if queue.contains index then some (queue.keys.get index) else none

theorem contains_iff_mem_heap {queue : IndexedQueue capacity}
    {index : Fin capacity} :
    queue.contains index = true ↔ index ∈ queue.heap := by
  rw [contains, Option.isSome_iff_exists, Array.mem_iff_getElem?]
  exact exists_congr fun place => queue.inverse index place

theorem get_position_eq_none_iff {queue : IndexedQueue capacity}
    {index : Fin capacity} :
    queue.position.get index = none ↔ queue.contains index = false := by
  rw [← Option.not_isSome_iff_eq_none, Bool.not_eq_true]
  exact Iff.rfl

theorem keyFor?_eq_some_iff {queue : IndexedQueue capacity}
    {index : Fin capacity} {key : Number} :
    queue.keyFor? index = some key ↔
      queue.contains index = true ∧ queue.keys.get index = key := by
  simp [keyFor?]

theorem keyOf_eq_ok_iff {queue : IndexedQueue capacity} {index : Fin capacity}
    {key : Number} :
    queue.keyOf index = .ok key ↔ queue.keyFor? index = some key := by
  rw [keyFor?_eq_some_iff, keyOf]
  split
  · rename_i queued
    rw [Except.ok.injEq]
    exact (and_iff_right queued).symm
  · rename_i absent
    simp [absent]

theorem isSome_keyFor? (queue : IndexedQueue capacity) (index : Fin capacity) :
    (queue.keyFor? index).isSome = queue.contains index := by
  by_cases queued : queue.contains index = true <;> simp [keyFor?, queued]

theorem contains_of_update {queue other : IndexedQueue capacity}
    {index : Fin capacity} {key : Option Number}
    (changed : other.keyFor? = Function.update queue.keyFor? index key)
    (asked : Fin capacity) :
    other.contains asked =
      if asked = index then key.isSome else queue.contains asked := by
  rw [← isSome_keyFor?, changed, Function.update_apply]
  split
  · rfl
  · exact isSome_keyFor? queue asked

theorem keyFor?_congr {queue other : IndexedQueue capacity}
    (contains : ∀ index, other.contains index = queue.contains index)
    (keys : other.keys = queue.keys) : other.keyFor? = queue.keyFor? := by
  funext index
  simp only [keyFor?, contains, keys]

theorem keyFor?_empty (index : Fin capacity) :
    (empty capacity).keyFor? index = none := by
  simp [keyFor?, contains, empty]

/-! ## Restoring the order -/

theorem contains_exchange (queue : IndexedQueue capacity) (first second : Nat)
    (firstInside : first < queue.heap.size)
    (secondInside : second < queue.heap.size) (index : Fin capacity) :
    (queue.exchange first second firstInside secondInside).contains index =
      queue.contains index := by
  rw [Bool.eq_iff_iff, contains_iff_mem_heap, contains_iff_mem_heap]
  exact (Array.swap_perm firstInside secondInside).mem_iff

theorem keyFor?_exchange (queue : IndexedQueue capacity) (first second : Nat)
    (firstInside : first < queue.heap.size)
    (secondInside : second < queue.heap.size) :
    (queue.exchange first second firstInside secondInside).keyFor? =
      queue.keyFor? :=
  keyFor?_congr (queue.contains_exchange first second firstInside secondInside)
    rfl

theorem keyFor?_swim (queue : IndexedQueue capacity) (place : Nat)
    (inside : place < queue.heap.size) :
    (queue.swim place inside).keyFor? = queue.keyFor? := by
  fun_induction swim queue place inside with
  | case1 => rfl
  | case2 queue place inside _ parent parentInside _ induction =>
      rw [induction, keyFor?_exchange]
  | case3 => rfl

theorem keyFor?_sink (queue : IndexedQueue capacity) (place : Nat) :
    (queue.sink place).keyFor? = queue.keyFor? := by
  fun_induction sink queue place with
  | case1 queue place inside child childInside placeInside _ induction =>
      rw [induction, keyFor?_exchange]
  | case2 => rfl
  | case3 => rfl

/-! ## Requests -/

theorem keyFor?_append (queue : IndexedQueue capacity) (index : Fin capacity)
    (key : Number) (absent : queue.contains index = false) :
    (queue.append index key absent).keyFor? =
      Function.update queue.keyFor? index (some key) := by
  funext other
  have keyNow : (queue.append index key absent).keys.get other =
      if other = index then key else queue.keys.get other :=
    get_replaced queue.keys index other key
  by_cases equal : other = index
  · subst equal
    have queued : (queue.append other key absent).contains other = true := by
      simp [contains, append]
    rw [Function.update_self, keyFor?, if_pos queued, keyNow, if_pos rfl]
  · have different : index.val ≠ other.val :=
      fun same => equal (Fin.ext same.symm)
    have kept : (queue.append index key absent).contains other =
        queue.contains other := by
      simp only [contains, append, Fin.getElem_fin,
        Vector.getElem_set_ne _ _ different]
    rw [Function.update_of_ne equal, keyFor?, kept, keyNow, if_neg equal,
      keyFor?]

theorem insert_eq_ok {queue : IndexedQueue capacity} {index : Fin capacity}
    (key : Number) (absent : queue.contains index = false) :
    ∃ larger, queue.insert index key = .ok larger :=
  ⟨_, dif_pos absent⟩

theorem keyFor?_insert {queue larger : IndexedQueue capacity}
    {index : Fin capacity} {key : Number}
    (inserted : queue.insert index key = .ok larger) :
    larger.keyFor? = Function.update queue.keyFor? index (some key) := by
  unfold insert at inserted
  split at inserted
  · rename_i absent
    rw [Except.ok.injEq] at inserted
    rw [← inserted, keyFor?_swim, keyFor?_append]
  · cases inserted

theorem insert_eq_ok_iff {queue : IndexedQueue capacity} {index : Fin capacity}
    {key : Number} :
    (∃ larger, queue.insert index key = .ok larger) ↔
      queue.keyFor? index = none := by
  rw [← Option.not_isSome_iff_eq_none, isSome_keyFor?, Bool.not_eq_true]
  constructor
  · rintro ⟨larger, inserted⟩
    unfold insert at inserted
    split at inserted
    · assumption
    · cases inserted
  · exact insert_eq_ok key

def withKey (queue : IndexedQueue capacity) (index : Fin capacity)
    (key : Number) : IndexedQueue capacity :=
  { queue with keys := replaced queue.keys index key }

@[simp] theorem heap_withKey (queue : IndexedQueue capacity)
    (index : Fin capacity) (key : Number) :
    (queue.withKey index key).heap = queue.heap := rfl

theorem keyFor?_withKey {queue : IndexedQueue capacity} {index : Fin capacity}
    (key : Number) (queued : queue.contains index = true) :
    (queue.withKey index key).keyFor? =
      Function.update queue.keyFor? index (some key) := by
  funext other
  have kept : (queue.withKey index key).contains other = queue.contains other :=
    rfl
  have keyNow : (queue.withKey index key).keys.get other =
      if other = index then key else queue.keys.get other :=
    get_replaced queue.keys index other key
  rw [Function.update_apply, keyFor?, kept, keyNow]
  by_cases equal : other = index
  · rw [if_pos equal, if_pos equal, equal, if_pos queued]
  · rw [if_neg equal, if_neg equal, keyFor?]

theorem decreaseKey_eq_ok_iff {queue lowered : IndexedQueue capacity}
    {index : Fin capacity} {key : Number} :
    queue.decreaseKey index key = .ok lowered ↔
      ∃ (place : Nat) (inside : place < queue.heap.size),
        queue.heap[place] = index ∧
        key.atLeast (queue.keys.get index) = false ∧
        (queue.withKey index key).swim place (by rwa [heap_withKey]) =
          lowered := by
  have atPlace (place : Nat) (inside : place < queue.heap.size) :
      queue.position[index] = some place ↔ queue.heap[place] = index := by
    rw [queue.inverse index place, Array.getElem?_eq_getElem inside,
      Option.some.injEq]
  unfold decreaseKey
  split
  · rename_i absent
    constructor
    · nofun
    · rintro ⟨place, inside, here, -⟩
      rw [← atPlace place inside, absent] at here
      cases here
  · rename_i place found
    have inside : place < queue.heap.size :=
      (Array.getElem?_eq_some_iff.mp ((queue.inverse index place).mp found)).1
    have here := (atPlace place inside).mp found
    change (if key.atLeast (queue.keys.get index) = true then _ else _) = _ ↔ _
    split
    · rename_i notSmaller
      constructor
      · nofun
      · rintro ⟨-, -, -, smaller, -⟩
        rw [notSmaller] at smaller
        cases smaller
    · rename_i smaller
      rw [Bool.not_eq_true] at smaller
      constructor
      · intro decreased
        exact ⟨place, inside, here, smaller, Except.ok.inj decreased⟩
      · rintro ⟨other, otherInside, there, -, rfl⟩
        have samePlace := (atPlace other otherInside).mpr there
        rw [found, Option.some.injEq] at samePlace
        subst samePlace
        rfl

theorem decreaseKey_of_absent {queue : IndexedQueue capacity}
    {index : Fin capacity} {key : Number}
    (absent : queue.position.get index = none) :
    queue.decreaseKey index key = .error (.notPresent index) := by
  unfold decreaseKey
  split
  · rfl
  · rename_i place found
    cases absent.symm.trans found

theorem decreaseKey_of_atLeast {queue : IndexedQueue capacity}
    {index : Fin capacity} {key : Number} {place : Nat}
    (found : queue.position.get index = some place)
    (atLeast : key.atLeast (queue.keys.get index) = true) :
    queue.decreaseKey index key =
      .error (.notDecreasing index key (queue.keys.get index)) := by
  unfold decreaseKey
  split
  · rename_i absent
    cases found.symm.trans absent
  · exact if_pos atLeast

theorem decreaseKey_of_not_atLeast {queue : IndexedQueue capacity}
    {index : Fin capacity} {key : Number} {place : Nat}
    (found : queue.position.get index = some place)
    (less : ¬ key.atLeast (queue.keys.get index) = true) :
    ∃ inside : place < (queue.withKey index key).heap.size,
      queue.decreaseKey index key =
        .ok ((queue.withKey index key).swim place inside) := by
  rcases Array.getElem?_eq_some_iff.mp
    ((queue.inverse index place).mp found) with ⟨inside, here⟩
  exact ⟨inside, decreaseKey_eq_ok_iff.mpr
    ⟨place, inside, here, Bool.of_not_eq_true less, rfl⟩⟩

theorem exists_decreaseKey_iff {queue : IndexedQueue capacity}
    {index : Fin capacity} {key : Number} :
    (∃ lowered, queue.decreaseKey index key = .ok lowered) ↔
      ∃ current, queue.keyFor? index = some current ∧
        key.atLeast current = false := by
  simp only [decreaseKey_eq_ok_iff, keyFor?_eq_some_iff, contains_iff_mem_heap,
    Array.mem_iff_getElem]
  constructor
  · rintro ⟨-, place, inside, here, smaller, -⟩
    exact ⟨_, ⟨⟨place, inside, here⟩, rfl⟩, smaller⟩
  · rintro ⟨-, ⟨⟨place, inside, here⟩, rfl⟩, smaller⟩
    exact ⟨_, place, inside, here, smaller, rfl⟩

theorem keyFor?_decreaseKey {queue lowered : IndexedQueue capacity}
    {index : Fin capacity} {key : Number}
    (decreased : queue.decreaseKey index key = .ok lowered) :
    lowered.keyFor? = Function.update queue.keyFor? index (some key) := by
  rcases decreaseKey_eq_ok_iff.mp decreased with ⟨place, inside, rfl, -, rfl⟩
  have queued : queue.contains queue.heap[place] = true :=
    contains_iff_mem_heap.mpr (Array.getElem_mem inside)
  rw [keyFor?_swim, keyFor?_withKey key queued]

theorem keyFor?_removeFirst (queue : IndexedQueue capacity)
    (nonempty : 0 < queue.heap.size) :
    (queue.removeFirst nonempty).keyFor? =
      Function.update queue.keyFor? queue.heap[0] none := by
  funext other
  by_cases first : other = queue.heap[0]
  · subst first
    simp [keyFor?, contains, removeFirst]
  · have notFirst : queue.heap[0].val ≠ other.val :=
      fun same => first (Fin.ext same.symm)
    have kept : (queue.removeFirst nonempty).contains other =
        queue.contains other := by
      simp only [contains, removeFirst, Fin.getElem_fin,
        Vector.getElem_set_ne _ _ notFirst]
      by_cases last : queue.heap[queue.heap.size - 1] = other
      · have queued : queue.contains other = true :=
          contains_iff_mem_heap.mpr (last ▸ Array.getElem_mem _)
        rw [contains, Fin.getElem_fin] at queued
        simp [last, queued]
      · rw [Vector.getElem_set_ne _ _ fun same => last (Fin.ext same)]
    rw [Function.update_of_ne first, keyFor?, kept]
    rfl

theorem deleteMin_eq_ok {queue : IndexedQueue capacity}
    (nonempty : 0 < queue.heap.size) :
    ∃ rest, queue.deleteMin = .ok (queue.heap[0], rest) :=
  ⟨_, dif_pos nonempty⟩

theorem eq_front_of_deleteMin {queue rest : IndexedQueue capacity}
    {least : Fin capacity} (deleted : queue.deleteMin = .ok (least, rest)) :
    ∃ nonempty : 0 < queue.heap.size, queue.heap[0] = least := by
  unfold deleteMin at deleted
  split at deleted
  · rename_i nonempty
    rw [Except.ok.injEq, Prod.mk.injEq] at deleted
    exact ⟨nonempty, deleted.1⟩
  · cases deleted

theorem contains_of_deleteMin {queue rest : IndexedQueue capacity}
    {least : Fin capacity} (deleted : queue.deleteMin = .ok (least, rest)) :
    queue.contains least = true := by
  rcases eq_front_of_deleteMin deleted with ⟨nonempty, rfl⟩
  exact contains_iff_mem_heap.mpr (Array.getElem_mem nonempty)

theorem keyFor?_deleteMin {queue rest : IndexedQueue capacity}
    {least : Fin capacity} (deleted : queue.deleteMin = .ok (least, rest)) :
    rest.keyFor? = Function.update queue.keyFor? least none := by
  unfold deleteMin at deleted
  split at deleted
  · rename_i nonempty
    rw [Except.ok.injEq, Prod.mk.injEq] at deleted
    rcases deleted with ⟨rfl, rfl⟩
    rw [keyFor?_sink, keyFor?_removeFirst]
  · cases deleted

end IndexedQueue

end CallChains
