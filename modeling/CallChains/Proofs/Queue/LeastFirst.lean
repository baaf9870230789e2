import CallChains.Proofs.Number.Order
import CallChains.Proofs.Queue.Contents
import CallChains.Proofs.Queue.HeapOrder
/-!
The least key comes out first. A queue whose keys all have a place on the number
line keeps its heap ordered through every request, so the index at the front has
no greater key than any other.
-/

namespace CallChains.IndexedQueue

variable {capacity : Nat}

/-! ## Ranks -/

/-- The place of the key at a place in the heap. Past the end of the heap, and
for a key without a place on the number line, it is the last one, so that order
says nothing there. -/
def rankAt (queue : IndexedQueue capacity) (place : Nat) : Number.Place :=
  ((queue.heap[place]?).bind fun index => (queue.keys.get index).place?).getD
    .above

theorem le_rankAt_of_size_le {queue : IndexedQueue capacity} {place : Nat}
    (outside : queue.heap.size ≤ place) (rank : Number.Place) :
    rank ≤ queue.rankAt place := by
  rw [rankAt, Array.getElem?_eq_none outside]
  exact rank.le_above

theorem rankAt_exchange (queue : IndexedQueue capacity) (first second : Nat)
    (firstInside : first < queue.heap.size)
    (secondInside : second < queue.heap.size) :
    (queue.exchange first second firstInside secondInside).rankAt =
      exchanged first second queue.rankAt := by
  funext place
  simp only [rankAt, exchange, exchanged, Array.getElem?_swap]
  by_cases atSecond : second = place
  · simp [atSecond, Array.getElem?_eq_getElem firstInside]
  · by_cases atFirst : first = place
    · subst atFirst
      simp [atSecond, Ne.symm atSecond, Array.getElem?_eq_getElem secondInside]
    · simp [atFirst, atSecond, Ne.symm atFirst, Ne.symm atSecond]

theorem rankAt_congr {queue other : IndexedQueue capacity} {place : Nat}
    (sameIndex : other.heap[place]? = queue.heap[place]?)
    (sameKey : ∀ index, queue.heap[place]? = some index →
      other.keys.get index = queue.keys.get index) :
    other.rankAt place = queue.rankAt place := by
  rw [rankAt, rankAt, sameIndex]
  cases found : queue.heap[place]? with
  | none => rfl
  | some index => rw [Option.bind_some, Option.bind_some, sameKey index found]

def Comparable (queue : IndexedQueue capacity) : Prop :=
  ∀ index key, queue.keyFor? index = some key → key.place?.isSome = true

theorem Comparable.congr {queue other : IndexedQueue capacity}
    (comparable : queue.Comparable) (same : other.keyFor? = queue.keyFor?) :
    other.Comparable := by
  unfold Comparable
  rw [same]
  exact comparable

theorem Comparable.update {queue other : IndexedQueue capacity}
    {index : Fin capacity} {key : Option Number} (comparable : queue.Comparable)
    (changed : other.keyFor? = Function.update queue.keyFor? index key)
    (placed : ∀ number, key = some number → number.place?.isSome = true) :
    other.Comparable := by
  intro asked number found
  rw [changed, Function.update_apply] at found
  split at found
  · exact placed number found
  · exact comparable asked number found

theorem Comparable.place?_eq {queue : IndexedQueue capacity}
    (comparable : queue.Comparable) {place : Nat}
    (inside : place < queue.heap.size) :
    (queue.keys.get queue.heap[place]).place? = some (queue.rankAt place) := by
  have queued : queue.contains queue.heap[place] = true :=
    contains_iff_mem_heap.mpr (Array.getElem_mem inside)
  rcases Option.isSome_iff_exists.mp
    (comparable _ _ (keyFor?_eq_some_iff.mpr ⟨queued, rfl⟩)) with
    ⟨rank, found⟩
  rw [rankAt, Array.getElem?_eq_getElem inside, Option.bind_some, found,
    Option.getD_some]

theorem Comparable.less_iff {queue : IndexedQueue capacity}
    (comparable : queue.Comparable) {first second : Nat}
    (firstInside : first < queue.heap.size)
    (secondInside : second < queue.heap.size) :
    queue.less first second firstInside secondInside = true ↔
      queue.rankAt first < queue.rankAt second :=
  Number.lt_of_places (comparable.place?_eq firstInside)
    (comparable.place?_eq secondInside)

/-! ## Restoring the order -/

theorem heapOrdered_swim {queue : IndexedQueue capacity} {place : Nat}
    (inside : place < queue.heap.size) (comparable : queue.Comparable)
    (order : OrderedButFor queue.rankAt place) :
    HeapOrdered (queue.swim place inside).rankAt := by
  fun_induction swim queue place inside with
  | case1 queue inside =>
      exact order.heapOrdered fun behind => absurd behind (Nat.lt_irrefl 0)
  | case2 queue place inside notFront parent parentInside less induction =>
      have behind : 0 < place := Nat.pos_of_ne_zero notFront
      apply induction (comparable.congr (keyFor?_exchange _ _ _ _ _))
      rw [rankAt_exchange]
      exact order.rise behind
        ((comparable.less_iff inside parentInside).mp less)
  | case3 queue place inside notFront parent parentInside notLess =>
      apply order.heapOrdered
      intro _
      apply not_lt.mp
      intro less
      exact notLess ((comparable.less_iff inside parentInside).mpr less)

theorem parentOf_smallerChild (queue : IndexedQueue capacity) (place : Nat)
    (inside : 2 * place + 1 < queue.heap.size) :
    parentOf (queue.smallerChild place inside) = place := by
  have choice : queue.smallerChild place inside = 2 * place + 1 ∨
      queue.smallerChild place inside = 2 * place + 2 := by
    unfold smallerChild
    split
    · split <;> simp
    · simp
  unfold parentOf
  omega

theorem rankAt_smallerChild_le {queue : IndexedQueue capacity}
    (comparable : queue.Comparable) {place : Nat}
    (inside : 2 * place + 1 < queue.heap.size) {child : Nat}
    (behind : 0 < child) (under : parentOf child = place) :
    queue.rankAt (queue.smallerChild place inside) ≤ queue.rankAt child := by
  have choice := eq_or_eq_of_parentOf behind under
  unfold smallerChild
  split
  · rename_i right
    have less := comparable.less_iff right inside
    split
    · rename_i rightLess
      rcases choice with left | right
      · exact left ▸ (less.mp rightLess).le
      · exact right ▸ le_rfl
    · rename_i rightNotLess
      rcases choice with left | right
      · exact left ▸ le_rfl
      · exact right ▸ not_lt.mp fun smaller => rightNotLess (less.mpr smaller)
  · rename_i noRight
    rcases choice with left | right
    · exact left ▸ le_rfl
    · exact right ▸ le_rankAt_of_size_le (Nat.not_lt.mp noRight) _

theorem heapOrdered_sink {queue : IndexedQueue capacity} {place : Nat}
    (comparable : queue.Comparable)
    (order : OrderedButUnder queue.rankAt place) :
    HeapOrdered (queue.sink place).rankAt := by
  fun_induction sink queue place with
  | case1 queue place inside child childInside placeInside less induction =>
      have under : parentOf child = place :=
        queue.parentOf_smallerChild place inside
      have behind : 0 < child :=
        Nat.zero_lt_of_lt (queue.lt_smallerChild place inside)
      apply induction (comparable.congr (keyFor?_exchange _ _ _ _ _))
      rw [rankAt_exchange]
      exact order.fall behind under
        ((comparable.less_iff childInside placeInside).mp less)
        fun other otherBehind sibling =>
          rankAt_smallerChild_le comparable inside otherBehind sibling
  | case2 queue place inside child childInside placeInside notLess =>
      apply order.heapOrdered
      intro other behind under
      have least := rankAt_smallerChild_le comparable inside behind under
      refine le_trans (not_lt.mp fun less => ?_) least
      exact notLess ((comparable.less_iff childInside placeInside).mpr less)
  | case3 queue place noChild =>
      apply order.heapOrdered
      intro child behind under
      have choice := eq_or_eq_of_parentOf behind under
      exact le_rankAt_of_size_le (by omega) _

/-! ## Requests -/

structure Ordered (queue : IndexedQueue capacity) : Prop where
  comparable : queue.Comparable
  heapOrdered : HeapOrdered queue.rankAt

theorem ordered_empty : (empty capacity).Ordered where
  comparable index key found := by simp [keyFor?_empty] at found
  heapOrdered place _ := le_rankAt_of_size_le (Nat.zero_le place) _

theorem rankAt_append_of_ne (queue : IndexedQueue capacity)
    (index : Fin capacity) (key : Number)
    (absent : queue.contains index = false) {place : Nat}
    (notEnd : place ≠ queue.heap.size) :
    (queue.append index key absent).rankAt place = queue.rankAt place := by
  apply rankAt_congr
  · rw [append, Array.getElem?_push, if_neg notEnd]
  · intro other found
    have queued : queue.contains other = true :=
      contains_iff_mem_heap.mpr (Array.mem_of_getElem? found)
    have different : other ≠ index := by
      intro same
      rw [← same, queued] at absent
      cases absent
    exact (get_replaced queue.keys index other key).trans (if_neg different)

theorem Ordered.insert {queue larger : IndexedQueue capacity}
    {index : Fin capacity} {key : Number} (ordered : queue.Ordered)
    (placed : key.place?.isSome = true)
    (inserted : queue.insert index key = .ok larger) : larger.Ordered := by
  unfold IndexedQueue.insert at inserted
  split at inserted
  · rename_i absent
    rw [Except.ok.injEq] at inserted
    subst inserted
    have comparable : (queue.append index key absent).Comparable :=
      ordered.comparable.update (keyFor?_append queue index key absent)
        fun _ same => Option.some.inj same ▸ placed
    refine ⟨comparable.congr (keyFor?_swim _ _ _),
      heapOrdered_swim _ comparable ?_⟩
    -- What lies past the end has the last rank, and before the end nothing has
    -- changed.
    have past {place : Nat} (beyond : queue.heap.size < place)
        (rank : Number.Place) :
        rank ≤ (queue.append index key absent).rankAt place :=
      le_rankAt_of_size_le (by rw [append, Array.size_push]; exact beyond) rank
    constructor
    · intro other behind notEnd
      rcases Nat.lt_or_gt_of_ne notEnd with before | beyond
      · have parentLess := parentOf_lt behind
        rw [rankAt_append_of_ne _ _ _ _ notEnd,
          rankAt_append_of_ne _ _ _ _ (by omega)]
        exact ordered.heapOrdered other behind
      · exact past beyond _
    · intro child behind under _
      have parentLess := parentOf_lt behind
      exact past (under ▸ parentLess) _
  · cases inserted

theorem rankAt_withKey_of_ne {queue : IndexedQueue capacity} {place other : Nat}
    (inside : place < queue.heap.size) (key : Number)
    (elsewhere : other ≠ place) :
    (queue.withKey queue.heap[place] key).rankAt other =
      queue.rankAt other := by
  apply rankAt_congr
  · rw [heap_withKey]
  · intro index found
    -- The tables are inverse to each other, so no index stands at two places.
    have different : index ≠ queue.heap[place] := by
      intro same
      have here := (queue.inverse queue.heap[place] place).mpr
        (Array.getElem?_eq_getElem inside)
      have there := (queue.inverse index other).mpr found
      rw [same, here, Option.some.injEq] at there
      exact elsewhere there.symm
    exact (get_replaced queue.keys queue.heap[place] index key).trans
      (if_neg different)

theorem rankAt_withKey_self {queue : IndexedQueue capacity} {place : Nat}
    (inside : place < queue.heap.size) {key : Number} {rank : Number.Place}
    (placed : key.place? = some rank) :
    (queue.withKey queue.heap[place] key).rankAt place = rank := by
  have newKey : (queue.withKey queue.heap[place] key).keys.get
      queue.heap[place] = key :=
    (get_replaced queue.keys queue.heap[place] queue.heap[place] key).trans
      (if_pos rfl)
  rw [rankAt, heap_withKey, Array.getElem?_eq_getElem inside, Option.bind_some,
    newKey, placed, Option.getD_some]

theorem Ordered.decreaseKey {queue lowered : IndexedQueue capacity}
    {index : Fin capacity} {key : Number} (ordered : queue.Ordered)
    (placed : key.place?.isSome = true)
    (decreased : queue.decreaseKey index key = .ok lowered) :
    lowered.Ordered := by
  rcases decreaseKey_eq_ok_iff.mp decreased with
    ⟨place, inside, rfl, smaller, rfl⟩
  rcases Option.isSome_iff_exists.mp placed with ⟨rank, atRank⟩
  have queued : queue.contains queue.heap[place] = true :=
    contains_iff_mem_heap.mpr (Array.getElem_mem inside)
  have comparable : (queue.withKey queue.heap[place] key).Comparable :=
    ordered.comparable.update (keyFor?_withKey key queued)
      fun _ same => Option.some.inj same ▸ placed
  have fallen : (queue.withKey queue.heap[place] key).rankAt place ≤
      queue.rankAt place := by
    rw [rankAt_withKey_self inside atRank]
    apply le_of_not_ge
    intro above
    rw [← Bool.not_eq_true,
      Number.atLeast_of_places atRank
        (ordered.comparable.place?_eq inside)] at smaller
    exact smaller above
  refine ⟨comparable.congr (keyFor?_swim _ _ _),
    heapOrdered_swim _ comparable ?_⟩
  exact ordered.heapOrdered.orderedButFor fallen fun other elsewhere =>
    rankAt_withKey_of_ne inside key elsewhere

theorem rankAt_removeFirst (queue : IndexedQueue capacity)
    (nonempty : 0 < queue.heap.size) {place : Nat}
    (inside : place < queue.heap.size - 1) (notFront : place ≠ 0) :
    (queue.removeFirst nonempty).rankAt place = queue.rankAt place := by
  simp only [rankAt, removeFirst, Array.getElem?_setIfInBounds,
    Array.getElem?_pop, inside, Ne.symm notFront, if_true, if_false]

theorem Ordered.front_least {queue : IndexedQueue capacity}
    (ordered : queue.Ordered) (nonempty : 0 < queue.heap.size)
    {index : Fin capacity} {key : Number}
    (queued : queue.keyFor? index = some key) :
    key.lt (queue.keys.get queue.heap[0]) = false := by
  rcases keyFor?_eq_some_iff.mp queued with ⟨contained, rfl⟩
  rcases Array.mem_iff_getElem.mp (contains_iff_mem_heap.mp contained) with
    ⟨place, inside, rfl⟩
  have front := ordered.heapOrdered.front_le place
  rw [Bool.eq_false_iff]
  intro less
  exact absurd ((ordered.comparable.less_iff inside nonempty).mp less)
    (not_lt.mpr front)

theorem Ordered.least_of_deleteMin {queue rest : IndexedQueue capacity}
    {least index : Fin capacity} {key : Number} (ordered : queue.Ordered)
    (deleted : queue.deleteMin = .ok (least, rest))
    (queued : queue.keyFor? index = some key) :
    key.lt (queue.keys.get least) = false := by
  rcases eq_front_of_deleteMin deleted with ⟨nonempty, rfl⟩
  exact ordered.front_least nonempty queued

theorem Ordered.deleteMin {queue rest : IndexedQueue capacity}
    {least : Fin capacity} (ordered : queue.Ordered)
    (deleted : queue.deleteMin = .ok (least, rest)) : rest.Ordered := by
  unfold IndexedQueue.deleteMin at deleted
  split at deleted
  · rename_i nonempty
    rw [Except.ok.injEq, Prod.mk.injEq] at deleted
    rcases deleted with ⟨-, rfl⟩
    have comparable : (queue.removeFirst nonempty).Comparable :=
      ordered.comparable.update (keyFor?_removeFirst queue nonempty) (by simp)
    refine ⟨comparable.congr (keyFor?_sink _ _), heapOrdered_sink comparable ?_⟩
    constructor
    · intro other behind notUnderFront
      have parentLess := parentOf_lt behind
      by_cases inside : other < queue.heap.size - 1
      · rw [rankAt_removeFirst _ _ inside (Nat.ne_of_gt behind),
          rankAt_removeFirst _ _ (by omega) notUnderFront]
        exact ordered.heapOrdered other behind
      · exact le_rankAt_of_size_le (by simp [removeFirst]; omega) _
    · intro _ _ _ behind
      exact absurd behind (Nat.lt_irrefl 0)
  · cases deleted

end CallChains.IndexedQueue
