import Mathlib.Order.Lattice
/-!
Heap order, for ranks at any places: no place has a smaller rank than the place
above it. Moving a rank up or down leaves one place at which the order may fail,
and each exchange moves that place on.
-/

namespace CallChains

/-! ## Places -/

def parentOf (place : Nat) : Nat := (place - 1) / 2

theorem parentOf_lt {place : Nat} (behind : 0 < place) :
    parentOf place < place := by
  unfold parentOf
  omega

theorem eq_or_eq_of_parentOf {child place : Nat} (behind : 0 < child)
    (parent : parentOf child = place) :
    child = 2 * place + 1 ∨ child = 2 * place + 2 := by
  unfold parentOf at parent
  omega

def exchanged {Rank : Type} (first second : Nat) (rank : Nat → Rank)
    (place : Nat) : Rank :=
  if place = second then rank first else if place = first then rank second
  else rank place

section Exchanged

variable {Rank : Type} {rank : Nat → Rank} {first second : Nat}

@[simp] theorem exchanged_second :
    exchanged first second rank second = rank first := by
  simp [exchanged]

@[simp] theorem exchanged_first :
    exchanged first second rank first = rank second := by
  by_cases equal : first = second <;> simp [exchanged, equal]

theorem exchanged_other {place : Nat} (notFirst : place ≠ first)
    (notSecond : place ≠ second) :
    exchanged first second rank place = rank place := by
  simp [exchanged, notFirst, notSecond]

end Exchanged

/-! ## Order -/

section HeapOrder

variable {Rank : Type} [LinearOrder Rank] {rank : Nat → Rank} {place : Nat}

def HeapOrdered (rank : Nat → Rank) : Prop :=
  ∀ place, 0 < place → rank (parentOf place) ≤ rank place

theorem HeapOrdered.front_le (ordered : HeapOrdered rank) (place : Nat) :
    rank 0 ≤ rank place := by
  induction place using Nat.strongRecOn with
  | ind place induction =>
      by_cases front : place = 0
      · rw [front]
      · have behind : 0 < place := Nat.pos_of_ne_zero front
        exact (induction (parentOf place) (parentOf_lt behind)).trans
          (ordered place behind)

/-! ## Moving up -/

/-- Heap order, except that a place may rank below the one above it. What is
below the place could take the place of what is above it. -/
structure OrderedButFor (rank : Nat → Rank) (place : Nat) : Prop where
  others : ∀ other, 0 < other → other ≠ place →
    rank (parentOf other) ≤ rank other
  below : ∀ child, 0 < child → parentOf child = place → 0 < place →
    rank (parentOf place) ≤ rank child

theorem OrderedButFor.heapOrdered (order : OrderedButFor rank place)
    (settled : 0 < place → rank (parentOf place) ≤ rank place) :
    HeapOrdered rank := by
  intro other behind
  by_cases equal : other = place
  · subst equal
    exact settled behind
  · exact order.others other behind equal

/-- A place that ranks below the one above it is exchanged with it, and the
failure moves up. -/
theorem OrderedButFor.rise (order : OrderedButFor rank place)
    (behind : 0 < place) (smaller : rank place < rank (parentOf place)) :
    OrderedButFor (exchanged place (parentOf place) rank) (parentOf place) := by
  have parentLess := parentOf_lt behind
  constructor
  · intro other otherBehind notParent
    by_cases equal : other = place
    · rw [equal]
      simpa using smaller.le
    · have ordered := order.others other otherBehind equal
      rw [exchanged_other equal notParent]
      by_cases underPlace : parentOf other = place
      · simpa [underPlace] using order.below other otherBehind underPlace behind
      · by_cases sibling : parentOf other = parentOf place
        · rw [sibling] at ordered ⊢
          simpa using smaller.le.trans ordered
        · rw [exchanged_other underPlace sibling]
          exact ordered
  · intro child childBehind underParent parentBehind
    have grandLess := parentOf_lt parentBehind
    have childLess := parentOf_lt childBehind
    have above :=
      order.others (parentOf place) parentBehind (Nat.ne_of_lt parentLess)
    rw [exchanged_other (by omega) (Nat.ne_of_lt grandLess)]
    by_cases equal : child = place
    · simpa [equal] using above
    · have ordered := order.others child childBehind equal
      rw [underParent] at ordered
      rw [exchanged_other equal (by omega)]
      exact above.trans ordered

theorem HeapOrdered.orderedButFor (ordered : HeapOrdered rank)
    {lowered : Nat → Rank} (fallen : lowered place ≤ rank place)
    (others : ∀ other, other ≠ place → lowered other = rank other) :
    OrderedButFor lowered place := by
  constructor
  · intro other behind different
    rw [others other different]
    by_cases under : parentOf other = place
    · rw [under]
      apply fallen.trans
      rw [← under]
      exact ordered other behind
    · rw [others _ under]
      exact ordered other behind
  · intro child behind under placeBehind
    have childLess := parentOf_lt behind
    have placeLess := parentOf_lt placeBehind
    rw [others child (by omega), others (parentOf place) (by omega)]
    calc rank (parentOf place) ≤ rank place := ordered place placeBehind
      _ = rank (parentOf child) := by rw [under]
      _ ≤ rank child := ordered child behind

/-! ## Moving down -/

/-- Heap order, except that a place may rank above the ones below it. What is
below the place could take its place. -/
structure OrderedButUnder (rank : Nat → Rank) (place : Nat) : Prop where
  others : ∀ other, 0 < other → parentOf other ≠ place →
    rank (parentOf other) ≤ rank other
  below : ∀ child, 0 < child → parentOf child = place → 0 < place →
    rank (parentOf place) ≤ rank child

theorem OrderedButUnder.heapOrdered (order : OrderedButUnder rank place)
    (settled : ∀ child, 0 < child → parentOf child = place →
      rank place ≤ rank child) :
    HeapOrdered rank := by
  intro other behind
  by_cases under : parentOf other = place
  · rw [under]
    exact settled other behind under
  · exact order.others other behind under

/-- A place that ranks above the least one below it is exchanged with that, and
the failure moves down. -/
theorem OrderedButUnder.fall (order : OrderedButUnder rank place) {child : Nat}
    (behind : 0 < child) (under : parentOf child = place)
    (smaller : rank child < rank place)
    (least : ∀ other, 0 < other → parentOf other = place →
      rank child ≤ rank other) :
    OrderedButUnder (exchanged child place rank) child := by
  have placeLess : place < child := under ▸ parentOf_lt behind
  constructor
  · intro other otherBehind notUnderChild
    have otherLess := parentOf_lt otherBehind
    by_cases equal : other = child
    · rw [equal, under]
      simpa using smaller.le
    · by_cases sibling : parentOf other = place
      · rw [sibling, exchanged_other equal (by omega)]
        simpa using least other otherBehind sibling
      · have ordered := order.others other otherBehind sibling
        rw [exchanged_other notUnderChild sibling]
        by_cases atPlace : other = place
        · subst atPlace
          simpa using order.below child behind under otherBehind
        · rw [exchanged_other equal atPlace]
          exact ordered
  · intro grandchild grandchildBehind underChild _
    have childLess := parentOf_lt grandchildBehind
    have ordered := order.others grandchild grandchildBehind (by omega)
    rw [underChild] at ordered
    have kept : exchanged child place rank grandchild = rank grandchild :=
      exchanged_other (by omega) (by omega)
    simpa [under, kept] using ordered

end HeapOrder

end CallChains
