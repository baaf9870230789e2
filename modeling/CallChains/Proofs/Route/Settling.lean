import CallChains.Proofs.Graph.Walk
import CallChains.Proofs.Queue.LeastFirst
import CallChains.Proofs.Route.Numbering
import CallChains.Route.Search
import Mathlib.Data.Fintype.Card
/-!
What a search for shortest paths keeps true. Between two visits every queued
node is one call farther away than the last visited one or as far, every visited
node is at most as far, and all explicit calls out of visited nodes have been
followed. So a node that is queued is never found again at a smaller distance,
and no distance of a visited node changes.
-/

namespace CallChains.Search

variable {vertices : VertexIndex}

/-! ## The invariant -/

def IsSettled (search : Search vertices) (index : Fin vertices.size)
    (hops : Nat) : Prop :=
  search.distances.get index = .int hops ∧ search.queue.contains index = false

def settledCount (search : Search vertices) : Nat :=
  (Finset.univ.filter fun index : Fin vertices.size =>
    (search.distances.get index).isReached = true ∧
    search.queue.contains index = false).card

/-- The state of a search that has last visited a node at distance `level` and
has yet to follow the `pending` calls out of that node. -/
structure Sound (graph : CallGraph) (source : Fin vertices.size)
    (limit : Option Nat) (level : Nat) (pending : List Edge)
    (search : Search vertices) : Prop where
  ordered : search.queue.Ordered
  counts : ∀ index : Fin vertices.size,
    (∃ hops : Nat, search.distances.get index = .int hops) ∨
    search.distances.get index = .infinity
  queued : ∀ index key, search.queue.keyFor? index = some key →
    search.distances.get index = key ∧
    ∃ hops : Nat, key = .int hops ∧ level ≤ hops ∧ hops ≤ level + 1
  settled : ∀ index hops, search.IsSettled index hops → hops ≤ level
  atSource : search.distances.get source = .int 0
  root : search.predecessors.get source = none
  found : ∀ index : Fin vertices.size, index ≠ source → ∀ hops : Nat,
    search.distances.get index = .int hops →
      ∃ call, search.predecessors.get index = some call
  tight : ∀ (index : Fin vertices.size) (call : Edge),
    search.predecessors.get index = some call →
    graph.IsExplicitCall call ∧ call.target = vertices.nodeAt index ∧
      ∃ caller hops, call.source = vertices.nodeAt caller ∧
        search.IsSettled caller hops ∧
        search.distances.get index = .int (hops + 1 : Nat)
  relaxed : ∀ call, graph.IsExplicitCall call → ∀ caller hops,
    call.source = vertices.nodeAt caller → search.IsSettled caller hops →
      call ∈ pending ∨
      ∃ callee : Fin vertices.size, ∃ least : Nat,
        call.target = vertices.nodeAt callee ∧
        search.distances.get callee = .int least ∧ least ≤ hops + 1
  budget : search.budget =
    { limit, label := "shortest-path search", visited := search.settledCount }
  within : ∀ most, limit = some most → search.settledCount ≤ most

variable {graph : CallGraph} {source : Fin vertices.size} {limit : Option Nat}
  {level : Nat} {pending : List Edge} {search : Search vertices}

theorem Sound.le_level (sound : search.Sound graph source limit level pending)
    {index : Fin vertices.size} {hops : Nat}
    (distance : search.distances.get index = .int hops) :
    hops ≤ level + 1 := by
  cases contained : search.queue.contains index with
  | false =>
      exact (sound.settled index hops ⟨distance, contained⟩).trans
        (Nat.le_succ level)
  | true =>
      rcases sound.queued index _
        (IndexedQueue.keyFor?_eq_some_iff.mpr ⟨contained, rfl⟩) with
        ⟨same, other, equal, -, bound⟩
      rw [distance, equal, Number.int.injEq] at same
      omega

theorem Sound.not_queued (sound : search.Sound graph source limit level pending)
    {index : Fin vertices.size}
    (unreached : search.distances.get index = .infinity) :
    search.queue.contains index = false := by
  by_contra contained
  rcases sound.queued index _
    (IndexedQueue.keyFor?_eq_some_iff.mpr ⟨by simpa using contained, rfl⟩) with
    ⟨same, hops, equal, -⟩
  rw [unreached, equal] at same
  exact Number.int_ne_infinity _ same.symm

/-! ## Following a call -/

def discover (search : Search vertices) (index : Fin vertices.size) (hops : Nat)
    (call : Edge) (queue : IndexedQueue vertices.size) : Search vertices :=
  { search with
    queue
    distances := replaced search.distances index (.int hops)
    predecessors := replaced search.predecessors index (some call) }

section Discover

variable {index : Fin vertices.size} {hops : Nat} {call : Edge}
  {queue : IndexedQueue vertices.size}

theorem distances_discover (other : Fin vertices.size) :
    (search.discover index hops call queue).distances.get other =
      if other = index then .int hops else search.distances.get other :=
  get_replaced search.distances index other (.int hops)

theorem predecessors_discover (other : Fin vertices.size) :
    (search.discover index hops call queue).predecessors.get other =
      if other = index then some call else search.predecessors.get other :=
  get_replaced search.predecessors index other (some call)

end Discover

/-- One call is followed in one of two ways: it changes nothing, because it is
not explicit or its target is near enough, or it finds a node that was not found
before. -/
theorem Sound.relax_cases {call : Edge}
    (sound : search.Sound graph source limit level pending)
    (known : ∀ node ∈ graph.nodes, node ∈ vertices.nodes)
    (member : call ∈ graph.edges) {caller : Fin vertices.size}
    (visited : search.IsSettled caller level) :
    (search.relax caller call = .ok search ∧ (call.explicit = true →
      ∃ callee : Fin vertices.size, ∃ least : Nat,
        call.target = vertices.nodeAt callee ∧
        search.distances.get callee = .int least ∧ least ≤ level + 1)) ∨
    ∃ (callee : Fin vertices.size) (queue : IndexedQueue vertices.size),
      call.explicit = true ∧
      call.target = vertices.nodeAt callee ∧
      search.distances.get callee = .infinity ∧
      search.queue.insert callee (.int (level + 1 : Nat)) = .ok queue ∧
      search.relax caller call =
        .ok (search.discover callee (level + 1) call queue) := by
  by_cases explicit : call.explicit = true
  · rcases VertexIndex.exists_indexOf?_iff.mpr
      (known _ (CallGraph.target_mem_nodes member)) with
      ⟨callee, target⟩
    have calleeNode := (VertexIndex.indexOf?_eq_some_iff.mp target).symm
    have candidate : search.distances[caller].addOne =
        .int (level + 1 : Nat) := by
      change (search.distances.get caller).addOne = _
      rw [visited.1]
      rfl
    -- Every distance is at most one call beyond the level, so a call can only
    -- lower a distance that is infinite.
    rcases sound.counts callee with ⟨hops, distance⟩ | unreached
    · have near := sound.le_level distance
      have notCloser : (Number.int (level + 1 : Nat)).lt
          search.distances[callee] = false := by
        change Number.lt _ (search.distances.get callee) = _
        rw [distance, Number.lt_int]
        exact decide_eq_false (by omega)
      refine Or.inl ⟨?_, fun _ => ⟨callee, hops, calleeNode, distance, near⟩⟩
      simp only [relax, explicit, target, candidate, notCloser]
      rfl
    · have absent := sound.not_queued unreached
      rcases IndexedQueue.insert_eq_ok (.int (level + 1 : Nat)) absent with
        ⟨queue, inserted⟩
      have closer : (Number.int (level + 1 : Nat)).lt search.distances[callee] =
          true := by
        change Number.lt _ (search.distances.get callee) = _
        rw [unreached]
        exact Number.int_lt_infinity _
      refine Or.inr ⟨callee, queue, explicit, calleeNode, unreached, inserted,
        ?_⟩
      simp only [relax, explicit, target, candidate, closer, enqueue, absent,
        inserted]
      rfl
  · refine Or.inl ⟨?_, fun wrong => absurd wrong explicit⟩
    rw [Bool.not_eq_true] at explicit
    rw [relax, if_pos explicit]

section Discovered

variable {callee : Fin vertices.size} {queue : IndexedQueue vertices.size}
  {hops : Nat} {call : Edge}

theorem isSettled_discover (unreached : search.distances.get callee = .infinity)
    (inserted : queue.keyFor? =
      Function.update search.queue.keyFor? callee (some (.int hops)))
    (index : Fin vertices.size) (count : Nat) :
    (search.discover callee hops call queue).IsSettled index count ↔
      search.IsSettled index count := by
  have contains := IndexedQueue.contains_of_update inserted index
  unfold IsSettled
  rw [distances_discover]
  change _ ∧ queue.contains index = false ↔ _
  rw [contains]
  by_cases equal : index = callee
  · subst equal
    simp [unreached]
  · rw [if_neg equal, if_neg equal]

theorem settledCount_discover
    (unreached : search.distances.get callee = .infinity)
    (inserted : queue.keyFor? =
      Function.update search.queue.keyFor? callee (some (.int hops))) :
    (search.discover callee hops call queue).settledCount =
      search.settledCount := by
  unfold settledCount
  congr 1
  apply Finset.filter_congr
  intro index _
  have contains := IndexedQueue.contains_of_update inserted index
  rw [distances_discover]
  change _ ∧ queue.contains index = false ↔ _
  rw [contains]
  by_cases equal : index = callee
  · subst equal
    simp [unreached]
  · rw [if_neg equal, if_neg equal]

end Discovered

/-- An explicit call out of a visited node leads to a node that was not found
before, and the queue takes that node in. -/
structure Discovery (graph : CallGraph) (level : Nat) (search : Search vertices)
    (call : Edge) (caller callee : Fin vertices.size)
    (queue : IndexedQueue vertices.size) : Prop where
  visited : search.IsSettled caller level
  callerNode : call.source = vertices.nodeAt caller
  explicit : graph.IsExplicitCall call
  calleeNode : call.target = vertices.nodeAt callee
  unreached : search.distances.get callee = .infinity
  inserted : search.queue.insert callee (.int (level + 1 : Nat)) = .ok queue

section Discovery

variable {call : Edge} {caller callee : Fin vertices.size}
  {queue : IndexedQueue vertices.size}

theorem Discovery.contents
    (discovery : Discovery graph level search call caller callee queue) :
    queue.keyFor? = Function.update search.queue.keyFor? callee
      (some (.int (level + 1 : Nat))) :=
  IndexedQueue.keyFor?_insert discovery.inserted

theorem Discovery.isSettled_iff
    (discovery : Discovery graph level search call caller callee queue)
    (index : Fin vertices.size) (count : Nat) :
    (search.discover callee (level + 1) call queue).IsSettled index count ↔
      search.IsSettled index count :=
  isSettled_discover discovery.unreached discovery.contents index count

theorem Discovery.settledCount_eq
    (discovery : Discovery graph level search call caller callee queue) :
    (search.discover callee (level + 1) call queue).settledCount =
      search.settledCount :=
  settledCount_discover discovery.unreached discovery.contents

theorem Discovery.distance_kept
    (discovery : Discovery graph level search call caller callee queue)
    {index : Fin vertices.size} {count : Nat}
    (distance : search.distances.get index = .int count) :
    (search.discover callee (level + 1) call queue).distances.get index =
      .int count := by
  rw [distances_discover, if_neg]
  · exact distance
  · rintro rfl
    rw [discovery.unreached] at distance
    exact Number.int_ne_infinity _ distance.symm

theorem Discovery.source_ne
    (discovery : Discovery graph level search call caller callee queue)
    (atSource : search.distances.get source = .int 0) : source ≠ callee := by
  rintro rfl
  have unreached := discovery.unreached
  rw [atSource] at unreached
  exact Number.int_ne_infinity 0 unreached

theorem Sound.queued_discover
    (sound : search.Sound graph source limit level (call :: pending))
    (discovery : Discovery graph level search call caller callee queue)
    (index : Fin vertices.size) (key : Number)
    (isQueued : queue.keyFor? index = some key) :
    (search.discover callee (level + 1) call queue).distances.get index = key ∧
      ∃ hops : Nat, key = .int hops ∧ level ≤ hops ∧ hops ≤ level + 1 := by
  rw [discovery.contents, Function.update_apply] at isQueued
  rw [distances_discover]
  split at isQueued
  · rename_i equal
    rcases Option.some.inj isQueued with rfl
    rw [if_pos equal]
    exact ⟨rfl, level + 1, rfl, Nat.le_succ level, le_rfl⟩
  · rename_i different
    rw [if_neg different]
    exact sound.queued index key isQueued

theorem Sound.tight_discover
    (sound : search.Sound graph source limit level (call :: pending))
    (discovery : Discovery graph level search call caller callee queue)
    (index : Fin vertices.size) (last : Edge)
    (predecessor : (search.discover callee (level + 1) call
      queue).predecessors.get index = some last) :
    graph.IsExplicitCall last ∧ last.target = vertices.nodeAt index ∧
      ∃ before hops, last.source = vertices.nodeAt before ∧
        (search.discover callee (level + 1) call queue).IsSettled before hops ∧
        (search.discover callee (level + 1) call queue).distances.get index =
          .int (hops + 1 : Nat) := by
  rw [predecessors_discover] at predecessor
  split at predecessor
  · rename_i equal
    rcases Option.some.inj predecessor with rfl
    refine ⟨discovery.explicit, equal ▸ discovery.calleeNode, caller, level,
      discovery.callerNode, ?_, ?_⟩
    · exact (discovery.isSettled_iff caller level).mpr discovery.visited
    · rw [distances_discover, if_pos equal]
  · rcases sound.tight index last predecessor with
      ⟨isExplicit, rightEnd, before, count, start, isSettled, distance⟩
    exact ⟨isExplicit, rightEnd, before, count, start,
      (discovery.isSettled_iff before count).mpr isSettled,
      discovery.distance_kept distance⟩

theorem Sound.relaxed_discover
    (sound : search.Sound graph source limit level (call :: pending))
    (discovery : Discovery graph level search call caller callee queue)
    (other : Edge) (isExplicit : graph.IsExplicitCall other)
    (before : Fin vertices.size) (count : Nat)
    (start : other.source = vertices.nodeAt before)
    (isSettled : search.IsSettled before count) :
    other ∈ pending ∨ ∃ after : Fin vertices.size, ∃ least : Nat,
      other.target = vertices.nodeAt after ∧
      (search.discover callee (level + 1) call queue).distances.get after =
        .int least ∧
      least ≤ count + 1 := by
  rcases sound.relaxed other isExplicit before count start isSettled with
    member | ⟨after, least, finish, distance, bound⟩
  · rcases List.mem_cons.mp member with rfl | member
    · have sameCaller :=
        vertices.nodeAt_injective (start.symm.trans discovery.callerNode)
      have sameCount := isSettled.1
      rw [sameCaller, discovery.visited.1, Number.int.injEq] at sameCount
      refine Or.inr ⟨callee, level + 1, discovery.calleeNode, ?_, by omega⟩
      rw [distances_discover, if_pos rfl]
    · exact Or.inl member
  · exact Or.inr ⟨after, least, finish, discovery.distance_kept distance, bound⟩

theorem Sound.discover
    (sound : search.Sound graph source limit level (call :: pending))
    (discovery : Discovery graph level search call caller callee queue) :
    (search.discover callee (level + 1) call queue).Sound graph source limit
      level pending := by
  have notSource := discovery.source_ne sound.atSource
  constructor
  case ordered => exact sound.ordered.insert rfl discovery.inserted
  case counts =>
    intro index
    rw [distances_discover]
    split
    · exact Or.inl ⟨level + 1, rfl⟩
    · exact sound.counts index
  case queued => exact sound.queued_discover discovery
  case settled =>
    intro index count isSettled
    exact sound.settled index count
      ((discovery.isSettled_iff index count).mp isSettled)
  case atSource => exact discovery.distance_kept sound.atSource
  case root =>
    rw [predecessors_discover, if_neg notSource]
    exact sound.root
  case found =>
    intro index different count distance
    rw [predecessors_discover]
    rw [distances_discover] at distance
    split at distance
    · rename_i equal
      exact ⟨call, if_pos equal⟩
    · rename_i notCallee
      rw [if_neg notCallee]
      exact sound.found index different count distance
  case tight => exact sound.tight_discover discovery
  case relaxed =>
    intro other isExplicit before count start isSettled
    exact sound.relaxed_discover discovery other isExplicit before count start
      ((discovery.isSettled_iff before count).mp isSettled)
  case budget =>
    rw [discovery.settledCount_eq]
    exact sound.budget
  case within =>
    rw [discovery.settledCount_eq]
    exact sound.within

end Discovery

theorem Sound.drop {call : Edge}
    (sound : search.Sound graph source limit level (call :: pending))
    {caller : Fin vertices.size} (visited : search.IsSettled caller level)
    (callerNode : call.source = vertices.nodeAt caller)
    (followed : call.explicit = true →
      ∃ callee : Fin vertices.size, ∃ least : Nat,
        call.target = vertices.nodeAt callee ∧
        search.distances.get callee = .int least ∧ least ≤ level + 1) :
    search.Sound graph source limit level pending where
  __ := sound
  relaxed other isExplicit before count start isSettled := by
    rcases sound.relaxed other isExplicit before count start isSettled with
      member | near
    · rcases List.mem_cons.mp member with rfl | member
      · have sameCaller :=
          vertices.nodeAt_injective (start.symm.trans callerNode)
        have sameCount := isSettled.1
        rw [sameCaller, visited.1, Number.int.injEq] at sameCount
        rcases followed isExplicit.2 with
          ⟨callee, least, finish, distance, bound⟩
        exact Or.inr ⟨callee, least, finish, distance, by omega⟩
      · exact Or.inl member
    · exact Or.inr near

theorem Sound.relax {call : Edge}
    (sound : search.Sound graph source limit level (call :: pending))
    (known : ∀ node ∈ graph.nodes, node ∈ vertices.nodes)
    (member : call ∈ graph.edges) {caller : Fin vertices.size}
    (visited : search.IsSettled caller level)
    (callerNode : call.source = vertices.nodeAt caller) :
    ∃ next, search.relax caller call = .ok next ∧
      next.Sound graph source limit level pending ∧
      next.IsSettled caller level ∧ next.budget = search.budget := by
  rcases sound.relax_cases known member visited with
    ⟨kept, followed⟩
    | ⟨callee, queue, explicit, calleeNode, unreached, inserted, found⟩
  · exact ⟨search, kept, sound.drop visited callerNode followed, visited, rfl⟩
  · have discovery : Discovery graph level search call caller callee queue :=
      ⟨visited, callerNode, ⟨member, explicit⟩, calleeNode, unreached, inserted⟩
    exact ⟨_, found, sound.discover discovery,
      (discovery.isSettled_iff caller level).mpr visited, rfl⟩

theorem Sound.relaxAll {caller : Fin vertices.size} {calls : List Edge}
    (sound : search.Sound graph source limit level calls)
    (known : ∀ node ∈ graph.nodes, node ∈ vertices.nodes)
    (outgoing : ∀ call ∈ calls,
      call ∈ graph.edges ∧ call.source = vertices.nodeAt caller)
    (visited : search.IsSettled caller level) :
    ∃ next, calls.foldlM (Search.relax caller) search = .ok next ∧
      next.Sound graph source limit level [] ∧ next.budget = search.budget := by
  induction calls generalizing search with
  | nil => exact ⟨search, rfl, sound, rfl⟩
  | cons call rest induction =>
      rcases outgoing call List.mem_cons_self with ⟨member, callerNode⟩
      rcases sound.relax known member visited callerNode with
        ⟨next, relaxed, nextSound, nextVisited, samePaid⟩
      rcases induction nextSound
        (fun other later => outgoing other (List.mem_cons_of_mem call later))
        nextVisited with
        ⟨last, followed, lastSound, paid⟩
      refine ⟨last, ?_, lastSound, paid.trans samePaid⟩
      rw [List.foldlM_cons, relaxed]
      exact followed

/-! ## Visiting a node -/

def takeOut (search : Search vertices) (queue : IndexedQueue vertices.size) :
    Search vertices :=
  { search with queue, budget := search.budget.charge }

section TakenOut

variable {nearest : Fin vertices.size} {rest : IndexedQueue vertices.size}
  {hops : Nat}

theorem isSettled_takeOut
    (remaining : rest.keyFor? =
      Function.update search.queue.keyFor? nearest none)
    (distance : search.distances.get nearest = .int hops)
    (index : Fin vertices.size) (count : Nat) :
    (search.takeOut rest).IsSettled index count ↔
      (index = nearest ∧ count = hops) ∨
      (index ≠ nearest ∧ search.IsSettled index count) := by
  have contains := IndexedQueue.contains_of_update remaining index
  unfold IsSettled
  change _ ∧ rest.contains index = false ↔ _
  rw [contains]
  change search.distances.get index = .int count ∧ _ ↔ _
  by_cases equal : index = nearest
  · subst equal
    simp only [distance, if_true, Option.isSome_none, and_true,
      Number.int.injEq, Int.ofNat_inj, true_and, ne_eq, not_true_eq_false,
      false_and, or_false]
    exact eq_comm
  · simp [equal]

theorem settledCount_takeOut
    (remaining : rest.keyFor? =
      Function.update search.queue.keyFor? nearest none)
    (distance : search.distances.get nearest = .int hops)
    (queued : search.queue.contains nearest = true) :
    (search.takeOut rest).settledCount = search.settledCount + 1 := by
  unfold settledCount
  have fresh : nearest ∉ Finset.univ.filter fun index : Fin vertices.size =>
      (search.distances.get index).isReached = true ∧
      search.queue.contains index = false := by
    simp [queued]
  rw [← Finset.card_insert_of_notMem fresh]
  congr 1
  ext index
  have contains := IndexedQueue.contains_of_update remaining index
  rw [Finset.mem_insert, Finset.mem_filter, Finset.mem_filter]
  change _ ∧ (search.distances.get index).isReached = true ∧
    rest.contains index = false ↔ _
  rw [contains]
  by_cases equal : index = nearest
  · subst equal
    simp [distance]
  · simp [equal]

/-- When the nearest queued node is taken out, its distance is the new level,
and the calls out of it are pending. -/
theorem Sound.takeOut (sound : search.Sound graph source limit level [])
    (deleted : search.queue.deleteMin = .ok (nearest, rest))
    (affordable : ∀ most, limit = some most → search.settledCount < most) :
    ∃ hops, (search.takeOut rest).Sound graph source limit hops
        (graph.edgesOutOf (vertices.nodeAt nearest)) ∧
      (search.takeOut rest).IsSettled nearest hops := by
  have remaining := IndexedQueue.keyFor?_deleteMin deleted
  have queued := IndexedQueue.contains_of_deleteMin deleted
  rcases sound.queued nearest _
    (IndexedQueue.keyFor?_eq_some_iff.mpr ⟨queued, rfl⟩) with
    ⟨sameKey, hops, key, fromLevel, toLevel⟩
  have distance : search.distances.get nearest = .int hops := sameKey.trans key
  have settledNow (index : Fin vertices.size) (count : Nat) :=
    isSettled_takeOut remaining distance index count
  have stillSettled {index : Fin vertices.size} {count : Nat}
      (isSettled : search.IsSettled index count) :
        (search.takeOut rest).IsSettled index count := by
    refine (settledNow index count).mpr (Or.inr ⟨?_, isSettled⟩)
    rintro rfl
    rw [isSettled.2] at queued
    cases queued
  refine ⟨hops, ?_, (settledNow nearest hops).mpr (Or.inl ⟨rfl, rfl⟩)⟩
  constructor
  case ordered => exact sound.ordered.deleteMin deleted
  case counts => exact sound.counts
  case queued =>
    intro index otherKey isQueued
    change rest.keyFor? index = some otherKey at isQueued
    rw [remaining, Function.update_apply] at isQueued
    split at isQueued
    · cases isQueued
    · rcases sound.queued index otherKey isQueued with
        ⟨same, count, isCount, fromLevel, withinLevel⟩
      have least := sound.ordered.least_of_deleteMin deleted isQueued
      rw [isCount, key, Number.lt_int, decide_eq_false_iff_not] at least
      exact ⟨same, count, isCount, by omega, by omega⟩
  case settled =>
    intro index count isSettled
    rcases (settledNow index count).mp isSettled with ⟨-, rfl⟩ | ⟨-, before⟩
    · exact le_rfl
    · exact (sound.settled index count before).trans fromLevel
  case atSource => exact sound.atSource
  case root => exact sound.root
  case found => exact sound.found
  case tight =>
    intro index last predecessor
    rcases sound.tight index last predecessor with
      ⟨explicit, rightEnd, before, count, start, isSettled, after⟩
    exact ⟨explicit, rightEnd, before, count, start, stillSettled isSettled,
      after⟩
  case relaxed =>
    -- The calls out of the node taken out are pending, and for the nodes
    -- settled before nothing has changed.
    intro call explicit before count start isSettled
    rcases (settledNow before count).mp isSettled with ⟨rfl, -⟩ | ⟨-, earlier⟩
    · exact Or.inl (CallGraph.mem_edgesOutOf.mpr ⟨explicit.1, start⟩)
    · exact Or.inr
        ((sound.relaxed call explicit before count start earlier).resolve_left
        List.not_mem_nil)
  case budget =>
    rw [settledCount_takeOut remaining distance queued]
    change search.budget.charge = _
    rw [sound.budget]
    rfl
  case within =>
    rw [settledCount_takeOut remaining distance queued]
    exact affordable

end TakenOut

end CallChains.Search
