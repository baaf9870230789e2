import CallChains.Proofs.Route.Moments
/-!
The order in which a search for shortest paths takes out its nodes. Every node
that explicit calls reach is put into the queue once, under the distance that it
keeps, and taken out once; distances never decrease from one taken out node to
the next. The last call on the chain to a node is the first explicit call to it
out of the first node taken out that has one.
-/

namespace CallChains

def Edge.isExplicitTo (call : Edge) (node : Node) : Bool :=
  call.explicit && call.target = node

theorem Edge.isExplicitTo_iff {call : Edge} {node : Node} :
    call.isExplicitTo node = true ↔
      call.explicit = true ∧ call.target = node := by
  simp [isExplicitTo]

/-! ## Events of one node -/

namespace QueueEvent

variable {capacity : Nat} {events : List (QueueEvent capacity)}
  {index : Fin capacity} {key : Number}

def Precedes (earlier later : QueueEvent capacity) : Prop :=
  earlier.index = later.index →
    (∃ key, earlier = .inserted earlier.index key) ∧
    later = .extracted later.index

theorem pairwise_concat {Value : Type} {related : Value → Value → Prop}
    {values : List Value} {last : Value} :
    (values ++ [last]).Pairwise related ↔
      values.Pairwise related ∧ ∀ earlier ∈ values, related earlier last := by
  simp [List.pairwise_append]

theorem filter_index_eq (orderly : events.Pairwise Precedes)
    (inserted : .inserted index key ∈ events)
    (extracted : .extracted index ∈ events) :
    events.filter (·.index = index) =
      [.inserted index key, .extracted index] := by
  have insertedToo : .inserted index key ∈ events.filter (·.index = index) := by
    simp [inserted, QueueEvent.index]
  have extractedToo : .extracted index ∈ events.filter (·.index = index) := by
    simp [extracted, QueueEvent.index]
  have pairs : (events.filter (·.index = index)).Pairwise fun earlier later =>
      (∃ key, earlier = .inserted index key) ∧ later = .extracted index := by
    refine (orderly.filter _).imp_of_mem
      fun {earlier later} isEarlier isLater precedes => ?_
    have earlierIndex : earlier.index = index := by
      simpa using List.of_mem_filter isEarlier
    have laterIndex : later.index = index := by
      simpa using List.of_mem_filter isLater
    rw [Precedes, earlierIndex, laterIndex] at precedes
    exact precedes rfl
  generalize events.filter (·.index = index) = own at *
  rcases own with _ | ⟨first, _ | ⟨second, _ | ⟨third, rest⟩⟩⟩
  · cases insertedToo
  · rw [List.mem_singleton] at insertedToo extractedToo
    cases insertedToo.trans extractedToo.symm
  · rcases (List.pairwise_cons.mp pairs).1 second List.mem_cons_self with
      ⟨⟨other, rfl⟩, rfl⟩
    rcases List.mem_cons.mp insertedToo with same | impossible
    · rw [same]
    · cases List.mem_singleton.mp impossible
  · rcases List.pairwise_cons.mp pairs with ⟨firstPairs, laterPairs⟩
    have takenOut := (firstPairs second List.mem_cons_self).2
    rcases ((List.pairwise_cons.mp laterPairs).1 third
      List.mem_cons_self).1 with ⟨other, putIn⟩
    cases takenOut.symm.trans putIn

end QueueEvent

namespace Search

variable {vertices : VertexIndex} {graph : CallGraph}
  {source caller callee : Fin vertices.size} {level : Nat}
  {search next : Search vertices} {call : Edge} {pending : List Edge}

/-! ## The event of a call -/

def LeadsNear (search : Search vertices) (level : Nat) (call : Edge) : Prop :=
  call.explicit = true → ∃ callee : Fin vertices.size, ∃ least : Nat,
    call.target = vertices.nodeAt callee ∧
    search.distances.get callee = .int least ∧ least ≤ level + 1

theorem event?_of_near (visited : search.IsSettled caller level)
    (near : search.LeadsNear level call) :
    search.event? caller call = none := by
  by_cases explicit : call.explicit = true
  · rcases near explicit with ⟨callee, least, calleeNode, distance, bound⟩
    have numbered : vertices.indexOf? call.target = some callee := by
      rw [calleeNode, VertexIndex.indexOf?_nodeAt]
    have notCloser : (search.distances.get caller).addOne.lt
        (search.distances.get callee) = false := by
      rw [visited.1, distance]
      exact decide_eq_false (by omega)
    simp [event?, explicit, numbered, notCloser]
  · simp [event?, explicit]

theorem Discovery.event? {queue : IndexedQueue vertices.size}
    (discovery : Discovery graph level search call caller callee queue)
    (absent : search.queue.contains callee = false) :
    search.event? caller call =
      some (.inserted callee (.int (level + 1 : Nat))) := by
  have numbered : vertices.indexOf? call.target = some callee := by
    rw [discovery.calleeNode, VertexIndex.indexOf?_nodeAt]
  have candidate : (search.distances.get caller).addOne =
      .int (level + 1 : Nat) := by
    rw [discovery.visited.1]
    rfl
  simp [Search.event?, discovery.explicit.2, numbered, candidate,
    discovery.unreached, absent]

/-! ## The first call to a node -/

/-- The last call on the chain to a node is the first explicit call to it that
was followed. -/
def KeepsFirst (search : Search vertices) (source : Fin vertices.size)
    (followed : List Edge) : Prop :=
  ∀ index, index ≠ source →
    search.predecessors.get index =
      followed.find? (·.isExplicitTo (vertices.nodeAt index))

theorem not_isExplicitTo {index : Fin vertices.size}
    (calleeNode : call.target = vertices.nodeAt callee)
    (different : index ≠ callee) :
    ¬ call.isExplicitTo (vertices.nodeAt index) = true := by
  rw [Edge.isExplicitTo_iff, calleeNode]
  exact fun same => different (vertices.nodeAt_injective same.2).symm

theorem KeepsFirst.near {followed : List Edge}
    (keepsFirst : search.KeepsFirst source followed)
    (sound : search.Sound graph source none level pending)
    (near : search.LeadsNear level call) :
    search.KeepsFirst source (followed ++ [call]) := by
  intro index notSource
  rw [List.find?_append, ← keepsFirst index notSource, List.find?_singleton]
  split
  · rename_i isExplicitTo
    rcases Edge.isExplicitTo_iff.mp isExplicitTo with ⟨explicit, target⟩
    rcases near explicit with ⟨callee, least, calleeNode, distance, -⟩
    rw [vertices.nodeAt_injective (calleeNode.symm.trans target)] at distance
    rcases sound.found index notSource least distance with ⟨last, isLast⟩
    rw [isLast, Option.some_or]
  · exact (Option.or_none).symm

theorem KeepsFirst.discover {followed : List Edge}
    {queue : IndexedQueue vertices.size}
    (keepsFirst : search.KeepsFirst source followed)
    (sound : search.Sound graph source none level pending)
    (discovery : Discovery graph level search call caller callee queue) :
    (search.discover callee (level + 1) call queue).KeepsFirst source
      (followed ++ [call]) := by
  intro index notSource
  rw [predecessors_discover, List.find?_append, ← keepsFirst index notSource,
    List.find?_singleton]
  by_cases isCallee : index = callee
  · have noLast : search.predecessors.get index = none := by
      by_contra found
      rcases Option.ne_none_iff_exists'.mp found with ⟨last, isLast⟩
      rcases sound.tight index last isLast with ⟨-, -, -, hops, -, -, distance⟩
      rw [isCallee, discovery.unreached] at distance
      exact Number.int_ne_infinity _ distance.symm
    have isExplicitTo : call.isExplicitTo (vertices.nodeAt index) = true :=
      Edge.isExplicitTo_iff.mpr
        ⟨discovery.explicit.2, isCallee ▸ discovery.calleeNode⟩
    rw [if_pos isCallee, if_pos isExplicitTo, noLast, Option.none_or]
  · rw [if_neg isCallee,
      if_neg (not_isExplicitTo discovery.calleeNode isCallee), Option.or_none]

/-! ## Distances in order -/

def NoFarther (search : Search vertices)
    (first second : Fin vertices.size) : Prop :=
  ∃ near far : Nat, near ≤ far ∧
    search.distances.get first = .int near ∧
    search.distances.get second = .int far

end Search

namespace Moment

open QueueEvent

variable {vertices : VertexIndex} {graph : CallGraph}
  {source : Fin vertices.size} {level : Nat} {moment : Moment vertices}

/-! ## The invariant -/

/-- What is true at every moment of a search without a limit that has last taken
out a node at distance `level`. -/
structure Steady (graph : CallGraph) (source : Fin vertices.size) (level : Nat)
    (moment : Moment vertices) : Prop where
  sound : moment.search.Sound graph source none level moment.pending
  visited : ∀ caller, moment.current = some caller →
    moment.search.IsSettled caller level
  outgoing : ∀ caller, moment.current = some caller → ∀ call ∈ moment.pending,
    call ∈ graph.edgesOutOf (vertices.nodeAt caller)
  orderly : moment.events.Pairwise Precedes
  unlowered : ∀ index key, .lowered index key ∉ moment.events
  inserted : ∀ index key, .inserted index key ∈ moment.events ↔
    moment.search.distances.get index = key ∧ key ≠ .infinity
  extracted : ∀ index, .extracted index ∈ moment.events ↔
    ∃ hops, moment.search.IsSettled index hops
  ascending : (extractions moment.events).Pairwise moment.search.NoFarther
  first : ∃ followed,
    (extractions moment.events).flatMap
      (fun caller => graph.edgesOutOf (vertices.nodeAt caller)) =
      followed ++ moment.pending ∧
    moment.search.KeepsFirst source followed

theorem steady_start {search : Search vertices} (graph : CallGraph)
    (started : Search.start source none = .ok search) :
    Steady graph source 0
      { search, events := [.inserted source (.int 0)] } := by
  rcases bind_eq_ok_iff.mp started with ⟨queue, inserted, same⟩
  cases same
  have inserted := mapError_eq_ok_iff.mp inserted
  have contents := IndexedQueue.keyFor?_insert inserted
  have queued : queue.contains source = true := by
    rw [IndexedQueue.contains_of_update contents, if_pos rfl]
    rfl
  change Steady graph source 0 { search := Search.opened queue source none,
                                 events := _ }
  constructor
  case sound =>
    exact Search.sound_opened graph
      (IndexedQueue.ordered_empty.insert rfl inserted) contents
  case visited => nofun
  case outgoing => nofun
  case orderly => exact List.pairwise_singleton _ _
  case unlowered => simp
  case inserted =>
    intro index key
    rw [Search.distances_opened, List.mem_singleton]
    by_cases isSource : index = source
    · rw [if_pos isSource, isSource, QueueEvent.inserted.injEq,
        eq_comm (a := key)]
      constructor
      · rintro ⟨-, rfl⟩
        exact ⟨rfl, Number.int_ne_infinity 0⟩
      · exact fun same => ⟨rfl, same.1⟩
    · rw [if_neg isSource, QueueEvent.inserted.injEq]
      constructor
      · exact fun same => absurd same.1 isSource
      · exact fun same => absurd same.1.symm same.2
  case extracted =>
    intro index
    constructor
    · exact fun member => nomatch List.mem_singleton.mp member
    · rintro ⟨hops, distance, notQueued⟩
      have stillQueued :
          (Search.opened queue source none).queue.contains index = true :=
        Search.reached_opened queued (by rw [distance]; rfl)
      rw [notQueued] at stillQueued
      cases stillQueued
  case ascending => exact .nil
  case first => exact ⟨[], rfl, fun index _ => Search.predecessors_opened index⟩

theorem Steady.index_ne {callee : Fin vertices.size}
    {event : QueueEvent vertices.size}
    (steady : moment.Steady graph source level)
    (unreached : moment.search.distances.get callee = .infinity)
    (member : event ∈ moment.events) : event.index ≠ callee := by
  rintro rfl
  cases event with
  | inserted index key =>
      rcases (steady.inserted index key).mp member with ⟨distance, found⟩
      exact found (distance.symm.trans unreached)
  | lowered index key => exact steady.unlowered index key member
  | extracted index =>
      rcases (steady.extracted index).mp member with ⟨hops, distance, -⟩
      exact Number.int_ne_infinity _ (distance.symm.trans unreached)

theorem Steady.not_extracted {index : Fin vertices.size}
    (steady : moment.Steady graph source level)
    (queued : moment.search.queue.contains index = true) :
    .extracted index ∉ moment.events := by
  intro member
  rcases (steady.extracted index).mp member with ⟨hops, -, notQueued⟩
  rw [notQueued] at queued
  cases queued

/-- When the nearest queued node is taken out, its distance is the new level. -/
theorem Steady.extract {nearest : Fin vertices.size}
    {rest : IndexedQueue vertices.size}
    (steady : moment.Steady graph source level) (followed : moment.pending = [])
    (deleted : moment.search.queue.deleteMin = .ok (nearest, rest)) :
    ∃ hops, Steady graph source hops
      { search := moment.search.takeOut rest
        events := moment.events ++ [.extracted nearest]
        current := some nearest
        pending := graph.edgesOutOf (vertices.nodeAt nearest) } := by
  have sound := steady.sound
  rw [followed] at sound
  rcases sound.takeOut deleted nofun with ⟨hops, taken, visited⟩
  have settledNow (index : Fin vertices.size) (count : Nat) :=
    Search.isSettled_takeOut (IndexedQueue.keyFor?_deleteMin deleted) visited.1
      index count
  have distance : moment.search.distances.get nearest = .int hops := visited.1
  have notNearest {index : Fin vertices.size}
      (member : .extracted index ∈ moment.events) :
      index ≠ nearest := by
    rintro rfl
    exact steady.not_extracted
      (IndexedQueue.contains_of_deleteMin deleted) member
  refine ⟨hops, ?_⟩
  constructor
  case sound => exact taken
  case visited =>
    intro caller isCurrent
    exact Option.some.inj isCurrent ▸ visited
  case outgoing =>
    intro caller isCurrent call member
    exact Option.some.inj isCurrent ▸ member
  case orderly =>
    refine pairwise_concat.mpr
      ⟨steady.orderly, fun earlier member sameIndex => ⟨?_, rfl⟩⟩
    cases earlier with
    | inserted index key => exact ⟨key, rfl⟩
    | lowered index key => exact absurd member (steady.unlowered index key)
    | extracted index => exact absurd sameIndex (notNearest member)
  case unlowered => simpa using steady.unlowered
  case inserted =>
    intro index key
    rw [List.mem_append, steady.inserted, List.mem_singleton, or_iff_left nofun]
    rfl
  case extracted =>
    intro index
    simp only [List.mem_append, List.mem_singleton, QueueEvent.extracted.injEq,
      settledNow]
    constructor
    · rintro (member | isNearest)
      · rcases (steady.extracted index).mp member with ⟨count, isSettled⟩
        exact ⟨count, Or.inr ⟨notNearest member, isSettled⟩⟩
      · exact ⟨hops, Or.inl ⟨isNearest, rfl⟩⟩
    · rintro ⟨count, ⟨isNearest, -⟩ | ⟨-, isSettled⟩⟩
      · exact Or.inr isNearest
      · exact Or.inl ((steady.extracted index).mpr ⟨count, isSettled⟩)
  case ascending =>
    -- Nodes taken out before are no farther than the level, which has not gone
    -- down.
    rw [extractions_extracted]
    refine pairwise_concat.mpr ⟨steady.ascending, fun earlier member => ?_⟩
    have takenBefore := mem_extractions_iff.mp member
    rcases (steady.extracted earlier).mp takenBefore with ⟨count, isSettled⟩
    have stillSettled :=
      (settledNow earlier count).mpr
        (Or.inr ⟨notNearest takenBefore, isSettled⟩)
    exact ⟨count, hops, taken.settled earlier count stillSettled, isSettled.1,
      distance⟩
  case first =>
    rcases steady.first with ⟨done, inTurn, isFirst⟩
    refine ⟨done, ?_, isFirst⟩
    rw [extractions_extracted, List.flatMap_append, inTurn, followed,
      List.append_nil, List.flatMap_singleton]

section Followed

variable {caller : Fin vertices.size} {call : Edge} {later : List Edge}

theorem Steady.drop (steady : moment.Steady graph source level)
    (isCurrent : moment.current = some caller)
    (isNext : moment.pending = call :: later)
    (callerNode : call.source = vertices.nodeAt caller)
    (near : moment.search.LeadsNear level call) :
    Steady graph source level { moment with pending := later } := by
  have sound := steady.sound
  rw [isNext] at sound
  have visited := steady.visited caller isCurrent
  constructor
  case sound => exact sound.drop visited callerNode near
  case visited => exact steady.visited
  case outgoing =>
    intro other isCurrentToo call member
    exact steady.outgoing other isCurrentToo call
      (isNext ▸ List.mem_cons_of_mem _ member)
  case orderly => exact steady.orderly
  case unlowered => exact steady.unlowered
  case inserted => exact steady.inserted
  case extracted => exact steady.extracted
  case ascending => exact steady.ascending
  case first =>
    rcases steady.first with ⟨done, inTurn, isFirst⟩
    rw [isNext, List.append_cons] at inTurn
    exact ⟨done ++ [call], inTurn, isFirst.near sound near⟩

theorem Steady.discover {callee : Fin vertices.size}
    {queue : IndexedQueue vertices.size}
    (steady : moment.Steady graph source level)
    (isNext : moment.pending = call :: later)
    (discovery : Search.Discovery graph level moment.search call caller
      callee queue) :
    Steady graph source level
      { moment with
        search := moment.search.discover callee (level + 1) call queue
        events := moment.events ++ [.inserted callee (.int (level + 1 : Nat))]
        pending := later } := by
  have sound := steady.sound
  rw [isNext] at sound
  constructor
  case sound => exact sound.discover discovery
  case visited =>
    intro other isCurrent
    exact (discovery.isSettled_iff other level).mpr
      (steady.visited other isCurrent)
  case outgoing =>
    intro other isCurrent call member
    exact steady.outgoing other isCurrent call
      (isNext ▸ List.mem_cons_of_mem _ member)
  case orderly =>
    refine pairwise_concat.mpr
      ⟨steady.orderly, fun earlier member sameIndex => ?_⟩
    exact absurd sameIndex (steady.index_ne discovery.unreached member)
  case unlowered => simpa using steady.unlowered
  case inserted =>
    intro index key
    rw [Search.distances_discover, List.mem_append, List.mem_singleton,
      steady.inserted, QueueEvent.inserted.injEq]
    by_cases isCallee : index = callee
    · rw [if_pos isCallee, isCallee, discovery.unreached, eq_comm (a := key)]
      constructor
      · rintro (⟨rfl, impossible⟩ | ⟨-, rfl⟩)
        · exact absurd rfl impossible
        · exact ⟨rfl, Number.int_ne_infinity _⟩
      · exact fun same => Or.inr ⟨rfl, same.1⟩
    · rw [if_neg isCallee, or_iff_left fun same => isCallee same.1]
  case extracted =>
    intro index
    rw [List.mem_append, List.mem_singleton, or_iff_left nofun,
      steady.extracted]
    simp only [discovery.isSettled_iff]
  case ascending =>
    rw [extractions_inserted]
    refine steady.ascending.imp fun {earlier later} inOrder => ?_
    rcases inOrder with ⟨near, far, bound, before, after⟩
    exact ⟨near, far, bound, discovery.distance_kept before,
      discovery.distance_kept after⟩
  case first =>
    rcases steady.first with ⟨done, inTurn, isFirst⟩
    rw [isNext, List.append_cons] at inTurn
    rw [extractions_inserted]
    exact ⟨done ++ [call], inTurn, isFirst.discover sound discovery⟩

theorem Steady.follow {next : Search vertices}
    (steady : moment.Steady graph source level)
    (known : ∀ node ∈ graph.nodes, node ∈ vertices.nodes)
    (isCurrent : moment.current = some caller)
    (isNext : moment.pending = call :: later)
    (relaxed : moment.search.relax caller call = .ok next) :
    Steady graph source level
      { search := next
        events := moment.events ++ (moment.search.event? caller call).toList
        current := some caller
        pending := later } := by
  have sound := steady.sound
  rw [isNext] at sound
  have visited := steady.visited caller isCurrent
  have outgoing :=
    steady.outgoing caller isCurrent call (isNext ▸ List.mem_cons_self)
  rcases CallGraph.mem_edgesOutOf.mp outgoing with ⟨member, callerNode⟩
  rcases sound.relax_cases known member visited with
    ⟨kept, near⟩ | ⟨callee, queue, explicit, calleeNode, unreached, inserted,
      found⟩
  · cases relaxed.symm.trans kept
    rw [Search.event?_of_near visited near, Option.toList_none, List.append_nil,
      ← isCurrent]
    exact steady.drop isCurrent isNext callerNode near
  · cases relaxed.symm.trans found
    have discovery :
        Search.Discovery graph level moment.search call caller callee queue :=
      ⟨visited, callerNode, ⟨member, explicit⟩, calleeNode, unreached, inserted⟩
    rw [discovery.event? (sound.not_queued unreached), Option.toList_some,
      ← isCurrent]
    exact steady.discover isNext discovery

end Followed

theorem Reachable.steady (reachable : Reachable graph source none moment)
    (known : ∀ node ∈ graph.nodes, node ∈ vertices.nodes) :
    ∃ level, moment.Steady graph source level := by
  induction reachable with
  | start started => exact ⟨0, steady_start graph started⟩
  | extract before followed deleted induction =>
      rcases induction with ⟨level, steady⟩
      exact steady.extract followed deleted
  | follow before isCurrent isNext relaxed induction =>
      rcases induction with ⟨level, steady⟩
      exact ⟨level, steady.follow known isCurrent isNext relaxed⟩

/-! ## What the invariant says -/

/-- What has happened to the queue: every node is put in at most once, under the
distance that it has and keeps, and is taken out at most once, after that. No
key is ever lowered, and no node is taken out before a nearer one. -/
structure History (moment : Moment vertices) : Prop where
  replays : (IndexedQueue.empty vertices.size).Replays moment.events
    moment.search.queue
  orderly : moment.events.Pairwise Precedes
  unlowered : ∀ index key, .lowered index key ∉ moment.events
  written : ∀ index key, .inserted index key ∈ moment.events →
    moment.search.distances.get index = key
  ascending : (extractions moment.events).Pairwise moment.search.NoFarther

/-- The two levels of a search that has last taken out a node: queued nodes are
as far away as that node or one call farther, and settled ones at most as
far. -/
structure Frontier (moment : Moment vertices) (current : Fin vertices.size)
    (level : Nat) : Prop where
  distance : moment.search.distances.get current = .int level
  queued : ∀ index key, moment.search.queue.keyFor? index = some key →
    moment.search.distances.get index = key ∧
    (key = .int level ∨ key = .int (level + 1 : Nat))
  settled : ∀ index, .extracted index ∈ moment.events →
    ∃ hops : Nat, hops ≤ level ∧ moment.search.distances.get index = .int hops

structure Settles (graph : CallGraph) (source node : Node)
    (moment : Moment vertices) (index : Fin vertices.size) : Prop where
  once : ∃ hops : Nat, graph.IsDistance source node hops ∧
    moment.events.filter (·.index = index) =
      [.inserted index (.int hops), .extracted index]
  /-- The last call on the chain to the node is the first explicit call to it
  out of the first node taken out that has one. -/
  last : node ≠ source → ∃ before first after call,
    extractions moment.events = before ++ first :: after ∧
    (∀ earlier ∈ before, ∀ other ∈ graph.edgesOutOf (vertices.nodeAt earlier),
      other.explicit = true → other.target ≠ node) ∧
    (graph.edgesOutOf (vertices.nodeAt first)).find? (·.isExplicitTo node) =
      some call ∧
    (moment.search.tree source).predecessor? node = some call

theorem Reachable.history {limit : Option Nat}
    (reachable : Reachable graph source limit moment)
    (known : ∀ node ∈ graph.nodes, node ∈ vertices.nodes) : moment.History := by
  rcases reachable.unlimited.steady known with ⟨level, steady⟩
  constructor
  case replays => exact reachable.replays
  case orderly => exact steady.orderly
  case unlowered => exact steady.unlowered
  case written => exact fun index key member =>
    ((steady.inserted index key).mp member).1
  case ascending => exact steady.ascending

theorem Reachable.frontier {limit : Option Nat} {current : Fin vertices.size}
    (reachable : Reachable graph source limit moment)
    (known : ∀ node ∈ graph.nodes, node ∈ vertices.nodes)
    (isCurrent : moment.current = some current) :
    ∃ level, moment.Frontier current level := by
  rcases reachable.unlimited.steady known with ⟨level, steady⟩
  refine ⟨level, ?_⟩
  constructor
  case distance => exact (steady.visited current isCurrent).1
  case queued =>
    intro index key isQueued
    rcases steady.sound.queued index key isQueued with
      ⟨distance, hops, rfl, fromLevel, toNext⟩
    refine ⟨distance, ?_⟩
    rcases Nat.lt_or_eq_of_le fromLevel with beyond | same
    · exact Or.inr (congrArg (fun hops : Nat => Number.int hops)
        (Nat.le_antisymm toNext beyond))
    · exact Or.inl (congrArg (fun hops : Nat => Number.int hops) same.symm)
  case settled =>
    intro index member
    rcases (steady.extracted index).mp member with ⟨hops, isSettled⟩
    exact ⟨hops, steady.sound.settled index hops isSettled, isSettled.1⟩

theorem Reachable.settles {limit : Option Nat} {start node : Node}
    (reachable : Reachable graph source limit moment)
    (known : ∀ node ∈ graph.nodes, node ∈ vertices.nodes)
    (followed : moment.pending = [])
    (finished : moment.search.queue.isEmpty = true)
    (startNode : vertices.nodeAt source = start)
    (exact : (moment.search.tree start).Exact graph start)
    (reached : graph.ReachesExplicitly start node) :
    ∃ index, vertices.nodeAt index = node ∧
      moment.Settles graph start node index := by
  rcases reachable.unlimited.steady known with ⟨level, steady⟩
  rcases exact.pathTo_cases node with
    ⟨-, -, unreached⟩ | ⟨calls, -, distance, -, least, -⟩
  · exact absurd reached unreached
  have numbered : node ∈ vertices.nodes :=
    PathTree.mem_nodes_of_distanceTo distance
  rcases VertexIndex.mem_nodes_iff.mp numbered with ⟨index, rfl⟩
  rw [Search.distanceTo_tree] at distance
  refine ⟨index, rfl, ⟨_, least, ?_⟩, ?_⟩
  · apply filter_index_eq steady.orderly
    · exact (steady.inserted index _).mpr ⟨distance, Number.int_ne_infinity _⟩
    · exact (steady.extracted index).mpr
        ⟨_, distance, Search.not_queued_of_isEmpty finished index⟩
  · intro notStart
    have different : index ≠ source := by
      rintro rfl
      exact notStart startNode
    rcases steady.first with ⟨done, inTurn, isFirst⟩
    rcases steady.sound.found index different _ distance with ⟨call, isLast⟩
    have nothingPending : moment.unlimited.pending = [] := followed
    rw [nothingPending, List.append_nil] at inTurn
    have found := (isFirst index different).symm.trans isLast
    -- The calls followed are those out of the nodes taken out, in that order;
    -- the first one to the node is looked for node by node.
    rw [← inTurn, List.find?_flatMap, List.findSome?_eq_some_iff] at found
    rcases found with ⟨before, first, after, inOrder, firstCall, noneBefore⟩
    refine ⟨before, first, after, call, inOrder, ?_, firstCall, ?_⟩
    · intro earlier isBefore other member explicit target
      have none :=
        List.find?_eq_none.mp (noneBefore earlier isBefore) other member
      exact none (Edge.isExplicitTo_iff.mpr ⟨explicit, target⟩)
    · rw [Search.predecessor?_tree]
      exact isLast

end Moment

/-- At every moment that a search for shortest paths can reach, each node has
been put into the queue once at most, under the distance that it keeps, and not
again after it was taken out; no key has been lowered; and once a node has been
taken out, queued nodes are as far away as it or one call farther, and settled
ones no farther, so that distances do not decrease from one taken out node to
the next. A search that does not go past its limit ends at such a moment. Then
each node that explicit calls reach has been put in and taken out once, and the
last call to it, if it is not the source, is the first explicit call to it out
of the node that was taken out first of those that have one. -/
theorem CallGraph.shortestPaths_settling_order (graph : CallGraph)
    (source : Node) :
    ∃ index : Fin (VertexIndex.ofGraph graph [source]).size,
      (VertexIndex.ofGraph graph [source]).nodeAt index = source ∧ ∀ limit,
        (∀ moment, Moment.Reachable graph index limit moment → moment.History ∧
          ∀ current, moment.current = some current →
            ∃ level, moment.Frontier current level) ∧
        ∀ check,
          (∃ most node, limit = some most ∧
            graph.shortestPaths source limit check =
              .error (Search.overrunAt most node)) ∨
          ∃ moment, Moment.Reachable graph index limit moment ∧
            moment.pending = [] ∧
            moment.search.queue.isEmpty = true ∧
            graph.shortestPaths source limit check =
              .ok (moment.search.tree source) ∧
            ∀ node, graph.ReachesExplicitly source node → ∃ own,
              (VertexIndex.ofGraph graph [source]).nodeAt own = node ∧
                moment.Settles graph source node own := by
  rcases graph.exists_indexOf?_source source with ⟨index, numbered⟩
  have sourceNode := VertexIndex.indexOf?_eq_some_iff.mp numbered
  have known (node : Node) (member : node ∈ graph.nodes) :
      node ∈ (VertexIndex.ofGraph graph [source]).nodes :=
        mem_nodes_ofGraph_source member
  refine ⟨index, sourceNode, fun limit => ⟨?_, fun check => ?_⟩⟩
  · exact fun moment reachable =>
      ⟨reachable.history known, fun current => reachable.frontier known⟩
  · rcases graph.shortestPaths_cases source limit check with
      ⟨tree, found, exact⟩ | ⟨most, node, limited, -, failed⟩
    · rcases exists_moment numbered found with
        ⟨moment, reachable, followed, finished, rfl⟩
      exact Or.inr ⟨moment, reachable, followed, finished, found,
        fun node => reachable.settles known followed finished sourceNode exact⟩
    · exact Or.inl ⟨most, node, limited, failed⟩

def CallGraph.parallelCalls : CallGraph :=
  .ofEdges [⟨"a", "a", true, .null, .null⟩, ⟨"a", "b", false, .null, .null⟩,
    ⟨"a", "b", true, .ofNat 1, .null⟩, ⟨"a", "b", true, .ofNat 2, .null⟩]

theorem CallGraph.shortestPaths_settling_order_parallelCalls :
    ∃ tree, parallelCalls.shortestPaths "a" none true = .ok tree ∧
      tree.predecessor? "b" = some ⟨"a", "b", true, .ofNat 1, .null⟩ := by
  have calls : parallelCalls.edges =
      [⟨"a", "a", true, .null, .null⟩, ⟨"a", "b", false, .null, .null⟩,
      ⟨"a", "b", true, .ofNat 1, .null⟩, ⟨"a", "b", true, .ofNat 2, .null⟩] :=
    edges_addEdges empty _
  have reached : parallelCalls.ReachesExplicitly "a" "b" :=
    ⟨[⟨"a", "b", true, .ofNat 1, .null⟩], rfl, ⟨by simp [calls], rfl⟩, rfl⟩
  rcases parallelCalls.shortestPaths_settling_order "a" with ⟨index, -, moments⟩
  rcases (moments none).2 true with
    ⟨_, _, limited, -⟩ | ⟨moment, -, -, -, found, settles⟩
  · cases limited
  · rcases settles "b" reached with ⟨own, -, -, last⟩
    rcases last (by decide) with
      ⟨before, first, after, call, -, -, firstCall, isLast⟩
    refine ⟨_, found, isLast.trans (firstCall.symm.trans ?_)⟩
    rw [edgesOutOf_eq_filter, calls] at firstCall ⊢
    by_cases same : "a" = (VertexIndex.ofGraph parallelCalls ["a"]).nodeAt first
    · simp [← same, Edge.isExplicitTo]
    · simp [same] at firstCall

end CallChains
