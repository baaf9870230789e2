import CallChains.Proofs.Route.Unlimited
/-!
The moments of a search for shortest paths. A search starts, takes out the
nearest queued node whenever no call is left to be followed, and follows the
calls out of that node one after the other. Every moment knows what has happened
to the queue up to it, and every search that gives a tree passes through such
moments.
-/

namespace CallChains

/-! ## Events of a queue -/

inductive QueueEvent (capacity : Nat) where
  | inserted (index : Fin capacity) (key : Number)
  | lowered (index : Fin capacity) (key : Number)
  | extracted (index : Fin capacity)
  deriving DecidableEq

namespace QueueEvent

variable {capacity : Nat}

def index : QueueEvent capacity → Fin capacity
  | .inserted index _ | .lowered index _ | .extracted index => index

def extracted? : QueueEvent capacity → Option (Fin capacity)
  | .extracted index => some index
  | .inserted _ _ | .lowered _ _ => none

def Turns (queue next : IndexedQueue capacity) : QueueEvent capacity → Prop
  | .inserted index key => queue.insert index key = .ok next
  | .lowered index key => queue.decreaseKey index key = .ok next
  | .extracted index => queue.deleteMin = .ok (index, next)

def extractions (events : List (QueueEvent capacity)) : List (Fin capacity) :=
  events.filterMap extracted?

theorem mem_extractions_iff {events : List (QueueEvent capacity)}
    {index : Fin capacity} :
    index ∈ extractions events ↔ .extracted index ∈ events := by
  rw [extractions, List.mem_filterMap]
  constructor
  · rintro ⟨event, member, takenOut⟩
    cases event with
    | extracted other => exact Option.some.inj takenOut ▸ member
    | inserted | lowered => cases takenOut
  · exact fun member => ⟨_, member, rfl⟩

@[simp]
theorem extractions_extracted (events : List (QueueEvent capacity))
    (index : Fin capacity) :
    extractions (events ++ [.extracted index]) =
      extractions events ++ [index] :=
  List.filterMap_append

@[simp]
theorem extractions_inserted (events : List (QueueEvent capacity))
    (index : Fin capacity) (key : Number) :
    extractions (events ++ [.inserted index key]) = extractions events :=
  List.filterMap_append.trans (List.append_nil _)

end QueueEvent

inductive IndexedQueue.Replays {capacity : Nat}
    (queue : IndexedQueue capacity) :
    List (QueueEvent capacity) → IndexedQueue capacity → Prop
  | nothing : Replays queue [] queue
  | next {events : List (QueueEvent capacity)}
      {middle last : IndexedQueue capacity} {event : QueueEvent capacity}
      (before : Replays queue events middle) (turns : event.Turns middle last) :
      Replays queue (events ++ [event]) last

/-! ## Following a call -/

namespace Search

variable {vertices : VertexIndex} {graph : CallGraph}
  {source caller : Fin vertices.size} {limit : Option Nat}
  {search next : Search vertices} {call : Edge}

def event? (search : Search vertices) (caller : Fin vertices.size)
    (call : Edge) : Option (QueueEvent vertices.size) :=
  if call.explicit = false then none
  else
    (vertices.indexOf? call.target).bind fun callee =>
      let candidate := (search.distances.get caller).addOne
      if candidate.lt (search.distances.get callee) then
        some (if search.queue.contains callee then .lowered callee candidate
          else .inserted callee candidate)
      else none

theorem turns_of_enqueue {queue larger : IndexedQueue vertices.size}
    {index : Fin vertices.size} {key : Number}
    (enqueued : enqueue queue index key = .ok larger) :
    (if queue.contains index then QueueEvent.lowered index key
    else .inserted index key).Turns
      queue larger := by
  rw [enqueue] at enqueued
  split at enqueued
  · rename_i contained
    rw [if_pos contained]
    exact enqueued
  · rename_i absent
    rw [if_neg absent]
    exact enqueued

theorem replays_relax {events : List (QueueEvent vertices.size)}
    {queue : IndexedQueue vertices.size}
    (before : queue.Replays events search.queue)
    (relaxed : search.relax caller call = .ok next) :
    queue.Replays (events ++ (search.event? caller call).toList)
      next.queue := by
  unfold relax at relaxed
  unfold event?
  split at relaxed
  · rename_i notExplicit
    rw [if_pos notExplicit, Option.toList_none, List.append_nil]
    exact Except.ok.inj relaxed ▸ before
  · rename_i explicit
    rw [if_neg explicit]
    split at relaxed
    · cases relaxed
    · rename_i callee numbered
      rw [numbered, Option.bind_some]
      dsimp only at relaxed ⊢
      split at relaxed
      · rename_i closer
        change (search.distances.get caller).addOne.lt
          (search.distances.get callee) = true at closer
        rw [if_pos closer]
        rcases bind_eq_ok_iff.mp relaxed with ⟨larger, enqueued, same⟩
        cases same
        exact before.next (turns_of_enqueue (mapError_eq_ok_iff.mp enqueued))
      · rename_i notCloser
        change ¬ (search.distances.get caller).addOne.lt
          (search.distances.get callee) = true at notCloser
        rw [if_neg notCloser, Option.toList_none, List.append_nil]
        exact Except.ok.inj relaxed ▸ before

end Search

/-! ## Moments -/

structure Moment (vertices : VertexIndex) where
  search : Search vertices
  events : List (QueueEvent vertices.size)
  /-- The node that was taken out last. -/
  current : Option (Fin vertices.size) := none
  pending : List Edge := []

namespace Moment

variable {vertices : VertexIndex} {graph : CallGraph}
  {source : Fin vertices.size} {limit : Option Nat} {moment : Moment vertices}

/-- The moments that a search can reach. Visits are counted but need not be paid
for, so that the moment at which a search goes past its limit is among them. -/
inductive Reachable (graph : CallGraph) (source : Fin vertices.size)
    (limit : Option Nat) :
    Moment vertices → Prop
  | start {search : Search vertices}
      (started : Search.start source limit = .ok search) :
      Reachable graph source limit
        { search, events := [.inserted source (.int 0)] }
  | extract {moment : Moment vertices} {nearest : Fin vertices.size}
      {rest : IndexedQueue vertices.size}
      (before : Reachable graph source limit moment)
      (followed : moment.pending = [])
      (deleted : moment.search.queue.deleteMin = .ok (nearest, rest)) :
      Reachable graph source limit
        { search := moment.search.takeOut rest
          events := moment.events ++ [.extracted nearest]
          current := some nearest
          pending := graph.edgesOutOf (vertices.nodeAt nearest) }
  | follow {moment : Moment vertices} {caller : Fin vertices.size} {call : Edge}
      {later : List Edge} {next : Search vertices}
      (before : Reachable graph source limit moment)
      (isCurrent : moment.current = some caller)
      (isNext : moment.pending = call :: later)
      (relaxed : moment.search.relax caller call = .ok next) :
      Reachable graph source limit
        { search := next
          events := moment.events ++ (moment.search.event? caller call).toList
          current := some caller
          pending := later }

theorem Reachable.replays (reachable : Reachable graph source limit moment) :
    (IndexedQueue.empty vertices.size).Replays moment.events
      moment.search.queue := by
  induction reachable with
  | start started =>
      rcases bind_eq_ok_iff.mp started with ⟨queue, inserted, same⟩
      cases same
      exact .next .nothing (mapError_eq_ok_iff.mp inserted)
  | extract before followed deleted induction => exact induction.next deleted
  | follow before isCurrent isNext relaxed induction =>
      exact Search.replays_relax induction relaxed

/-! ## Without a limit -/

def unlimited (moment : Moment vertices) : Moment vertices :=
  { moment with search := moment.search.unlimited }

theorem Reachable.unlimited (reachable : Reachable graph source limit moment) :
    Reachable graph source none moment.unlimited := by
  induction reachable with
  | start started => exact .start (Search.start_unlimited started)
  | extract before followed deleted induction =>
      exact induction.extract followed deleted
  | @follow moment caller call later next before isCurrent isNext relaxed
      induction =>
      apply induction.follow isCurrent isNext
      change moment.search.unlimited.relax caller call = .ok next.unlimited
      rw [Search.relax_unlimited, relaxed]
      rfl

/-! ## Runs -/

theorem Reachable.follow_all {caller : Fin vertices.size} {calls : List Edge}
    {next : Search vertices} (reachable : Reachable graph source limit moment)
    (isCurrent : moment.current = some caller)
    (isPending : moment.pending = calls)
    (followed : calls.foldlM (Search.relax caller) moment.search = .ok next) :
    ∃ after : Moment vertices, Reachable graph source limit after ∧
      after.search = next ∧
      after.pending = [] := by
  induction calls generalizing moment with
  | nil => exact ⟨moment, reachable, Except.ok.inj followed, isPending⟩
  | cons call later induction =>
      rw [List.foldlM_cons] at followed
      rcases bind_eq_ok_iff.mp followed with ⟨middle, relaxed, further⟩
      exact induction (reachable.follow isCurrent isPending relaxed) rfl
        rfl further

theorem Reachable.settle {next : Search vertices}
    (reachable : Reachable graph source limit moment)
    (isFollowed : moment.pending = [])
    (settled : moment.search.settle graph = .ok next) :
    ∃ after : Moment vertices, Reachable graph source limit after ∧
      after.search = next ∧
      after.pending = [] := by
  rcases bind_eq_ok_iff.mp settled with
    ⟨⟨nearest, rest⟩, taken, paidAndFollowed⟩
  have deleted := mapError_eq_ok_iff.mp taken
  rcases bind_eq_ok_iff.mp paidAndFollowed with ⟨budget, paid, followed⟩
  have charged : budget = moment.search.budget.charge := by
    rcases moment.search.budget.spend_cases (vertices.nodeAt nearest) with
      ⟨same, -⟩ | ⟨most, -, -, unpaid⟩
    · rw [same] at paid
      exact (Except.ok.inj paid).symm
    · rw [unpaid] at paid
      cases paid
  rw [charged] at followed
  exact (reachable.extract isFollowed deleted).follow_all rfl rfl followed

theorem Reachable.settleAll {rounds : Nat} {last : Search vertices}
    (reachable : Reachable graph source limit moment)
    (isFollowed : moment.pending = [])
    (ran : moment.search.settleAll graph rounds = .ok last) :
    ∃ after : Moment vertices, Reachable graph source limit after ∧
      after.search = last ∧
      after.pending = [] := by
  induction rounds generalizing moment with
  | zero => exact ⟨moment, reachable, Except.ok.inj ran, isFollowed⟩
  | succ rounds induction =>
      cases idle : moment.search.queue.isEmpty with
      | true =>
          rw [Search.settleAll_idle idle] at ran
          exact ⟨moment, reachable, Except.ok.inj ran, isFollowed⟩
      | false =>
          rw [Search.settleAll_waiting idle] at ran
          rcases bind_eq_ok_iff.mp ran with ⟨next, settled, further⟩
          rcases reachable.settle isFollowed settled with
            ⟨after, afterReachable, rfl, afterFollowed⟩
          exact induction afterReachable afterFollowed further

end Moment

namespace CallGraph

/-- A search that gives a tree ends at a moment at which no call is pending and
nothing is queued. -/
theorem exists_moment {graph : CallGraph} {source : Node} {limit : Option Nat}
    {check : Bool} {tree : PathTree}
    {index : Fin (VertexIndex.ofGraph graph [source]).size}
    (numbered : (VertexIndex.ofGraph graph [source]).indexOf? source =
      some index)
    (found : graph.shortestPaths source limit check = .ok tree) :
    ∃ moment, Moment.Reachable graph index limit moment ∧ moment.pending = [] ∧
      moment.search.queue.isEmpty = true ∧
      moment.search.tree source = tree := by
  rw [shortestPaths_of_indexOf? limit check numbered] at found
  rcases bind_eq_ok_iff.mp found with ⟨search, started, rest⟩
  rcases bind_eq_ok_iff.mp rest with ⟨last, ran, checked⟩
  have sameTree : last.tree source = tree := by
    split at checked
    · split at checked
      · cases checked
      · exact Except.ok.inj checked
    · exact Except.ok.inj checked
  have finished : last.queue.isEmpty = true := by
    rcases Search.start_eq_ok graph index limit with ⟨_, startedToo, sound, -⟩
    cases started.symm.trans startedToo
    rcases sound.settleAll (fun _ => mem_nodes_ofGraph_source)
      (Nat.le_add_right _ _) with
      ⟨_, _, ranToo, -, finished⟩ | ⟨_, _, _, _, -, -, -, -, failed⟩
    · cases ran.symm.trans ranToo
      exact finished
    · cases ran.symm.trans failed
  rcases (Moment.Reachable.start started).settleAll rfl ran with
    ⟨moment, reachable, rfl, followed⟩
  exact ⟨moment, reachable, followed, finished, sameTree⟩

end CallGraph

end CallChains
