import CallChains.Proofs.Analysis.Limits
/-!
What an analysis depends on. Of a call only its two ends count and whether it is
explicit, and of a graph only which such calls it has. The order and the number
of calls, their lines and kinds and the nodes without calls may decide which
shortest path is reported and at which node a limit is passed, but nothing else.
-/

namespace CallChains

/-! ## Graphs with the same calls -/

/-- The calls of a graph, as far as they count: from where to where, and whether
they are explicit. -/
def CallGraph.callSet (graph : CallGraph) : Set (Node × Node × Bool) :=
  {triple | ∃ call ∈ graph.edges,
    (call.source, call.target, call.explicit) = triple}

namespace CallGraph

variable {graph other : CallGraph} {root source target : Node}
  {calls : List Edge}

theorem exists_counterpart (same : graph.callSet = other.callSet) {call : Edge}
    (member : call ∈ graph.edges) :
    ∃ counterpart ∈ other.edges, counterpart.source = call.source ∧
      counterpart.target = call.target ∧
      counterpart.explicit = call.explicit := by
  have isCall : (call.source, call.target, call.explicit) ∈ other.callSet :=
    same ▸ ⟨call, member, rfl⟩
  rcases isCall with ⟨counterpart, isMember, equal⟩
  simp only [Prod.mk.injEq] at equal
  exact ⟨counterpart, isMember, equal⟩

theorem exists_explicit_counterpart (same : graph.callSet = other.callSet)
    {call : Edge} (explicit : graph.IsExplicitCall call) :
    ∃ counterpart, other.IsExplicitCall counterpart ∧
      counterpart.source = call.source ∧ counterpart.target = call.target := by
  rcases exists_counterpart same explicit.1 with
    ⟨counterpart, member, start, finish, sameKind⟩
  exact ⟨counterpart, ⟨member, sameKind.trans explicit.2⟩, start, finish⟩

theorem exists_explicitWalk (same : graph.callSet = other.callSet)
    (walk : graph.ExplicitWalk source calls target) :
    ∃ counterparts, other.ExplicitWalk source counterparts target ∧
      counterparts.length = calls.length :=
  walk.replace fun _ explicit => exists_explicit_counterpart same explicit

theorem calls_of_callSet_eq (same : graph.callSet = other.callSet)
    (called : ∃ call ∈ graph.edges, call.source = source ∧
      call.target = target) :
    ∃ call ∈ other.edges, call.source = source ∧ call.target = target := by
  rcases called with ⟨call, member, start, finish⟩
  rcases exists_counterpart same member with
    ⟨counterpart, isMember, sameStart, sameEnd, -⟩
  exact ⟨counterpart, isMember, sameStart.trans start, sameEnd.trans finish⟩

theorem reaches_of_callSet_eq (same : graph.callSet = other.callSet)
    (reached : graph.Reaches source target) : other.Reaches source target := by
  rcases reached with ⟨calls, walk⟩
  have each : ∀ call, call ∈ graph.edges →
      ∃ counterpart, counterpart ∈ other.edges ∧
      counterpart.source = call.source ∧ counterpart.target = call.target := by
    intro call member
    rcases exists_counterpart same member with
      ⟨counterpart, isMember, start, finish, -⟩
    exact ⟨counterpart, isMember, start, finish⟩
  rcases walk.replace each with ⟨counterparts, isWalk, -⟩
  exact ⟨counterparts, isWalk⟩

theorem reaches_congr (same : graph.callSet = other.callSet) :
    graph.Reaches source target ↔ other.Reaches source target :=
  ⟨reaches_of_callSet_eq same, reaches_of_callSet_eq same.symm⟩

theorem reachesExplicitly_of_callSet_eq (same : graph.callSet = other.callSet)
    (reached : graph.ReachesExplicitly source target) :
    other.ReachesExplicitly source target := by
  rcases reached with ⟨calls, walk⟩
  rcases exists_explicitWalk same walk with ⟨counterparts, isWalk, -⟩
  exact ⟨counterparts, isWalk⟩

theorem reachesExplicitly_congr (same : graph.callSet = other.callSet) :
    graph.ReachesExplicitly source target ↔
      other.ReachesExplicitly source target :=
  ⟨reachesExplicitly_of_callSet_eq same,
    reachesExplicitly_of_callSet_eq same.symm⟩

theorem isDistance_of_callSet_eq (same : graph.callSet = other.callSet)
    {hops : Nat} (distance : graph.IsDistance source target hops) :
    other.IsDistance source target hops := by
  rcases distance with ⟨⟨calls, walk, length⟩, least⟩
  rcases exists_explicitWalk same walk with ⟨counterparts, isWalk, sameLength⟩
  refine ⟨⟨counterparts, isWalk, sameLength.trans length⟩,
    fun others otherWalk => ?_⟩
  rcases exists_explicitWalk same.symm otherWalk with
    ⟨originals, originalWalk, originalLength⟩
  exact originalLength ▸ least originals originalWalk

theorem leadingTo_congr (same : graph.callSet = other.callSet) :
    graph.leadingTo target = other.leadingTo target := by
  ext node
  exact reaches_congr same

theorem discoveredFrom_subset (same : graph.callSet = other.callSet) :
    graph.discoveredFrom root ⊆ other.discoveredFrom root := by
  rintro node ⟨call, explicit, start, reached⟩
  rcases exists_explicit_counterpart same explicit with
    ⟨counterpart, isExplicit, sameStart, sameEnd⟩
  exact ⟨counterpart, isExplicit, sameStart.trans start,
    sameEnd ▸ reachesExplicitly_of_callSet_eq same reached⟩

theorem discoveredFrom_congr (same : graph.callSet = other.callSet) :
    graph.discoveredFrom root = other.discoveredFrom root :=
  Set.Subset.antisymm (discoveredFrom_subset same)
    (discoveredFrom_subset same.symm)

theorem directCallees_subset (same : graph.callSet = other.callSet)
    {callee : Node} (isCallee : callee ∈ (graph.directCallees root).toList) :
    callee ∈ (other.directCallees root).toList := by
  rcases mem_toList_directCallees.mp isCallee with
    ⟨call, explicit, start, finish⟩
  rcases exists_explicit_counterpart same explicit with
    ⟨counterpart, isExplicit, sameStart, sameEnd⟩
  exact mem_toList_directCallees.mpr
    ⟨counterpart, isExplicit, sameStart.trans start, sameEnd.trans finish⟩

theorem directCallees_congr (same : graph.callSet = other.callSet) :
    (graph.directCallees root).toList = (other.directCallees root).toList :=
  (pairwise_toList _).eq_of_mem_iff (pairwise_toList _) fun _ =>
    ⟨directCallees_subset same, directCallees_subset same.symm⟩

end CallGraph

/-! ## Results -/

/-- Two results for a target that tell the same: the same entries, the same ones
without a path, and for the others paths of the same lengths. -/
structure TargetResult.SameOutcome (result other : TargetResult) : Prop where
  target : result.target = other.target
  entries : result.entries = other.entries
  unreachable : result.unreachable = other.unreachable
  lengths : result.paths.map (fun path => (path.entry, path.length)) =
    other.paths.map fun path => (path.entry, path.length)
  failures : result.failures ≠ [] ↔ other.failures ≠ []

structure Analysis.SameOutcome (analysis other : Analysis) : Prop where
  entryPoints : analysis.entryPoints = other.entryPoints
  targets : analysis.targets = other.targets
  results : List.Forall₂ TargetResult.SameOutcome analysis.results other.results

theorem map_eq_of_keys {item key value : Type} {keyOf : item → key}
    {valueOf : item → value} {items others : List item}
    (keys : items.map keyOf = others.map keyOf)
    (same : ∀ first ∈ items, ∀ second ∈ others, keyOf first = keyOf second →
      valueOf first = valueOf second) :
    items.map valueOf = others.map valueOf := by
  induction items generalizing others with
  | nil =>
      rw [List.map_nil, eq_comm, List.map_eq_nil_iff] at keys
      rw [keys]
  | cons first rest induction =>
      cases others with
      | nil => cases keys
      | cons second others =>
          rw [List.map_cons, List.map_cons, List.cons.injEq] at keys
          rw [List.map_cons, List.map_cons,
            same first List.mem_cons_self second List.mem_cons_self keys.1,
            induction keys.2 fun one isFirst two isSecond =>
              same one (List.mem_cons_of_mem first isFirst) two
                (List.mem_cons_of_mem second isSecond)]

section

variable {graph other : CallGraph} {root target : Node}
  {result second : TargetResult}

theorem TargetResult.Answers.sameOutcome (same : graph.callSet = other.callSet)
    (answers : result.Answers graph root target)
    (answersToo : second.Answers other root target) :
    result.SameOutcome second := by
  have sameCallees (entry : Node) :
      (∃ call ∈ graph.edges, call.source = root ∧ call.target = entry) ↔
        ∃ call ∈ other.edges, call.source = root ∧ call.target = entry :=
    ⟨CallGraph.calls_of_callSet_eq same,
      CallGraph.calls_of_callSet_eq same.symm⟩
  have sameReached (entry : Node) :
      graph.ReachesExplicitly entry target ↔
        other.ReachesExplicitly entry target :=
    CallGraph.reachesExplicitly_congr same
  have sameEntries : result.entries = second.entries := by
    apply answers.ascending.eq_of_mem_iff answersToo.ascending
    intro entry
    rw [answers.mem_entries, answersToo.mem_entries,
      CallGraph.reaches_congr same, sameCallees]
  constructor
  case target => exact answers.isFor.trans answersToo.isFor.symm
  case entries => exact sameEntries
  case unreachable =>
    rw [answers.withoutPath, answersToo.withoutPath, sameEntries]
    exact List.filter_congr fun entry _ =>
      decide_eq_decide.mpr (not_congr (sameReached entry))
  case lengths =>
    have samePaths : result.paths.map (·.entry) =
        second.paths.map (·.entry) := by
      rw [answers.withPath, answersToo.withPath, sameEntries]
      exact List.filter_congr fun entry _ =>
        decide_eq_decide.mpr (sameReached entry)
    -- The paths may differ, but both are shortest, and distances depend on the
    -- calls alone.
    apply map_eq_of_keys samePaths
    intro path isPath counterpart isCounterpart sameEntry
    rcases answers.shortest path isPath with ⟨isTarget, shortest⟩
    rcases answersToo.shortest counterpart isCounterpart with
      ⟨isTargetToo, shortestToo⟩
    have distance := CallGraph.isDistance_of_callSet_eq same shortest.isDistance
    have distanceToo := shortestToo.isDistance
    rw [isTarget, sameEntry] at distance
    rw [isTargetToo] at distanceToo
    rw [sameEntry, distance.unique distanceToo]
  case failures => rw [answers.noFailures, answersToo.noFailures]

theorem CallGraph.sameOutcome_of_pathsForTarget
    (same : graph.callSet = other.callSet) {limit : Option Nat}
    {check checkToo : Bool}
    (computed : graph.pathsForTarget root target limit check = .ok result)
    (computedToo : other.pathsForTarget root target limit checkToo =
      .ok second) :
    result.SameOutcome second := by
  have sameLeading : graph.leadingTo target = other.leadingTo target :=
    leadingTo_congr same
  rcases graph.pathsForTarget_limited root target limit check with
    ⟨within, free⟩ | ⟨exceeds, overrun, -, failed⟩
  · rcases other.pathsForTarget_limited root target limit checkToo with
      ⟨-, freeToo⟩ | ⟨exceeds, -⟩
    · exact (answers_of_unlimited (free ▸ computed)).sameOutcome same
        (answers_of_unlimited (freeToo ▸ computedToo))
    · exact absurd (sameLeading ▸ exceeds) within
  · rcases other.pathsForTarget_limited root target limit checkToo with
      ⟨within, -⟩ | ⟨-, overrunToo, -, failedToo⟩
    · exact absurd (sameLeading ▸ exceeds) within
    · rcases Except.ok.inj (computed.symm.trans failed) with rfl
      rcases Except.ok.inj (computedToo.symm.trans failedToo) with rfl
      exact ⟨rfl, rfl, rfl, rfl, by simp [TargetResult.cutShort]⟩

end

/-! ## Analyses -/

/-- Two graphs with the same calls can both be analysed under a limit or neither
can, and what is found in them tells the same, however many targets are worked
on at once and whether trees are checked or not. -/
theorem CallGraph.analyze_depends_on_callSet {graph other : CallGraph}
    (same : graph.callSet = other.callSet) (root : Node)
    (isTarget : Node → Bool) {settings second : Settings}
    (sameLimit : settings.maxVisits = second.maxVisits) :
    ((∃ error, graph.analyze root isTarget settings = .error error) ↔
      ∃ error, other.analyze root isTarget second = .error error) ∧
    ∀ analysis counterpart,
      graph.analyze root isTarget settings = .ok analysis →
      other.analyze root isTarget second = .ok counterpart →
      analysis.SameOutcome counterpart := by
  constructor
  · rw [exists_analyze_error_iff, exists_analyze_error_iff, sameLimit,
      discoveredFrom_congr same]
  · intro analysis counterpart computed computedToo
    have isOf := isOf_of_analyze computed
    have isOfToo := isOf_of_analyze computedToo
    have sameTargets : analysis.targets = counterpart.targets := by
      apply isOf.ascending.eq_of_mem_iff isOfToo.ascending
      intro target
      rw [isOf.mem_targets, isOfToo.mem_targets]
      exact and_congr_right fun _ =>
        Set.ext_iff.mp (discoveredFrom_congr same) target
    refine ⟨?_, sameTargets, ?_⟩
    · rw [isOf.entries, isOfToo.entries, directCallees_congr same]
    · have answered : List.Forall₂ (fun target result =>
          other.pathsForTarget root target settings.maxVisits
            second.checkInvariants = .ok result)
          analysis.targets counterpart.results :=
        sameLimit ▸ sameTargets ▸ isOfToo.answered
      refine forall₂_of_inputs ?_ isOf.answered answered
      intro target result resultToo found foundToo
      exact sameOutcome_of_pathsForTarget same found foundToo

/-! ## Two ways to the same target -/

namespace CallGraph

def twoWays : CallGraph :=
  .ofEdges [{ source := "root", target := "a" },
    { source := "a", target := "b" }, { source := "b", target := "d" },
    { source := "a", target := "c" }, { source := "c", target := "d" },
    { source := "b", target := "c", explicit := false }]

def twoWaysRetold : CallGraph :=
  (empty.addNode "z").addEdges [{ source := "b", target := "c",
                                  explicit := false, kind := .str "VIRTUAL" },
    { source := "c", target := "d" },
    { source := "a", target := "c", line := .ofNat 7 },
    { source := "b", target := "d" }, { source := "a", target := "b" },
    { source := "a", target := "b", kind := .str "STATIC" },
    { source := "root", target := "a" }]

def analysisBy (first second : Edge) : Analysis where
  root := "root"
  entryPoints := ["a"]
  targets := ["d"]
  results := [{
    target := "d"
    entries := ["a"]
    paths := [{ entry := "a", target := "d", edges := [first, second] }] }]

theorem callSet_twoWays : twoWays.callSet = twoWaysRetold.callSet := by
  have edges : twoWays.edges =
      [{ source := "root", target := "a" }, { source := "a", target := "b" },
      { source := "b", target := "d" }, { source := "a", target := "c" },
      { source := "c", target := "d" },
      { source := "b", target := "c", explicit := false }] := by
    simp [twoWays, ofEdges]
  have edgesRetold : twoWaysRetold.edges = [
      { source := "b", target := "c", explicit := false,
        kind := .str "VIRTUAL" },
      { source := "c", target := "d" },
      { source := "a", target := "c", line := .ofNat 7 },
      { source := "b", target := "d" }, { source := "a", target := "b" },
      { source := "a", target := "b", kind := .str "STATIC" },
      { source := "root", target := "a" }] := by
    simp [twoWaysRetold]
  ext triple
  simp only [callSet, edges, edgesRetold, Set.mem_ofPred_eq, List.mem_cons,
    List.not_mem_nil, or_false, exists_eq_or_imp, exists_eq_left]
  tauto

theorem analyze_depends_on_callSet_twoWays :
    ∃ analysis counterpart,
      twoWays.analyze "root" (· = "d") .standard = .ok analysis ∧
      twoWaysRetold.analyze "root" (· = "d") { workers := 4 } =
        .ok counterpart ∧
      analysis.paths ≠ counterpart.paths ∧
      analysis.SameOutcome counterpart := by
  have analysed : twoWays.analyze "root" (· = "d") .standard =
      .ok (analysisBy { source := "a", target := "b" }
        { source := "b", target := "d" }) := by
    decide +kernel
  have analysedToo : twoWaysRetold.analyze "root" (· = "d") { workers := 4 } =
      .ok (analysisBy { source := "a", target := "c", line := .ofNat 7 }
        { source := "c", target := "d" }) := by
    decide +kernel
  have depends :=
    @analyze_depends_on_callSet _ _ callSet_twoWays "root" (· = "d")
    .standard { workers := 4 } rfl
  exact ⟨_, _, analysed, analysedToo, by decide,
    depends.2 _ _ analysed analysedToo⟩

end CallGraph

end CallChains
