import CallChains.Proofs.Fallible
import CallChains.Proofs.Graph.Mentions
import CallChains.Workspace.Loading
/-!
Documents are read exactly: those that are well formed, and no others. What is
read has everything that the document tells, in its order. Of several faults of
a document the first one is told.
-/

namespace CallChains

/-! ## Members with defaults -/

namespace Members

variable {Value : Type} {members : Members} {key : String} {given : Json}
  {kind : Value → Json} {standard value : Value}

/-- There is a value of a kind under a key, or it is the standard one because
there is none. -/
def Tells (members : Members) (key : String) (kind : Value → Json)
    (standard value : Value) : Prop :=
  members.find? key = some (kind value) ∨
  members.find? key = none ∧ value = standard

def Mistells (members : Members) (key : String) (kind : Value → Json) : Prop :=
  ∃ given, members.find? key = some given ∧ ∀ value, given ≠ kind value

theorem tells_of_absent (absent : members.find? key = none) :
    members.Tells key kind standard value ↔ value = standard := by
  simp [Tells, absent]

theorem tells_of_found (found : members.find? key = some given) :
    members.Tells key kind standard value ↔ given = kind value := by
  simp [Tells, found]

theorem mistells_of_absent (absent : members.find? key = none) :
    ¬ members.Mistells key kind := by
  simp [Mistells, absent]

theorem mistells_of_found (found : members.find? key = some given) :
    members.Mistells key kind ↔ ∀ value, given ≠ kind value := by
  simp [Mistells, found]

theorem tells_or_mistells (members : Members) (key : String)
    (kind : Value → Json) (standard : Value) :
    (∃ value, members.Tells key kind standard value) ∨
    members.Mistells key kind := by
  cases found : members.find? key with
  | none => exact Or.inl ⟨standard, (tells_of_absent found).mpr rfl⟩
  | some given =>
      by_cases isKind : ∃ value, given = kind value
      · rcases isKind with ⟨value, isKind⟩
        exact Or.inl ⟨value, (tells_of_found found).mpr isKind⟩
      · exact Or.inr
          ((mistells_of_found found).mpr fun value same => isKind ⟨value, same⟩)

end Members

namespace Document

open Members

variable {members : Members} {entry : Json} {call : Edge}

/-! ## Lists -/

theorem listUnder_eq_ok_iff {key : String} {error : DocumentError}
    {items : List Json} :
    listUnder members key error = .ok items ↔
      members.Tells key .arr [] items := by
  unfold listUnder
  cases found : members.find? key with
  | none => simp [tells_of_absent found, eq_comm]
  | some given => cases given <;> simp [tells_of_found found]

theorem listUnder_eq_error_iff {key : String} {error told : DocumentError} :
    listUnder members key error = .error told ↔
      told = error ∧ members.Mistells key .arr := by
  unfold listUnder
  cases found : members.find? key with
  | none => simp [mistells_of_absent found]
  | some given => cases given <;> simp [mistells_of_found found, eq_comm]

/-! ## Nodes -/

theorem readNode_eq_ok_iff {value : Json} {node : Node} :
    readNode value = .ok node ↔ value = .str node := by
  cases value <;> simp [readNode]

theorem mapM_readNode_eq_ok_iff {values : List Json} {nodes : List Node} :
    values.mapM readNode = .ok nodes ↔ values = nodes.map .str :=
  mapM_eq_ok_iff_eq_map fun _ _ => readNode_eq_ok_iff

theorem tells_nodes_iff {nodes : List Node} :
    members.Tells "nodes" .arr [] (nodes.map .str) ↔
      members.Tells "nodes" Json.texts [] nodes := by
  simp only [Tells, Json.texts, List.map_eq_nil_iff]

theorem readNode_eq_error_iff {value : Json} {error : DocumentError} :
    readNode value = .error error ↔
      error = .node value ∧ ∀ node, value ≠ .str node := by
  cases value <;> simp [readNode, eq_comm]

theorem mapM_readNode_eq_error_iff {values : List Json}
    {error : DocumentError} :
    values.mapM readNode = .error error ↔
      ∃ (earlier : List Node) (value : Json) (later : List Json),
        values = earlier.map .str ++ value :: later ∧
        (∀ node, value ≠ .str node) ∧ error = .node value := by
  rw [mapM_eq_error_iff]
  constructor
  · rintro ⟨earlier, value, later, rfl, passed, failed⟩
    rcases exists_mapM passed with ⟨nodes, read⟩
    rcases readNode_eq_error_iff.mp failed with ⟨told, notText⟩
    exact ⟨nodes, value, later, by rw [mapM_readNode_eq_ok_iff.mp read],
      notText, told⟩
  · rintro ⟨earlier, value, later, rfl, notText, told⟩
    refine ⟨_, value, later, rfl, ?_, readNode_eq_error_iff.mpr ⟨told, notText⟩⟩
    rw [List.forall_mem_map]
    exact fun node _ => ⟨node, rfl⟩

theorem values_cases (values : List Json) :
    (∃ nodes : List Node, values = nodes.map .str) ∨
    ∃ (earlier : List Node) (value : Json) (later : List Json),
      values = earlier.map .str ++ value :: later ∧ ∀ node,
        value ≠ .str node := by
  cases read : values.mapM readNode with
  | ok nodes => exact Or.inl ⟨nodes, mapM_readNode_eq_ok_iff.mp read⟩
  | error error =>
      rcases mapM_readNode_eq_error_iff.mp read with
        ⟨earlier, value, later, same, notText, -⟩
      exact Or.inr ⟨earlier, value, later, same, notText⟩

/-! ## Entries of the edge list -/

structure TellsCall (members : Members) (call : Edge) : Prop where
  source : members.find? "source" = some (.str call.source)
  target : members.find? "target" = some (.str call.target)
  explicit : members.Tells "explicit" .bool true call.explicit
  line : members.Tells "line" id .null call.line
  kind : members.Tells "kind" id .null call.kind

def IsEntryOf (entry : Json) (call : Edge) : Prop :=
  ∃ members, entry = .obj members ∧ TellsCall members call

inductive IsFaulty : Json → EdgeFault → Prop where
  | notObject {entry : Json} (notObject : ∀ members, entry ≠ .obj members) :
      IsFaulty entry .notObject
  | noSource {members : Members} (noSource : members.find? "source" = none) :
      IsFaulty (.obj members) (.missing "source")
  | noTarget {members : Members} {source : Json}
      (hasSource : members.find? "source" = some source)
      (noTarget : members.find? "target" = none) :
      IsFaulty (.obj members) (.missing "target")
  | endpoints {members : Members} {source target : Json}
      (hasSource : members.find? "source" = some source)
      (hasTarget : members.find? "target" = some target)
      (notTexts : ∀ first second, source = .str first → target ≠ .str second) :
      IsFaulty (.obj members) .endpoints
  | explicit {members : Members} {source target : String}
      (hasSource : members.find? "source" = some (.str source))
      (hasTarget : members.find? "target" = some (.str target))
      (mistold : members.Mistells "explicit" .bool) :
      IsFaulty (.obj members) .explicit

theorem readExplicit_eq_ok_iff {explicit : Bool} :
    readExplicit members = .ok explicit ↔
      members.Tells "explicit" .bool true explicit := by
  unfold readExplicit
  cases found : members.find? "explicit" with
  | none => simp [tells_of_absent found, eq_comm]
  | some given => cases given <;> simp [tells_of_found found]

theorem readExplicit_eq_error_iff {fault : EdgeFault} :
    readExplicit members = .error fault ↔
      fault = .explicit ∧ members.Mistells "explicit" .bool := by
  unfold readExplicit
  cases found : members.find? "explicit" with
  | none => simp [mistells_of_absent found]
  | some given => cases given <;> simp [mistells_of_found found, eq_comm]

theorem getD_eq_iff_tells {key : String} {value : Json} :
    (members.find? key).getD .null = value ↔
      members.Tells key id .null value := by
  cases found : members.find? key with
  | none => simp [tells_of_absent found, eq_comm]
  | some given => simp [tells_of_found found]

theorem readEdge_of_ends {source target : String}
    (hasSource : members.find? "source" = some (.str source))
    (hasTarget : members.find? "target" = some (.str target)) :
    readEdge (.obj members) = (readExplicit members).map fun explicit =>
      { source, target, explicit, line := (members.find? "line").getD .null,
        kind := (members.find? "kind").getD .null } := by
  rw [readEdge, hasSource, hasTarget]
  cases readExplicit members <;> rfl

theorem readEdge_eq_ok_iff :
    readEdge entry = .ok call ↔ IsEntryOf entry call := by
  constructor
  · intro read
    unfold readEdge at read
    split at read
    · rename_i members
      split at read
      · cases read
      · cases read
      · rename_i source target hasSource hasTarget
        rcases bind_eq_ok_iff.mp read with ⟨explicit, readToo, same⟩
        cases same
        exact ⟨members, rfl, hasSource, hasTarget,
          readExplicit_eq_ok_iff.mp readToo, getD_eq_iff_tells.mp rfl,
          getD_eq_iff_tells.mp rfl⟩
      · cases read
    · cases read
  · rintro ⟨members, rfl, tells⟩
    rw [readEdge_of_ends tells.source tells.target,
      readExplicit_eq_ok_iff.mpr tells.explicit,
      getD_eq_iff_tells.mpr tells.line, getD_eq_iff_tells.mpr tells.kind]
    rfl

theorem readEdge_eq_error_iff {fault : EdgeFault} :
    readEdge entry = .error fault ↔ IsFaulty entry fault := by
  constructor
  · intro failed
    unfold readEdge at failed
    split at failed
    · split at failed
      · rename_i noSource
        cases failed
        exact .noSource noSource
      · rename_i hasSource noTarget
        cases failed
        exact .noTarget hasSource noTarget
      · rename_i hasSource hasTarget
        rcases bind_eq_error_iff.mp failed with failed | ⟨_, _, impossible⟩
        · rcases readExplicit_eq_error_iff.mp failed with ⟨rfl, mistold⟩
          exact .explicit hasSource hasTarget mistold
        · cases impossible
      · rename_i notTexts hasSource hasTarget
        cases failed
        exact .endpoints hasSource hasTarget notTexts
    · rename_i notObject
      cases failed
      exact .notObject notObject
  · rintro faulty
    cases faulty with
    | notObject notObject =>
        cases entry with
        | obj members => exact absurd rfl (notObject members)
        | null | bool | number | str | arr => rfl
    | noSource noSource => rw [readEdge, noSource]
    | noTarget hasSource noTarget => rw [readEdge, hasSource, noTarget]
    | endpoints hasSource hasTarget notTexts =>
        rw [readEdge, hasSource, hasTarget]
        split
        · cases ‹some _ = none›
        · cases ‹some _ = none›
        · rename_i isSource isTarget
          exact absurd (Option.some.inj isTarget)
            (notTexts _ _ (Option.some.inj isSource))
        · rfl
    | explicit hasSource hasTarget mistold =>
        rw [readEdge_of_ends hasSource hasTarget,
          readExplicit_eq_error_iff.mpr ⟨rfl, mistold⟩]
        rfl

/-! ## The edge list -/

theorem isEntryOf_or_isFaulty (entry : Json) :
    (∃ call, IsEntryOf entry call) ∨ ∃ fault, IsFaulty entry fault := by
  simp only [← readEdge_eq_ok_iff, ← readEdge_eq_error_iff]
  cases readEdge entry <;> simp

theorem readEdges_cons_of_isEntryOf (isEntry : IsEntryOf entry call)
    (position : Nat) (rest : List Json) :
    readEdges position (entry :: rest) =
      (readEdges (position + 1) rest).map (call :: ·) := by
  rw [readEdges, readEdge_eq_ok_iff.mpr isEntry]
  cases readEdges (position + 1) rest <;> rfl

theorem readEdges_cons_of_isFaulty {fault : EdgeFault}
    (isFaulty : IsFaulty entry fault) (position : Nat) (rest : List Json) :
    readEdges position (entry :: rest) = .error (.edge position fault) := by
  rw [readEdges, readEdge_eq_error_iff.mpr isFaulty]
  rfl

theorem readEdges_eq_ok_of_forall₂ {position : Nat} {entries : List Json}
    {calls : List Edge} (areEntries : List.Forall₂ IsEntryOf entries calls) :
    readEdges position entries = .ok calls := by
  induction areEntries generalizing position with
  | nil => rfl
  | cons isEntry _ induction =>
      rw [readEdges_cons_of_isEntryOf isEntry, induction]
      rfl

theorem readEdges_eq_error_of_faulty {position : Nat}
    {earlier later : List Json} {fault : EdgeFault}
    (passed : ∀ entry ∈ earlier, ∃ call, IsEntryOf entry call)
    (isFaulty : IsFaulty entry fault) :
    readEdges position (earlier ++ entry :: later) =
      .error (.edge (position + earlier.length) fault) := by
  induction earlier generalizing position with
  | nil => exact readEdges_cons_of_isFaulty isFaulty position later
  | cons first earlier induction =>
      rcases List.forall_mem_cons.mp passed with ⟨⟨call, isEntry⟩, passedRest⟩
      rw [List.cons_append, readEdges_cons_of_isEntryOf isEntry,
        induction passedRest, List.length_cons, Nat.add_right_comm,
        Nat.add_assoc]
      rfl

theorem exists_forall₂_isEntryOf {entries : List Json}
    (each : ∀ entry ∈ entries, ∃ call, IsEntryOf entry call) :
    ∃ calls, List.Forall₂ IsEntryOf entries calls := by
  induction entries with
  | nil => exact ⟨[], .nil⟩
  | cons entry rest induction =>
      rcases List.forall_mem_cons.mp each with ⟨⟨call, isEntry⟩, eachLater⟩
      rcases induction eachLater with ⟨calls, areEntries⟩
      exact ⟨call :: calls, .cons isEntry areEntries⟩

theorem forall_exists_isEntryOf {entries : List Json} {calls : List Edge}
    (areEntries : List.Forall₂ IsEntryOf entries calls) :
    ∀ entry ∈ entries, ∃ call, IsEntryOf entry call := by
  intro entry member
  rcases exists_of_mem_left areEntries entry member with ⟨call, -, isEntry⟩
  exact ⟨call, isEntry⟩

theorem entries_cases (entries : List Json) :
    (∃ calls, List.Forall₂ IsEntryOf entries calls) ∨
    ∃ earlier faulty later fault, entries = earlier ++ faulty :: later ∧
      (∀ entry ∈ earlier, ∃ call, IsEntryOf entry call) ∧
      IsFaulty faulty fault := by
  induction entries with
  | nil => exact Or.inl ⟨[], .nil⟩
  | cons entry rest induction =>
      rcases isEntryOf_or_isFaulty entry with
        ⟨call, isEntry⟩ | ⟨fault, isFaulty⟩
      · rcases induction with ⟨calls, areEntries⟩
          | ⟨earlier, faulty, later, fault, rfl, passed, isFaulty⟩
        · exact Or.inl ⟨call :: calls, .cons isEntry areEntries⟩
        · exact Or.inr ⟨entry :: earlier, faulty, later, fault, rfl,
            List.forall_mem_cons.mpr ⟨⟨call, isEntry⟩, passed⟩, isFaulty⟩
      · exact Or.inr ⟨[], entry, rest, fault, rfl, nofun, isFaulty⟩

/-! ## Root and classes -/

theorem readRoot_eq_ok_iff {root : Option Node} :
    readRoot members = .ok root ↔ members.Tells "root" .ofText? none root := by
  unfold readRoot
  cases found : members.find? "root" with
  | none => simp [tells_of_absent found, eq_comm]
  | some given =>
      cases given <;> cases root <;> simp [tells_of_found found, Json.ofText?]

theorem readRoot_eq_error_iff {error : DocumentError} :
    readRoot members = .error error ↔
      error = .root ∧ members.Mistells "root" .ofText? := by
  unfold readRoot
  cases found : members.find? "root" with
  | none => simp [mistells_of_absent found]
  | some given =>
      cases given <;>
        simp [mistells_of_found found, Json.ofText?, Option.forall, eq_comm]

def classObject (classes : List (String × String)) : Json :=
  .obj (classes.map fun entry => (entry.1, .str entry.2))

theorem readClass_eq_ok_iff (entry : String × Json) (answer : String × String) :
    readClass entry = .ok answer ↔ entry = (answer.1, .str answer.2) := by
  rcases entry with ⟨className, superclass⟩
  cases superclass <;> simp [readClass, Prod.ext_iff]

theorem mapM_readClass_eq_ok_iff {entries : Members}
    {classes : List (String × String)} :
    entries.mapM readClass = .ok classes ↔
      Json.obj entries = classObject classes := by
  rw [classObject, Json.obj.injEq]
  exact mapM_eq_ok_iff_eq_map readClass_eq_ok_iff

theorem mapM_readClass_eq_error_iff {entries : Members}
    {error : DocumentError} :
    entries.mapM readClass = .error error ↔
      error = .classes ∧ ∀ classes, Json.obj entries ≠ classObject classes := by
  simp only [ne_eq, ← mapM_readClass_eq_ok_iff]
  cases read : entries.mapM readClass with
  | ok classes => simp
  | error other =>
      rcases mapM_eq_error_iff.mp read with
        ⟨_, ⟨_, superclass⟩, _, -, -, failed⟩
      have same : other = .classes := by
        cases superclass <;> cases failed <;> rfl
      simp [same, eq_comm]

theorem readClasses_eq_ok_iff {superclasses : Hierarchy} :
    readClasses members = .ok superclasses ↔
      ∃ classes, members.Tells "classes" classObject [] classes ∧
      classes.foldl (fun hierarchy (className, superclass) =>
        hierarchy.insert className superclass) ∅ =
        superclasses := by
  unfold readClasses
  cases found : members.find? "classes" with
  | none => simp [tells_of_absent found]
  | some given =>
      simp only [tells_of_found found]
      cases given with
      | obj entries =>
          simp only [bind_eq_ok_iff, mapM_readClass_eq_ok_iff]
          simp [pure, Except.pure]
      | null | bool | number | str | arr => simp [classObject]

theorem readClasses_eq_error_iff {error : DocumentError} :
    readClasses members = .error error ↔
      error = .classes ∧ members.Mistells "classes" classObject := by
  unfold readClasses
  cases found : members.find? "classes" with
  | none => simp [mistells_of_absent found]
  | some given =>
      rw [mistells_of_found found]
      cases given with
      | obj entries =>
          simp only [bind_eq_error_iff, mapM_readClass_eq_error_iff]
          simp [pure, Except.pure]
      | null | bool | number | str | arr => simp [classObject, eq_comm]

theorem getElem?_foldl_insert (classes : List (String × String))
    (start : Hierarchy) (className : String) :
    (classes.foldl (fun hierarchy (className, superclass) =>
      hierarchy.insert className superclass)
      start)[className]? =
        (classes.reverse.lookup className).or start[className]? := by
  induction classes generalizing start with
  | nil => simp
  | cons entry rest induction =>
      rcases entry with ⟨other, superclass⟩
      rw [List.foldl_cons, induction, List.reverse_cons, List.lookup_append,
        Option.or_assoc]
      congr 1
      by_cases same : className = other
      · simp [same]
      · simp [List.lookup_cons, Std.TreeMap.getElem?_insert,
          beq_eq_false_iff_ne.mpr same, Ne.symm same]

/-! ## Whole documents -/

/-- A well-formed document. Its calls, nodes and classes stand in lists and an
object of the right kinds, which are empty where they are not given, and its
root is a text if there is one. -/
structure IsWellFormed (members : Members) : Prop where
  edges : ∃ entries, members.Tells "edges" .arr [] entries ∧
    ∀ entry ∈ entries, ∃ call, IsEntryOf entry call
  nodes : ∃ nodes, members.Tells "nodes" Json.texts [] nodes
  root : ∃ root, members.Tells "root" .ofText? none root
  classes : ∃ classes, members.Tells "classes" classObject [] classes

/-- Nothing that a document tells is lost. The graph has its calls in order, and
its nodes, which are the listed ones and the ends of the calls, in the order of
first mention. -/
structure Keeps (members : Members) (document : Document) : Prop where
  edges : ∃ entries, members.Tells "edges" .arr [] entries ∧
    List.Forall₂ IsEntryOf entries document.graph.edges
  nodes : ∃ nodes, members.Tells "nodes" Json.texts [] nodes ∧
    document.graph.nodes = (nodes ++ endsOf document.graph.edges).eraseDups
  root : members.Tells "root" .ofText? none document.root
  classes : ∃ classes, members.Tells "classes" classObject [] classes ∧
    ∀ className, document.superclasses[className]? =
      classes.reverse.lookup className

/-- The first fault of a document, in the order of reading: what the document
is, its lists, the nodes, the calls by their positions, the root and the
classes. -/
inductive FirstFault : Json → DocumentError → Prop where
  | notObject {document : Json}
      (notObject : ∀ members, document ≠ .obj members) :
      FirstFault document .notObject
  | edgesNotList {members : Members} (mistold : members.Mistells "edges" .arr) :
      FirstFault (.obj members) .edgesNotList
  | nodesNotList {members : Members} {entries : List Json}
      (edges : members.Tells "edges" .arr [] entries)
      (mistold : members.Mistells "nodes" .arr) :
      FirstFault (.obj members) .nodesNotList
  | node {members : Members} {entries later : List Json} {earlier : List Node}
      {value : Json} (edges : members.Tells "edges" .arr [] entries)
      (nodes : members.Tells "nodes" .arr []
        (earlier.map .str ++ value :: later))
      (notText : ∀ node, value ≠ .str node) :
      FirstFault (.obj members) (.node value)
  | edge {members : Members} {nodes : List Node} {earlier later : List Json}
      {entry : Json} {fault : EdgeFault}
      (nodes : members.Tells "nodes" Json.texts [] nodes)
      (edges : members.Tells "edges" .arr [] (earlier ++ entry :: later))
      (passed : ∀ entry ∈ earlier, ∃ call, IsEntryOf entry call)
      (faulty : IsFaulty entry fault) :
      FirstFault (.obj members) (.edge earlier.length fault)
  | root {members : Members} {entries : List Json} {nodes : List Node}
      (nodes : members.Tells "nodes" Json.texts [] nodes)
      (edges : members.Tells "edges" .arr [] entries)
      (passed : ∀ entry ∈ entries, ∃ call, IsEntryOf entry call)
      (mistold : members.Mistells "root" .ofText?) :
      FirstFault (.obj members) .root
  | classes {members : Members} {entries : List Json} {nodes : List Node}
      {root : Option Node} (nodes : members.Tells "nodes" Json.texts [] nodes)
      (edges : members.Tells "edges" .arr [] entries)
      (passed : ∀ entry ∈ entries, ∃ call, IsEntryOf entry call)
      (root : members.Tells "root" .ofText? none root)
      (mistold : members.Mistells "classes" classObject) :
      FirstFault (.obj members) .classes

theorem ofJson_of_tells {entries : List Json} {nodes : List Node}
    {calls : List Edge} (edges : members.Tells "edges" .arr [] entries)
    (listed : members.Tells "nodes" Json.texts [] nodes)
    (areEntries : List.Forall₂ IsEntryOf entries calls) :
    ofJson (.obj members) = (do
      let root ← readRoot members
      let superclasses ← readClasses members
      return { graph := (CallGraph.empty.addNodes nodes).addEdges calls, root,
               superclasses }) := by
  rw [ofJson, listUnder_eq_ok_iff.mpr edges,
    listUnder_eq_ok_iff.mpr (tells_nodes_iff.mpr listed)]
  simp only [bind, Except.bind]
  rw [mapM_readNode_eq_ok_iff.mpr rfl, readEdges_eq_ok_of_forall₂ areEntries]

theorem FirstFault.ofJson_eq_error {document : Json} {error : DocumentError}
    (fault : FirstFault document error) : ofJson document = .error error := by
  cases fault with
  | notObject notObject =>
      cases document with
      | obj members => exact absurd rfl (notObject members)
      | null | bool | number | str | arr => rfl
  | edgesNotList mistold =>
      rw [ofJson, listUnder_eq_error_iff.mpr ⟨rfl, mistold⟩]
      rfl
  | nodesNotList edges mistold =>
      rw [ofJson, listUnder_eq_ok_iff.mpr edges,
        listUnder_eq_error_iff.mpr ⟨rfl, mistold⟩]
      rfl
  | node edges nodes notText =>
      rw [ofJson, listUnder_eq_ok_iff.mpr edges, listUnder_eq_ok_iff.mpr nodes]
      simp only [bind, Except.bind]
      rw [mapM_readNode_eq_error_iff.mpr ⟨_, _, _, rfl, notText, rfl⟩]
  | edge nodes edges passed faulty =>
      rw [ofJson, listUnder_eq_ok_iff.mpr edges,
        listUnder_eq_ok_iff.mpr (tells_nodes_iff.mpr nodes)]
      simp only [bind, Except.bind]
      rw [mapM_readNode_eq_ok_iff.mpr rfl,
        readEdges_eq_error_of_faulty passed faulty, Nat.zero_add]
  | root nodes edges passed mistold =>
      rcases exists_forall₂_isEntryOf passed with ⟨calls, areEntries⟩
      rw [ofJson_of_tells edges nodes areEntries,
        readRoot_eq_error_iff.mpr ⟨rfl, mistold⟩]
      rfl
  | classes nodes edges passed root mistold =>
      rcases exists_forall₂_isEntryOf passed with ⟨calls, areEntries⟩
      rw [ofJson_of_tells edges nodes areEntries, readRoot_eq_ok_iff.mpr root,
        readClasses_eq_error_iff.mpr ⟨rfl, mistold⟩]
      rfl

theorem IsWellFormed.exists_ofJson (wellFormed : IsWellFormed members) :
    ∃ document, ofJson (.obj members) = .ok document ∧
      Keeps members document := by
  rcases wellFormed.edges with ⟨entries, edges, passed⟩
  rcases wellFormed.nodes with ⟨nodes, listed⟩
  rcases wellFormed.root with ⟨root, rooted⟩
  rcases wellFormed.classes with ⟨classes, classed⟩
  rcases exists_forall₂_isEntryOf passed with ⟨calls, areEntries⟩
  have read := ofJson_of_tells edges listed areEntries
  rw [readRoot_eq_ok_iff.mpr rooted,
    readClasses_eq_ok_iff.mpr ⟨classes, classed, rfl⟩] at read
  have told : ((CallGraph.empty.addNodes nodes).addEdges calls).edges =
      calls := by
    rw [CallGraph.edges_addEdges, CallGraph.edges_addNodes,
      CallGraph.edges_empty, List.nil_append]
  refine ⟨_, read, ⟨entries, edges, told.symm ▸ areEntries⟩,
    ⟨nodes, listed, ?_⟩, rooted, ⟨classes, classed, fun className => ?_⟩⟩
  · rw [told]
    exact CallGraph.nodes_addEdges_addNodes nodes calls
  · rw [getElem?_foldl_insert]
    simp

theorem isWellFormed_or_firstFault (members : Members) :
    IsWellFormed members ∨ ∃ error, FirstFault (.obj members) error := by
  -- The stages in the order in which they are read; a fault counts where all
  -- stages before it have gone well.
  rcases tells_or_mistells members "edges" .arr [] with
    ⟨entries, edges⟩ | mistold
  swap
  · exact Or.inr ⟨_, .edgesNotList mistold⟩
  rcases tells_or_mistells members "nodes" .arr [] with
    ⟨values, listed⟩ | mistold
  swap
  · exact Or.inr ⟨_, .nodesNotList edges mistold⟩
  rcases values_cases values with
    ⟨nodes, rfl⟩ | ⟨earlier, value, later, rfl, notText⟩
  swap
  · exact Or.inr ⟨_, .node edges listed notText⟩
  have nodes := tells_nodes_iff.mp listed
  rcases entries_cases entries with
    ⟨calls, areEntries⟩ | ⟨earlier, faulty, later, fault, rfl, passed, isFaulty⟩
  swap
  · exact Or.inr ⟨_, .edge nodes edges passed isFaulty⟩
  have passed := forall_exists_isEntryOf areEntries
  rcases tells_or_mistells members "root" Json.ofText? none with
    ⟨root, rooted⟩ | mistold
  swap
  · exact Or.inr ⟨_, .root nodes edges passed mistold⟩
  rcases tells_or_mistells members "classes" classObject [] with
    ⟨classes, classed⟩ | mistold
  swap
  · exact Or.inr ⟨_, .classes nodes edges passed rooted mistold⟩
  exact Or.inl ⟨⟨entries, edges, passed⟩, ⟨_, nodes⟩, ⟨root, rooted⟩,
    ⟨classes, classed⟩⟩

theorem ofJson_cases (value : Json) :
    (∃ members document, value = .obj members ∧ IsWellFormed members ∧
      ofJson value = .ok document ∧
      Keeps members document) ∨
    ∃ fault, ofJson value = .error fault ∧ FirstFault value fault := by
  cases value with
  | obj members =>
      rcases isWellFormed_or_firstFault members with
        wellFormed | ⟨fault, isFirst⟩
      · rcases wellFormed.exists_ofJson with ⟨document, read, keeps⟩
        exact Or.inl ⟨members, document, rfl, wellFormed, read, keeps⟩
      · exact Or.inr ⟨fault, isFirst.ofJson_eq_error, isFirst⟩
  | null | bool | number | str | arr => exact Or.inr ⟨_, rfl, .notObject nofun⟩

/-- Reading a document, of whatever origin, accepts exactly the well-formed
ones. What is read keeps all that the document tells: its calls in order, its
nodes in the order of first mention, the root and the classes. A document that
is refused is refused for its first fault. -/
theorem read_exact (origin : String) (value : Json) :
    ((∃ document, read origin value = .ok document) ↔
      ∃ members, value = .obj members ∧ IsWellFormed members) ∧
    (∀ document, read origin value = .ok document →
      ∃ members, value = .obj members ∧ Keeps members document) ∧
    (∀ error, read origin value = .error error ↔
      ∃ fault, error = .document origin fault ∧ FirstFault value fault) := by
  simp only [Document.read, mapError_eq_ok_iff, mapError_eq_error_iff]
  refine ⟨⟨?_, ?_⟩, ?_, fun error => ⟨?_, ?_⟩⟩
  · rintro ⟨document, isRead⟩
    rcases ofJson_cases value with
      ⟨members, _, same, wellFormed, -, -⟩ | ⟨fault, failed, -⟩
    · exact ⟨members, same, wellFormed⟩
    · cases isRead.symm.trans failed
  · rintro ⟨members, rfl, wellFormed⟩
    rcases wellFormed.exists_ofJson with ⟨document, isRead, -⟩
    exact ⟨document, isRead⟩
  · intro document isRead
    rcases ofJson_cases value with
      ⟨members, other, same, -, isReadToo, keeps⟩ | ⟨fault, failed, -⟩
    · exact ⟨members, same, Except.ok.inj (isReadToo.symm.trans isRead) ▸ keeps⟩
    · cases isRead.symm.trans failed
  · rintro ⟨fault, failed, rfl⟩
    rcases ofJson_cases value with
      ⟨_, _, -, -, isRead, -⟩ | ⟨other, failedToo, isFirst⟩
    · cases failed.symm.trans isRead
    · exact ⟨fault, rfl,
        Except.error.inj (failedToo.symm.trans failed) ▸ isFirst⟩
  · rintro ⟨fault, rfl, isFirst⟩
    exact ⟨fault, isFirst.ofJson_eq_error, rfl⟩

end Document

end CallChains
