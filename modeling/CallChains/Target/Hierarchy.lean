import Std.Data.TreeMap
import Std.Data.TreeSet
/-!
Class hierarchies: each class has at most one superclass. Nothing keeps a
hierarchy from going round in circles.
-/

namespace CallChains

abbrev Hierarchy := Std.TreeMap String String

namespace Hierarchy

def unmet (hierarchy : Hierarchy) (met : Std.TreeSet String) : List String :=
  hierarchy.keys.filter (· ∉ met)

theorem unmet_insert (hierarchy : Hierarchy) (met : Std.TreeSet String)
    (className : String) :
    hierarchy.unmet (met.insert className) =
      (hierarchy.unmet met).filter (className ≠ ·) := by
  rw [unmet, unmet, List.filter_filter]
  apply List.filter_congr
  intro other _
  simp [Std.TreeSet.mem_insert]

theorem length_unmet_insert_lt {hierarchy : Hierarchy}
    {met : Std.TreeSet String} {className superclass : String}
    (fresh : className ∉ met)
    (found : hierarchy[className]? = some superclass) :
    (hierarchy.unmet (met.insert className)).length <
      (hierarchy.unmet met).length := by
  have isKey : className ∈ hierarchy.keys := by
    rw [Std.TreeMap.mem_keys, Std.TreeMap.mem_iff_isSome_getElem?, found]
    rfl
  rw [unmet_insert, List.length_filter_lt_length_iff_exists]
  exact ⟨className, List.mem_filter.mpr ⟨isKey, decide_eq_true fresh⟩, by simp⟩

/-- Whether the walk up from a class comes to an ancestor. It ends at a class
without a superclass, and at one that it has met before. -/
def climbs (hierarchy : Hierarchy) (ancestor : String)
    (met : Std.TreeSet String) (className : String) : Bool :=
  if className ∈ met then false
  else if className = ancestor then true
  else
    match _found : hierarchy[className]? with
    | none => false
    | some superclass =>
        hierarchy.climbs ancestor (met.insert className) superclass
termination_by (hierarchy.unmet met).length
decreasing_by exact length_unmet_insert_lt ‹_› ‹_›

def isOrInherits (hierarchy : Hierarchy) (className ancestor : String) : Bool :=
  hierarchy.climbs ancestor ∅ className

end Hierarchy

end CallChains
