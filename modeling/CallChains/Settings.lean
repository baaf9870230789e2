import CallChains.Json.Overlay
import Std.Data.TreeSet
/-!
Settings of an analysis. They are read from the members of an object laid over
the defaults; every setting is checked, and keys that mean nothing only give a
warning.
-/

namespace CallChains

structure Settings where
  root : Option String := none
  targets : List String := []
  /-- How many nodes each traversal may visit. -/
  maxVisits : Option Nat := none
  checkInvariants : Bool := true
  workers : Nat := 1
  maxVisits_pos : ∀ limit, maxVisits = some limit → 0 < limit := by simp
  workers_pos : 0 < workers := by decide
  deriving DecidableEq

inductive SettingsError where
  | root
  | targets
  | maxVisits
  | checkInvariants
  | workers
  deriving DecidableEq, Repr

def SettingsError.message : SettingsError → String
  | .root => "'root' must be a string"
  | .targets => "'targets' must be a list of strings"
  | .maxVisits => "'max_visits' must be a positive integer"
  | .checkInvariants => "'check_invariants' must be a boolean"
  | .workers => "'workers' must be a positive integer"

structure SettingsReading where
  settings : Settings
  warnings : List String
  deriving DecidableEq

namespace Settings

def toMembers (settings : Settings) : Members :=
  [("root", .ofText? settings.root), ("targets", .texts settings.targets),
    ("max_visits", (settings.maxVisits.map Json.ofNat).getD .null),
    ("check_invariants", .bool settings.checkInvariants),
    ("workers", .ofNat settings.workers)]

def standard : Settings := {}

def defaultMembers : Members := standard.toMembers

/-! ## Single settings -/

def readRoot : Json → Except SettingsError (Option String)
  | .null => .ok none
  | .str root => .ok (some root)
  | _ => .error .root

def readTarget : Json → Except SettingsError String
  | .str target => .ok target
  | _ => .error .targets

def readTargets : Json → Except SettingsError (List String)
  | .arr items => items.mapM readTarget
  | _ => .error .targets

/-- A whole number above zero; doubles are no whole numbers, whatever their
value. -/
def positive? : Json → Option { value : Nat // 0 < value }
  | .number (.int value) =>
      if positive : 0 < value then some ⟨value.toNat, by omega⟩ else none
  | _ => none

def readMaxVisits :
    Json → Except SettingsError (Option { value : Nat // 0 < value })
  | .null => .ok none
  | value =>
      match positive? value with
      | some limit => .ok (some limit)
      | none => .error .maxVisits

def readCheckInvariants : Json → Except SettingsError Bool
  | .bool check => .ok check
  | _ => .error .checkInvariants

def readWorkers (value : Json) :
    Except SettingsError { value : Nat // 0 < value } :=
  match positive? value with
  | some workers => .ok workers
  | none => .error .workers

/-! ## All settings -/

def unknownKeys (members : Members) : List String :=
  (Std.TreeSet.ofList (members.keys.filter fun key =>
    !defaultMembers.keys.contains key && key ≠ "$schema")).toList

def warningsFor (members : Members) : List String :=
  match unknownKeys members with
  | [] => []
  | keys => ["Config: Unknown config keys: " ++ ", ".intercalate keys]

def ofMembers (given : Members) : Except SettingsError SettingsReading := do
  let members := defaultMembers.overlay given
  let value key := (members.find? key).getD .null
  let root ← readRoot (value "root")
  let targets ← readTargets (value "targets")
  let maxVisits ← readMaxVisits (value "max_visits")
  let checkInvariants ← readCheckInvariants (value "check_invariants")
  let workers ← readWorkers (value "workers")
  return {
    settings := {
      root, targets, checkInvariants
      maxVisits := maxVisits.map Subtype.val
      workers := workers.val
      maxVisits_pos := by
        intro limit found
        obtain ⟨value, _, rfl⟩ := Option.map_eq_some_iff.mp found
        exact value.property
      workers_pos := workers.property }
    warnings := warningsFor members }

/-- The settings with some of them replaced. A null replaces nothing. -/
def withOverrides (settings : Settings) (overrides : Members) :
    Except SettingsError SettingsReading :=
  ofMembers (settings.toMembers.putAll
    (overrides.filter fun override => override.2 ≠ .null))

end Settings

end CallChains
