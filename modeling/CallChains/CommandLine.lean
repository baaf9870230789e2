import CallChains.Command
/-!
The words of a command line, read as an invocation. Options may stand anywhere;
a value follows its option as the next word or behind an equals sign. Behind a
double dash every word stands for itself.
-/

namespace CallChains

inductive CommandOption where
  | root
  | target
  | maxVisits
  | workers
  | check
  | noCheck
  | json
  | config
  deriving DecidableEq, Repr

inductive UsageError where
  | noCommand
  | unknownCommand (name : String)
  | unknownOption (name : String)
  | unsupportedOption (option : CommandOption)
  | missingValue (option : CommandOption)
  | unexpectedValue (option : CommandOption)
  | notWhole (option : CommandOption) (value : String)
  | missingWord (meaning : String)
  | extraWord (word : String)
  deriving DecidableEq, Repr

namespace CommandOption

def longName : CommandOption → String
  | .root => "--root"
  | .target => "--target"
  | .maxVisits => "--max-visits"
  | .workers => "--workers"
  | .check => "--check"
  | .noCheck => "--no-check"
  | .json => "--json"
  | .config => "--config"

def shortName? : CommandOption → Option String
  | .root => some "-r"
  | .target => some "-t"
  | .workers => some "-w"
  | .json => some "-j"
  | .config => some "-c"
  | .maxVisits | .check | .noCheck => none

def all : List CommandOption :=
  [.root, .target, .maxVisits, .workers, .check, .noCheck, .json, .config]

def named? (name : String) : Option CommandOption :=
  all.find? fun option =>
    option.longName = name || option.shortName? = some name

def takesValue : CommandOption → Bool
  | .root | .target | .maxVisits | .workers | .config => true
  | .check | .noCheck | .json => false

end CommandOption

def UsageError.message : UsageError → String
  | .noCommand => "Missing command."
  | .unknownCommand name => "No such command '" ++ name ++ "'."
  | .unknownOption name => "No such option: " ++ name
  | .unsupportedOption option => "No such option: " ++ option.longName
  | .missingValue option =>
      "Option '" ++ option.longName ++ "' requires an argument."
  | .unexpectedValue option =>
      "Option '" ++ option.longName ++ "' does not take a value."
  | .notWhole option value =>
      "Invalid value for '" ++ option.longName ++ "': '" ++ value ++
        "' is not a valid integer."
  | .missingWord meaning => "Missing argument '" ++ meaning ++ "'."
  | .extraWord word => "Got unexpected extra argument (" ++ word ++ ")"

structure CommandLine where
  options : List (CommandOption × String) := []
  words : List String := []
  deriving DecidableEq, Repr

namespace CommandLine

/-! ## Taking words apart -/

def splitAtEquals (word : String) : String × Option String :=
  let characters := word.toList
  match characters.dropWhile (· ≠ '=') with
  | [] => (word, none)
  | _ :: value =>
      (String.ofList (characters.takeWhile (· ≠ '=')),
        some (String.ofList value))

def isOption (word : String) : Bool :=
  word.toList.head? = some '-' && word ≠ "-"

def addOption (option : CommandOption) (value : String)
    (line : CommandLine) : CommandLine :=
  { line with options := (option, value) :: line.options }

def addWord (word : String) (line : CommandLine) : CommandLine :=
  { line with words := word :: line.words }

def ofWords : List String → Except UsageError CommandLine
  | [] => .ok {}
  | "--" :: rest => .ok { words := rest }
  | word :: rest =>
      if isOption word then
        let (name, value?) := splitAtEquals word
        match CommandOption.named? name, value? with
        | none, _ => .error (.unknownOption name)
        | some option, some value =>
            if option.takesValue then
              (ofWords rest).map (addOption option value)
            else .error (.unexpectedValue option)
        | some option, none =>
            if option.takesValue then
              match rest with
              | [] => .error (.missingValue option)
              | value :: rest => (ofWords rest).map (addOption option value)
            else (ofWords rest).map (addOption option "")
      else (ofWords rest).map (addWord word)

/-! ## Options -/

def valuesOf (line : CommandLine) (option : CommandOption) : List String :=
  (line.options.filter (·.1 = option)).map Prod.snd

def valueOf? (line : CommandLine) (option : CommandOption) : Option String :=
  (line.valuesOf option).getLast?

def has (line : CommandLine) (option : CommandOption) : Bool :=
  line.options.any (·.1 = option)

def wholeOf? (line : CommandLine) (option : CommandOption) :
    Except UsageError (Option Int) :=
  match line.valueOf? option with
  | none => .ok none
  | some value =>
      match value.toInt? with
      | some number => .ok (some number)
      | none => .error (.notWhole option value)

/-- Of the options that turn the check on and off the last one counts. -/
def check? (line : CommandLine) : Option Bool :=
  ((line.options.map Prod.fst).filter fun option =>
    option = .check || option = .noCheck).getLast?.map (· = .check)

/-- Every option has to be one that the command knows; the settings file can be
named for all. -/
def requireOnly (line : CommandLine) (known : List CommandOption) :
    Except UsageError Unit :=
  match (line.options.map Prod.fst).find? fun option =>
    option ≠ .config && !known.contains option with
  | some option => .error (.unsupportedOption option)
  | none => .ok ()

def targets? (line : CommandLine) : Option (List String) :=
  match line.valuesOf .target with
  | [] => none
  | targets => some targets

/-! ## Commands -/

def required (meaning : String) :
    List String → Except UsageError (String × List String)
  | [] => .error (.missingWord meaning)
  | word :: rest => .ok (word, rest)

def command (line : CommandLine) (name : String) (words : List String) :
    Except UsageError (Command × List String) :=
  match name with
  | "paths" => do
      line.requireOnly [.root, .target, .maxVisits, .workers, .check, .noCheck,
        .json]
      let maxVisits ← line.wholeOf? .maxVisits
      let workers ← line.wholeOf? .workers
      return (.paths {
        root := line.valueOf? .root, targets := line.targets?, maxVisits,
        workers
        check := line.check? }, words)
  | "entries" => do
      line.requireOnly [.root, .json]
      return (.entries (line.valueOf? .root), words)
  | "targets" => do
      line.requireOnly [.root, .target, .json]
      return (.targets (line.valueOf? .root) line.targets?, words)
  | "subgraph" => do
      line.requireOnly [.json]
      let (target, words) ← required "TARGET" words
      return (.subgraph target, words)
  | "shortest" => do
      line.requireOnly [.json]
      let (source, words) ← required "SOURCE" words
      let (target, words) ← required "TARGET" words
      return (.shortest source target, words)
  | "stats" => do
      line.requireOnly [.json]
      return (.stats, words)
  | other => .error (.unknownCommand other)

def commandNames : List String :=
  ["paths", "entries", "targets", "subgraph", "shortest", "stats"]

def invocation (line : CommandLine) : Except UsageError Invocation :=
  match line.words with
  | [] => .error .noCommand
  | name :: words =>
      if commandNames.contains name then do
        let (graph, words) ← required "GRAPH_FILE" words
        let (command, words) ← line.command name words
        match words with
        | [] => return { command, graph, config := line.valueOf? .config,
                         json := line.has .json }
        | word :: _ => .error (.extraWord word)
      else .error (.unknownCommand name)

end CommandLine

namespace Invocation

def ofWords (words : List String) : Except UsageError Invocation := do
  (← CommandLine.ofWords words).invocation

def paths (invocation : Invocation) : List FilePath :=
  FilePath.ofText invocation.graph ::
    match invocation.config with
    | some config => [FilePath.ofText config]
    | none => Workspace.settingsPaths.map fun parts => { anchor := "", parts }

end Invocation

end CallChains
