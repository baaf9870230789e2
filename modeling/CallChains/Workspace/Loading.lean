import CallChains.Document
import CallChains.Json.Reader
import CallChains.Settings
import CallChains.Workspace.Files
/-!
Loading call graphs and settings from the files of a workspace.
-/

namespace CallChains

structure FileName where
  path : FilePath
  shown : String

inductive FileFault where
  | access (error : AccessError)
  | content (error : Json.ReadError)
  /-- The path holds a null character, and no file can have such a path. -/
  | notPath
  deriving DecidableEq, Repr

namespace Workspace

def named (path : String) : FileName :=
  let path := FilePath.ofText path
  { path, shown := path.text }

def found (workspace : Workspace) (parts : List String) : FileName :=
  { path := { anchor := "", parts }
    shown := { workspace.directory with
      parts := workspace.directory.parts ++ parts : FilePath }.text }

def readJson (workspace : Workspace) (file : FileName) :
    Except FileFault Json :=
  if file.path.text.contains '\x00' then .error .notPath
  else
    match workspace.read file.path with
    | .error error => .error (.access error)
    | .ok content =>
        (Json.ofBytes content).mapError .content

end Workspace

namespace FileFault

/-- Whether a fault ends a request without an answer. All other faults are told
in the answer. -/
def isFatal : FileFault → Bool
  | .content (.longNumber _) | .content .tooDeep | .notPath => true
  | .content .malformed | .access _ => false

/-- What is told of a file, after words for what is wrong with it. How a text
fails to be JSON is not told. -/
def message (unread malformed path : String) : FileFault → String
  | .access error => unread ++ " " ++ path ++ ": " ++ error.message path
  | .content .malformed => malformed ++ " " ++ path ++ ": <json error>"
  | .content (.longNumber digits) =>
      malformed ++ " " ++ path ++ s!": a number has {digits} digits"
  | .content .tooDeep =>
      malformed ++ " " ++ path ++ ": lists and objects are nested too deep"
  | .notPath => unread ++ " " ++ path ++ ": the path holds a null character"

end FileFault

/-! ## Call graphs -/

inductive GraphError where
  | file (path : String) (fault : FileFault)
  | document (origin : String) (error : DocumentError)
  deriving DecidableEq, Repr

def GraphError.message : GraphError → String
  | .file path fault =>
      fault.message "Cannot read call graph" "Invalid JSON in call graph" path
  | .document origin error => error.message origin

def GraphError.fatalFault? : GraphError → Option FileFault
  | .file _ fault => if fault.isFatal then some fault else none
  | .document _ _ => none

def Document.read (origin : String) (value : Json) :
    Except GraphError Document :=
  (Document.ofJson value).mapError (.document origin)

def Workspace.loadDocument (workspace : Workspace) (path : String) :
    Except GraphError Document := do
  let file := named path
  let value ← (workspace.readJson file).mapError (.file file.shown)
  Document.read file.shown value

/-! ## Settings -/

inductive ConfigError where
  | file (path : String) (fault : FileFault)
  | notObject (path : String)
  | setting (error : SettingsError)
  deriving DecidableEq, Repr

def ConfigError.message : ConfigError → String
  | .file path fault =>
      fault.message "Failed to read config file"
        "Invalid JSON in config file" path
  | .notObject path => "Config file " ++ path ++ " must contain an object"
  | .setting error => error.message

def ConfigError.fatalFault? : ConfigError → Option FileFault
  | .file _ fault => if fault.isFatal then some fault else none
  | .notObject _ | .setting _ => none

namespace Workspace

def settingsPaths : List (List String) :=
  [["callpath.json"], [".callpath", "config.json"]]

def findSettings? (workspace : Workspace) : Option FileName :=
  (settingsPaths.map workspace.found).find? fun file =>
    workspace.isPresent file.path

def readSettings (workspace : Workspace) (file : FileName) :
    Except ConfigError SettingsReading := do
  match ← (workspace.readJson file).mapError (.file file.shown) with
  | .obj members => (Settings.ofMembers members).mapError .setting
  | _ => .error (.notObject file.shown)

/-- The settings of a workspace. A file that is named must be there; otherwise
one is looked for, and the defaults stand if none is found. -/
def loadSettings (workspace : Workspace) (path : Option String) :
    Except ConfigError SettingsReading :=
  match path with
  | some path => workspace.readSettings (named path)
  | none =>
      match workspace.findSettings? with
      | some file => workspace.readSettings file
      | none => .ok { settings := .standard, warnings := [] }

end Workspace

end CallChains
