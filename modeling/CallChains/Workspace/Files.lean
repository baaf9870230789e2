import CallChains.Json.Shown
import CallChains.Text.Printable
import CallChains.Text.Split
/-!
Paths, and what reading them gives. A path is taken apart at its slashes; empty
parts and single dots say nothing.
-/

namespace CallChains

/-! ## Paths -/

structure FilePath where
  /-- What stands before the first part: nothing, or the slashes of an absolute
  path. -/
  anchor : String
  parts : List String
  deriving DecidableEq, Repr

namespace FilePath

/-- Two slashes in front are kept, any other number of them is one. -/
def ofText (text : String) : FilePath :=
  let characters := text.toList
  let slashes := (characters.takeWhile (· = '/')).length
  { anchor := if slashes = 0 then "" else if slashes = 2 then "//" else "/"
    parts :=
      ((Text.splitAt (· = '/') characters).map String.ofList).filter fun part =>
      part ≠ "" && part ≠ "." }

def text (path : FilePath) : String :=
  if path.anchor = "" && path.parts.isEmpty then "."
  else path.anchor ++ "/".intercalate path.parts

def isAbsolute (path : FilePath) : Bool := path.anchor ≠ ""

end FilePath

/-! ## Files -/

inductive AccessError where
  | notFound
  | notDirectory
  | isDirectory
  | nameTooLong
  | other (number : Nat) (reason : String)
  deriving DecidableEq, Repr

namespace AccessError

def number : AccessError → Nat
  | .notFound => 2
  | .notDirectory => 20
  | .isDirectory => 21
  | .nameTooLong => 36
  | .other number _ => number

def reason : AccessError → String
  | .notFound => "No such file or directory"
  | .notDirectory => "Not a directory"
  | .isDirectory => "Is a directory"
  | .nameTooLong => "File name too long"
  | .other _ reason => reason

def message (path : String) (error : AccessError) : String :=
  s!"[Errno {error.number}] " ++ error.reason ++ ": " ++ Text.quoted path

end AccessError

/-- What a request sees of the file system: the directory it works in, and what
reading a path gives. Paths that are not absolute start in that directory. -/
structure Workspace where
  directory : FilePath
  read : FilePath → Except AccessError ByteArray

/-- Whether a path leads to anything, be it readable or not. -/
def Workspace.isPresent (workspace : Workspace) (path : FilePath) : Bool :=
  match workspace.read path with
  | .ok _ | .error .isDirectory | .error (.other _ _) => true
  | .error .notFound | .error .notDirectory | .error .nameTooLong => false

end CallChains
