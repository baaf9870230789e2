import CallChains.CommandLine
/-!
The command line program. It reads the files that an invocation may ask for, and
prints the response.
-/

namespace CallChains

/-- The number of a system error, which may be told as a negative one. -/
def systemNumber (code : UInt32) : Nat := min code.toNat (-code).toNat

def AccessError.ofSystem : IO.Error → AccessError
  | .noFileOrDirectory _ _ _ => .notFound
  | .inappropriateType _ number reason | .permissionDenied _ number reason
  | .otherError number reason =>
      match systemNumber number with
      | 20 => .notDirectory
      | 21 => .isDirectory
      | 36 => .nameTooLong
      | number => .other number reason
  | error => .other 5 error.toString

def readFromSystem (path : FilePath) : IO (Except AccessError ByteArray) := do
  try
    return .ok (← IO.FS.readBinFile path.text)
  catch error =>
    return .error (.ofSystem error)

/-- The workspace of the current directory, with the files at the given
paths. -/
def Workspace.ofSystem (paths : List FilePath) : IO Workspace := do
  let directory ← IO.currentDir
  let readings ← paths.mapM fun path => return (path, ← readFromSystem path)
  return {
    directory := .ofText directory.toString
    read := fun path => (readings.lookup path).getD (.error .notFound) }

def Ending.finish : Ending → IO UInt32
  | .success => return 0
  | .failure => return 1
  | .noTargets => do
      IO.eprintln ("Error: Invalid value: " ++ noTargetsMessage)
      return 2
  | .fatal fault => do
      IO.eprintln ("Error: " ++
        fault.message "Cannot read" "Cannot read" "a file")
      return 1
  | .undisplayable .kind => do
      IO.eprintln "Error: the kind of a call is not a text"
      return 1
  | .undisplayable (.markup fault) => do
      IO.eprintln ("Error: " ++ match fault with
        | .nothingToClose => "a call holds a tag that closes nothing"
        | .notLiteral =>
            "a call holds a tag with arguments that are no literals"
        | .share .empty =>
            "a call holds a tag that names a colour without one of its shares"
        | .share (.long digits) =>
            s!"a call holds a tag that names a colour with a share of {digits} digits")
      return 1

end CallChains

def main (arguments : List String) : IO UInt32 := do
  match CallChains.Invocation.ofWords arguments with
  | .error error =>
      IO.eprintln ("Error: " ++ error.message)
      return 2
  | .ok invocation =>
      let workspace ← CallChains.Workspace.ofSystem invocation.paths
      let response := invocation.run workspace
      IO.print response.stdout
      response.ending.finish
