import CallChains.Workspace.Files
/-!
File trees: what there is below a directory. A path is followed name by name,
and two dots lead to the directory above.
-/

namespace CallChains

inductive FileEntry where
  | file (content : ByteArray)
  | directory

/-- Files and directories by the names that lead to them. Directories on the way
to an entry need no entry of their own. -/
structure FileTree where
  entries : List (List String × FileEntry)

namespace FileTree

def entryAt? (tree : FileTree) (names : List String) : Option FileEntry :=
  match tree.entries.lookup names with
  | some entry => some entry
  | none =>
      if names.isEmpty ||
        tree.entries.any fun entry => names.isPrefixOf entry.1 then
        some .directory
      else none

def nameLimit : Nat := 255

def pathLimit : Nat := 4095

/-- What a path gives that starts at a directory outside the tree. Nothing is
known of what is there, except the directories above. -/
def outside (parts : List String) : Except AccessError ByteArray :=
  match parts.dropWhile (· = "..") with
  | [] => .error .isDirectory
  | part :: _ =>
      .error (if nameLimit < part.utf8ByteSize then .nameTooLong else .notFound)

def follow (tree : FileTree) :
    (reversed : List String) → List String → Except AccessError ByteArray
  | reversed, [] =>
      match tree.entryAt? reversed.reverse with
      | some (.file content) => .ok content
      | some .directory => .error .isDirectory
      | none => .error .notFound
  | reversed, part :: parts =>
      match tree.entryAt? reversed.reverse with
      | some .directory =>
          if part = ".." then
            match reversed with
            | [] => outside parts
            | _ :: above => tree.follow above parts
          else if nameLimit < part.utf8ByteSize then .error .nameTooLong
          else tree.follow (part :: reversed) parts
      | some (.file _) => .error .notDirectory
      | none => .error .notFound

def read (tree : FileTree) (path : FilePath) : Except AccessError ByteArray :=
  if pathLimit < path.text.utf8ByteSize then .error .nameTooLong
  else if path.isAbsolute then outside path.parts
  else tree.follow [] path.parts

def toWorkspace (tree : FileTree) (directory : FilePath) : Workspace :=
  { directory, read := tree.read }

end FileTree

end CallChains
