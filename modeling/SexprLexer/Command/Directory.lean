import SexprLexer.Command.ReadFault

/-!
# Directories in memory

A directory of files as a path sees it from inside. A path is followed from left to right, one name
after the other: each name must exist before the next one counts, and only a directory can be
passed through. Of what lies outside the directory nothing exists but the directories above it.
-/

namespace SexprLexer.Command

/-- Files and directories by their names from the top; a directory has no content of its own. The
directories on the way to an entry exist as well. -/
structure Directory where
  entries : List (List String × Option ByteArray)

/-- What a path leads to. -/
inductive Directory.Node where
  | file (content : ByteArray)
  /-- The directory with the given names, inside. -/
  | inside (names : List String)
  /-- A directory from which only directories are known. -/
  | outside

namespace Directory

/-- The longest name that a file can have, in bytes. -/
def longestName : Nat := 255

/-- The longest path that can be followed, in bytes. -/
def longestPath : Nat := 4095

/-- The names of a path, some of which may be empty. -/
def names (path : String) : List String := (path.toList.splitOn '/').map String.ofList

/-- The directory with the given entries. -/
def ofList (entries : List (String × Option ByteArray)) : Directory where
  entries := entries.map fun (path, content) => (names path, content)

/-- What stands under the given names from the top. -/
def node? (d : Directory) (path : List String) : Option Node :=
  match d.entries.find? (·.1 == path) with
  | some (_, some content) => some (.file content)
  | some (_, none) => some (.inside path)
  | none => if d.entries.any (path.isPrefixOf ·.1) then some (.inside path) else none

/-- Follows a path by one name. An empty name stands for the directory itself. -/
def enter (d : Directory) (node : Node) (name : String) : Except ReadFault Node :=
  let stays := name = "" ∨ name = "."
  let tooLong := longestName < name.utf8ByteSize
  match node with
  | .file _ => .error .notDirectory
  | .inside path =>
    if stays then .ok node
    else if name = ".." then .ok (if path.isEmpty then .outside else .inside path.dropLast)
    else if tooLong then .error .nameTooLong
    else
      match d.node? (path ++ [name]) with
      | none => .error .notFound
      | some found => .ok found
  | .outside =>
    if stays ∨ name = ".." then .ok .outside
    else if tooLong then .error .nameTooLong
    else .error .notFound

/-- The content of the file at the end of a path. -/
def read (d : Directory) (path : String) : Except ReadFault ByteArray :=
  let top := if path.toList.head? = some '/' then .outside else .inside []
  if path = "" then .error .notFound
  else if longestPath < path.utf8ByteSize then .error .nameTooLong
  else do
    match ← (names path).foldlM d.enter top with
    | .file content => .ok content
    | .inside _ | .outside => .error .isDirectory

end Directory

end SexprLexer.Command
