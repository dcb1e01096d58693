import BorrowSketch.Export.Files

/-! # File trees

A directory with its files and directories as a value, on which an export can be run.

* **`FileTree`** — the files and directories by their names from the top.
* **`FileTree.locate`** — where a path leads.
* The operations of `FileAccess` on a tree as state. -/

namespace BorrowSketch.Export

/-- A file or a directory. -/
inductive FileNode where
  | file (content : ByteArray)
  | directory

/-- A directory with all that is in it. The top directory itself has no entry. -/
structure FileTree where
  /-- Files and directories by the names that lead to them, the oldest first. -/
  entries : List (List String × FileNode)

namespace FileTree

/-- What the given names lead to. -/
def node? (tree : FileTree) (names : List String) : Option FileNode :=
  if names.isEmpty then some .directory else tree.entries.lookup names

/-- Put a file or directory in place of what the given names lead to. -/
def put (tree : FileTree) (names : List String) (node : FileNode) : FileTree :=
  if (tree.entries.lookup names).isSome then
    ⟨tree.entries.map fun entry => if entry.1 = names then (names, node) else entry⟩
  else ⟨tree.entries ++ [(names, node)]⟩

/-- The place that a path leads to: a directory on the way, or a name in a directory, which need
not exist. -/
inductive Place where
  /-- A directory that was passed, such as that of a dot. -/
  | passed
  /-- A name, from the top. -/
  | named (names : List String)

/-- The longest name that a file may have, in bytes. -/
def maxNameBytes : Nat := 255

/-- The longest path that can be followed, in bytes. -/
def maxPathBytes : Nat := 4095

/-- Follow the names of a path from a directory. Every name but the last must lead to a
directory. -/
def follow (tree : FileTree) (directory : List String) : List String → Except FileError Place
  | [] => .ok .passed
  | name :: rest =>
    if name = "." then follow tree directory rest
    else if name = ".." then follow tree directory.dropLast rest
    else if maxNameBytes < name.utf8ByteSize then .error .nameTooLong
    else
      let names := directory ++ [name]
      if rest.isEmpty then .ok (.named names)
      else match tree.node? names with
        | none => .error .notFound
        | some (.file _) => .error .notDirectory
        | some .directory => follow tree names rest

/-- The place that a path leads to. A path from the root leads out of the tree, where there is
nothing. -/
def locate (tree : FileTree) (path : String) : Except FileError Place :=
  if path = "" then .error .notFound
  else if path.toList.contains '\x00' then .error .invalidName
  else if maxPathBytes < path.utf8ByteSize then .error .nameTooLong
  else
    let names := ((path.toList.splitOn '/').map String.ofList).filter (· ≠ "")
    if names.isEmpty then .ok .passed
    else if path.toList.head? = some '/' then .error .notFound
    else follow tree [] names

/-- Whether a path can only lead to a directory. -/
def endsWithSlash (path : String) : Bool :=
  path.toList.getLast? = some '/'

/-- The bytes of the file that a path leads to. -/
def readBytes (tree : FileTree) (path : String) : Except FileError ByteArray :=
  match tree.locate path with
  | .error error => .error error
  | .ok .passed => .error .isDirectory
  | .ok (.named names) =>
    match tree.node? names with
    | none => .error .notFound
    | some .directory => .error .isDirectory
    | some (.file content) => if endsWithSlash path then .error .notDirectory else .ok content

/-- The tree with a text in the file that a path leads to. -/
def writeText (tree : FileTree) (path text : String) : Except FileError FileTree :=
  match tree.locate path with
  | .error error => .error error
  | .ok .passed => .error .isDirectory
  | .ok (.named names) =>
    match tree.node? names with
    | some .directory => .error .isDirectory
    | some (.file _) =>
      if endsWithSlash path then .error .notDirectory
      else .ok (tree.put names (.file text.toUTF8))
    | none =>
      if endsWithSlash path then .error .isDirectory
      else .ok (tree.put names (.file text.toUTF8))

/-- The tree with a new directory where a path leads to. -/
def createDirectory (tree : FileTree) (path : String) : Except FileError FileTree :=
  match tree.locate path with
  | .error error => .error error
  | .ok .passed => .error .alreadyExists
  | .ok (.named names) =>
    match tree.node? names with
    | some _ => .error .alreadyExists
    | none => .ok (tree.put names .directory)

/-- Whether a path leads to a directory. -/
def isDirectory (tree : FileTree) (path : String) : Bool :=
  match tree.locate path with
  | .error _ => false
  | .ok .passed => true
  | .ok (.named names) =>
    match tree.node? names with
    | some .directory => true
    | _ => false

/-- The tree after a change, or the tree as it was and why it could not be changed. -/
def change (tree : FileTree) : Except FileError FileTree → Except FileError Unit × FileTree
  | .ok changed => (.ok (), changed)
  | .error error => (.error error, tree)

instance : FileAccess (StateM FileTree) where
  readBytes path := fun tree => pure (tree.readBytes path, tree)
  writeText path text := fun tree => pure (tree.change (tree.writeText path text))
  createDirectory path := fun tree => pure (tree.change (tree.createDirectory path))
  isDirectory path := fun tree => pure (tree.isDirectory path, tree)

/-- A tree with the given files in its top directory and in directories below it. -/
def ofFiles (files : List (String × ByteArray)) : FileTree :=
  files.foldl (fun tree file =>
    let names := pathNames file.1
    let tree := (List.range names.length).foldl (fun tree length =>
      if length = 0 ∨ (tree.node? (names.take length)).isSome then tree
      else tree.put (names.take length) .directory) tree
    tree.put names (.file file.2)) ⟨[]⟩

/-- The files of a tree with their paths. -/
def files (tree : FileTree) : List (String × ByteArray) :=
  tree.entries.filterMap fun entry =>
    match entry.2 with
    | .file content => some (pathOfNames false entry.1, content)
    | .directory => none

end FileTree
end BorrowSketch.Export
