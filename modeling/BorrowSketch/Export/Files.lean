/-! # Files

Access to files as the export needs it: reading, writing and creating directories. An operation
either works or fails for a reason that has a fixed wording.

* **`FileError`** — the reasons, with their messages.
* **`FileAccess`** — the operations in some monad.
* **`createDirectories`** — a directory together with those above it. -/

namespace BorrowSketch.Export

/-- Why an operation on a file failed. -/
inductive FileError where
  | notFound
  | alreadyExists
  | notDirectory
  | isDirectory
  | nameTooLong
  /-- The name contains a character that no file name can contain. -/
  | invalidName
  /-- The content is not text. -/
  | invalidText
  /-- Any other reason, in the words of the system. -/
  | other (message : String)
deriving DecidableEq

/-- The message for a reason. -/
def FileError.message : FileError → String
  | notFound => "No such file or directory (os error 2)"
  | alreadyExists => "File exists (os error 17)"
  | notDirectory => "Not a directory (os error 20)"
  | isDirectory => "Is a directory (os error 21)"
  | nameTooLong => "File name too long (os error 36)"
  | invalidName => "file name contained an unexpected NUL byte"
  | invalidText => "stream did not contain valid UTF-8"
  | other message => message

/-- Access to files. Paths are relative to a working directory. -/
class FileAccess (m : Type → Type) where
  /-- The bytes of a file. -/
  readBytes : String → m (Except FileError ByteArray)
  /-- Create a file with the given text, or replace its content. -/
  writeText : String → String → m (Except FileError Unit)
  /-- Create a directory in one that exists. -/
  createDirectory : String → m (Except FileError Unit)
  /-- Whether there is a directory. -/
  isDirectory : String → m Bool

/-! ## Paths -/

/-- The names in a path, without empty ones and without dots that are not the first. -/
def pathNames (path : String) : List String :=
  let names := ((path.toList.splitOn '/').map String.ofList).filter (· ≠ "")
  match names with
  | [] => []
  | first :: rest =>
    if path.toList.head? = some '/' then names.filter (· ≠ ".")
    else first :: rest.filter (· ≠ ".")

/-- A path made of names, from the working directory or from the root. -/
def pathOfNames (fromRoot : Bool) (names : List String) : String :=
  (if fromRoot then "/" else "") ++ String.intercalate "/" names

/-- A path and the paths of the directories above it, as far as the path names them, the lowest
first. -/
def lineage (path : String) : List String :=
  let names := pathNames path
  if names.isEmpty then []
  else
    path :: (List.range' 1 (names.length - 1)).reverse.map fun length =>
      pathOfNames (path.toList.head? = some '/') (names.take length)

/-- The path of a file in a directory. -/
def joinPath (directory file : String) : String :=
  if directory = "" then file
  else if directory.toList.getLast? = some '/' then directory ++ file
  else directory ++ "/" ++ file

/-! ## Operations -/

variable {m : Type → Type} [Monad m] [FileAccess m]

/-- The text of a file. -/
def readText (path : String) : m (Except FileError String) := do
  match ← FileAccess.readBytes path with
  | .error error => pure (.error error)
  | .ok bytes =>
    match String.fromUTF8? bytes with
    | some text => pure (.ok text)
    | none => pure (.error .invalidText)

/-- The answer to the creation of a directory that need not be new. -/
def acceptDirectory (path : String) (error : FileError) : m (Except FileError Unit) := do
  if ← FileAccess.isDirectory path then pure (.ok ()) else pure (.error error)

/-- Create the first of several directories, and those behind it, each the one above, as far as they
are missing. -/
def createMissing : List String → m (Except FileError Unit)
  | [] => pure (.ok ())
  | path :: above => do
    match ← FileAccess.createDirectory path with
    | .ok () => pure (.ok ())
    | .error .notFound =>
      match ← createMissing above with
      | .error error => pure (.error error)
      | .ok () =>
        match ← FileAccess.createDirectory path with
        | .ok () => pure (.ok ())
        | .error error => acceptDirectory path error
    | .error error => acceptDirectory path error

/-- Create a directory and those above it as far as they are missing. -/
def createDirectories (path : String) : m (Except FileError Unit) :=
  createMissing (lineage path)

end BorrowSketch.Export
