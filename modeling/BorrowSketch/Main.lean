import BorrowSketch.Export.Run

/-! # The program

The export as a program that works on the files of the system.

* **`main`** — the program. -/

namespace BorrowSketch.Export

/-- The reason for a failure that the system reports. -/
def FileError.ofSystem : IO.Error → FileError
  | .noFileOrDirectory .. => .notFound
  | .alreadyExists .. => .alreadyExists
  | .inappropriateType _ code details =>
    if code = 20 then .notDirectory else if code = 21 then .isDirectory else .other details
  | .invalidArgument _ code details =>
    if code = 36 then .nameTooLong else .other (details ++ " (os error " ++ toString code ++ ")")
  | .permissionDenied _ code details => .other (details ++ " (os error " ++ toString code ++ ")")
  | error => .other error.toString

/-- An operation of the system, with a failure as a value. -/
def attempt {α : Type} (operation : IO α) : IO (Except FileError α) := do
  match ← operation.toBaseIO with
  | .ok value => pure (.ok value)
  | .error error => pure (.error (.ofSystem error))

instance : FileAccess IO where
  readBytes path := attempt (IO.FS.readBinFile path)
  writeText path text := attempt (IO.FS.writeFile path text)
  createDirectory path := attempt (IO.FS.createDir path)
  isDirectory path := do
    match ← (IO.FS.realPath path).toBaseIO with
    | .ok resolved => resolved.isDir
    | .error _ => pure false

end BorrowSketch.Export

open BorrowSketch.Export in
/-- Run an export with the arguments of the command line. -/
def main (arguments : List String) : IO UInt32 := do
  let program ← IO.appPath
  let output ← command (program.toString :: arguments) (← IO.getEnv fontSizeSetting)
  (← IO.getStdout).putStr output.out
  (← IO.getStderr).putStr output.err
  return output.code.toUInt32
