import BorrowSketch.Diagnostic.Published
import BorrowSketch.Export.Arguments
import BorrowSketch.Export.Files
import BorrowSketch.Json.Reader
import BorrowSketch.Session.Basic

/-! # Exports

An export reads a program and the diagnostics about it, and writes an image for every sketch, one
for each theme.

* **`Failure`** — why an export stops, with its message.
* **`Job`**, **`jobs`** — what there is to do for the tracked diagnostics.
* **`Report`**, **`run`** — the export, and what came of it.
* **`Output`**, **`command`** — the export as a command. -/

namespace BorrowSketch.Export

/-- Why an export stops. -/
inductive Failure where
  /-- The command line is not understood. -/
  | usage (program : String)
  /-- A file cannot be read or written. -/
  | file (path : String) (error : FileError)
  /-- The diagnostics are not JSON. -/
  | notJson (path : String)
  /-- The diagnostics are JSON of another kind. -/
  | notDiagnostics (path : String)
  /-- The session refused the diagnostics. -/
  | refused (error : SketchError)
deriving DecidableEq

/-- The message to the user. -/
def Failure.message : Failure → String
  | usage program => "usage: " ++ program ++ " <source.rs> <diagnostics.json> [out-dir]"
  | file path error => path ++ ": " ++ error.message
  | notJson path => path ++ ": invalid JSON"
  | notDiagnostics path =>
    path ++ ": expected a diagnostics array or publishDiagnostics params"
  | refused error => error.message

/-! ## Jobs -/

/-- Something to do for a tracked diagnostic. -/
inductive Job where
  /-- Write an image to a file. -/
  | write (file content : String)
  /-- Note that there is no image, and why. -/
  | skip (key : Key) (reason : String)
deriving DecidableEq

/-- The name of the file with the image of an entry for a theme. -/
def imageFile (key : Key) (theme : Theme) : String :=
  key.text ++ "." ++ theme.name ++ ".svg"

/-- The jobs for an entry, theme by theme until there is no picture. -/
def entryJobs (render : Theme → Outcome Picture) (key : Key) : List Theme → List Job
  | [] => []
  | theme :: rest =>
    match render theme with
    | .success picture =>
      .write (imageFile key theme) picture.image.markup :: entryJobs render key rest
    | outcome => [.skip key (outcome.context?.getD "not applicable")]

/-- The jobs for all tracked diagnostics of a session, in the order of their keys. -/
def jobs (session : Session) (document : LineView) : List Job :=
  session.tracker.entries.toList.flatMap fun (key, entry) =>
    if entry.hinted then []
    else match session.handlers.renderers.get? key.code with
      | none => []
      | some renderer =>
        entryJobs (fun theme => renderer ⟨document, session.config⟩ theme entry.diagnostic) key
          Theme.all

/-! ## Running -/

/-- What came of an export. -/
structure Report where
  /-- The number of tracked diagnostics. -/
  tracked : Nat
  /-- The files written, in order. -/
  written : List String
  /-- The diagnostics without an image, and why. -/
  skipped : List (Key × String)
  /-- The hints for diagnostics that get no image. -/
  hints : List Hint
deriving DecidableEq

variable {m : Type → Type} [Monad m] [FileAccess m]

/-- Do jobs one after the other, up to the first file that cannot be written. -/
def perform (directory : String) (report : Report) : List Job → m (Except Failure Report)
  | [] => pure (.ok report)
  | .skip key reason :: rest =>
    perform directory { report with skipped := report.skipped ++ [(key, reason)] } rest
  | .write file content :: rest => do
    let path := joinPath directory file
    match ← FileAccess.writeText path content with
    | .error error => pure (.error (.file path error))
    | .ok () => perform directory { report with written := report.written ++ [path] } rest

/-- Write the images of the diagnostics in a JSON value. -/
def writeImages (arguments : Arguments) (config : Config) (document : Document) (value : Json) :
    m (Except Failure Report) := do
  let view := document.view
  match Published.diagnosticsOfJson? value view with
  | none => pure (.error (.notDiagnostics arguments.diagnostics))
  | some diagnostics =>
    let session := Session.start .standard config .standard
    match session.rebuild .empty view diagnostics with
    | .error error => pure (.error (.refused error))
    | .ok (session, _) =>
      match ← createDirectories arguments.outDirectory with
      | .error error => pure (.error (.file arguments.outDirectory error))
      | .ok () =>
        perform arguments.outDirectory
          ⟨session.tracker.entries.size, [], [], session.board.hints⟩ (jobs session view)

/-- Read the files of an export and write its images. -/
def run (arguments : Arguments) (config : Config) : m (Except Failure Report) := do
  match ← readText arguments.source with
  | .error error => pure (.error (.file arguments.source error))
  | .ok source =>
    match ← readText arguments.diagnostics with
    | .error error => pure (.error (.file arguments.diagnostics error))
    | .ok text =>
      match Json.read? text with
      | none => pure (.error (.notJson arguments.diagnostics))
      | some value => writeImages arguments config ⟨source⟩ value

/-! ## As a command -/

/-- What a command leaves behind, apart from files. -/
structure Output where
  /-- The exit code. -/
  code : Nat
  /-- The text on standard output. -/
  out : String
  /-- The text on standard error. -/
  err : String
deriving DecidableEq

/-- The lines of a report: the files, the diagnostics without an image, and the hints, whose places
are counted from one. -/
def Report.lines (report : Report) : List String :=
  report.written
    ++ report.skipped.map (fun (key, reason) => "skipped " ++ key.text ++ ": " ++ reason)
    ++ report.hints.map fun hint =>
        "hint " ++ toString (hint.span.start.line + 1) ++ ":"
          ++ toString (hint.span.start.character + 1) ++ ": " ++ hint.hover

/-- Text with every line ended. -/
def unlines (lines : List String) : String :=
  String.join (lines.map (· ++ "\n"))

/-- Run an export as a command, with the command line behind it and the setting for the font
size. -/
def command (commandLine : List String) (fontSize : Option String) : m Output := do
  match Arguments.parse? commandLine with
  | none =>
    let program := commandLine.head?.getD defaultProgramName
    pure ⟨2, "", unlines [(Failure.usage program).message, "", "example:",
      "  revis src/main.rs diagnostics.json out/"]⟩
  | some arguments =>
    match ← run arguments (configFor (fontSize? fontSize)) with
    | .ok report => pure ⟨0, unlines report.lines, ""⟩
    | .error failure => pure ⟨1, "", unlines ["error: " ++ failure.message]⟩

end BorrowSketch.Export
