import BorrowSketch.Tracker.Basic

/-! # Operations on tracked diagnostics

What can be asked of a tracker. The set of entries is never mended: each change of the diagnostics
replaces it, and a sketch that was shown under a key which is still there is shown again.

* **`Tracker.rebuild`** — replace the tracked diagnostics.
* **`Tracker.reveal`**, **`Tracker.hide`**, **`Tracker.toggle`**, **`Tracker.hideAll`**,
  **`Tracker.hideTriangles`**, **`Tracker.dispose`** — the other operations.
* **`Tracker.Operation`**, **`Tracker.perform`** — operations as data, and their effect. -/

namespace BorrowSketch
namespace Tracker

/-! ## Replacing the diagnostics -/

/-- Add a diagnostic to the entries if its code has a handler, in place of one with the same key. A
code that is not a documented name is an error. -/
def track (handlers : Handlers) (entries : KeyMap Key Entry) (d : Diagnostic) :
    Except SketchError (KeyMap Key Entry) :=
  match d.codeName? with
  | none => .error (.unexpectedCode d.codeText)
  | some code =>
    if handlers.supports code then
      .ok (entries.insert ⟨d.line, code⟩ (.ofDiagnostic d (handlers.hasHinter d)))
    else .ok entries

/-- The entries of a list of diagnostics. -/
def entriesOf (handlers : Handlers) (diagnostics : List Diagnostic) :
    Except SketchError (KeyMap Key Entry) :=
  diagnostics.foldlM (track handlers) ∅

/-- Whether the sketch of an entry is shown. -/
def isDisplayed (tracker : Tracker) (key : Key) : Bool :=
  (tracker.get? key).any Entry.displayed

/-- Show several entries, one after the other. -/
def showEntries (tracker : Tracker) (editor : Editor) (scope : Scope) (keys : List Key) :
    Tracker × Editor :=
  keys.foldl (fun state key => (state.1.showEntry state.2 scope key).2) (tracker, editor)

/-- Replace the tracked diagnostics. The layers of the old entries are disposed of, and sketches
that were shown under a key that is still there are shown again. Nothing changes if one of the
diagnostics has an unexpected code. -/
def rebuild (tracker : Tracker) (editor : Editor) (scope : Scope) (diagnostics : List Diagnostic) :
    Except SketchError (Tracker × Editor) :=
  match entriesOf scope.handlers diagnostics with
  | .error error => .error error
  | .ok entries =>
    let editor := editor.releaseAll tracker.layers
    let (rebuilt, editor) := showEntries { tracker with entries := entries } editor scope
      (entries.keys.filter tracker.isDisplayed)
    .ok (rebuilt.showTriangles editor)

/-! ## Showing and hiding -/

/-- Show the sketch of an entry, and hide all others. -/
def reveal (tracker : Tracker) (editor : Editor) (scope : Scope) (key : Key) :
    Toggle × Tracker × Editor :=
  let (outcome, tracker, editor) := tracker.showEntry editor scope key
  (outcome, tracker.showTriangles editor)

/-- Hide the sketch of an entry. -/
def hide (tracker : Tracker) (editor : Editor) (key : Key) : Toggle × Tracker × Editor :=
  let (outcome, tracker, editor) := tracker.hideEntry editor key
  (outcome, tracker.showTriangles editor)

/-- Show the sketch of an entry if it is hidden, and hide it if it is shown. -/
def toggle (tracker : Tracker) (editor : Editor) (scope : Scope) (key : Key) :
    Toggle × Tracker × Editor :=
  match tracker.get? key with
  | none => (.missing, tracker, editor)
  | some entry =>
    if entry.displayed then tracker.hide editor key else tracker.reveal editor scope key

/-- Hide the sketches of all entries. -/
def hideAll (tracker : Tracker) (editor : Editor) : Tracker × Editor :=
  let (tracker, editor) := tracker.hideEntries editor
  tracker.showTriangles editor

/-- Take the triangles away. -/
def hideTriangles (tracker : Tracker) (editor : Editor) : Editor :=
  match tracker.triangles with
  | some layers => editor.clearAll [layers.shown, layers.available]
  | none => editor

/-- Forget all entries and dispose of all layers. -/
def dispose (tracker : Tracker) (editor : Editor) : Tracker × Editor :=
  let editor := editor.releaseAll tracker.layers
  (empty, match tracker.triangles with
    | some layers => (editor.dispose layers.shown).dispose layers.available
    | none => editor)

/-! ## Operations as data -/

/-- Something asked of a tracker. -/
inductive Operation where
  | rebuild (scope : Scope) (diagnostics : List Diagnostic)
  | reveal (scope : Scope) (key : Key)
  | hide (key : Key)
  | toggle (scope : Scope) (key : Key)
  | hideAll
  | showTriangles
  | hideTriangles
  | dispose

/-- What an operation answers. -/
inductive Reply where
  /-- The operation answers nothing. -/
  | done
  /-- The operation was refused, and nothing changed. -/
  | refused (error : SketchError)
  /-- What came of showing or hiding an entry. -/
  | toggled (outcome : Toggle)
deriving DecidableEq

/-- The effect of an operation on a tracker and its editor. -/
def perform (tracker : Tracker) (editor : Editor) : Operation → Reply × Tracker × Editor
  | .rebuild scope diagnostics =>
    match tracker.rebuild editor scope diagnostics with
    | .ok after => (.done, after)
    | .error error => (.refused error, tracker, editor)
  | .reveal scope key =>
    let (outcome, after) := tracker.reveal editor scope key
    (.toggled outcome, after)
  | .hide key =>
    let (outcome, after) := tracker.hide editor key
    (.toggled outcome, after)
  | .toggle scope key =>
    let (outcome, after) := tracker.toggle editor scope key
    (.toggled outcome, after)
  | .hideAll => (.done, tracker.hideAll editor)
  | .showTriangles => (.done, tracker.showTriangles editor)
  | .hideTriangles => (.done, tracker, tracker.hideTriangles editor)
  | .dispose => (.done, tracker.dispose editor)

/-- The tracker and the editor after several operations, starting from nothing. -/
def run (operations : List Operation) : Tracker × Editor :=
  operations.foldl (fun state operation => (state.1.perform state.2 operation).2)
    (empty, Editor.empty)

end Tracker
end BorrowSketch
