import BorrowSketch.Drawing.Triangle
import BorrowSketch.Editor.Basic
import BorrowSketch.Illustration

/-! # Tracked diagnostics

The diagnostics of a document that have a handler, by line and code, and which of them has its
sketch shown. Every entry owns the layer that its sketch is shown on.

* **`Key`**, **`Entry`** — where a diagnostic is tracked, and its state.
* **`Tracker`** — the entries, and the layers of the triangles at the edge of the editor.
* **`Scope`** — the handlers and the scene that entries are shown with.
* **`Tracker.showEntry`**, **`Tracker.hideEntry`**, **`Tracker.hideEntries`** — the changes that
  operations are made of. -/

namespace BorrowSketch

/-- Where a diagnostic is tracked. -/
structure Key where
  /-- The line that the diagnostic starts on. -/
  line : Nat
  /-- Its code. -/
  code : String
deriving DecidableEq

namespace Key

/-- By line, and by code on one line. -/
instance : Ord Key := ⟨compareLex (compareOn Key.line) (compareOn Key.code)⟩

instance : Std.TransOrd Key :=
  inferInstanceAs (Std.TransCmp (compareLex (compareOn Key.line) (compareOn Key.code)))

/-- The form in which a key is shown and names files. -/
def text (key : Key) : String :=
  toString key.line ++ "_" ++ key.code

end Key

/-- A tracked diagnostic and its state. -/
structure Entry where
  /-- The diagnostic. -/
  diagnostic : Diagnostic
  /-- Whether it gets hints and no sketch. -/
  hinted : Bool
  /-- Whether its sketch is shown. -/
  displayed : Bool
  /-- The layer of its sketch, once it was shown. -/
  layer : Option LayerId
  /-- The decoration shown last. -/
  rendered : Option Decoration
deriving DecidableEq

namespace Entry

/-- The entry of a diagnostic that was not shown yet. -/
def ofDiagnostic (d : Diagnostic) (hinted : Bool) : Entry :=
  ⟨d, hinted, false, none, none⟩

/-- The entry with its sketch hidden. -/
def hidden (entry : Entry) : Entry :=
  { entry with displayed := false }

/-- The entry with a decoration shown on a layer. -/
def shown (entry : Entry) (layer : LayerId) (decoration : Decoration) : Entry :=
  { entry with displayed := true, layer := some layer, rendered := some decoration }

end Entry

/-- The layers of the triangles. -/
structure TriangleLayers where
  /-- The layer of the lines on which a sketch is available. -/
  available : LayerId
  /-- The layer of the lines on which something is shown. -/
  shown : LayerId
deriving DecidableEq

/-- The tracked diagnostics of a document. -/
structure Tracker where
  /-- The entries by key. -/
  entries : KeyMap Key Entry
  /-- The layers of the triangles, once there are any. -/
  triangles : Option TriangleLayers

/-- The handlers and the scene that entries are shown with. -/
structure Scope where
  /-- The renderers and hinters. -/
  handlers : Handlers
  /-- The document and the measures. -/
  scene : Scene

/-- What came of showing, hiding or toggling an entry. -/
inductive Toggle where
  /-- The sketch is now shown. -/
  | shown
  /-- The sketch is now hidden. -/
  | hidden
  /-- There is no such entry. -/
  | missing
  /-- The entry has hints and no sketch. -/
  | hinted
  /-- The renderer does not understand the diagnostic; nothing is shown. -/
  | inapplicable (context : Option String)
  /-- The renderer failed, and the user was told. -/
  | failed (context : String)
deriving DecidableEq

namespace Tracker

/-- A tracker of nothing. -/
def empty : Tracker := ⟨∅, none⟩

/-- The entry under a key. -/
def get? (tracker : Tracker) (key : Key) : Option Entry :=
  tracker.entries.get? key

/-- The keys of the entries whose sketch is shown. -/
def displayedKeys (tracker : Tracker) : List Key :=
  (tracker.entries.toList.filter fun entry => entry.2.displayed).map Prod.fst

/-- The keys of the entries on a line. -/
def keysOnLine (tracker : Tracker) (line : Nat) : List Key :=
  tracker.entries.keys.filter fun key => key.line = line

/-- The layers that the entries own, in the order of their keys. -/
def layers (tracker : Tracker) : List LayerId :=
  tracker.entries.values.filterMap Entry.layer

/-- Hide the sketches of all entries. -/
def hideEntries (tracker : Tracker) (editor : Editor) : Tracker × Editor :=
  ({ tracker with entries := tracker.entries.mapValues Entry.hidden },
    editor.clearAll tracker.layers)

/-- Hide the sketch of one entry. -/
def hideEntry (tracker : Tracker) (editor : Editor) (key : Key) : Toggle × Tracker × Editor :=
  match tracker.get? key with
  | none => (.missing, tracker, editor)
  | some entry =>
    (.hidden, { tracker with entries := tracker.entries.modify key Entry.hidden },
      editor.clearAll entry.layer.toList)

/-- The layer of an entry, or a new one for it. -/
def layerFor (entry : Entry) (editor : Editor) : LayerId × Editor :=
  match entry.layer with
  | some layer => (layer, editor)
  | none => editor.createLayer .wholeLine

/-- Hide all sketches and show that of one entry. An entry with hints is left alone. -/
def showEntry (tracker : Tracker) (editor : Editor) (scope : Scope) (key : Key) :
    Toggle × Tracker × Editor :=
  match tracker.get? key with
  | none => (.missing, tracker, editor)
  | some entry =>
    if entry.hinted then (.hinted, tracker, editor)
    else
      let (cleared, editor) := tracker.hideEntries editor
      match illustrate scope.handlers.renderers scope.scene entry.diagnostic with
      | .success decoration =>
        let (layer, editor) := layerFor entry editor
        (.shown,
          { cleared with
            entries := cleared.entries.modify key fun entry => entry.shown layer decoration },
          editor.decorate layer [decoration])
      | .inapplicable context => (.inapplicable context, cleared, editor)
      | .failed context =>
        (.failed context, cleared, editor.notify (SketchError.renderingFailed context).message)

/-! ## Triangles -/

/-- The triangle of an entry. -/
def triangle (key : Key) : Decoration :=
  Decoration.plain (Span.lineStart key.line)

/-- The triangles of the entries that satisfy a condition, in the order of their keys. -/
def trianglesWhere (tracker : Tracker) (condition : Entry → Bool) : List Decoration :=
  (tracker.entries.toList.filter fun entry => condition entry.2).map fun entry => triangle entry.1

/-- The layers of the triangles, created if need be, that of available sketches first. -/
def triangleLayers (tracker : Tracker) (editor : Editor) : TriangleLayers × Editor :=
  match tracker.triangles with
  | some layers => (layers, editor)
  | none =>
    let (available, editor) :=
      editor.createLayer (.gutterIcon Drawing.Triangle.available.uri)
    let (shown, editor) := editor.createLayer (.gutterIcon Drawing.Triangle.shown.uri)
    (⟨available, shown⟩, editor)

/-- Put a triangle at the line of every entry, pointing down for those with something shown. -/
def showTriangles (tracker : Tracker) (editor : Editor) : Tracker × Editor :=
  let (layers, editor) := tracker.triangleLayers editor
  let editor := editor.decorate layers.shown
    (tracker.trianglesWhere fun entry => entry.displayed || entry.hinted)
  let editor := editor.decorate layers.available
    (tracker.trianglesWhere fun entry => !(entry.displayed || entry.hinted))
  ({ tracker with triangles := some layers }, editor)

end Tracker
end BorrowSketch
