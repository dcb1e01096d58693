import BorrowSketch.Diagnostic.Basic
import BorrowSketch.Document.Basic
import BorrowSketch.Editor.Basic
import BorrowSketch.KeyMap
import BorrowSketch.Outcome

/-! # Hints

A hint marks a place where a small insertion mends an error, and offers to make it.

* **`Insertion`**, **`Insertion.apply?`** — the text to insert, and the document with it.
* **`Hint`**, **`Hinter`** — a hint, and what makes hints of the diagnostics of one code.
* **`HintBoard`** — the hints shown in an editor, all on one layer. -/

namespace BorrowSketch

/-- A text to insert at a position. -/
structure Insertion where
  position : Position
  text : String
deriving DecidableEq

/-- The document with the text inserted, if the position exists. -/
def Insertion.apply? (insertion : Insertion) (document : Document) : Option Document :=
  document.insert? insertion.position insertion.text

/-- A place where an insertion mends an error. -/
structure Hint where
  /-- The place marked. -/
  span : Span
  /-- The text to show when the mouse is over the place. -/
  hover : String
  /-- The insertion offered. -/
  fix : Insertion
deriving DecidableEq

/-- The mark of a hint in an editor. -/
def Hint.decoration (hint : Hint) : Decoration :=
  ⟨hint.span, none, some hint.hover⟩

/-- What makes hints of diagnostics. -/
abbrev Hinter := LineView → Diagnostic → Outcome (List Hint)

/-- The hints shown in an editor. -/
structure HintBoard where
  /-- The layer of the hints, once there is one. -/
  layer : Option LayerId
  /-- The hints. -/
  hints : List Hint
deriving DecidableEq

namespace HintBoard

/-- No hints, and no layer. -/
def empty : HintBoard := ⟨none, []⟩

/-- The style of the layer of hints. -/
def style : LayerStyle := .textBefore "*" "#ff0000" "#eddddd"

/-- The hints for one diagnostic; none if there is no hinter for its code, or if it gives none. -/
def hintsFor (hinters : KeyMap String Hinter) (document : LineView) (d : Diagnostic) : List Hint :=
  match d.codeName?.bind hinters.get? with
  | none => []
  | some hinter => ((hinter document d).value?).getD []

/-- Show the hints for the given diagnostics in place of those before. -/
def post (board : HintBoard) (editor : Editor) (hinters : KeyMap String Hinter)
    (document : LineView) (diagnostics : List Diagnostic) : HintBoard × Editor :=
  let hints := diagnostics.flatMap (hintsFor hinters document)
  let (layer, editor) := match board.layer with
    | some layer => (layer, editor)
    | none => editor.createLayer style
  (⟨some layer, hints⟩, editor.decorate layer (hints.map Hint.decoration))

/-- Take all hints away and dispose of their layer. -/
def dispose (board : HintBoard) (editor : Editor) : HintBoard × Editor :=
  (empty, match board.layer with
    | some layer => editor.dispose layer
    | none => editor)

end HintBoard
end BorrowSketch
