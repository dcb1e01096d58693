import BorrowSketch.Diagnostic.Span
import BorrowSketch.Document.Extent
import BorrowSketch.Text.Width
import BorrowSketch.Text.Word

/-! # Line views

What a sketch needs to know of a document: the text and the width of its lines, some of which may
be missing.

* **`LineView`** — lines by number.
* **`LineView.slice?`**, **`LineView.wordSpan?`** — parts of a line.
* **`LineView.widest`**, **`LineView.longest`**, **`LineView.shift`** — how far to the right a
  sketch beside several lines has to start. -/

namespace BorrowSketch

/-- Access to a document by line numbers. -/
structure LineView where
  /-- The text of a line without its line end; nothing for a line that does not exist. -/
  text? : Nat → Option String
  /-- The number of lines. -/
  count : Nat
  /-- The width of a line in cells; nothing for a line that does not exist. -/
  width? : Nat → Option Nat := fun line => (text? line).map Text.displayWidth

namespace LineView

/-- The view of a list of lines, in which `none` stands for a line that does not exist. -/
def ofLines (lines : List (Option String)) : LineView where
  text? line := (lines[line]?).join
  count := lines.length

/-- The characters of a line from one offset up to another, as far as the line has them. -/
def slice? (view : LineView) (line first stop : Nat) : Option String :=
  (view.text? line).map fun text => String.ofList ((text.toList.drop first).take (stop - first))

/-- The span of the word that contains or touches a position. -/
def wordSpan? (view : LineView) (position : Position) : Option Span :=
  (view.text? position.line).bind fun text =>
    (Text.wordAt? text.toList position.character).map fun (first, stop) =>
      Span.onLine position.line first stop

/-- The width of a line, zero for a line that does not exist. -/
def width (view : LineView) (line : Nat) : Nat :=
  (view.width? line).getD 0

/-- The width of the widest of several lines, zero for no lines. -/
def widest (view : LineView) (lines : List Nat) : Nat :=
  lines.foldl (fun widest line => max widest (view.width line)) 0

/-- The width of the widest line from `first` through `last`. -/
def longest (view : LineView) (first last : Nat) : Nat :=
  view.widest (linesBetween first (last + 1))

/-- By how many cells the line `first` is shorter than the widest line from `first` through
`last`. -/
def shift (view : LineView) (first last : Nat) : Nat :=
  view.longest first last - view.width first

end LineView
end BorrowSketch
