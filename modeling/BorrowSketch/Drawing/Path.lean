import BorrowSketch.Number.Thousandths

/-! # Paths

The outline of a shape as a list of pen movements, and its written form.

* **`Step`** — one movement of the pen.
* **`Path`**, **`Path.data`** — several movements, written with a blank between them. -/

namespace BorrowSketch.Drawing

/-- The kinds of pen movement: with the pen up or down, to a point or by an offset. -/
inductive Pen where
  | moveTo
  | lineTo
  | moveBy
  | lineBy
deriving DecidableEq

/-- The letter of a pen movement in path data. -/
def Pen.letter : Pen → Char
  | moveTo => 'M'
  | lineTo => 'L'
  | moveBy => 'm'
  | lineBy => 'l'

/-- One movement of the pen. -/
structure Step where
  pen : Pen
  x : Float
  y : Float

/-- A movement as path data: its letter and the two numbers with a comma between them. -/
def Step.data (step : Step) : String :=
  String.singleton step.pen.letter ++ Number.text step.x ++ "," ++ Number.text step.y

/-- The movements of the pen along a shape. -/
abbrev Path := List Step

/-- Path data: the movements in order with blanks between them. -/
def Path.data (path : Path) : String :=
  String.intercalate " " (path.map Step.data)

/-- Lift the pen and go to a point. -/
def moveTo (x y : Float) : Step := ⟨.moveTo, x, y⟩

/-- Draw to a point. -/
def lineTo (x y : Float) : Step := ⟨.lineTo, x, y⟩

/-- Lift the pen and go by an offset. -/
def moveBy (x y : Float) : Step := ⟨.moveBy, x, y⟩

/-- Draw by an offset. -/
def lineBy (x y : Float) : Step := ⟨.lineBy, x, y⟩

end BorrowSketch.Drawing
