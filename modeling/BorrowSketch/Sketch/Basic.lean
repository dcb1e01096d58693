import BorrowSketch.Diagnostic.Basic
import BorrowSketch.Document.Extent
import BorrowSketch.Document.LineView
import BorrowSketch.Drawing.Mark
import BorrowSketch.Outcome
import BorrowSketch.Sketch.Counting

/-! # Sketches

A sketch is a plan of what to draw beside some lines of a document: marks placed by line numbers,
and the lines that the image has to cover. Colours are roles, so one plan serves both themes, and
lines are counted without bound. A renderer has no plan: it draws in the colours of its theme, and
counts in machine words.

* **`Sketch`**, **`Sketch.around`** — a plan, and the plan that covers given lines.
* **`Scene`** — the document and the measures that a sketch is made for.
* **`Sketch.picture`** — the plan drawn for a theme.
* **`Scene.draw`** — a drawing beside lines, without a plan.
* **`Renderer`** — what makes pictures of the diagnostics of one code.
* **`Rendering`** — a renderer as a program that counts, and may stop at it. -/

namespace BorrowSketch

open Drawing

/-- A plan of what to draw beside some lines of a document. -/
structure Sketch where
  /-- The topmost line of the image. -/
  anchor : Nat
  /-- The last of the lines that the sketch is around. -/
  last : Nat
  /-- The number of lines that the image is high. -/
  rows : Nat
  /-- The cells between the end of the anchor line and the drawing. -/
  shift : Nat
  /-- What to draw. -/
  marks : List (Mark Role)

/-- What a sketch is made for. -/
structure Scene where
  /-- The document. -/
  document : LineView
  /-- The measures and colours. -/
  config : Config

/-- An image and the line it is attached to. -/
structure Picture where
  /-- The image. -/
  image : Svg
  /-- The topmost line that the image covers. -/
  line : Nat

/-- What makes pictures of diagnostics, for a theme. -/
abbrev Renderer := Scene → Theme → Diagnostic → Outcome Picture

namespace Sketch

/-- The sketch that covers the given lines and `below` rows more, and is clear of the text of all
the given lines and those between them. -/
def around (document : LineView) (lines : List Nat) (below : Nat) (marks : List (Mark Role)) :
    Sketch where
  anchor := (extent lines).1
  last := (extent lines).2
  rows := (extent lines).2 - (extent lines).1 + 1 + below
  shift := document.shift (extent lines).1 (extent lines).2
  marks := marks

/-- The image of a sketch in given colours. -/
def image (config : Config) (colors : Colors) (sketch : Sketch) : Svg :=
  let base := Svg.besideLines config (Number.ofNat sketch.shift * config.cellWidth) sketch.rows
  { base with
    canvas := base.canvas.marks config sketch.anchor (sketch.marks.map (Mark.recolor colors.of)) }

/-- The sketch drawn for a theme. -/
def picture (config : Config) (theme : Theme) (sketch : Sketch) : Picture :=
  ⟨sketch.image config (config.colors theme), sketch.anchor⟩

end Sketch

namespace Picture

/-- The picture of marks beside so many rows of an editor from the line `top` on, `shift` cells
behind the end of this line. -/
def besideLines (config : Config) (top shift rows : Nat) (marks : List (Mark String)) : Picture :=
  let base := Svg.besideLines config (Number.ofNat shift * config.cellWidth) rows
  ⟨{ base with canvas := base.canvas.marks config top marks }, top⟩

/-- A picture with more marks drawn into it. -/
def add (config : Config) (picture : Picture) (marks : List (Mark String)) : Picture :=
  { picture with image.canvas := picture.image.canvas.marks config picture.line marks }

end Picture

namespace Scene

/-- By how many cells a line is shorter than the widest from there through `last`. The line behind
the last is counted. -/
def shift? (scene : Scene) (counting : Counting) (first last : Nat) : Option Nat := do
  let stop ← counting.count (last + 1)
  return scene.document.widest (linesBetween first stop) - scene.document.width first

/-- The picture of marks beside the given lines and those between them. From the first to the last
the rows are counted, with `more` behind. -/
def draw (scene : Scene) (counting : Counting) (lines : List Nat) (more : Nat)
    (marks : List (Mark String)) : Option Picture := do
  let (top, bottom) := extent lines
  let shift ← scene.shift? counting top bottom
  let rows ← counting.count (bottom - top + more)
  return .besideLines scene.config top shift rows marks

/-- The picture of two pointers, with a tip on the line behind the second. -/
def drawPointers (scene : Scene) (counting : Counting) (theme : Theme) (first second : Nat)
    (firstText secondText tip : String) : Option Picture := do
  let colors := scene.config.colors theme
  let tipLine ← counting.count (second + 1)
  scene.draw counting [first, second, tipLine] 1
    [.pointer ⟨first, first, 0.5, firstText, colors.info⟩,
      .pointer ⟨second, second, 0.5, secondText, colors.error⟩,
      .tip tipLine tip colors.tip]

variable {counting : Counting}

/-- A drawing is finished, unless counting is checked. -/
theorem isSome_draw (scene : Scene) (h : counting ≠ .checked) (lines : List Nat) (more : Nat)
    (marks : List (Mark String)) : (scene.draw counting lines more marks).isSome := by
  obtain ⟨stop, hstop⟩ := Counting.exists_count h ((extent lines).2 + 1)
  obtain ⟨rows, hrows⟩ := Counting.exists_count h ((extent lines).2 - (extent lines).1 + more)
  simp [draw, shift?, hstop, hrows]

theorem isSome_drawPointers (scene : Scene) (h : counting ≠ .checked) (theme : Theme)
    (first second : Nat) (firstText secondText tip : String) :
    (scene.drawPointers counting theme first second firstText secondText tip).isSome := by
  obtain ⟨tipLine, htip⟩ := Counting.exists_count h (second + 1)
  simp [drawPointers, htip, isSome_draw scene h]

end Scene

/-- A renderer as a program that counts lines in one of several ways. -/
structure Rendering where
  /-- What comes of a diagnostic, for a theme; nothing if the program stops. -/
  render : Counting → Scene → Theme → Diagnostic → Option (Outcome Picture)
  /-- The program stops only where counting is checked. -/
  goesOn : ∀ {counting : Counting}, counting ≠ .checked →
    ∀ scene theme d, (render counting scene theme d).isSome

namespace Rendering

variable {α : Type}

/-- The program that reads the facts of a diagnostic and goes on with them. -/
def ofReading (read : Diagnostic → Outcome α)
    (next : Counting → Scene → Theme → α → Option (Outcome Picture))
    (hgoesOn : ∀ {counting : Counting}, counting ≠ .checked →
      ∀ scene theme facts, (next counting scene theme facts).isSome) : Rendering where
  render counting scene theme d := (read d).bind? (next counting scene theme)
  goesOn h scene theme d := by
    cases read d with
    | success facts => exact hgoesOn h scene theme facts
    | inapplicable context => rfl
    | failed context => rfl

/-- The program that reads the facts of a diagnostic and draws them. -/
def ofDrawing (read : Diagnostic → Outcome α)
    (draw : Counting → Scene → Theme → α → Option Picture)
    (hgoesOn : ∀ {counting : Counting}, counting ≠ .checked →
      ∀ scene theme facts, (draw counting scene theme facts).isSome) : Rendering :=
  ofReading read (fun counting scene theme facts => (draw counting scene theme facts).map .success)
    fun h scene theme facts => by rw [Option.isSome_map]; exact hgoesOn h scene theme facts

/-- The renderer of a program that does not stop. -/
def renderer (rendering : Rendering) (counting : Counting) (h : counting ≠ .checked) : Renderer :=
  fun scene theme d =>
    (rendering.render counting scene theme d).get (rendering.goesOn h scene theme d)

end Rendering

/-- The renderer that draws the sketch made of a diagnostic. -/
def Renderer.ofSketch (sketch : LineView → Diagnostic → Outcome Sketch) : Renderer :=
  fun scene theme d => (sketch scene.document d).map (Sketch.picture scene.config theme)

/-- Why a message gave no facts. -/
def cannotParse : String := "cannot parse diagnostics"

/-- Why the related places of a message gave no facts. -/
def cannotParseRelated : String := "cannot parse related diagnostics"

end BorrowSketch
