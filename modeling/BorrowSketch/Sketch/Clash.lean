import BorrowSketch.Sketch.Basic

/-! # Clashes

Most errors about borrows have one shape: something holds over a region of lines, and at one point
something else is done that the region does not allow.

* **`Clash`** — the region, the point and the labels to draw.
* **`Clash.sketch`** — a bracket over the region, a pointer at the point, and a tip.
* **`Clash.draw`**, **`Rendering.ofClash`** — the same drawn, and the program that draws it. -/

namespace BorrowSketch

open Drawing

/-- A region of lines, a point that clashes with it, and what to say about them. -/
structure Clash where
  /-- The first line of the region. -/
  first : Nat
  /-- The last line of the region. -/
  last : Nat
  /-- The line of the point. -/
  point : Nat
  /-- The line of the tip. -/
  tipLine : Nat
  /-- The label of the region. -/
  regionText : String
  /-- The label of the point. -/
  pointText : String
  /-- The tip. -/
  tip : String

namespace Clash

/-- The line of the point's label: its own line, or the next where its own carries the label of the
region. -/
def pointLabelLine (clash : Clash) : Nat :=
  if clash.point = clash.first then clash.point + 1 else clash.point

/-- The lines that the drawing refers to. -/
def lines (clash : Clash) : List Nat :=
  [clash.first, clash.last, clash.point, clash.tipLine, clash.pointLabelLine]

/-- The bracket, the pointer and the tip. -/
def marks (clash : Clash) : List (Mark Role) :=
  [.bracket ⟨clash.first, clash.last, clash.first, clash.regionText, .info, .standard⟩,
    .pointer ⟨clash.point, clash.pointLabelLine, 0.5, clash.pointText, .error⟩,
    .tip clash.tipLine clash.tip .tip]

/-- A bracket over the region, a pointer at the point, and a tip. -/
def sketch (document : LineView) (clash : Clash) : Sketch :=
  Sketch.around document clash.lines 1 clash.marks

/-- The line of the point's label, where the next line is counted. -/
def pointLabelLine? (counting : Counting) (clash : Clash) : Option Nat :=
  if clash.point = clash.first then counting.count (clash.point + 1) else some clash.point

/-- The picture of a clash. -/
def draw (counting : Counting) (scene : Scene) (theme : Theme) (clash : Clash) :
    Option Picture := do
  let colors := scene.config.colors theme
  let labelLine ← clash.pointLabelLine? counting
  scene.draw counting [clash.first, clash.last, clash.point, clash.tipLine, labelLine] 2
    [.bracket ⟨clash.first, clash.last, clash.first, clash.regionText, colors.info, .standard⟩,
      .pointer ⟨clash.point, labelLine, 0.5, clash.pointText, colors.error⟩,
      .tip clash.tipLine clash.tip colors.tip]

variable {counting : Counting}

theorem exists_pointLabelLine? (h : counting ≠ .checked) (clash : Clash) :
    ∃ line, clash.pointLabelLine? counting = some line := by
  rw [pointLabelLine?]
  split
  · exact Counting.exists_count h _
  · exact ⟨_, rfl⟩

theorem isSome_draw (h : counting ≠ .checked) (scene : Scene) (theme : Theme) (clash : Clash) :
    (clash.draw counting scene theme).isSome := by
  obtain ⟨line, hline⟩ := clash.exists_pointLabelLine? h
  simp only [draw, hline, Option.bind_eq_bind, Option.bind_some]
  exact scene.isSome_draw h _ _ _

end Clash

/-- The program that reads the facts of a diagnostic and draws a clash of them. -/
def Rendering.ofClash {α : Type} (read : Diagnostic → Outcome α) (clash : α → Clash) : Rendering :=
  .ofDrawing read (fun counting scene theme facts => (clash facts).draw counting scene theme)
    fun h scene theme facts => (clash facts).isSome_draw h scene theme

end BorrowSketch
