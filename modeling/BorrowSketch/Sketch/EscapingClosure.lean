import BorrowSketch.Sketch.BorrowInUse

/-! # Escaping closures

E0373: a closure may outlive the function whose variables it borrows.

* **`EscapingClosure`** — the facts, and **`EscapingClosure.read`**.
* **`EscapingClosure.sketch`** — an arrow down beside two lines of explanation.
* **`EscapingClosure.rendering`** — the renderer of a diagnostic. -/

namespace BorrowSketch

open Drawing

/-- A closure that borrows a variable and outlives it. -/
structure EscapingClosure where
  /-- The variable. -/
  variableName : String
  /-- The line of the closure. -/
  line : Nat
deriving DecidableEq

namespace EscapingClosure

/-- The facts of a diagnostic. -/
def read (d : Diagnostic) : Outcome EscapingClosure :=
  (Outcome.ofOptionOr cannotParse
      (placeBetween? "closure may outlive the current function, but it borrows `" "`,"
        d.message)).map fun name => ⟨name, d.line⟩

/-- What the closure borrows. -/
def borrowText (facts : EscapingClosure) : String :=
  "the closure borrows `" ++ facts.variableName ++ "`, which only lives in the current function"

/-- What the closure needs. -/
def needText : String := "but the closure needs to live after the function returns"

/-- The sketch of a diagnostic. -/
def sketch (document : LineView) (d : Diagnostic) : Outcome Sketch :=
  (read d).map fun facts =>
    Sketch.around document [facts.line, facts.line + 1] 0
      [.descent facts.line .error, .tip facts.line facts.borrowText .info,
        .tip (facts.line + 1) needText .error]

/-- The picture of the facts, on two rows. -/
def draw (counting : Counting) (scene : Scene) (theme : Theme) (facts : EscapingClosure) :
    Option Picture := do
  let colors := scene.config.colors theme
  let next ← counting.count (facts.line + 1)
  let shift ← scene.shift? counting facts.line next
  return .besideLines scene.config facts.line shift 2
    [.descent facts.line colors.error, .tip facts.line facts.borrowText colors.info,
      .tip next needText colors.error]

theorem isSome_draw {counting : Counting} (h : counting ≠ .checked) (scene : Scene)
    (theme : Theme) (facts : EscapingClosure) : (facts.draw counting scene theme).isSome := by
  obtain ⟨next, hnext⟩ := Counting.exists_count h (facts.line + 1)
  obtain ⟨stop, hstop⟩ := Counting.exists_count h (next + 1)
  simp [draw, Scene.shift?, hnext, hstop]

/-- The renderer of a diagnostic. -/
def rendering : Rendering :=
  .ofDrawing read draw isSome_draw

end EscapingClosure
end BorrowSketch
