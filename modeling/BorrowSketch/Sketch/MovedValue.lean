import BorrowSketch.Sketch.Clash

/-! # Moved values

E0382: a value is used after it was moved.

* **`MovedValue`** — the facts, and **`MovedValue.read`**.
* **`MovedValue.sketch`** — the life of the value as a region that ends at the move; two pointers
  where the compiler does not say where the value was defined.
* **`MovedValue.rendering`** — the renderer of a diagnostic. -/

namespace BorrowSketch

open Drawing

/-- A value that is used after it was moved. -/
structure MovedValue where
  /-- The value. -/
  name : String
  /-- The line of the move. -/
  moved : Nat
  /-- The line of the definition, where the compiler reports it. -/
  defined : Option Nat
  /-- The line of the use. -/
  used : Nat
deriving DecidableEq

namespace MovedValue

/-- The closing quote of a name at the end of a line. -/
def closesLine : List Char → Bool
  | ['`'] => true
  | '`' :: c :: _ => c = '\n'
  | _ => false

/-- The quoted name at the end of a line, behind a colon, at the leftmost place of a message that
has one. -/
def readMessage? (message : String) : Option String :=
  Text.firstMatch? (fun chars =>
    (Text.after? ": `".toList chars).bind fun chars =>
      (Text.longestPartBefore? closesLine chars).map fun found => String.ofList found.1)
    message.toList

/-- The facts of a diagnostic. -/
def read (d : Diagnostic) : Outcome MovedValue :=
  (Outcome.ofOptionOr cannotParse (d.relatedEndingWith? "value moved here")).bind fun move =>
    (Outcome.ofOptionOr cannotParse (readMessage? d.message)).map fun name =>
      { name := name
        moved := move.span.start.line
        defined := (d.relatedStartingWith? "move occurs because `").map (·.span.start.line)
        used := d.line }

/-- The advice given. -/
def tip : String := "tip: value cannot be used after being moved"

/-- What to say about the use. -/
def useText (facts : MovedValue) : String :=
  "use of `" ++ facts.name ++ "` after being moved"

/-- What to say about the move where the value has a region. -/
def moveText (facts : MovedValue) : String :=
  "`" ++ facts.name ++ "` moved to another variable"

/-- What to say about the move where the value has none. -/
def endText (facts : MovedValue) : String :=
  "end of `" ++ facts.name ++ "`'s lifetime when it is moved"

/-- The clash of the use with the life of the value. -/
def clash (facts : MovedValue) (defined tipLine : Nat) : Clash where
  first := defined
  last := facts.moved
  point := facts.used
  tipLine := tipLine
  regionText := "lifetime of `" ++ facts.name ++ "`"
  pointText := facts.useText
  tip := tip

/-- The sketch of a value whose definition is known: its life, the use, and the move. -/
def lifeSketch (document : LineView) (facts : MovedValue) (defined : Nat) : Sketch :=
  let base := (facts.clash defined (facts.used + 1)).sketch document
  { base with
    marks := base.marks
      ++ [.pointer ⟨facts.moved, facts.moved, 1, facts.moveText, .aside⟩] }

/-- The sketch of a value whose definition is not known: the move and the use. -/
def pointSketch (document : LineView) (facts : MovedValue) : Sketch :=
  let tipLine := facts.used + 1
  Sketch.around document [facts.moved, facts.used, tipLine] 0
    [.pointer ⟨facts.moved, facts.moved, 0.5, facts.endText, .info⟩,
      .pointer ⟨facts.used, facts.used, 0.5, facts.useText, .error⟩,
      .tip tipLine tip .tip]

/-- The sketch of a diagnostic. -/
def sketch (document : LineView) (d : Diagnostic) : Outcome Sketch :=
  (read d).map fun facts =>
    match facts.defined with
    | some defined => lifeSketch document facts defined
    | none => pointSketch document facts

/-- The picture of a value whose definition is known. -/
def drawLife (counting : Counting) (scene : Scene) (theme : Theme) (facts : MovedValue)
    (defined : Nat) : Option Picture := do
  let tipLine ← counting.count (facts.used + 1)
  let picture ← (facts.clash defined tipLine).draw counting scene theme
  let colors := scene.config.colors theme
  return picture.add scene.config
    [.pointer ⟨facts.moved, facts.moved, 1, facts.moveText, colors.aside⟩]

/-- The picture of the facts. -/
def draw (counting : Counting) (scene : Scene) (theme : Theme) (facts : MovedValue) :
    Option Picture :=
  match facts.defined with
  | some defined => facts.drawLife counting scene theme defined
  | none =>
    scene.drawPointers counting theme facts.moved facts.used facts.endText facts.useText tip

variable {counting : Counting}

theorem isSome_drawLife (h : counting ≠ .checked) (scene : Scene) (theme : Theme)
    (facts : MovedValue) (defined : Nat) :
    (facts.drawLife counting scene theme defined).isSome := by
  obtain ⟨tipLine, htip⟩ := Counting.exists_count h (facts.used + 1)
  obtain ⟨picture, hpicture⟩ := Option.isSome_iff_exists.1
    (Clash.isSome_draw h scene theme (facts.clash defined tipLine))
  simp [drawLife, htip, hpicture]

theorem isSome_draw (h : counting ≠ .checked) (scene : Scene) (theme : Theme)
    (facts : MovedValue) : (facts.draw counting scene theme).isSome := by
  rw [draw]
  split
  · exact facts.isSome_drawLife h scene theme _
  · exact scene.isSome_drawPointers h theme _ _ _ _ _

/-- The renderer of a diagnostic. -/
def rendering : Rendering :=
  .ofDrawing read draw isSome_draw

end MovedValue
end BorrowSketch
