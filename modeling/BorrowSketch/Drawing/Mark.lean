import BorrowSketch.Drawing.Svg

/-! # Marks

What a sketch draws beside the lines of a document. Marks are placed by line numbers; a baseline,
the topmost line of the image, says where these are. Their colours are left open, so that the same
marks can be coloured for any theme.

* **`Pointer`** — an elbowed arrow from a line to a label.
* **`Bracket`** — a bracket over several lines, with a label.
* **`Mark`** — these, labels, free outlines, and an arrow down to the next line.
* **`Mark.nodes`** — what is drawn for a mark. -/

namespace BorrowSketch.Drawing

/-- An arrow from a line to a label. -/
structure Pointer (κ : Type) where
  /-- The line pointed from. -/
  line : Nat
  /-- The line of the label. -/
  labelLine : Nat
  /-- Where on the line the arrow starts, from 0 at its top to 1 at its bottom. -/
  offset : Float
  /-- The label. -/
  text : String
  /-- The colour of arrow and label. -/
  color : κ

/-- How the ends of a bracket look. -/
structure BracketEnds where
  /-- Whether an arrow leads from the bracket to its label. -/
  labelArrow : Bool := false
  /-- Whether the stroke at the top is left out. -/
  topOpen : Bool := false
  /-- Whether the top carries an arrowhead. -/
  topArrow : Bool := false
  /-- Whether the stroke at the bottom is left out. -/
  bottomOpen : Bool := false
  /-- Whether the bottom carries an arrowhead. -/
  bottomArrow : Bool := false
deriving DecidableEq

/-- A closed bracket with an arrow to its label. -/
def BracketEnds.standard : BracketEnds := ⟨true, false, false, false, false⟩

/-- A bracket over lines. -/
structure Bracket (κ : Type) where
  /-- The first line. -/
  first : Nat
  /-- The last line. -/
  last : Nat
  /-- The line of the label. -/
  labelLine : Nat
  /-- The label. -/
  text : String
  /-- The colour of bracket and label. -/
  color : κ
  /-- How the ends look. -/
  ends : BracketEnds := .standard

/-- Something drawn beside the lines of a document, in colours of type `κ`. -/
inductive Mark (κ : Type) where
  /-- A text on a line, `x` pixels from the left. -/
  | label (line : Nat) (x : Float) (text : String) (color : κ)
  /-- A path in pixels. -/
  | outline (data : String) (color : κ)
  /-- An arrow to a label. -/
  | pointer (pointer : Pointer κ)
  /-- A bracket with a label. -/
  | bracket (bracket : Bracket κ)
  /-- An arrow from the middle of a line to the bottom of the next. -/
  | descent (line : Nat) (color : κ)

namespace Mark

variable {κ : Type}

/-- The left edge of a label that no arrow leads to. -/
def plainLabelX : Float := 20

/-- The left edge of a label that an arrow leads to. -/
def arrowLabelX : Float := 30

/-- A label that no arrow leads to. -/
def tip (line : Nat) (text : String) (color : κ) : Mark κ :=
  .label line plainLabelX text color

/-- A mark in other colours. -/
def recolor {μ : Type} (f : κ → μ) : Mark κ → Mark μ
  | label line x text color => .label line x text (f color)
  | outline data color => .outline data (f color)
  | pointer p => .pointer ⟨p.line, p.labelLine, p.offset, p.text, f p.color⟩
  | bracket b => .bracket ⟨b.first, b.last, b.labelLine, b.text, f b.color, b.ends⟩
  | descent line color => .descent line (f color)

/-! ## Arrowheads

Two strokes of length `size`, drawn from the tip and back. -/

/-- An arrowhead to the right: the strokes go left. -/
def headRight (size : Float) : Path :=
  [lineBy (-size) (-size / 2), moveBy size (size / 2), lineBy (-size) (size / 2)]

/-- An arrowhead to the left. -/
def headLeft (size : Float) : Path :=
  [lineBy size (-size / 2), moveBy (-size) (size / 2), lineBy size (size / 2)]

/-- An arrowhead upwards. -/
def headUp (size : Float) : Path :=
  [lineBy (-size / 2) size, moveBy (size / 2) (-size), lineBy (size / 2) size]

/-- An arrowhead downwards. -/
def headDown (size : Float) : Path :=
  [lineBy (-size / 2) (-size), moveBy (size / 2) size, lineBy (size / 2) (-size)]

/-! ## Placing -/

/-- How many lines a line is below the baseline. -/
def row (baseline line : Nat) : Float :=
  Number.ofNat line - Number.ofNat baseline

/-- The baseline of text on a line. -/
def textY (config : Config) (baseline line : Nat) : Float :=
  config.fontSize + config.lineHeight * row baseline line

/-- A text on a line. -/
def textNode (config : Config) (baseline line : Nat) (x : Float) (text color : String) : Node :=
  .text x (textY config baseline line) color ((text.toList.splitOn '\n').map String.ofList)
    config.lineHeight

/-- The outline of a path. -/
def outlineNode (path : Path) (color : String) : Node :=
  .path path.data (.stroke color)

/-- The arrow of a pointer: right, down or up to the label's line, right again, and an
arrowhead. -/
def pointerPath (config : Config) (baseline : Nat) (p : Pointer κ) : Path :=
  [moveTo 0 ((row baseline p.line + p.offset) * config.lineHeight),
    lineBy 15 0,
    lineBy 0
      ((Number.ofNat p.labelLine - Number.ofNat p.line - p.offset + 0.5) * config.lineHeight),
    lineBy 10 0]
    ++ headRight config.arrowSize

/-- The bracket itself: a stroke at the top, a line down, and a stroke at the bottom. -/
def bracketPath (config : Config) (baseline : Nat) (b : Bracket κ) : Path :=
  [moveTo 0 (row baseline b.first * config.lineHeight),
    (if b.ends.topOpen then moveBy 10 0 else lineBy 10 0),
    lineBy 0 ((Number.ofNat b.last - Number.ofNat b.first + 1) * config.lineHeight),
    (if b.ends.bottomOpen then moveBy (-10) 0 else lineBy (-10) 0)]

/-- The arrow from a bracket to its label. -/
def labelArrowPath (config : Config) (baseline : Nat) (b : Bracket κ) : Path :=
  [moveTo 10 ((0.5 + row baseline b.labelLine) * config.lineHeight), lineBy 10 0]
    ++ headRight config.arrowSize

/-- The arrowhead at the top of a bracket: up from an open end, left from a closed one. -/
def topArrowPath (config : Config) (baseline : Nat) (b : Bracket κ) : Path :=
  let y := row baseline b.first * config.lineHeight
  if b.ends.topOpen then moveTo 10 y :: headUp config.arrowSize
  else moveTo 0 y :: headLeft config.arrowSize

/-- The arrowhead at the bottom of a bracket: down from an open end, left from a closed one. -/
def bottomArrowPath (config : Config) (baseline : Nat) (b : Bracket κ) : Path :=
  let y := (row baseline b.last + 1) * config.lineHeight
  if b.ends.bottomOpen then moveTo 10 y :: headDown config.arrowSize
  else moveTo 0 y :: headLeft config.arrowSize

/-- The arrow from the middle of a line to the bottom of the next. -/
def descentPath (config : Config) (baseline line : Nat) : Path :=
  [moveTo 0 ((row baseline line + 0.5) * config.lineHeight), lineBy 10 0,
    lineBy 0 (config.lineHeight * 1.5)] ++ headDown config.arrowSize

/-- What is drawn for a mark, with the top of the image at the line `baseline`. -/
def nodes (config : Config) (baseline : Nat) : Mark String → List Node
  | label line x text color => [textNode config baseline line x text color]
  | outline data color => [.path data (.stroke color)]
  | pointer p =>
    [outlineNode (pointerPath config baseline p) p.color,
      textNode config baseline p.labelLine arrowLabelX p.text p.color]
  | bracket b =>
    outlineNode (bracketPath config baseline b) b.color
      :: (if b.ends.labelArrow then
          [outlineNode (labelArrowPath config baseline b) b.color] else [])
      ++ (if b.ends.topArrow then
          [outlineNode (topArrowPath config baseline b) b.color] else [])
      ++ (if b.ends.bottomArrow then
          [outlineNode (bottomArrowPath config baseline b) b.color] else [])
      ++ [textNode config baseline b.labelLine
          (if b.ends.labelArrow then arrowLabelX else plainLabelX) b.text b.color]
  | descent line color => [outlineNode (descentPath config baseline line) color]

end Mark

/-- The group with marks drawn into it. -/
def Group.marks (group : Group) (config : Config) (baseline : Nat) (marks : List (Mark String)) :
    Group :=
  { group with nodes := group.nodes ++ marks.flatMap (Mark.nodes config baseline) }

end BorrowSketch.Drawing
