import BorrowSketch.Drawing.Svg

/-! # Triangles

The icons at the edge of the editor: a triangle to the right where a sketch is available, and a
triangle down where one is shown.

* **`Triangle.available`**, **`Triangle.shown`** — the two icons. -/

namespace BorrowSketch.Drawing.Triangle

/-- The width and height of the icons in pixels. -/
def side : Float := 9

/-- A filled shape of the icons' size and colour. -/
def icon (path : Path) : Svg :=
  { Svg.blank side side with canvas := Group.empty.path path.data (.fill "#ff3300") }

/-- The icon of a sketch that is shown. -/
def shown : Svg :=
  icon [moveTo 0 0, lineTo side 0, lineTo (side / 2) side]

/-- The icon of a sketch that is available. -/
def available : Svg :=
  icon [moveTo 0 0, lineTo side (side / 2), lineTo 0 side]

end BorrowSketch.Drawing.Triangle
