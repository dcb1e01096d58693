import BorrowSketch.Number.Binary

/-! # Appearance

Colours and measures of a drawing. A drawing names its colours by their role; the palette of the
editor's theme says what they are.

* **`Theme`**, **`Role`**, **`Colors`**, **`Palette`** — colours by theme and role.
* **`Config`** — the palette and the measures that follow from the editor's font size. -/

namespace BorrowSketch

/-- The two kinds of colour themes of an editor. -/
inductive Theme where
  | light
  | dark
deriving DecidableEq

namespace Theme

/-- The themes in the order in which they are drawn. -/
def all : List Theme := [dark, light]

/-- The name of a theme in file names. -/
def name : Theme → String
  | light => "light"
  | dark => "dark"

end Theme

/-- What a colour stands for. -/
inductive Role where
  /-- The point at fault. -/
  | error
  /-- Regions and other main facts. -/
  | info
  /-- Further facts. -/
  | aside
  /-- Advice. -/
  | tip
deriving DecidableEq

/-- The colours of one theme. -/
structure Colors where
  error : String
  info : String
  aside : String
  tip : String
deriving DecidableEq

/-- The colour of a role. -/
def Colors.of (colors : Colors) : Role → String
  | .error => colors.error
  | .info => colors.info
  | .aside => colors.aside
  | .tip => colors.tip

/-- The colours of both themes. -/
structure Palette where
  light : Colors
  dark : Colors
deriving DecidableEq

namespace Palette

/-- The colours of a theme. -/
def colors (palette : Palette) : Theme → Colors
  | .light => palette.light
  | .dark => palette.dark

/-- The colours in use unless others are chosen. -/
def standard : Palette where
  light := ⟨"#CD3131", "#316BCD", "#800080", "#000000"⟩
  dark := ⟨"#F44747", "#6796E6", "#B267E6", "#C8C8C8"⟩

end Palette

/-- Measures and colours of drawings, all lengths in pixels. -/
structure Config where
  /-- The font size of the editor. -/
  fontSize : Float
  /-- The width of one cell. -/
  cellWidth : Float
  /-- The height of one line. -/
  lineHeight : Float
  /-- The length of the strokes of an arrowhead. -/
  arrowSize : Float
  /-- The colours. -/
  palette : Palette

namespace Config

/-- The font size of an editor that does not say otherwise. -/
def standardFontSize : Float := 14

/-- The measures for a font size. A line is 1.35 font sizes high, in whole pixels and at least
eight. -/
def ofFontSize (fontSize : Float) : Config where
  fontSize := fontSize
  cellWidth := 9
  lineHeight := Number.larger (1.35 * fontSize).round 8
  arrowSize := 6
  palette := Palette.standard

/-- The measures for the standard font size. -/
def standard : Config := ofFontSize standardFontSize

/-- The colours of a theme. -/
def colors (config : Config) (theme : Theme) : Colors :=
  config.palette.colors theme

end Config
end BorrowSketch
