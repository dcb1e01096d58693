import BorrowSketch.Appearance
import BorrowSketch.Number.Reading
import BorrowSketch.Text.Blank

/-! # Arguments

What an export is told on the command line and by its environment.

* **`Arguments`**, **`Arguments.parse?`** — the files to read and the directory to write to.
* **`fontSize?`** — a font size from a setting. -/

namespace BorrowSketch.Export

/-- The files of an export. -/
structure Arguments where
  /-- The program that the diagnostics are about. -/
  source : String
  /-- The file with the diagnostics. -/
  diagnostics : String
  /-- The directory for the images. -/
  outDirectory : String
deriving DecidableEq

/-- The directory for the images unless another is named. -/
def defaultOutDirectory : String := "revis-out"

/-- The name of the program unless it is known. -/
def defaultProgramName : String := "revis"

/-- The setting for the font size. -/
def fontSizeSetting : String := "REVIS_FONT_SIZE"

/-- The arguments behind the name of the program: two files, and the directory if it is named. -/
def Arguments.parse? : List String → Option Arguments
  | [_, source, diagnostics] => some ⟨source, diagnostics, defaultOutDirectory⟩
  | [_, source, diagnostics, outDirectory] => some ⟨source, diagnostics, outDirectory⟩
  | _ => none

/-- The font size in a setting: a positive finite number, with blanks around it if need be. -/
def fontSize? (setting : Option String) : Option Float :=
  setting.bind fun text =>
    (Number.read? (Text.trim text)).filter fun size => size.isFinite && decide (0 < size)

/-- The measures for a font size, if one is chosen. -/
def configFor (fontSize : Option Float) : Config :=
  match fontSize with
  | some size => Config.ofFontSize size
  | none => Config.standard

end BorrowSketch.Export
