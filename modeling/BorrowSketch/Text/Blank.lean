import BorrowSketch.Text.Ranges

/-! # Blanks

The blank characters, and a text without those at its ends.

* **`IsBlank`** — the characters with the white space property.
* **`trim`** — a text without the blanks at its start and its end. -/

namespace BorrowSketch.Text

/-- The ranges of the characters with the white space property. -/
def blankRanges : List (Nat × Nat) :=
  [(0x9, 0xD), (0x20, 0x20), (0x85, 0x85), (0xA0, 0xA0), (0x1680, 0x1680), (0x2000, 0x200A),
    (0x2028, 0x2029), (0x202F, 0x202F), (0x205F, 0x205F), (0x3000, 0x3000)]

/-- A character with the white space property. -/
def IsBlank (c : Char) : Prop :=
  InRanges blankRanges c

instance (c : Char) : Decidable (IsBlank c) := by
  unfold IsBlank; infer_instance

/-- A list of characters without the blanks at its start. -/
def dropBlanks (chars : List Char) : List Char :=
  chars.dropWhile fun c => IsBlank c

/-- A text without the blanks at its start and its end. -/
def trim (text : String) : String :=
  String.ofList (dropBlanks (dropBlanks text.toList).reverse).reverse

end BorrowSketch.Text
