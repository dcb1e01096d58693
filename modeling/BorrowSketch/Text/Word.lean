import BorrowSketch.Text.Ranges
import BorrowSketch.Text.WordTable

/-! # Words

The characters that names in a program are made of, and the word that touches a place in a line.

* **`IsWordChar`** — letters, numbers of every script, and the underscore.
* **`wordAt?`** — the bounds of the word around a place. -/

namespace BorrowSketch.Text

/-- A letter, a number or an underscore. -/
def IsWordChar (c : Char) : Prop :=
  if c.toNat < 128 then (c.isAlphanum || c = '_') = true
  else InRanges Word.alphanumericRanges c

instance (c : Char) : Decidable (IsWordChar c) := by
  unfold IsWordChar; infer_instance

/-- How many characters at the start of a list are word characters. -/
def wordLength (chars : List Char) : Nat :=
  (chars.takeWhile fun c => IsWordChar c).length

/-- The bounds of the longest run of word characters that contains or touches a place.
A place behind the end of the line stands for the end. -/
def wordAt? (chars : List Char) (place : Nat) : Option (Nat × Nat) :=
  let place := min place chars.length
  let start := place - wordLength (chars.take place).reverse
  let stop := place + wordLength (chars.drop place)
  if start < stop then some (start, stop) else none

end BorrowSketch.Text
