import BorrowSketch.Text.Ranges
import BorrowSketch.Text.PrintableTable

/-! # Quoted text

Text between double quotes, with everything that would not be seen, would attach to its neighbour or
would end the quotation written as an escape.

* **`quote`** — the quoted form of a text. -/

namespace BorrowSketch.Text

namespace Quoted

/-- The escape of a character by its number. -/
def byNumber (c : Char) : List Char :=
  ['\\', 'u', '\x7b'] ++ Nat.toDigits 16 c.toNat ++ ['\x7d']

/-- A character inside quotes. -/
def escape (c : Char) : List Char :=
  if c.toNat = 0 then ['\\', '0']
  else if c = '\t' then ['\\', 't']
  else if c = '\n' then ['\\', 'n']
  else if c = '\r' then ['\\', 'r']
  else if c = '\x22' then ['\\', '\x22']
  else if c = '\\' then ['\\', '\\']
  else if InRanges extendingRanges c ∨ InRanges unprintableRanges c then byNumber c
  else [c]

end Quoted

/-- The quoted form of a text. -/
def quote (text : String) : String :=
  String.ofList ('\x22' :: text.toList.flatMap Quoted.escape ++ ['\x22'])

end BorrowSketch.Text
