/-! # Character ranges

Properties of characters are given as lists of inclusive ranges of code points.

* **`InRanges`** — membership of a character in such a list. -/

namespace BorrowSketch.Text

/-- Whether the code point of `c` lies in one of the inclusive ranges. -/
def InRanges (ranges : List (Nat × Nat)) (c : Char) : Prop :=
  ∃ range ∈ ranges, range.1 ≤ c.toNat ∧ c.toNat ≤ range.2

instance (ranges : List (Nat × Nat)) (c : Char) : Decidable (InRanges ranges c) :=
  inferInstanceAs (Decidable (∃ range ∈ ranges, range.1 ≤ c.toNat ∧ c.toNat ≤ range.2))

end BorrowSketch.Text
