import BorrowSketch.Number.Binary

/-! # Numbers in drawings

Coordinates and sizes are written with at most three decimals. A float is first rounded to a whole
number of thousandths, and the thousandths are then written canonically: no superfluous zero, no
point without digits behind it, and no sign on zero.

* **`thousandths`** — the nearest whole number of thousandths of a float.
* **`Thousandths.text`** — its decimal numeral.
* **`text`** — the two together. -/

namespace BorrowSketch.Number

/-- The whole number of thousandths nearest to a float, a tie going to the even one. What is not a
finite number counts as zero. -/
def thousandths (x : Float) : Int :=
  match Binary.ofFloat? x with
  | none => 0
  | some b =>
    let count : Int := roundHalfEven (b.numerator * 1000) b.denominator
    if b.negative then -count else count

namespace Thousandths

/-- The digits behind the point for a count of thousandths below 1000, without trailing zeros. -/
def decimals (part : Nat) : List Nat :=
  if part = 0 then []
  else if part % 100 = 0 then [part / 100]
  else if part % 10 = 0 then [part / 100, part / 10 % 10]
  else [part / 100, part / 10 % 10, part % 10]

/-- The point and the digits behind it, or nothing for a whole number. -/
def fraction (part : Nat) : List Char :=
  if part = 0 then [] else '.' :: (decimals part).map Nat.digitChar

/-- The canonical numeral of `count / 1000`. -/
def numeral (count : Int) : List Char :=
  (if count < 0 then ['-'] else [])
    ++ Nat.toDigits 10 (count.natAbs / 1000) ++ fraction (count.natAbs % 1000)

end Thousandths

/-- A float as drawings write it. -/
def text (x : Float) : String :=
  String.ofList (Thousandths.numeral (thousandths x))

end BorrowSketch.Number
