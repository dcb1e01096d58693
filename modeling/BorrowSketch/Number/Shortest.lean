import BorrowSketch.Number.Binary

/-! # Shortest decimals

The shortest decimal that reads back as a given float, and among the shortest ones the nearest to
the exact value.

* **`Decimal`** — `digits · 10^exponent`.
* **`Binary.roundTrips`** — whether a decimal lies in the interval that rounds to the float.
* **`Binary.shortest`** — the decimal chosen. -/

namespace BorrowSketch.Number

/-- A non-negative decimal number `digits · 10^exponent`. -/
structure Decimal where
  /-- The digits as one integer. -/
  digits : Nat
  /-- The power of ten they are scaled by. -/
  exponent : Int
deriving DecidableEq

namespace Decimal

/-- The same decimal without trailing zeros in its digits. -/
def normalize (d : Decimal) : Decimal :=
  if h : d.digits = 0 then ⟨0, 0⟩
  else if d.digits % 10 = 0 then normalize ⟨d.digits / 10, d.exponent + 1⟩
  else d
termination_by d.digits
decreasing_by exact Nat.div_lt_self (Nat.pos_of_ne_zero h) (by decide)

end Decimal

namespace Binary

/-- Whether `d` lies between the midpoints to the neighbouring floats. The midpoints themselves
belong to the float when its significand is even. -/
def roundTrips (b : Binary) (d : Decimal) : Bool :=
  -- everything in units of a quarter of the last binary place
  let unit := Nat.pow 2 (-b.exponent).toNat * 4 * Nat.pow 10 d.exponent.toNat * d.digits
  let scale := Nat.pow 2 b.exponent.toNat * Nat.pow 10 (-d.exponent).toNat
  let below := if b.significand = Nat.pow 2 52 ∧ -1074 < b.exponent then 1 else 2
  let low := (4 * b.significand - below) * scale
  let high := (4 * b.significand + 2) * scale
  if b.significand % 2 = 0 then decide (low ≤ unit ∧ unit ≤ high)
  else decide (low < unit ∧ unit < high)

/-- The exponent of the leading decimal digit of a positive number. -/
def leadingPlace (b : Binary) : Int :=
  ((Nat.toDigits 10 (b.numerator * Nat.pow 10 340 / b.denominator)).length : Int) - 341

/-- The decimal nearest to the number among those of `count` digits that read back, if any: one of
the two neighbours on that grid. -/
def nearestWith (b : Binary) (count : Nat) : Option Decimal :=
  let place := b.leadingPlace - count + 1
  let n := b.numerator * Nat.pow 10 (-place).toNat
  let d := b.denominator * Nat.pow 10 place.toNat
  let down : Decimal := ⟨n / d, place⟩
  let up : Decimal := ⟨n / d + 1, place⟩
  if b.roundTrips down then
    if b.roundTrips up && decide (roundHalfEven n d = n / d + 1) then some up else some down
  else if b.roundTrips up then some up
  else none

/-- The decimal with the fewest digits that reads back as the number. Seventeen digits always
suffice. -/
def shortest (b : Binary) : Decimal :=
  if b.significand = 0 then ⟨0, 0⟩
  else match (List.range 17).findSome? fun count => b.nearestWith (count + 1) with
    | some d => d.normalize
    | none => ⟨b.numerator, 0⟩

end Binary
end BorrowSketch.Number
