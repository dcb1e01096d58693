/-! # Binary numbers

A finite 64-bit float is a signed integer times a power of two. This module decodes the bits into
that form and goes back from an exact ratio to the nearest float, so that the rest of the library
can reason about numbers in `Nat` arithmetic.

* **`Binary`** — `±significand · 2^exponent`, with `Binary.ofFloat?` and the exact ratio
  `numerator / denominator` of its magnitude.
* **`roundHalfEven`** — a quotient rounded to the nearest integer, a tie to the even neighbour.
* **`ofRatio`** — the float nearest to a ratio. -/

namespace BorrowSketch.Number

/-- A signed binary number `±significand · 2^exponent`. -/
structure Binary where
  /-- Whether the number carries a minus sign (zero may carry one too). -/
  negative : Bool
  /-- The integer that is scaled. -/
  significand : Nat
  /-- The power of two it is scaled by. -/
  exponent : Int
deriving DecidableEq

namespace Binary

/-- The number encoded by the 64 bits of a float; infinities and NaN encode none. -/
def ofBits? (bits : Nat) : Option Binary :=
  let fraction := bits % Nat.pow 2 52
  let scale : Nat := bits / Nat.pow 2 52 % Nat.pow 2 11
  let negative := decide (bits / Nat.pow 2 63 % 2 = 1)
  if scale = 2047 then none
  else if scale = 0 then some ⟨negative, fraction, -1074⟩
  else some ⟨negative, Nat.pow 2 52 + fraction, (scale : Int) - 1075⟩

/-- The binary number that a float stands for, if it is finite. -/
def ofFloat? (x : Float) : Option Binary :=
  ofBits? x.toBits.toNat

/-- Numerator of the exact magnitude. -/
def numerator (b : Binary) : Nat :=
  b.significand * Nat.pow 2 b.exponent.toNat

/-- Denominator of the exact magnitude, a power of two. -/
def denominator (b : Binary) : Nat :=
  Nat.pow 2 (-b.exponent).toNat

@[simp] theorem denominator_pos (b : Binary) : 0 < b.denominator :=
  Nat.two_pow_pos _

end Binary

/-! ## Rounding -/

/-- The integer nearest to `n / d`; of two equally near ones the even one. -/
def roundHalfEven (n d : Nat) : Nat :=
  if 2 * (n % d) < d then n / d
  else if d < 2 * (n % d) then n / d + 1
  else if n / d % 2 = 0 then n / d
  else n / d + 1

/-- The exponent of the greatest power of two that is at most `n / d`, for positive `n` and `d`. -/
def floorLog2 (n d : Nat) : Int :=
  let guess : Int := (n.log2 : Int) - d.log2
  if d * Nat.pow 2 guess.toNat ≤ n * Nat.pow 2 (-guess).toNat then guess else guess - 1

/-- The bits of the non-negative float nearest to `n / d`, a tie going to the even significand.
Magnitudes beyond the largest finite float give infinity. -/
def nearestBits (n d : Nat) : Nat :=
  if n = 0 then 0
  else
    let exponent : Int := max (floorLog2 n d - 52) (-1074)
    let significand :=
      roundHalfEven (n * Nat.pow 2 (-exponent).toNat) (d * Nat.pow 2 exponent.toNat)
    min ((exponent + 1074).toNat * Nat.pow 2 52 + significand) (2047 * Nat.pow 2 52)

/-- The non-negative float nearest to `n / d`. -/
def ofRatio (n d : Nat) : Float :=
  Float.ofBits (nearestBits n d).toUInt64

/-- The float nearest to `digits · 10^exponent`. -/
def ofDecimal (digits : Nat) (exponent : Int) : Float :=
  ofRatio (digits * Nat.pow 10 exponent.toNat) (Nat.pow 10 (-exponent).toNat)

/-- The float nearest to a natural number. -/
def ofNat (n : Nat) : Float :=
  ofRatio n 1

/-! ## Order

Comparisons in which a NaN gives way to the other operand. -/

/-- The greater of two floats; the first one when they are equal, and the number when only one of
them is a number. -/
def larger (x y : Float) : Float :=
  if x.isNaN then y else if x < y then y else x

/-- The smaller of two floats; the first one when they are equal, and the number when only one of
them is a number. -/
def smaller (x y : Float) : Float :=
  if x.isNaN then y else if y < x then y else x

/-- `x` moved into the interval from `low` to `high`. -/
def clamp (x low high : Float) : Float :=
  smaller (larger x low) high

/-- A number outside the interval is moved to the end that it is beyond. Where the ends are crossed
the upper one counts. -/
theorem clamp_eq {x low high : Float} (hx : x.isNaN = false) (hlow : low.isNaN = false) :
    clamp x low high =
      if x < low then (if high < low then high else low) else if high < x then high else x := by
  rw [clamp, larger, hx, if_neg Bool.false_ne_true]
  split
  · rw [smaller, hlow, if_neg Bool.false_ne_true]
  · rw [smaller, hx, if_neg Bool.false_ne_true]

end BorrowSketch.Number
