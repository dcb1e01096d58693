import BorrowSketch.Json.Basic
import BorrowSketch.Number.Reading

/-! # JSON numbers

A number is read into 64 bits where possible, and into a float otherwise. Digits that no longer fit
into the 64 bits of the significand are dropped, and the float is the significand multiplied or
divided by a power of ten; it may therefore differ from the nearest float in the last place.

* **`Literal`** — the parts of a number as they are written.
* **`Literal.value?`** — the number; a magnitude beyond the largest float is refused. -/

namespace BorrowSketch.Json

/-- The parts of a number as they are written. -/
structure Literal where
  /-- Whether there is a minus sign. -/
  negative : Bool
  /-- The digits before the point. -/
  whole : List Char
  /-- The digits behind the point, if there is one. -/
  decimals : Option (List Char)
  /-- Whether the exponent is negative, and its digits, if there is one. -/
  exponent : Option (Bool × List Char)
deriving DecidableEq

/-- Append digits to a significand as long as it fits into 64 bits; the digits left over. -/
def appendDigits (significand : Nat) : List Char → Nat × List Char
  | [] => (significand, [])
  | digit :: rest =>
    let next := significand * 10 + (digit.toNat - '0'.toNat)
    if next < Nat.pow 2 64 then appendDigits next rest else (significand, digit :: rest)

/-- A float divided by a power of ten, in steps that a float can hold. -/
def divideByPower (x : Float) (power : Nat) : Float :=
  if power ≤ 308 then x / Number.ofNat (Nat.pow 10 power)
  else if x == 0 then x
  else divideByPower (x / Number.ofNat (Nat.pow 10 308)) (power - 308)
termination_by power

/-- The float `significand · 10^exponent`, if it is finite. -/
def scale? (significand : Nat) (exponent : Int) : Option Float :=
  let x := Number.ofNat significand
  if 0 ≤ exponent then
    if 308 < exponent then (if significand = 0 then some x else none)
    else
      let scaled := x * Number.ofNat (Nat.pow 10 exponent.toNat)
      if scaled.isInf then none else some scaled
  else some (divideByPower x (-exponent).toNat)

/-- The magnitude of a number that is not a plain integer, if a float can hold it. -/
def magnitude? (significand : Nat) (place : Int) : Option (Bool × List Char) → Option Float
  | none => scale? significand place
  | some (negative, digits) =>
    let power := Number.digitsValue digits
    if Nat.pow 2 31 ≤ power then
      if significand ≠ 0 ∧ negative = false then none else some 0
    else scale? significand (if negative then place - power else place + power)

/-- The number that a literal stands for. -/
def Literal.value? (literal : Literal) : Option Json :=
  let (significand, dropped) := appendDigits 0 literal.whole
  if dropped.isEmpty && literal.decimals.isNone && literal.exponent.isNone then
    if !literal.negative then some (.int significand)
    else if significand = 0 ∨ Nat.pow 2 63 < significand then
      some (.real (-Number.ofNat significand))
    else some (.int (-significand))
  else
    let decimals := literal.decimals.getD []
    let (significand, rest) := appendDigits significand decimals
    let place : Int := (dropped.length : Int) - (decimals.length - rest.length : Nat)
    (magnitude? significand place literal.exponent).map fun x =>
      .real (if literal.negative then -x else x)

end BorrowSketch.Json
