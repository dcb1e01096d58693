import BorrowSketch.Number.Binary

/-! # Reading numbers

The grammar of a floating-point number in a setting: an optional sign, then either digits with an
optional point among them and an optional exponent, or one of the words `inf`, `infinity` and `nan`
in any case. There must be at least one digit before or behind the point, and at least one in an
exponent. The result is the float nearest to the decimal.

* **`read?`** — the number a text spells, if it spells one. -/

namespace BorrowSketch.Number

/-- The value of decimal digits, most significant first. -/
def digitsValue (digits : List Char) : Nat :=
  digits.foldl (fun value digit => 10 * value + (digit.toNat - '0'.toNat)) 0

/-- The float nearest to `digits · 10^exponent`, decided without computing powers that are far out
of the range of floats. -/
def ofLongDecimal (digits : Nat) (exponent : Int) : Float :=
  let leading : Int := (Nat.toDigits 10 digits).length + exponent
  if digits = 0 ∨ leading < -400 then ofNat 0
  else if 400 < leading then ofRatio (Nat.pow 2 1024) 1
  else ofDecimal digits exponent

/-- The exponent behind a mantissa: nothing, or a letter `e`, an optional sign and digits. -/
def readExponent? : List Char → Option Int
  | [] => some 0
  | mark :: rest =>
    if mark = 'e' ∨ mark = 'E' then
      let (negative, digits) : Bool × List Char := match rest with
        | '-' :: digits => (true, digits)
        | '+' :: digits => (false, digits)
        | digits => (false, digits)
      if !digits.isEmpty && digits.all Char.isDigit then
        some (if negative then -(digitsValue digits : Int) else digitsValue digits)
      else none
    else none

/-- An unsigned number: digits with an optional point, and an exponent. -/
def readMagnitude? (chars : List Char) : Option Float :=
  let whole := chars.takeWhile Char.isDigit
  let afterWhole := chars.dropWhile Char.isDigit
  let (decimals, afterDecimals) : List Char × List Char := match afterWhole with
    | '.' :: rest => (rest.takeWhile Char.isDigit, rest.dropWhile Char.isDigit)
    | rest => ([], rest)
  if whole.isEmpty && decimals.isEmpty then none
  else
    (readExponent? afterDecimals).map fun exponent =>
      ofLongDecimal (digitsValue (whole ++ decimals)) (exponent - decimals.length)

/-- An unsigned number or one of the words for what is not a finite number. -/
def readUnsigned? (chars : List Char) : Option Float :=
  let word := String.ofList (chars.map Char.toLower)
  if word = "inf" ∨ word = "infinity" then some (ofRatio (Nat.pow 2 1024) 1)
  else if word = "nan" then some (0.0 / 0.0)
  else readMagnitude? chars

/-- The float that a text spells, if it spells one. -/
def read? (source : String) : Option Float :=
  match source.toList with
  | '-' :: rest => (readUnsigned? rest).map (- ·)
  | '+' :: rest => readUnsigned? rest
  | chars => readUnsigned? chars

end BorrowSketch.Number
