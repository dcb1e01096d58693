import BorrowSketch.Json.Basic
import BorrowSketch.Number.Shortest

/-! # Writing JSON

Values are written without blanks. A number that is not an integer has the fewest digits that read
back as the same float.

* **`RealFormat`** — the layout of such numbers.
* **`Json.text`** — the written form of a value. -/

namespace BorrowSketch.Json

/-! ## Strings -/

/-- A character in a string. -/
def escapeChar (c : Char) : List Char :=
  if c = '\x22' then ['\\', '\x22']
  else if c = '\\' then ['\\', '\\']
  else if c = '\x08' then ['\\', 'b']
  else if c = '\x0c' then ['\\', 'f']
  else if c = '\n' then ['\\', 'n']
  else if c = '\r' then ['\\', 'r']
  else if c = '\t' then ['\\', 't']
  else if c.toNat < 0x20 then
    ['\\', 'u', '0', '0', Nat.digitChar (c.toNat / 16), Nat.digitChar (c.toNat % 16)]
  else [c]

/-- A string between its quotes. -/
def quoted (text : String) : String :=
  String.ofList ('\x22' :: text.toList.flatMap escapeChar ++ ['\x22'])

/-! ## Numbers -/

/-- The layout of a decimal number by the place of its point, counted from its first digit. -/
structure RealFormat where
  /-- The last place of the point at which a number is written with all its digits. -/
  maxPoint : Int
  /-- The place of the point below which a number is not written with leading zeros. -/
  minPoint : Int

/-- Numbers have up to sixteen digits before the point or up to four zeros behind it; others are
written with an exponent. -/
def realFormat : RealFormat := ⟨16, -5⟩

/-- A positive or zero decimal in a layout. -/
def RealFormat.layout (format : RealFormat) (d : Number.Decimal) : List Char :=
  let digits := Nat.toDigits 10 d.digits
  let point : Int := digits.length + d.exponent
  if 0 ≤ d.exponent ∧ point ≤ format.maxPoint then
    digits ++ List.replicate d.exponent.toNat '0' ++ ['.', '0']
  else if 0 < point ∧ point ≤ format.maxPoint then
    digits.take point.toNat ++ '.' :: digits.drop point.toNat
  else if format.minPoint < point ∧ point ≤ 0 then
    '0' :: '.' :: List.replicate (-point).toNat '0' ++ digits
  else
    let mantissa := match digits with
      | [] => []
      | [digit] => [digit]
      | first :: rest => first :: '.' :: rest
    mantissa ++ 'e' :: (if 0 < point then ['+'] else []) ++ (toString (point - 1)).toList

/-- A number that is not an integer. What is not finite has no form of its own. -/
def realText (x : Float) : String :=
  match Number.Binary.ofFloat? x with
  | none => "null"
  | some b =>
    String.ofList ((if b.negative then ['-'] else []) ++ realFormat.layout b.shortest)

/-! ## Values -/

mutual

/-- The written form of a value. -/
def text : Json → String
  | null => "null"
  | bool value => if value then "true" else "false"
  | int value => toString value
  | real value => realText value
  | string text => quoted text
  | array items => "[" ++ itemsText items ++ "]"
  | object members => "\x7b" ++ membersText members ++ "\x7d"

/-- The items of an array with commas between them. -/
def itemsText : List Json → String
  | [] => ""
  | [item] => item.text
  | item :: rest => item.text ++ "," ++ itemsText rest

/-- The members of an object with commas between them. -/
def membersText : List (String × Json) → String
  | [] => ""
  | [member] => quoted member.1 ++ ":" ++ member.2.text
  | member :: rest => quoted member.1 ++ ":" ++ member.2.text ++ "," ++ membersText rest

end

end BorrowSketch.Json
