import BorrowSketch.Hint.Basic
import BorrowSketch.Text.Pattern

/-! # Missing dereferences

E0308: the types on both sides do not match, because an assignment through a mutable reference
lacks a star.

* **`TypeMismatch`** — the two types, and **`TypeMismatch.read`**.
* **`TypeMismatch.hints`** — the hint to insert a star. -/

namespace BorrowSketch

/-- The types that do not match. -/
structure TypeMismatch where
  /-- The type expected. -/
  expected : String
  /-- The type found, or a word for a kind of value. -/
  found : String
deriving DecidableEq

namespace TypeMismatch

/-- What stands between the two types. -/
def separator : List Char := "`, found ".toList

/-- Whether the separator follows, and nothing but the rest of the last line behind it. -/
def separates (chars : List Char) : Bool :=
  match Text.after? separator chars with
  | some found => !found.contains '\n'
  | none => false

/-- A text without the quotes around it, if it has both. -/
def withoutQuotes (chars : List Char) : List Char :=
  match chars with
  | '`' :: rest => if rest.getLast? = some '`' then rest.dropLast else chars
  | _ => chars

/-- The two types in a message. -/
def readMessage? (message : String) : Option TypeMismatch :=
  (Text.after? "mismatched types\nexpected `".toList message.toList).bind fun chars =>
    (Text.longestBefore? separates chars).map fun (expected, rest) =>
      ⟨String.ofList expected, String.ofList (withoutQuotes (rest.drop separator.length))⟩

/-- The types that a diagnostic reports. -/
def read (d : Diagnostic) : Outcome TypeMismatch :=
  Outcome.ofOption (readMessage? d.message)

/-- The advice of the compiler that the hint takes up. -/
def advice : String := "consider dereferencing here to assign to the mutably borrowed value"

/-- The hint at the place of the advice. It marks the word there, and inserts a star. -/
def hint (document : LineView) (place : Related) : Hint where
  span := (document.wordSpan? place.span.start).getD place.span
  hover := advice ++ " (click to accept)"
  fix := ⟨place.span.start, "*"⟩

/-- The hint for a diagnostic, if the compiler gives its advice. -/
def hints : Hinter := fun document d =>
  (read d).map fun _ => ((d.relatedStartingWith? advice).map (hint document)).toList

end TypeMismatch
end BorrowSketch
