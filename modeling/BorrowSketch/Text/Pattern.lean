/-! # Patterns in messages

Compiler messages are recognised by fixed words around a part that varies. The varying part never
reaches past the end of its line, and is taken as long as possible.

* **`startsWith`**, **`endsWith`** — fixed words at the ends of a text.
* **`after?`** — what follows fixed words.
* **`longestBefore?`** — the longest part of a line that is followed as required.
* **`firstMatch?`** — the leftmost place at which a pattern matches. -/

namespace BorrowSketch.Text

/-- Whether a text starts with the given words. -/
def startsWith (text words : String) : Bool :=
  words.toList.isPrefixOf text.toList

/-- Whether a text ends with the given words. -/
def endsWith (text words : String) : Bool :=
  words.toList.isSuffixOf text.toList

/-- What follows the given words at the start of a list of characters. -/
def after? : List Char → List Char → Option (List Char)
  | [], chars => some chars
  | _ :: _, [] => none
  | w :: words, c :: chars => if w = c then after? words chars else none

theorem after?_eq_some_iff {words chars rest : List Char} :
    after? words chars = some rest ↔ chars = words ++ rest := by
  induction words generalizing chars with
  | nil => simp [after?, eq_comm]
  | cons w words ih =>
    cases chars with
    | nil => simp [after?]
    | cons c chars =>
      simp only [after?, List.cons_append, List.cons.injEq]
      split
      · next h => simp [ih, h]
      · next h => simp [Ne.symm h]

/-- The longest start of the line, possibly empty, behind which the rest is accepted, and that
rest. -/
def longestBefore? (accepts : List Char → Bool) : List Char → Option (List Char × List Char)
  | [] => if accepts [] then some ([], []) else none
  | c :: chars =>
    let longer := if c = '\n' then none else longestBefore? accepts chars
    match longer with
    | some (part, rest) => some (c :: part, rest)
    | none => if accepts (c :: chars) then some ([], c :: chars) else none

/-- The longest non-empty start of the line behind which the rest is accepted, and that rest. -/
def longestPartBefore? (accepts : List Char → Bool) : List Char → Option (List Char × List Char)
  | [] => none
  | c :: chars =>
    if c = '\n' then none
    else (longestBefore? accepts chars).map fun (part, rest) => (c :: part, rest)

/-- The match of a pattern at the leftmost place where it matches. -/
def firstMatch? {α : Type} (pattern : List Char → Option α) : List Char → Option α
  | [] => pattern []
  | c :: chars =>
    match pattern (c :: chars) with
    | some found => some found
    | none => firstMatch? pattern chars

end BorrowSketch.Text
