import BorrowSketch.Document.LineView

/-! # Documents

A document is a text. It is read by lines, and edited by inserting text at a position.

* **`Document.pieces`** — the lines of a text together with their line ends.
* **`Document.lineChars?`** — a line without its line end.
* **`Document.insert?`** — the document after an insertion, if the position exists.
* **`Document.view`** — the lines as a `LineView`. -/

namespace BorrowSketch

/-- A document open in an editor. -/
structure Document where
  /-- Its whole text. -/
  text : String
deriving DecidableEq, Inhabited

namespace Document

/-- The characters that end a line. A carriage return and a line feed together end one line. -/
def IsLineBreak (c : Char) : Prop :=
  c = '\n' ∨ c = '\x0b' ∨ c = '\x0c' ∨ c = '\r' ∨ c = '\u0085' ∨ c = '\u2028' ∨ c = '\u2029'

instance (c : Char) : Decidable (IsLineBreak c) := by
  unfold IsLineBreak; infer_instance

/-- Put a character in front of the first of a list of pieces. -/
def consFirst (c : Char) : List (List Char) → List (List Char)
  | [] => [[c]]
  | piece :: pieces => (c :: piece) :: pieces

/-- The lines of a text, each with the line end that closes it. The last line has none. -/
def pieces : List Char → List (List Char)
  | [] => [[]]
  | '\r' :: '\n' :: rest => ['\r', '\n'] :: pieces rest
  | c :: rest => if IsLineBreak c then [c] :: pieces rest else consFirst c (pieces rest)

/-- A line without its closing line feed and without the carriage return then last. -/
def withoutEnd (piece : List Char) : List Char :=
  let piece := if piece.getLast? = some '\n' then piece.dropLast else piece
  if piece.getLast? = some '\r' then piece.dropLast else piece

/-- The lines of the document with their line ends. -/
def linePieces (document : Document) : List (List Char) :=
  pieces document.text.toList

/-- The number of lines, one more than there are line ends. -/
def lineCount (document : Document) : Nat :=
  document.linePieces.length

/-- The characters of a line without its line end. -/
def lineChars? (document : Document) (line : Nat) : Option (List Char) :=
  (document.linePieces[line]?).map withoutEnd

/-- The offset in the text at which a line starts. -/
def lineOffset (document : Document) (line : Nat) : Nat :=
  (document.linePieces.take line).flatten.length

/-- The document with a text inserted at a position. There is none if the line does not exist or
the position is past its end. -/
def insert? (document : Document) (position : Position) (inserted : String) : Option Document :=
  (document.lineChars? position.line).bind fun chars =>
    if position.character ≤ chars.length then
      let offset := document.lineOffset position.line + position.character
      let all := document.text.toList
      some ⟨String.ofList (all.take offset ++ inserted.toList ++ all.drop offset)⟩
    else none

/-- The lines of the document by number. -/
def view (document : Document) : LineView :=
  let lines := (document.linePieces.map fun piece => String.ofList (withoutEnd piece)).toArray
  { text? := fun line => lines[line]?, count := lines.size }

end Document
end BorrowSketch
