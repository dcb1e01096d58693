/-! # Positions and spans

Places in a document. Lines and characters are counted from zero.

* **`Position`** — a line and a character offset in it, ordered by line and then offset.
* **`Span`** — from a start to a position behind the end. -/

namespace BorrowSketch

/-- A place in a document. -/
structure Position where
  /-- The line. -/
  line : Nat
  /-- The offset of the character in the line. -/
  character : Nat
deriving DecidableEq, Inhabited

namespace Position

/-- Earlier line, or earlier in the same line. -/
def lt (p q : Position) : Prop :=
  p.line < q.line ∨ p.line = q.line ∧ p.character < q.character

/-- Not later. -/
def le (p q : Position) : Prop :=
  p.line < q.line ∨ p.line = q.line ∧ p.character ≤ q.character

instance : LT Position := ⟨lt⟩
instance : LE Position := ⟨le⟩

end Position

/-- The part of a document from a start to a position behind the end. -/
structure Span where
  /-- The first position. -/
  start : Position
  /-- The position behind the last one. -/
  stop : Position
deriving DecidableEq, Inhabited

namespace Span

/-- A span within one line. -/
def onLine (line first stop : Nat) : Span :=
  ⟨⟨line, first⟩, ⟨line, stop⟩⟩

/-- The empty span at the start of a line. -/
def lineStart (line : Nat) : Span :=
  onLine line 0 0

/-- A span with a function applied to both of its ends. -/
def map (f : Position → Position) (span : Span) : Span :=
  ⟨f span.start, f span.stop⟩

end Span
end BorrowSketch
