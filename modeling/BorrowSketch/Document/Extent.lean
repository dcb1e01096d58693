/-! # Extents

The lines that several facts about a document span.

* **`extent`** — the smallest and the greatest of several line numbers. -/

namespace BorrowSketch

/-- The smallest and the greatest of several line numbers; zeros for no lines. -/
def extent : List Nat → Nat × Nat
  | [] => (0, 0)
  | first :: rest => (rest.foldl min first, rest.foldl max first)

/-- The numbers from `first` up to but not including `stop`. -/
def linesBetween (first stop : Nat) : List Nat :=
  List.range' first (stop - first)

end BorrowSketch
