import BorrowSketch.Sketch.BorrowInUse

/-! # Mixed borrows

E0502: a place is borrowed mutably while it is borrowed immutably, or the other way round.

* **`MixedBorrow`** — the facts, and **`MixedBorrow.read`**.
* **`MixedBorrow.sketch`**, **`MixedBorrow.rendering`** — the sketch and the renderer of a
  diagnostic. -/

namespace BorrowSketch

/-- A place that is borrowed in two ways that exclude each other. -/
structure MixedBorrow where
  /-- The place, the borrow of it and the line of the second borrow. -/
  borrow : BorrowInUse
  /-- Whether the second borrow is the immutable one. -/
  immutable : Bool
deriving DecidableEq

namespace MixedBorrow

/-- Whether the words behind the place follow, for an immutable or a mutable second borrow. -/
def closes (chars : List Char) : Bool :=
  "` as immutable".toList.isPrefixOf chars || "` as mutable".toList.isPrefixOf chars

/-- A place without the star of a dereference before it; the star alone is kept. -/
def withoutStar : List Char → List Char
  | '*' :: c :: rest => c :: rest
  | chars => chars

/-- The place in a message, and whether the borrow of it is immutable. -/
def readMessage? (message : String) : Option (String × Bool) :=
  (Text.after? "cannot borrow `".toList message.toList).bind fun chars =>
    (Text.longestPartBefore? closes chars).map fun (place, rest) =>
      (String.ofList (withoutStar place), "` as immutable".toList.isPrefixOf rest)

/-- The facts of a diagnostic. -/
def read (d : Diagnostic) : Outcome MixedBorrow :=
  (Outcome.ofOptionOr cannotParse (readMessage? d.message)).bind fun (place, immutable) =>
    (Outcome.ofOptionOr cannotParseRelated
        (d.regionBetween? "borrow occurs here" "borrow later used here")).map fun (first, last) =>
      ⟨⟨place, first, last, d.line⟩, immutable⟩

/-- The clash of the second borrow with the earlier one, which is mutable if the second is not. -/
def clash (facts : MixedBorrow) : Clash :=
  let here := if facts.immutable then "im" else ""
  let earlier := if facts.immutable then "" else "im"
  let place := facts.borrow.place
  facts.borrow.clash ("`" ++ place ++ "` borrowed " ++ earlier ++ "mutably in this region")
    ("`" ++ place ++ "` borrowed " ++ here ++ "mutably here, conflicting with the previous borrow")
    ("tip: move the " ++ here ++ "mutable borrow out of the " ++ earlier ++ "mutable borrow area")

/-- The sketch of a diagnostic. -/
def sketch (document : LineView) (d : Diagnostic) : Outcome Sketch :=
  (read d).map fun facts => facts.clash.sketch document

/-- The renderer of a diagnostic. -/
def rendering : Rendering :=
  .ofClash read clash

end MixedBorrow
end BorrowSketch
