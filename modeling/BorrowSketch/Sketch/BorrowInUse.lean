import BorrowSketch.Sketch.Clash

/-! # Uses of a borrowed place

Errors that report a place which is borrowed over some lines and used at one of them in a way the
borrow does not allow.

* **`Wording`** — the fixed words of such a report.
* **`BorrowInUse`** — the facts, and **`BorrowInUse.read`** for a wording.
* `UseDuringBorrow`, `MoveDuringBorrow`, `AssignDuringBorrow`, `SecondBorrow` — the errors of this
  kind (E0503, E0505, E0506, E0499), each with its sketch and its renderer. -/

namespace BorrowSketch

open Drawing

/-- A place that is borrowed over some lines and used in between. -/
structure BorrowInUse where
  /-- The place as the compiler names it. -/
  place : String
  /-- The line on which the borrow starts. -/
  first : Nat
  /-- The line on which the borrow is last used. -/
  last : Nat
  /-- The line of the use that clashes with the borrow. -/
  point : Nat
deriving DecidableEq

/-- The fixed words of a report on a borrowed place. -/
structure Wording where
  /-- What the message starts with, up to the place. -/
  opening : String
  /-- What follows the place. -/
  closing : String
  /-- The end of the remark on where the borrow starts. -/
  borrowed : String
  /-- The end of the remark on where the borrow is last used. -/
  lastUsed : String
deriving DecidableEq

/-- The text between fixed words at the start of a message, as long as possible on one line. -/
def placeBetween? (opening closing message : String) : Option String :=
  (Text.after? opening.toList message.toList).bind fun chars =>
    (Text.longestPartBefore? closing.toList.isPrefixOf chars).map fun found =>
      String.ofList found.1

/-- The lines from the start of one related place to the end of another, each found by the end of
its message. -/
def Diagnostic.regionBetween? (d : Diagnostic) (fromWords toWords : String) : Option (Nat × Nat) :=
  (d.relatedEndingWith? fromWords).bind fun start =>
    (d.relatedEndingWith? toWords).map fun stop => (start.span.start.line, stop.span.stop.line)

namespace BorrowInUse

/-- The facts that a diagnostic reports in a given wording. -/
def read (wording : Wording) (d : Diagnostic) : Outcome BorrowInUse :=
  (Outcome.ofOptionOr cannotParse (placeBetween? wording.opening wording.closing d.message)).bind
    fun place =>
      (Outcome.ofOptionOr cannotParseRelated
          (d.regionBetween? wording.borrowed wording.lastUsed)).map fun (first, last) =>
        ⟨place, first, last, d.line⟩

/-- The clash of a borrow with the use in it; the tip stands on the last line of the borrow. -/
def clash (facts : BorrowInUse) (regionText pointText tip : String) : Clash :=
  ⟨facts.first, facts.last, facts.point, facts.last, regionText, pointText, tip⟩

end BorrowInUse

/-! ## E0503: a place is used while it is mutably borrowed -/

namespace UseDuringBorrow

/-- The words of the report. -/
def wording : Wording where
  opening := "cannot use `"
  closing := "` because it was mutably borrowed"
  borrowed := "is borrowed here"
  lastUsed := "borrow later used here"

/-- The facts of a diagnostic. -/
def read : Diagnostic → Outcome BorrowInUse := BorrowInUse.read wording

/-- The clash of the use with the borrow. -/
def clash (facts : BorrowInUse) : Clash :=
  facts.clash ("`" ++ facts.place ++ "` borrowed mutably in this region")
    ("`" ++ facts.place ++ "` used here, conflicting with the borrow")
    ("tip: move the use of `" ++ facts.place ++ "` out of the borrow region")

/-- The sketch of a diagnostic. -/
def sketch (document : LineView) (d : Diagnostic) : Outcome Sketch :=
  (read d).map fun facts => (clash facts).sketch document

/-- The renderer of a diagnostic. -/
def rendering : Rendering :=
  .ofClash read clash

end UseDuringBorrow

/-! ## E0505: a place is moved out of while it is borrowed -/

namespace MoveDuringBorrow

/-- The words of the report. -/
def wording : Wording where
  opening := "cannot move out of `"
  closing := "` because it is borrowed"
  borrowed := "is borrowed here"
  lastUsed := "borrow later used here"

/-- The facts of a diagnostic. -/
def read : Diagnostic → Outcome BorrowInUse := BorrowInUse.read wording

/-- The tip, on two lines. -/
def tip : String :=
  "tip: the move of a value should happen when it is not borrowed.\n"
    ++ "after the move, the value can no longer be borrowed"

/-- The clash of the move with the borrow. -/
def clash (facts : BorrowInUse) : Clash :=
  facts.clash ("`" ++ facts.place ++ "` borrowed in this region") ("`" ++ facts.place ++ "` moved")
    tip

/-- The sketch of a diagnostic. -/
def sketch (document : LineView) (d : Diagnostic) : Outcome Sketch :=
  (read d).map fun facts => (clash facts).sketch document

/-- The renderer of a diagnostic. -/
def rendering : Rendering :=
  .ofClash read clash

end MoveDuringBorrow

/-! ## E0506: a place is assigned to while it is borrowed -/

namespace AssignDuringBorrow

/-- The words of the report. -/
def wording : Wording where
  opening := "cannot assign to `"
  closing := "` because it is borrowed"
  borrowed := "is borrowed here"
  lastUsed := "borrow later used here"

/-- The facts of a diagnostic. -/
def read : Diagnostic → Outcome BorrowInUse := BorrowInUse.read wording

/-- The clash of the assignment with the borrow. -/
def clash (facts : BorrowInUse) : Clash :=
  facts.clash ("`" ++ facts.place ++ "` borrowed in this region")
    ("`" ++ facts.place ++ "` assigned to another value")
    "tip: when a variable is borrowed by another variable, it cannot be reassigned"

/-- The sketch of a diagnostic. -/
def sketch (document : LineView) (d : Diagnostic) : Outcome Sketch :=
  (read d).map fun facts => (clash facts).sketch document

/-- The renderer of a diagnostic. -/
def rendering : Rendering :=
  .ofClash read clash

end AssignDuringBorrow

/-! ## E0499: a place is mutably borrowed a second time -/

/-- Whether a borrow starts and is last used on one line, as a borrow does that a loop holds across
its rounds. -/
def BorrowInUse.isLoop (facts : BorrowInUse) : Bool :=
  facts.first = facts.last

namespace SecondBorrow

/-- The words of the report. -/
def wording : Wording where
  opening := "cannot borrow `"
  closing := "` as mutable more than once at a time"
  borrowed := "first mutable borrow occurs here"
  lastUsed := "first borrow later used here"

/-- The facts of a diagnostic. -/
def read : Diagnostic → Outcome BorrowInUse := BorrowInUse.read wording

/-- What to say about a borrow that a loop holds. -/
def loopText (facts : BorrowInUse) : String :=
  "`" ++ facts.place ++ "` mutably borrowed for the duration of the loop"

/-- What to say about its repetition. -/
def repeatText (facts : BorrowInUse) : String :=
  "`" ++ facts.place ++ "` mutably borrowed again"

/-- The advice given for a loop. -/
def loopTip : String := "tip: a value can only be mutably borrowed once at a time"

/-- The sketch of a borrow that a loop holds: pointers to the borrow and to its repetition. -/
def loopSketch (document : LineView) (facts : BorrowInUse) : Sketch :=
  let tipLine := facts.point + 1
  Sketch.around document [facts.first, facts.point, tipLine] 0
    [.pointer ⟨facts.first, facts.first, 0.5, loopText facts, .info⟩,
      .pointer ⟨facts.point, facts.point, 0.5, repeatText facts, .error⟩,
      .tip tipLine loopTip .tip]

/-- The clash of the second borrow with the first. -/
def clash (facts : BorrowInUse) : Clash :=
  facts.clash ("`" ++ facts.place ++ "` borrowed mutably in this region")
    ("`" ++ facts.place ++ "` borrowed mutably again, conflicting with the first borrow")
    "tip: a variable can only be mutably borrowed once at a time"

/-- The sketch of a diagnostic. -/
def sketch (document : LineView) (d : Diagnostic) : Outcome Sketch :=
  (read d).map fun facts =>
    if facts.isLoop then loopSketch document facts else (clash facts).sketch document

/-- The picture of the facts. -/
def draw (counting : Counting) (scene : Scene) (theme : Theme) (facts : BorrowInUse) :
    Option Picture :=
  if facts.isLoop then
    scene.drawPointers counting theme facts.first facts.point (loopText facts) (repeatText facts)
      loopTip
  else (clash facts).draw counting scene theme

theorem isSome_draw {counting : Counting} (h : counting ≠ .checked) (scene : Scene)
    (theme : Theme) (facts : BorrowInUse) : (draw counting scene theme facts).isSome := by
  rw [draw]
  split
  · exact scene.isSome_drawPointers h theme _ _ _ _ _
  · exact Clash.isSome_draw h scene theme _

/-- The renderer of a diagnostic. -/
def rendering : Rendering :=
  .ofDrawing read draw isSome_draw

end SecondBorrow
end BorrowSketch
