import BorrowSketch.Sketch.Clash

/-! # Early drops

E0597: a value does not live as long as a borrow of it. The compiler says in one of three ways why
the borrow has to live longer.

* **`LaterNeed`** — the three ways.
* **`EarlyDrop`** — the facts, and **`EarlyDrop.read`**.
* **`EarlyDrop.sketch`** — the sketch of a diagnostic, one for each way.
* **`EarlyDrop.rendering`** — the renderer of a diagnostic. -/

namespace BorrowSketch

open Drawing

/-- Why a borrow is needed after its value is dropped. -/
inductive LaterNeed where
  /-- A borrower is used or stored; the span is that of the borrower. -/
  | used (span : Span)
  /-- The borrow may be used, as the message explains. -/
  | mightUse (line : Nat) (message : String)
  /-- The borrow must live as long as the program. -/
  | forever (line : Nat)
deriving DecidableEq

/-- A value that is dropped while it is still borrowed. -/
structure EarlyDrop where
  /-- The value. -/
  name : String
  /-- The line of the borrow. -/
  borrowed : Nat
  /-- The line of the drop. -/
  dropped : Nat
  /-- Why the borrow is needed afterwards. -/
  later : LaterNeed
deriving DecidableEq

namespace EarlyDrop

/-- The longest quoted name before the fixed words, at the leftmost quote that has one. -/
def readMessage? (message : String) : Option String :=
  Text.firstMatch? (fun chars =>
    (Text.after? ['`'] chars).bind fun chars =>
      (Text.longestPartBefore? "` does not live long enough".toList.isPrefixOf chars).map
        fun found => String.ofList found.1)
    message.toList

/-- The first related place where a borrower is used or stored. -/
def relatedUse? (d : Diagnostic) : Option Related :=
  d.related.find? fun place =>
    Text.endsWith place.message "borrow later used here"
      || Text.endsWith place.message "borrow later stored here"

/-- Why the borrow is needed, as the related places report it: a use counts before a possible use,
and that before a borrow that must live forever. -/
def readLater? (d : Diagnostic) : Option LaterNeed :=
  match relatedUse? d with
  | some place => some (.used place.span)
  | none =>
    match d.relatedStartingWith? "borrow might be used here," with
    | some place => some (.mightUse place.span.start.line place.message)
    | none => (d.relatedEndingWith? " is borrowed for `'static`").map fun place =>
        .forever place.span.stop.line

/-- The facts of a diagnostic. -/
def read (d : Diagnostic) : Outcome EarlyDrop :=
  (Outcome.ofOptionOr cannotParse (readMessage? d.message)).bind fun name =>
    (Outcome.ofOptionOr cannotParse
        (d.relatedEndingWith? "dropped here while still borrowed")).bind fun drop =>
      (Outcome.ofOptionOr cannotParse (readLater? d)).map fun later =>
        { name := name, borrowed := d.line, dropped := drop.span.stop.line, later := later }

/-- The clash of a use after the drop with the lines on which the borrow is valid. -/
def clash (facts : EarlyDrop) (user : String) (used tipLine : Nat) : Clash where
  first := facts.borrowed
  last := facts.dropped
  point := used
  tipLine := tipLine
  regionText := "`" ++ user ++ "` borrows from `" ++ facts.name
    ++ "` and can only be used in this region"
  pointText := "`" ++ facts.name ++ "` is no longer valid, while `" ++ user
    ++ "` is still borrowing it"
  tip := "tip: make sure `" ++ user ++ "` borrows from a valid value"

/-- Why a borrower has no name. -/
def notInDocument (line : Nat) : String :=
  "line " ++ toString line ++ " is not in the document"

/-- What to say about a borrow that may be used later. -/
def validText (facts : EarlyDrop) : String :=
  "`" ++ facts.name ++ "` can only be used until this point"

/-- What to say about the drop. -/
def endText (facts : EarlyDrop) : String :=
  "lifetime of `" ++ facts.name ++ "` ends here"

/-- What to say about the line that requires a borrow forever. -/
def foreverText (facts : EarlyDrop) : String :=
  "`" ++ facts.name ++ "` is required to have static lifetime"

/-- The ends of a bracket that is open at its top and has an arrow at its bottom. -/
def validEnds : BracketEnds := ⟨false, true, false, false, true⟩

/-- The sketch of a borrower that is used after the drop. Its name is read off the document. -/
def usedSketch (document : LineView) (facts : EarlyDrop) (borrower : Span) : Outcome Sketch :=
  let used := borrower.stop.line
  match document.slice? used borrower.start.character borrower.stop.character with
  | none => .failed (notInDocument used)
  | some user =>
    .success ((facts.clash user used
      ((extent [facts.borrowed, facts.dropped, used]).2 + 1)).sketch document)

/-- The sketch of a borrow that may be used after the drop: the lines on which it is valid, and the
compiler's explanation. -/
def mightUseSketch (document : LineView) (facts : EarlyDrop) (line : Nat) (message : String) :
    Sketch :=
  Sketch.around document [facts.borrowed, facts.dropped, line, line + 1] 1
    [.bracket ⟨facts.borrowed, facts.dropped, facts.dropped, facts.validText, .info, validEnds⟩,
      .pointer ⟨line, line, 0.5, message, .error⟩]

/-- The sketch of a borrow that must live forever: the drop, and the line that requires it. -/
def foreverSketch (document : LineView) (facts : EarlyDrop) (line : Nat) : Sketch :=
  Sketch.around document [line, facts.borrowed, facts.dropped] 1
    [.pointer ⟨facts.dropped, facts.dropped, 0.5, facts.endText, .info⟩,
      .pointer ⟨line, line, 0.5, facts.foreverText, .error⟩]

/-- The sketch of a diagnostic. -/
def sketch (document : LineView) (d : Diagnostic) : Outcome Sketch :=
  (read d).bind fun facts =>
    match facts.later with
    | .used span => usedSketch document facts span
    | .mightUse line message => .success (mightUseSketch document facts line message)
    | .forever line => .success (foreverSketch document facts line)

/-- The picture of the use of a borrower after the drop, with the tip behind all of the facts. -/
def drawUse (counting : Counting) (scene : Scene) (theme : Theme) (facts : EarlyDrop)
    (user : String) (used : Nat) : Option Picture := do
  let tipLine ← counting.count ((extent [facts.borrowed, facts.dropped, used]).2 + 1)
  (facts.clash user used tipLine).draw counting scene theme

/-- The picture of a borrower that is used after the drop. Its name is read off the document. -/
def drawUsed (counting : Counting) (scene : Scene) (theme : Theme) (facts : EarlyDrop)
    (borrower : Span) : Option (Outcome Picture) :=
  let used := borrower.stop.line
  match scene.document.slice? used borrower.start.character borrower.stop.character with
  | none => some (.failed (notInDocument used))
  | some user => (facts.drawUse counting scene theme user used).map .success

/-- The picture of a borrow that may be used after the drop. -/
def drawMightUse (counting : Counting) (scene : Scene) (theme : Theme) (facts : EarlyDrop)
    (line : Nat) (message : String) : Option Picture := do
  let colors := scene.config.colors theme
  let next ← counting.count (line + 1)
  scene.draw counting [facts.borrowed, facts.dropped, line, next] 2
    [.bracket ⟨facts.borrowed, facts.dropped, facts.dropped, facts.validText, colors.info,
        validEnds⟩,
      .pointer ⟨line, line, 0.5, message, colors.error⟩]

/-- The picture of a borrow that must live forever. -/
def drawForever (counting : Counting) (scene : Scene) (theme : Theme) (facts : EarlyDrop)
    (line : Nat) : Option Picture :=
  let colors := scene.config.colors theme
  scene.draw counting [line, facts.borrowed, facts.dropped] 2
    [.pointer ⟨facts.dropped, facts.dropped, 0.5, facts.endText, colors.info⟩,
      .pointer ⟨line, line, 0.5, facts.foreverText, colors.error⟩]

/-- The picture of the facts. -/
def draw (counting : Counting) (scene : Scene) (theme : Theme) (facts : EarlyDrop) :
    Option (Outcome Picture) :=
  match facts.later with
  | .used span => facts.drawUsed counting scene theme span
  | .mightUse line message => (facts.drawMightUse counting scene theme line message).map .success
  | .forever line => (facts.drawForever counting scene theme line).map .success

variable {counting : Counting}

theorem isSome_drawUse (h : counting ≠ .checked) (scene : Scene) (theme : Theme)
    (facts : EarlyDrop) (user : String) (used : Nat) :
    (facts.drawUse counting scene theme user used).isSome := by
  obtain ⟨tipLine, htip⟩ := Counting.exists_count h
    ((extent [facts.borrowed, facts.dropped, used]).2 + 1)
  simp [drawUse, htip, Clash.isSome_draw h]

theorem isSome_drawUsed (h : counting ≠ .checked) (scene : Scene) (theme : Theme)
    (facts : EarlyDrop) (borrower : Span) :
    (facts.drawUsed counting scene theme borrower).isSome := by
  rw [drawUsed]
  split
  · rfl
  · rw [Option.isSome_map]
    exact facts.isSome_drawUse h scene theme _ _

theorem isSome_drawMightUse (h : counting ≠ .checked) (scene : Scene) (theme : Theme)
    (facts : EarlyDrop) (line : Nat) (message : String) :
    (facts.drawMightUse counting scene theme line message).isSome := by
  obtain ⟨next, hnext⟩ := Counting.exists_count h (line + 1)
  simp [drawMightUse, hnext, scene.isSome_draw h]

theorem isSome_draw (h : counting ≠ .checked) (scene : Scene) (theme : Theme)
    (facts : EarlyDrop) : (facts.draw counting scene theme).isSome := by
  rw [draw]
  split
  · exact facts.isSome_drawUsed h scene theme _
  · rw [Option.isSome_map]
    exact facts.isSome_drawMightUse h scene theme _ _
  · rw [Option.isSome_map, drawForever]
    exact scene.isSome_draw h _ _ _

/-- The renderer of a diagnostic. -/
def rendering : Rendering :=
  .ofReading read draw isSome_draw

end EarlyDrop
end BorrowSketch
