import BorrowSketch.Proofs.Document.Extent
import BorrowSketch.Proofs.Handlers.Registries
import BorrowSketch.Proofs.Sketch.Searching

/-! # The layout of sketches

A sketch is laid out around some lines of a document: those that the facts of the diagnostic are
about, and more behind them for what is to be said. What is drawn keeps to these lines, apart from
texts of more than one line.

* **`Drawing.Mark.lines`**, **`Drawing.Mark.texts`** — the lines that a mark is placed by, and its
  texts with the lines that they start on.
* **`IsNear`**, **`Sketch.Layout`** — a sketch is laid out around lines near those of the facts.
* **`Handlers.FactLines`**, **`Handlers.RoomBehind`** — the lines of the facts, and the room to
  count on from them.
* **`Handlers.Tall`** — the texts of more than one line.
* **`Handlers.laidOut_of_mem`** — the layout of every sketch that a renderer in use makes. -/

namespace BorrowSketch

/-! ## Texts on one line -/

namespace Text

variable {text other : String}

/-- How many lines a text takes. -/
def lineCount (text : String) : Nat :=
  (text.toList.splitOn '\n').length

/-- The lines of fixed words are those of their characters. -/
theorem lineCount_append_chars {first second : List Char} :
    lineCount (String.ofList first ++ String.ofList second) =
      ((first ++ second).splitOn '\n').length := by
  rw [lineCount, String.toList_append, String.toList_ofList, String.toList_ofList]

/-- A text that does not leave its line. -/
def OneLine (text : String) : Prop :=
  '\n' ∉ text.toList

/-- Fixed words are on one line if none of their characters is a line break. -/
theorem OneLine.of_chars {chars : List Char} (h : '\n' ∉ chars) :
    OneLine (String.ofList chars) := by
  rwa [OneLine, String.toList_ofList]

/-- A text that does not leave its line takes one. -/
theorem OneLine.lineCount_eq (h : OneLine text) : lineCount text = 1 := by
  have hsplit : text.toList.splitOn '\n' = [text.toList] := by
    apply List.splitOnP_eq_singleton
    intro c hc
    rw [beq_eq_false_iff_ne]
    rintro rfl
    exact h hc
  rw [lineCount, hsplit, List.length_singleton]

/-- What is made of texts on one line is on one line. -/
theorem OneLine.append (h : OneLine text) (hother : OneLine other) : OneLine (text ++ other) := by
  rw [OneLine, String.toList_append, List.mem_append]
  rintro (hmem | hmem)
  · exact h hmem
  · exact hother hmem

/-- Of two texts on one line, either is. -/
theorem OneLine.ite {condition : Prop} [Decidable condition] (h : OneLine text)
    (hother : OneLine other) : OneLine (if condition then text else other) := by
  split
  · exact h
  · exact hother

/-- A name with fixed words around it is on one line if the name and the words are. -/
theorem OneLine.quote {before after : List Char} {name : String} (hname : OneLine name)
    (hbefore : '\n' ∉ before) (hafter : '\n' ∉ after) :
    OneLine (String.ofList before ++ name ++ String.ofList after) :=
  ((of_chars hbefore).append hname).append (of_chars hafter)

/-- The name that is longest is on one line, as all names are. -/
theorem IsLongest.oneLine {opening : String} {closes : String → Prop} {name : String}
    (h : IsLongest (IsNamed opening closes text) name) : OneLine name :=
  h.holds.1.line

end Text

open Text

/-! ## Where marks are -/

namespace Drawing.Mark

variable {κ : Type}

/-- The lines that a mark is placed by. -/
def lines : Mark κ → List Nat
  | label line _ _ _ => [line]
  | outline _ _ => []
  | pointer p => [p.line, p.labelLine]
  | bracket b => [b.first, b.last, b.labelLine]
  | descent line _ => [line, line + 1]

/-- The texts of a mark, with the lines that they start on. -/
def texts : Mark κ → List (Nat × String)
  | label line _ text _ => [(line, text)]
  | outline _ _ => []
  | pointer p => [(p.labelLine, p.text)]
  | bracket b => [(b.labelLine, b.text)]
  | descent _ _ => []

/-- A text starts on one of the lines that its mark is placed by. -/
theorem mem_lines_of_mem_texts {mark : Mark κ} {line : Nat} {text : String}
    (h : (line, text) ∈ mark.texts) : line ∈ mark.lines := by
  cases mark with
  | label other x written color =>
    obtain ⟨rfl, -⟩ := Prod.mk.inj (List.mem_singleton.1 h)
    exact List.mem_singleton_self line
  | outline data color => cases h
  | pointer p =>
    obtain ⟨rfl, -⟩ := Prod.mk.inj (List.mem_singleton.1 h)
    exact List.mem_cons_of_mem _ (List.mem_singleton_self _)
  | bracket b =>
    obtain ⟨rfl, -⟩ := Prod.mk.inj (List.mem_singleton.1 h)
    exact List.mem_cons_of_mem _ (List.mem_cons_of_mem _ (List.mem_singleton_self _))
  | descent other color => cases h

/-- **All that is written for a mark are its texts,** each on its line. -/
theorem exists_of_text_mem_nodes {config : Config} {baseline : Nat} {mark : Mark String}
    {x y step : Float} {color : String} {content : List String}
    (h : Node.text x y color content step ∈ mark.nodes config baseline) :
    ∃ line text, (line, text) ∈ mark.texts ∧ y = textY config baseline line ∧
      content.length = Text.lineCount text := by
  have hwritten : ∀ {line : Nat} {left : Float} {text fill : String},
      Node.text x y color content step = textNode config baseline line left text fill →
      y = textY config baseline line ∧ content.length = Text.lineCount text := by
    rintro line left text fill ⟨⟩
    exact ⟨rfl, List.length_map _⟩
  cases mark with
  | label line left text fill =>
    exact ⟨line, text, List.mem_singleton_self _, hwritten (List.mem_singleton.1 h)⟩
  | outline data fill => cases List.mem_singleton.1 h
  | pointer p =>
    rw [nodes, List.mem_pair] at h
    rcases h with hpath | htext
    · cases hpath
    · exact ⟨p.labelLine, p.text, List.mem_singleton_self _, hwritten htext⟩
  | bracket b =>
    rw [nodes, List.mem_append] at h
    rcases h with hpaths | htext
    · -- the bracket and its arrowheads are paths
      simp [outlineNode] at hpaths
    · exact ⟨b.labelLine, b.text, List.mem_singleton_self _, hwritten (List.mem_singleton.1 htext)⟩
  | descent line fill => cases List.mem_singleton.1 h

/-- Other colours leave a mark where it is. -/
@[simp] theorem texts_recolor {μ : Type} (f : κ → μ) (mark : Mark κ) :
    (mark.recolor f).texts = mark.texts := by
  cases mark <;> rfl

end Drawing.Mark

/-! ## Around lines -/

/-- A line from the first of several lines to the one behind the last. -/
structure IsNear (lines : List Nat) (line : Nat) : Prop where
  /-- It is not before all of them. -/
  notBefore : ∃ first ∈ lines, first ≤ line
  /-- It is not further behind all of them than the next line. -/
  notBehind : ∃ last ∈ lines, line ≤ last + 1

namespace IsNear

variable {lines : List Nat} {line : Nat}

/-- The lines themselves. -/
theorem of_mem (h : line ∈ lines) : IsNear lines line :=
  ⟨⟨line, h, Nat.le_refl line⟩, line, h, Nat.le_succ line⟩

/-- The lines behind them. -/
theorem succ_of_mem (h : line ∈ lines) : IsNear lines (line + 1) :=
  ⟨⟨line, h, Nat.le_succ line⟩, line, h, Nat.le_refl _⟩

/-- Some of the lines, and of the lines behind them. -/
theorem of_subset {others : List Nat} (h : others ⊆ lines ++ lines.map Nat.succ) :
    ∀ other ∈ others, IsNear lines other := by
  intro other hother
  rcases List.mem_append.1 (h hother) with hmem | hmem
  · exact .of_mem hmem
  · obtain ⟨line, hline, rfl⟩ := List.mem_map.1 hmem
    exact .succ_of_mem hline

/-- What lies between two lines that are near is near. -/
theorem between {first last : Nat} (hfirst : IsNear lines first) (hlast : IsNear lines last)
    (hle : first ≤ line) (hge : line ≤ last) : IsNear lines line := by
  obtain ⟨earlier, hearlier, hbefore⟩ := hfirst.notBefore
  obtain ⟨later, hlater, hbehind⟩ := hlast.notBehind
  exact ⟨⟨earlier, hearlier, hbefore.trans hle⟩, later, hlater, hge.trans hbehind⟩

end IsNear

namespace Sketch

/-- All lines that a sketch is drawn by. -/
def lines (plan : Sketch) : List Nat :=
  plan.marks.flatMap Drawing.Mark.lines

/-- All texts of a sketch, with the lines that they start on. -/
def texts (plan : Sketch) : List (Nat × String) :=
  plan.marks.flatMap Drawing.Mark.texts

/-- A text starts on one of the lines that the sketch is drawn by. -/
theorem mem_lines_of_mem_texts {plan : Sketch} {line : Nat} {text : String}
    (h : (line, text) ∈ plan.texts) : line ∈ plan.lines := by
  obtain ⟨mark, hmark, htext⟩ := List.mem_flatMap.1 h
  exact List.mem_flatMap.2 ⟨mark, hmark, Drawing.Mark.mem_lines_of_mem_texts htext⟩

/-- **All that is written in the image of a sketch are its texts,** each on its line. -/
theorem exists_of_text_mem_picture {config : Config} {theme : Theme} {plan : Sketch}
    {x y step : Float} {color : String} {content : List String}
    (h : Drawing.Node.text x y color content step ∈
      (plan.picture config theme).image.canvas.nodes) :
    ∃ line text, (line, text) ∈ plan.texts ∧
      y = Drawing.Mark.textY config plan.anchor line ∧ content.length = lineCount text := by
  have hmarks : Drawing.Node.text x y color content step ∈
      (plan.marks.map (Drawing.Mark.recolor (config.colors theme).of)).flatMap
        (Drawing.Mark.nodes config plan.anchor) := h
  obtain ⟨drawn, hdrawn, hnode⟩ := List.mem_flatMap.1 hmarks
  obtain ⟨mark, hmark, rfl⟩ := List.mem_map.1 hdrawn
  obtain ⟨line, text, htext, hplace⟩ := Drawing.Mark.exists_of_text_mem_nodes hnode
  rw [Drawing.Mark.texts_recolor] at htext
  exact ⟨line, text, List.mem_flatMap.2 ⟨mark, hmark, htext⟩, hplace⟩

/-- **A sketch is laid out around lines.** Among them are those of the facts, and all of them are
near these. What is drawn is placed by the lines, and the image covers them with some rows more. -/
structure Layout (document : LineView) (facts lines : List Nat) (below : Nat) (plan : Sketch) :
    Prop where
  /-- The sketch is around the lines. -/
  around : plan = Sketch.around document lines below plan.marks
  /-- There are facts. -/
  nonempty : facts ≠ []
  /-- The lines of the facts are among the lines. -/
  subset : facts ⊆ lines
  /-- The other lines are near them. -/
  near : ∀ line ∈ lines, IsNear facts line
  /-- What is drawn is placed by the lines. -/
  placed : plan.lines ⊆ lines

namespace Layout

variable {document : LineView} {facts lines : List Nat} {below : Nat} {plan : Sketch}
  {line row : Nat} {text : String}

/-- **The image starts at the first line of the facts.** -/
theorem isLeast (h : plan.Layout document facts lines below) :
    IsLeast {line | line ∈ facts} plan.anchor := by
  have hanchor : plan.anchor = (extent lines).1 := congrArg Sketch.anchor h.around
  obtain ⟨fact, hfact⟩ := List.exists_mem_of_ne_nil facts h.nonempty
  have hextent : IsLeast {line | line ∈ lines} (extent lines).1 :=
    isLeast_extent (List.ne_nil_of_mem (h.subset hfact))
  rw [hanchor]
  constructor
  · -- a fact is not behind the first of all lines, and none is before it
    obtain ⟨first, hfirst, hle⟩ := (h.near _ hextent.1).notBefore
    have heq : first = (extent lines).1 := Nat.le_antisymm hle (hextent.2 (h.subset hfirst))
    exact heq ▸ hfirst
  · intro line hline
    exact hextent.2 (h.subset hline)

/-- **The image covers all lines that the sketch is drawn by,** and the rows below them. -/
theorem inside (h : plan.Layout document facts lines below) (hline : line ∈ plan.lines) :
    plan.anchor ≤ line ∧ line + 1 + below ≤ plan.anchor + plan.rows := by
  have hmem : line ∈ lines := h.placed hline
  have hfirst : (extent lines).1 ≤ line := extent_fst_le hmem
  have hlast : line ≤ (extent lines).2 := le_extent_snd hmem
  rw [h.around]
  dsimp only [Sketch.around]
  omega

/-- **A row at one of the lines, or below it,** is clear of the text of the document, unless it is
below all that the sketch is drawn by. -/
theorem clear_or_below (h : plan.Layout document facts lines below) (hline : line ∈ plan.lines)
    (hrow : line ≤ row) :
    document.width row ≤ document.width plan.anchor + plan.shift ∨
      ∀ other ∈ plan.lines, other < row := by
  have hanchor : plan.anchor = (extent lines).1 := congrArg Sketch.anchor h.around
  have hshift : plan.shift = document.shift (extent lines).1 (extent lines).2 :=
    congrArg Sketch.shift h.around
  have hfirst : (extent lines).1 ≤ line := extent_fst_le (h.placed hline)
  by_cases hlast : row ≤ (extent lines).2
  · apply Or.inl
    rw [hanchor, hshift]
    exact LineView.width_le_shift (hfirst.trans hrow) hlast
  · apply Or.inr
    intro other hother
    have hother : other ≤ (extent lines).2 := le_extent_snd (h.placed hother)
    omega

/-- **The numbers that a sketch needs** are at most three more than the lines of the facts. They are
counted to if these leave room for them. -/
theorem counted {counting : Counting} (h : plan.Layout document facts lines below)
    (hbelow : below ≤ 1) (hroom : ∀ fact ∈ facts, fact + 3 < wordSize) :
    plan.Counted counting := by
  obtain ⟨fact, hfact⟩ := List.exists_mem_of_ne_nil facts h.nonempty
  have hlast : (extent lines).2 ∈ lines :=
    (isGreatest_extent (List.ne_nil_of_mem (h.subset hfact))).1
  obtain ⟨last, hmem, hle⟩ := (h.near _ hlast).notBehind
  have hbound := hroom last hmem
  rw [h.around]
  constructor
  · apply Counting.count_eq_iff.2
    apply Or.inr
    show (extent lines).2 + 1 < wordSize
    omega
  · apply Counting.count_eq_iff.2
    apply Or.inr
    show (extent lines).2 - (extent lines).1 + 1 + below < wordSize
    omega

end Layout
end Sketch

namespace Clash

variable {clash : Clash}

/-- The lines of a clash are near the region and the point, if that of the tip is. -/
theorem near (htip : IsNear [clash.first, clash.last, clash.point] clash.tipLine) :
    ∀ line ∈ clash.lines, IsNear [clash.first, clash.last, clash.point] line := by
  have hlabel : IsNear [clash.first, clash.last, clash.point] clash.pointLabelLine := by
    rw [pointLabelLine]
    split
    · exact .succ_of_mem (by simp)
    · exact .of_mem (by simp)
  intro line hline
  simp only [lines, List.mem_cons, List.not_mem_nil, or_false] at hline
  rcases hline with rfl | rfl | rfl | rfl | rfl
  · exact .of_mem (by simp)
  · exact .of_mem (by simp)
  · exact .of_mem (by simp)
  · exact htip
  · exact hlabel

/-- The region and the point are among the lines of a clash. -/
theorem subset_lines (clash : Clash) :
    [clash.first, clash.last, clash.point] ⊆ clash.lines := by
  simp [lines]

/-- The marks of a clash are placed by its lines. -/
theorem placed (clash : Clash) : clash.marks.flatMap Drawing.Mark.lines ⊆ clash.lines := by
  simp [marks, lines, Drawing.Mark.lines, Drawing.Mark.tip]

end Clash

/-! ## The sketches of each code -/

/-- The line on which a borrow is needed after its value is dropped. -/
def LaterNeed.line : LaterNeed → Nat
  | used span => span.stop.line
  | mightUse line _ => line
  | forever line => line

namespace Handlers

/-- **The lines that the facts of a diagnostic are about,** by code. -/
inductive FactLines (d : Diagnostic) : String → List Nat → Prop where
  | escapingClosure {facts : EscapingClosure} (h : EscapingClosure.read d = .success facts) :
    FactLines d "E0373" [facts.line]
  /-- A definition that is not reported does not count. -/
  | movedValue {facts : MovedValue} (h : MovedValue.read d = .success facts) :
    FactLines d "E0382" (facts.defined.toList ++ [facts.moved, facts.used])
  | secondBorrow {facts : BorrowInUse} (h : SecondBorrow.read d = .success facts) :
    FactLines d "E0499" [facts.first, facts.last, facts.point]
  | mixedBorrow {facts : MixedBorrow} (h : MixedBorrow.read d = .success facts) :
    FactLines d "E0502" [facts.borrow.first, facts.borrow.last, facts.borrow.point]
  | useDuringBorrow {facts : BorrowInUse} (h : UseDuringBorrow.read d = .success facts) :
    FactLines d "E0503" [facts.first, facts.last, facts.point]
  | moveDuringBorrow {facts : BorrowInUse} (h : MoveDuringBorrow.read d = .success facts) :
    FactLines d "E0505" [facts.first, facts.last, facts.point]
  | assignDuringBorrow {facts : BorrowInUse} (h : AssignDuringBorrow.read d = .success facts) :
    FactLines d "E0506" [facts.first, facts.last, facts.point]
  /-- A borrower that is used counts with the line on which it ends. -/
  | earlyDrop {facts : EarlyDrop} (h : EarlyDrop.read d = .success facts) :
    FactLines d "E0597" [facts.borrowed, facts.dropped, facts.later.line]

/-- **There is room behind the lines of the facts:** machine words go on from them for the three
numbers that a renderer may count to. Lines that are without it are in no document, as a text of so
many lines is longer than the memory. -/
def RoomBehind (d : Diagnostic) (code : String) : Prop :=
  ∀ facts, FactLines d code facts → ∀ line ∈ facts, line + 3 < wordSize

/-- **The texts of more than one line,** with the code and the line on which they start. -/
inductive Tall (document : LineView) (d : Diagnostic) : String → Nat → String → Prop where
  /-- The tip on a move out of a borrowed place, which stands on the last line of the borrow. -/
  | tip {facts : BorrowInUse} {line : Nat} {text : String}
      (h : MoveDuringBorrow.read d = .success facts) (hline : line = facts.last)
      (htext : text = MoveDuringBorrow.tip) : Tall document d "E0505" line text
  /-- The explanation of a possible use, if the compiler breaks its line. -/
  | message {facts : EarlyDrop} {line : Nat} {text : String}
      (h : EarlyDrop.read d = .success facts) (hlater : facts.later = .mightUse line text)
      (htext : ¬ OneLine text) : Tall document d "E0597" line text
  /-- What is said of a borrower, if there is a line break in the line of the document that its name
  is read off. -/
  | borrower {facts : EarlyDrop} {span : Span} {line : Nat} {text content : String}
      (h : EarlyDrop.read d = .success facts) (hlater : facts.later = .used span)
      (hcontent : document.text? span.stop.line = some content) (hbroken : ¬ OneLine content)
      (htext : ¬ OneLine text) : Tall document d "E0597" line text

/-- **The layout of a sketch:** around lines behind those of the facts, with texts on one line but
for those that are known to take more. -/
def LaidOut (document : LineView) (d : Diagnostic) (code : String) (plan : Sketch) : Prop :=
  ∃ facts lines below, FactLines d code facts ∧ plan.Layout document facts lines below ∧
    below ≤ 1 ∧ (code = "E0505" → below = 1) ∧
    plan.texts.Forall fun entry => OneLine entry.2 ∨ Tall document d code entry.1 entry.2

variable {document : LineView} {d : Diagnostic} {code : String} {facts lines : List Nat}
  {marks : List (Drawing.Mark Role)}

/-- A diagnostic has facts about one list of lines only. -/
theorem FactLines.unique {facts others : List Nat} (h : FactLines d code facts)
    (hothers : FactLines d code others) : facts = others := by
  generalize hcode : code = otherCode at hothers
  -- what is read for one code is read once, and no two kinds of facts have one code
  cases h with
  | _ h =>
    cases hothers with
    | _ hothers =>
      first
      | exact absurd hcode (by decide)
      | rw [Outcome.success.inj (h.symm.trans hothers)]

/-- The numbers that a sketch needs are counted to, if there is room behind the facts. -/
theorem LaidOut.counted {counting : Counting} {plan : Sketch}
    (h : LaidOut document d code plan) (hroom : RoomBehind d code) : plan.Counted counting := by
  obtain ⟨facts, lines, below, hfacts, hlayout, hbelow, -⟩ := h
  exact hlayout.counted hbelow (hroom facts hfacts)

/-- There always are facts. -/
theorem FactLines.ne_nil (h : FactLines d code facts) : facts ≠ [] := by
  cases h with
  | movedValue => exact List.append_ne_nil_of_right_ne_nil _ (List.cons_ne_nil _ _)
  | _ => exact List.cons_ne_nil _ _

/-- A sketch around lines is laid out if the facts are in front, no mark is elsewhere, and the texts
are as they should be. -/
theorem laidOut_around (hfacts : FactLines d code facts) {below : Nat} (hle : below ≤ 1)
    (hbelow : code = "E0505" → below = 1) (hsubset : facts ⊆ lines)
    (hnear : ∀ line ∈ lines, IsNear facts line)
    (hplaced : marks.flatMap Drawing.Mark.lines ⊆ lines)
    (htexts : (marks.flatMap Drawing.Mark.texts).Forall fun entry =>
      OneLine entry.2 ∨ Tall document d code entry.1 entry.2) :
    LaidOut document d code (Sketch.around document lines below marks) :=
  ⟨facts, lines, below, hfacts, ⟨rfl, hfacts.ne_nil, hsubset, hnear, hplaced⟩, hle, hbelow, htexts⟩

end Handlers

open Handlers

variable {document : LineView} {d : Diagnostic} {plan : Sketch}

/-- Two pointers to lines of the facts, with a tip on the line behind the second. -/
theorem laidOut_pointers {code : String} {facts : List Nat} {first second : Nat}
    {firstOffset secondOffset : Float} {firstText secondText tip : String}
    {firstColor secondColor tipColor : Role} (hfacts : FactLines d code facts)
    (hcode : code ≠ "E0505") (hsubset : facts ⊆ [first, second])
    (hfirst : first ∈ facts) (hsecond : second ∈ facts) (hfirstText : OneLine firstText)
    (hsecondText : OneLine secondText) (htip : OneLine tip) :
    LaidOut document d code (Sketch.around document [first, second, second + 1] 0
      [.pointer ⟨first, first, firstOffset, firstText, firstColor⟩,
        .pointer ⟨second, second, secondOffset, secondText, secondColor⟩,
        .tip (second + 1) tip tipColor]) := by
  apply laidOut_around hfacts (Nat.zero_le 1) (fun heq => absurd heq hcode)
  · exact List.Subset.trans hsubset (List.sublist_append_left [first, second] [second + 1]).subset
  · exact .of_subset (by simp [hfirst, hsecond])
  · simp [Drawing.Mark.lines, Drawing.Mark.tip]
  · exact ⟨.inl hfirstText, .inl hsecondText, .inl htip⟩

/-- A clash is laid out if the texts are as they should be. -/
theorem Clash.laidOut {clash : Clash} {code : String}
    (hfacts : FactLines d code [clash.first, clash.last, clash.point])
    (htip : IsNear [clash.first, clash.last, clash.point] clash.tipLine)
    (htexts : (clash.marks.flatMap Drawing.Mark.texts).Forall fun entry =>
      OneLine entry.2 ∨ Tall document d code entry.1 entry.2) :
    LaidOut document d code (clash.sketch document) :=
  laidOut_around hfacts (Nat.le_refl 1) (fun _ => rfl) clash.subset_lines (near htip) clash.placed
    htexts

/-! ### Borrowed places -/

/-- The place of a borrow is on one line. -/
theorem BorrowInUse.oneLine_of_read {wording : Wording} {facts : BorrowInUse}
    (h : BorrowInUse.read wording d = .success facts) : OneLine facts.place :=
  (((BorrowInUse.isReport_read wording d).eq_success_iff facts).1 h).1.oneLine

/-- A borrowed place and what is done with it, with the tip on the last line of the borrow. -/
theorem BorrowInUse.laidOut {facts : BorrowInUse} {code regionText pointText tip : String}
    (hfacts : FactLines d code [facts.first, facts.last, facts.point])
    (hregion : OneLine regionText) (hpoint : OneLine pointText)
    (htip : OneLine tip ∨ Tall document d code facts.last tip) :
    LaidOut document d code ((facts.clash regionText pointText tip).sketch document) := by
  have hlast : IsNear [facts.first, facts.last, facts.point] facts.last := .of_mem (by simp)
  exact Clash.laidOut hfacts hlast ⟨.inl hregion, .inl hpoint, htip⟩

theorem UseDuringBorrow.laidOut (h : sketch document d = .success plan) :
    LaidOut document d "E0503" plan := by
  obtain ⟨facts, hread, rfl⟩ := Outcome.map_eq_success_iff.1 h
  have hplace : OneLine facts.place := BorrowInUse.oneLine_of_read hread
  apply BorrowInUse.laidOut (.useDuringBorrow hread)
  · exact hplace.quote (by decide) (by decide)
  · exact hplace.quote (by decide) (by decide)
  · exact .inl (hplace.quote (by decide) (by decide))

theorem MoveDuringBorrow.laidOut (h : sketch document d = .success plan) :
    LaidOut document d "E0505" plan := by
  obtain ⟨facts, hread, rfl⟩ := Outcome.map_eq_success_iff.1 h
  have hplace : OneLine facts.place := BorrowInUse.oneLine_of_read hread
  apply BorrowInUse.laidOut (.moveDuringBorrow hread)
  · exact hplace.quote (by decide) (by decide)
  · exact hplace.quote (by decide) (by decide)
  · exact .inr (.tip hread rfl rfl)

/-- The tip takes two lines. -/
theorem MoveDuringBorrow.lineCount_tip : lineCount tip = 2 :=
  lineCount_append_chars.trans (by decide)

theorem AssignDuringBorrow.laidOut (h : sketch document d = .success plan) :
    LaidOut document d "E0506" plan := by
  obtain ⟨facts, hread, rfl⟩ := Outcome.map_eq_success_iff.1 h
  have hplace : OneLine facts.place := BorrowInUse.oneLine_of_read hread
  apply BorrowInUse.laidOut (.assignDuringBorrow hread)
  · exact hplace.quote (by decide) (by decide)
  · exact hplace.quote (by decide) (by decide)
  · exact .inl (.of_chars (by decide))

theorem SecondBorrow.laidOut (h : sketch document d = .success plan) :
    LaidOut document d "E0499" plan := by
  obtain ⟨facts, hread, rfl⟩ := Outcome.map_eq_success_iff.1 h
  have hplace : OneLine facts.place := BorrowInUse.oneLine_of_read hread
  have hfacts : FactLines d "E0499" [facts.first, facts.last, facts.point] := .secondBorrow hread
  by_cases hloop : facts.isLoop = true
  · -- in a loop the borrow starts and is last used on one line
    have hlast : facts.first = facts.last := of_decide_eq_true hloop
    rw [if_pos hloop]
    apply laidOut_pointers hfacts (by decide)
    · simp [hlast]
    · simp
    · simp
    · exact hplace.quote (by decide) (by decide)
    · exact hplace.quote (by decide) (by decide)
    · exact .of_chars (by decide)
  · rw [if_neg hloop]
    apply BorrowInUse.laidOut hfacts
    · exact hplace.quote (by decide) (by decide)
    · exact hplace.quote (by decide) (by decide)
    · exact .inl (.of_chars (by decide))

/-- The place of a mixed borrow is on one line, as the name in the message is. -/
theorem MixedBorrow.oneLine_of_read {facts : MixedBorrow}
    (h : MixedBorrow.read d = .success facts) : OneLine facts.borrow.place := by
  obtain ⟨⟨name, hlongest, -, hunstarred⟩, -⟩ := ((isReport_read d).eq_success_iff facts).1 h
  have hname : OneLine name := hlongest.oneLine
  generalize facts.borrow.place = place at hunstarred
  cases hunstarred with
  | star => exact hname
  | starred =>
    intro hmem
    apply hname
    rw [String.toList_append]
    exact List.mem_append_right _ hmem
  | plain => exact hname

theorem MixedBorrow.laidOut (h : sketch document d = .success plan) :
    LaidOut document d "E0502" plan := by
  obtain ⟨facts, hread, rfl⟩ := Outcome.map_eq_success_iff.1 h
  have hplace : OneLine facts.borrow.place := oneLine_of_read hread
  apply BorrowInUse.laidOut (.mixedBorrow hread)
  -- the words differ with the kind of the second borrow, and are on one line for both
  · apply OneLine.append _ (.of_chars (by decide))
    apply (hplace.quote (by decide) (by decide)).append
    exact .ite (.of_chars (by decide)) (.of_chars (by decide))
  · apply OneLine.append _ (.of_chars (by decide))
    apply (hplace.quote (by decide) (by decide)).append
    exact .ite (.of_chars (by decide)) (.of_chars (by decide))
  · apply Or.inl
    apply OneLine.append _ (.of_chars (by decide))
    apply OneLine.append _ (.ite (.of_chars (by decide)) (.of_chars (by decide)))
    apply OneLine.quote _ (by decide) (by decide)
    exact .ite (.of_chars (by decide)) (.of_chars (by decide))

/-! ### Closures, moves and drops -/

theorem EscapingClosure.laidOut (h : sketch document d = .success plan) :
    LaidOut document d "E0373" plan := by
  obtain ⟨facts, hread, rfl⟩ := Outcome.map_eq_success_iff.1 h
  have hname : OneLine facts.variableName :=
    (((isReport_read d).eq_success_iff facts).1 hread).1.oneLine
  have hneed : OneLine "but the closure needs to live after the function returns" :=
    .of_chars (by decide)
  apply laidOut_around (.escapingClosure hread) (Nat.zero_le 1) (by decide)
  · simp
  · exact .of_subset (by simp)
  · simp [Drawing.Mark.lines, Drawing.Mark.tip]
  · exact ⟨.inl (hname.quote (by decide) (by decide)), .inl hneed⟩

theorem MovedValue.laidOut (h : sketch document d = .success plan) :
    LaidOut document d "E0382" plan := by
  obtain ⟨facts, hread, hplan⟩ := Outcome.map_eq_success_iff.1 h
  obtain ⟨⟨before, hnamed, -⟩, -⟩ := ((isReport_read d).eq_success_iff facts).1 hread
  have hname : OneLine facts.name := hnamed.1.line
  have htip : OneLine tip := .of_chars (by decide)
  have hfacts := FactLines.movedValue hread
  cases hdefined : facts.defined with
  | some defined =>
    rw [hdefined] at hplan hfacts
    obtain rfl := hplan
    -- the life of the value is a clash with one pointer more, from the line where it ends
    let life := facts.clash defined (facts.used + 1)
    have hused : IsNear [defined, facts.moved, facts.used] (facts.used + 1) :=
      .succ_of_mem (by simp)
    have hsubset : [defined, facts.moved, facts.used] ⊆ life.lines := life.subset_lines
    have hnear := @Clash.near life hused
    apply laidOut_around hfacts (Nat.le_refl 1) (fun _ => rfl) hsubset hnear
    · rw [List.flatMap_append]
      exact List.append_subset.2
        ⟨life.placed, by simp [life, clash, Clash.lines, Drawing.Mark.lines]⟩
    · refine ⟨.inl ?_, .inl ?_, .inl htip, .inl ?_⟩
      · exact hname.quote (by decide) (by decide)
      · exact hname.quote (by decide) (by decide)
      · exact hname.quote (by decide) (by decide)
  | none =>
    rw [hdefined] at hplan hfacts
    obtain rfl := hplan
    apply laidOut_pointers hfacts (by decide)
    · simp
    · simp
    · simp
    · exact hname.quote (by decide) (by decide)
    · exact hname.quote (by decide) (by decide)
    · exact htip

/-- What is read off a line of the document is on one line, if that line is. -/
theorem LineView.oneLine_of_slice? {line first stop : Nat} {part : String}
    (h : document.slice? line first stop = some part) :
    ∃ text, document.text? line = some text ∧ (OneLine text → OneLine part) := by
  obtain ⟨text, htext, rfl⟩ := Option.map_eq_some_iff.1 h
  refine ⟨text, htext, fun honeLine hmem => honeLine ?_⟩
  rw [String.toList_ofList] at hmem
  exact List.mem_of_mem_drop (List.mem_of_mem_take hmem)

/-- The name of a value that is dropped is on one line. -/
theorem EarlyDrop.oneLine_of_read {facts : EarlyDrop} (h : EarlyDrop.read d = .success facts) :
    OneLine facts.name := by
  obtain ⟨⟨before, hlongest, -⟩, -⟩ := ((isReport_read d).eq_success_iff facts).1 h
  exact hlongest.oneLine

theorem EarlyDrop.laidOut (h : sketch document d = .success plan) :
    LaidOut document d "E0597" plan := by
  obtain ⟨facts, hread, hplan⟩ := Outcome.bind_eq_success_iff.1 h
  have hname : OneLine facts.name := oneLine_of_read hread
  have hfacts := FactLines.earlyDrop hread
  cases hlater : facts.later with
  | used borrower =>
    rw [hlater] at hplan hfacts
    have hplan : usedSketch document facts borrower = .success plan := hplan
    rw [usedSketch] at hplan
    cases huser : document.slice? borrower.stop.line borrower.start.character
        borrower.stop.character with
    | none =>
      rw [huser] at hplan
      cases hplan
    | some user =>
      rw [huser] at hplan
      obtain rfl := Outcome.success.inj hplan
      obtain ⟨text, htext, honeLine⟩ := LineView.oneLine_of_slice? huser
      have htip : IsNear [facts.borrowed, facts.dropped, borrower.stop.line]
          ((extent [facts.borrowed, facts.dropped, borrower.stop.line]).2 + 1) :=
        .succ_of_mem (isGreatest_extent (List.cons_ne_nil _ _)).1
      apply Clash.laidOut hfacts htip
      by_cases hline : OneLine text
      · have huser : OneLine user := honeLine hline
        refine ⟨.inl ?_, .inl ?_, .inl ?_⟩
        · exact ((huser.quote (by decide) (by decide)).append hname).append (.of_chars (by decide))
        · exact ((hname.quote (by decide) (by decide)).append huser).append (.of_chars (by decide))
        · exact huser.quote (by decide) (by decide)
      · have hsaid : ∀ line said, OneLine said ∨ Tall document d "E0597" line said := by
          intro line said
          by_cases hsaid : OneLine said
          · exact .inl hsaid
          · exact .inr (.borrower hread hlater htext hline hsaid)
        exact ⟨hsaid _ _, hsaid _ _, hsaid _ _⟩
  | mightUse line message =>
    rw [hlater] at hplan hfacts
    obtain rfl := Outcome.success.inj hplan
    apply laidOut_around hfacts (Nat.le_refl 1) (fun _ => rfl)
    · simp [LaterNeed.line]
    · exact .of_subset (by simp [LaterNeed.line])
    · simp [Drawing.Mark.lines]
    · refine ⟨.inl ?_, ?_⟩
      · exact hname.quote (by decide) (by decide)
      · by_cases hmessage : OneLine message
        · exact .inl hmessage
        · exact .inr (.message hread hlater hmessage)
  | forever line =>
    rw [hlater] at hplan hfacts
    obtain rfl := Outcome.success.inj hplan
    apply laidOut_around hfacts (Nat.le_refl 1) (fun _ => rfl)
    · simp [LaterNeed.line]
    · exact .of_subset (by simp [LaterNeed.line])
    · simp [Drawing.Mark.lines]
    · refine ⟨.inl ?_, .inl ?_⟩
      · exact hname.quote (by decide) (by decide)
      · exact hname.quote (by decide) (by decide)

/-- **The sketches of all renderers in use** are laid out around lines. -/
theorem Handlers.laidOut_of_mem {code : String} {sketch : LineView → Diagnostic → Outcome Sketch}
    (hcode : (code, sketch) ∈ standardSketches) (h : sketch document d = .success plan) :
    LaidOut document d code plan := by
  simp only [standardSketches, List.mem_cons, Prod.mk.injEq, List.not_mem_nil, or_false] at hcode
  rcases hcode with ⟨rfl, rfl⟩ | ⟨rfl, rfl⟩ | ⟨rfl, rfl⟩ | ⟨rfl, rfl⟩ | ⟨rfl, rfl⟩ | ⟨rfl, rfl⟩ |
    ⟨rfl, rfl⟩ | ⟨rfl, rfl⟩
  · exact EscapingClosure.laidOut h
  · exact MovedValue.laidOut h
  · exact SecondBorrow.laidOut h
  · exact MixedBorrow.laidOut h
  · exact UseDuringBorrow.laidOut h
  · exact MoveDuringBorrow.laidOut h
  · exact AssignDuringBorrow.laidOut h
  · exact EarlyDrop.laidOut h

end BorrowSketch
