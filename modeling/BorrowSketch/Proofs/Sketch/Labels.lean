import BorrowSketch.Proofs.Sketch.Placement

/-! # Labels on common rows

The labels of a sketch are meant to stand on rows of their own: the label of a point is moved down
where the label of the region stands on its line. But the rows are chosen from lines that may be the
same, and the tip is not looked at, so that for some reports two labels are written over each other.

* **`Text.lineCount_eq`** — the number of lines of a text.
* **`Sketch.Collide`**, **`Sketch.Legible`** — two labels on a common row, and a sketch without any.
* **`Sketch.legible_iff_nodup`**, **`Clash.legible_iff`** — when a sketch is legible, by the lines
  of its labels.
* **`Handlers.Crowded`** — the reports whose labels collide.
* **`Handlers.legible_iff_of_standard`** — the labels of every picture. -/

namespace BorrowSketch

open Drawing Text

namespace Outcome

/-- What is said of the successes of an outcome is said of the only one. -/
theorem exists_success_iff {α : Type} {outcome : Outcome α} {a : α} {p : α → Prop}
    (h : outcome = .success a) : (∃ b, outcome = .success b ∧ p b) ↔ p a := by
  constructor
  · rintro ⟨b, hb, hp⟩
    rwa [Outcome.success.inj (h.symm.trans hb)]
  · intro hp
    exact ⟨a, h, hp⟩

end Outcome

/-! ## The lines of joined texts -/

namespace Text

variable {text other : String}

/-- **A text has one line more than line breaks.** -/
theorem lineCount_eq (text : String) : lineCount text = text.toList.count '\n' + 1 := by
  rw [lineCount]
  induction text.toList with
  | nil => rfl
  | cons c chars ih =>
    rw [List.splitOn_cons_eq_if_modifyHead, List.count_cons]
    split
    · rw [List.length_cons, ih]
    · rw [List.length_modifyHead, ih, Nat.add_zero]

theorem lineCount_pos (text : String) : 0 < lineCount text := by
  rw [lineCount_eq]
  exact Nat.succ_pos _

/-- Joined texts have one line less than the texts, as two of these become one. -/
theorem lineCount_append (text other : String) :
    lineCount (text ++ other) + 1 = lineCount text + lineCount other := by
  rw [lineCount_eq, lineCount_eq, lineCount_eq, String.toList_append, List.count_append]
  omega

/-- A text on one line adds no line to what is behind it. -/
theorem OneLine.lineCount_append (h : OneLine text) (other : String) :
    lineCount (text ++ other) = lineCount other := by
  have hone : lineCount text = 1 := h.lineCount_eq
  have hsum := Text.lineCount_append text other
  omega

/-- A text on one line adds no line to what is before it. -/
theorem OneLine.append_lineCount (h : OneLine other) (text : String) :
    lineCount (text ++ other) = lineCount text := by
  have hone : lineCount other = 1 := h.lineCount_eq
  have hsum := Text.lineCount_append text other
  omega

/-- Fixed words on one line add no line to a text between them. -/
theorem lineCount_quote {before after : List Char} (text : String) (hbefore : '\n' ∉ before)
    (hafter : '\n' ∉ after) :
    lineCount (String.ofList before ++ text ++ String.ofList after) = lineCount text := by
  rw [(OneLine.of_chars hafter).append_lineCount, (OneLine.of_chars hbefore).lineCount_append]

end Text

/-! ## What is written in an image -/

/-- The baseline and the lines of what a node writes. -/
def Drawing.Node.written? : Node → Option (Float × List String)
  | path _ _ => none
  | text _ y _ lines _ => some (y, lines)

/-- What is written for a label whose image starts at the line `baseline`. -/
def Drawing.Mark.labelWritten (config : Config) (baseline : Nat) (label : Nat × String) :
    Float × List String :=
  (Mark.textY config baseline label.1, (label.2.toList.splitOn '\n').map String.ofList)

/-- For a mark are written its texts. -/
theorem Drawing.Mark.filterMap_written_nodes (config : Config) (baseline : Nat)
    (mark : Mark String) :
    (mark.nodes config baseline).filterMap Node.written? =
      mark.texts.map (labelWritten config baseline) := by
  cases mark with
  | label line x text color => rfl
  | outline data color => rfl
  | pointer p => rfl
  | bracket b =>
    -- each of the arrows may be there or not; nothing is written for any of them
    have harrow : ∀ (there : Bool) (path : Path),
        (if there then [outlineNode path b.color] else []).filterMap Node.written? = [] := by
      intro there path
      cases there <;> rfl
    simp only [nodes, List.filterMap_append, List.filterMap_cons, harrow]
    rfl
  | descent line color => rfl

/-- **In the image of a sketch are written its labels,** one after the other. -/
theorem Sketch.filterMap_written_picture (config : Config) (theme : Theme) (plan : Sketch) :
    (plan.picture config theme).image.canvas.nodes.filterMap Node.written? =
      plan.texts.map (Mark.labelWritten config plan.anchor) := by
  show ([] ++ (plan.marks.map _).flatMap (Mark.nodes config plan.anchor)).filterMap _ = _
  rw [List.nil_append, List.filterMap_flatMap, List.flatMap_map, Sketch.texts, List.map_flatMap]
  simp only [Mark.filterMap_written_nodes, Mark.texts_recolor]

/-! ## Labels that collide -/

namespace Sketch

/-- **The rows that a label stands on:** as many as it has lines, from the line on that it starts
on. -/
def StandsOn (label : Nat × String) (row : Nat) : Prop :=
  label.1 ≤ row ∧ row < label.1 + lineCount label.2

/-- **Two labels collide** if they stand on a common row. -/
def Collide (first second : Nat × String) : Prop :=
  ∃ row, StandsOn first row ∧ StandsOn second row

/-- **A sketch is legible** if no two of its labels collide. -/
def Legible (plan : Sketch) : Prop :=
  plan.texts.Pairwise fun first second => ¬ Collide first second

/-- Two labels collide if each starts before the other has ended. -/
theorem collide_iff {line other : Nat} {text written : String} :
    Collide (line, text) (other, written) ↔
      line < other + lineCount written ∧ other < line + lineCount text := by
  have htext : 0 < lineCount text := lineCount_pos text
  have hwritten : 0 < lineCount written := lineCount_pos written
  constructor
  · rintro ⟨row, ⟨hfirst, hlast⟩, hother, hotherLast⟩
    exact ⟨hfirst.trans_lt hotherLast, hother.trans_lt hlast⟩
  · rintro ⟨hfirst, hother⟩
    -- the row on which the later of the two starts
    refine ⟨max line other, ⟨Nat.le_max_left _ _, ?_⟩, Nat.le_max_right _ _, ?_⟩
    · exact Nat.max_lt.2 ⟨Nat.lt_add_of_pos_right htext, hother⟩
    · exact Nat.max_lt.2 ⟨hfirst, Nat.lt_add_of_pos_right hwritten⟩

/-- Two labels on one line each collide if it is the same line. -/
theorem collide_iff_of_oneLine {line other : Nat} {text written : String} (htext : OneLine text)
    (hwritten : OneLine written) : Collide (line, text) (other, written) ↔ line = other := by
  rw [collide_iff, htext.lineCount_eq, hwritten.lineCount_eq]
  omega

/-- **Labels on one line each** are legible if they stand on different lines. -/
theorem legible_iff_nodup {plan : Sketch} (h : ∀ label ∈ plan.texts, OneLine label.2) :
    plan.Legible ↔ (plan.texts.map Prod.fst).Nodup := by
  rw [Legible, List.Nodup, List.pairwise_map]
  apply List.Pairwise.iff_of_mem
  rintro ⟨line, text⟩ ⟨other, written⟩ htext hwritten
  rw [collide_iff_of_oneLine (h _ htext) (h _ hwritten)]

end Sketch

open Sketch

namespace Clash

variable {document : LineView} {clash : Clash}

/-- The labels of a clash: those of the region and of the point, and the tip. -/
theorem texts_sketch (document : LineView) (clash : Clash) :
    (clash.sketch document).texts = [(clash.first, clash.regionText),
      (clash.pointLabelLine, clash.pointText), (clash.tipLine, clash.tip)] := rfl

/-- **A clash is legible** if no two of its three labels collide. -/
theorem legible_iff (document : LineView) (clash : Clash) :
    (clash.sketch document).Legible ↔
      ¬ (Collide (clash.first, clash.regionText) (clash.pointLabelLine, clash.pointText) ∨
        Collide (clash.first, clash.regionText) (clash.tipLine, clash.tip) ∨
        Collide (clash.pointLabelLine, clash.pointText) (clash.tipLine, clash.tip)) := by
  simp only [Legible, texts_sketch, List.pairwise_cons, List.mem_cons, List.not_mem_nil, or_false,
    forall_eq_or_imp, forall_eq, false_imp_iff, implies_true, List.Pairwise.nil, and_true, not_or,
    and_assoc]

end Clash

/-! ## The labels of each code -/

variable {document : LineView} {d : Diagnostic} {plan : Sketch}

/-- But for the tip on a move and for texts that come from elsewhere, labels are on one line. -/
theorem Handlers.LaidOut.oneLine {code : String} (h : Handlers.LaidOut document d code plan)
    (hmove : code ≠ "E0505") (hdrop : code ≠ "E0597") : ∀ label ∈ plan.texts, OneLine label.2 := by
  obtain ⟨facts, lines, below, -, -, -, -, htexts⟩ := h
  intro label hlabel
  rcases List.forall_iff_forall_mem.1 htexts label hlabel with hone | htall
  · exact hone
  · cases htall with
    | tip => exact absurd rfl hmove
    | message => exact absurd rfl hdrop
    | borrower => exact absurd rfl hdrop

/-! ### Borrowed places -/

namespace BorrowInUse

/-- **The labels of a borrow and of what is done during it collide with the tip:** the borrow starts
on the line on which it is last used; that line is the one of the point; or the label of the point
is moved down to it from the first line. -/
def Crowded (facts : BorrowInUse) : Prop :=
  facts.first = facts.last ∨ facts.point = facts.last ∨
    facts.point = facts.first ∧ facts.last = facts.first + 1

/-- The label of the point is on its line, or on the one behind if the borrow starts on its line. -/
theorem pointLabelLine_clash (facts : BorrowInUse) (regionText pointText tip : String) :
    facts.point = facts.first ∧
        (facts.clash regionText pointText tip).pointLabelLine = facts.first + 1 ∨
      facts.point ≠ facts.first ∧
        (facts.clash regionText pointText tip).pointLabelLine = facts.point := by
  by_cases hpoint : facts.point = facts.first
  · exact .inl ⟨hpoint, (if_pos hpoint).trans (congrArg (· + 1) hpoint)⟩
  · exact .inr ⟨hpoint, if_neg hpoint⟩

/-- Where the three labels are on one line each. -/
theorem legible_iff {facts : BorrowInUse} {regionText pointText tip : String}
    (h : ∀ label ∈ ((facts.clash regionText pointText tip).sketch document).texts,
      OneLine label.2) :
    ((facts.clash regionText pointText tip).sketch document).Legible ↔ ¬ facts.Crowded := by
  rw [legible_iff_nodup h, Clash.texts_sketch]
  show [facts.first, (facts.clash regionText pointText tip).pointLabelLine, facts.last].Nodup ↔ _
  have hlabel := facts.pointLabelLine_clash regionText pointText tip
  simp only [Crowded, List.nodup_cons, List.mem_cons, List.not_mem_nil, or_false,
    not_false_eq_true, List.nodup_nil, and_true]
  omega

end BorrowInUse

theorem UseDuringBorrow.legible_iff (h : sketch document d = .success plan) :
    plan.Legible ↔ ¬ ∃ facts, read d = .success facts ∧ facts.Crowded := by
  have hone := (laidOut h).oneLine (by decide) (by decide)
  obtain ⟨facts, hread, rfl⟩ := Outcome.map_eq_success_iff.1 h
  rw [Outcome.exists_success_iff hread]
  exact BorrowInUse.legible_iff hone

theorem AssignDuringBorrow.legible_iff (h : sketch document d = .success plan) :
    plan.Legible ↔ ¬ ∃ facts, read d = .success facts ∧ facts.Crowded := by
  have hone := (laidOut h).oneLine (by decide) (by decide)
  obtain ⟨facts, hread, rfl⟩ := Outcome.map_eq_success_iff.1 h
  rw [Outcome.exists_success_iff hread]
  exact BorrowInUse.legible_iff hone

theorem MixedBorrow.legible_iff (h : sketch document d = .success plan) :
    plan.Legible ↔ ¬ ∃ facts, read d = .success facts ∧ facts.borrow.Crowded := by
  have hone := (laidOut h).oneLine (by decide) (by decide)
  obtain ⟨facts, hread, rfl⟩ := Outcome.map_eq_success_iff.1 h
  rw [Outcome.exists_success_iff hread]
  exact BorrowInUse.legible_iff hone

namespace MoveDuringBorrow

/-- **The labels of a borrow and of a move collide with the tip,** which also stands on the line
behind the last line of the borrow. -/
def Crowded (facts : BorrowInUse) : Prop :=
  facts.Crowded ∨ facts.first = facts.last + 1 ∨ facts.point = facts.last + 1

theorem legible_iff (h : sketch document d = .success plan) :
    plan.Legible ↔ ¬ ∃ facts, read d = .success facts ∧ Crowded facts := by
  obtain ⟨facts, hread, rfl⟩ := Outcome.map_eq_success_iff.1 h
  have hplace : OneLine facts.place := BorrowInUse.oneLine_of_read hread
  have hregion : OneLine ("`" ++ facts.place ++ "` borrowed in this region") :=
    hplace.quote (by decide) (by decide)
  have hpoint : OneLine ("`" ++ facts.place ++ "` moved") :=
    hplace.quote (by decide) (by decide)
  rw [Outcome.exists_success_iff hread, clash, Clash.legible_iff]
  have hlabel := facts.pointLabelLine_clash ("`" ++ facts.place ++ "` borrowed in this region")
    ("`" ++ facts.place ++ "` moved") tip
  generalize (facts.clash _ _ _).pointLabelLine = label at hlabel ⊢
  simp only [BorrowInUse.clash, collide_iff, hregion.lineCount_eq, hpoint.lineCount_eq,
    lineCount_tip, Crowded, BorrowInUse.Crowded]
  omega

end MoveDuringBorrow

namespace SecondBorrow

/-- **The labels of two borrows collide:** in a loop, where the two are pointed to, if they are on
one line, or the first is on the line of the tip; and as for other borrows, if there is no loop. -/
def Crowded (facts : BorrowInUse) : Prop :=
  if facts.isLoop then facts.first = facts.point ∨ facts.first = facts.point + 1 else facts.Crowded

theorem legible_iff (h : sketch document d = .success plan) :
    plan.Legible ↔ ¬ ∃ facts, read d = .success facts ∧ Crowded facts := by
  have hone := (laidOut h).oneLine (by decide) (by decide)
  obtain ⟨facts, hread, rfl⟩ := Outcome.map_eq_success_iff.1 h
  rw [Outcome.exists_success_iff hread, Crowded]
  by_cases hloop : facts.isLoop = true
  · rw [if_pos hloop] at hone ⊢
    rw [legible_iff_nodup hone, if_pos hloop]
    show [facts.first, facts.point, facts.point + 1].Nodup ↔ _
    simp only [List.nodup_cons, List.mem_cons, List.not_mem_nil, or_false, not_false_eq_true,
      List.nodup_nil, and_true]
    omega
  · rw [if_neg hloop] at hone ⊢
    rw [if_neg hloop]
    exact BorrowInUse.legible_iff hone

end SecondBorrow

/-! ### Closures, moves and drops -/

theorem EscapingClosure.legible (h : sketch document d = .success plan) : plan.Legible := by
  have hone := (laidOut h).oneLine (by decide) (by decide)
  obtain ⟨facts, -, rfl⟩ := Outcome.map_eq_success_iff.1 h
  rw [legible_iff_nodup hone]
  show [facts.line, facts.line + 1].Nodup
  simp

namespace MovedValue

/-- **The labels of a moved value collide:** it is moved on the line of the use or on the line
behind, which is that of the tip; or its definition is on one of these two lines or on that of the
move. -/
def Crowded (facts : MovedValue) : Prop :=
  facts.moved = facts.used ∨ facts.moved = facts.used + 1 ∨
    ∃ defined, facts.defined = some defined ∧
      (defined = facts.used ∨ defined = facts.used + 1 ∨ defined = facts.moved)

theorem legible_iff (h : sketch document d = .success plan) :
    plan.Legible ↔ ¬ ∃ facts, read d = .success facts ∧ facts.Crowded := by
  have hone := (laidOut h).oneLine (by decide) (by decide)
  obtain ⟨facts, hread, hplan⟩ := Outcome.map_eq_success_iff.1 h
  rw [Outcome.exists_success_iff hread, Crowded, legible_iff_nodup hone]
  cases hdefined : facts.defined with
  | some defined =>
    rw [hdefined] at hplan
    obtain rfl := hplan
    show [defined, if facts.used = defined then facts.used + 1 else facts.used, facts.used + 1,
      facts.moved].Nodup ↔ _
    simp only [List.nodup_cons, List.mem_cons, List.not_mem_nil, or_false, not_false_eq_true,
      List.nodup_nil, and_true, Option.some.injEq, exists_eq_left']
    split <;> omega
  | none =>
    rw [hdefined] at hplan
    obtain rfl := hplan
    show [facts.moved, facts.used, facts.used + 1].Nodup ↔ _
    simp only [List.nodup_cons, List.mem_cons, List.not_mem_nil, or_false, not_false_eq_true,
      List.nodup_nil, and_true, reduceCtorEq, false_and, exists_false]
    omega

end MovedValue

namespace EarlyDrop

/-- **The labels of a use after a drop collide.** The name of the borrower takes so many lines in
each of them. The tip stands behind all other lines, so that only the label of the use, when it is
moved down, or a label that goes on below its first line can stand in its way. -/
def UseCrowded (facts : EarlyDrop) (used lines : Nat) : Prop :=
  let label := if used = facts.borrowed then used + 1 else used
  let tip := max (max facts.borrowed facts.dropped) used + 1
  facts.borrowed < label + lines ∧ label < facts.borrowed + lines ∨
    tip < facts.borrowed + lines ∨ tip < label + lines

/-- The labels of a use have as many lines each as the name of the borrower. -/
theorem legible_iff_of_usedSketch {facts : EarlyDrop} {borrower : Span} {user : String}
    (hname : OneLine facts.name) (huser : document.slice? borrower.stop.line
      borrower.start.character borrower.stop.character = some user)
    (h : usedSketch document facts borrower = .success plan) :
    plan.Legible ↔ ¬ facts.UseCrowded borrower.stop.line (lineCount user) := by
  rw [usedSketch, huser] at h
  obtain rfl := Outcome.success.inj h
  have honly : OneLine "` and can only be used in this region" := .of_chars (by decide)
  have hstill : OneLine "` is still borrowing it" := .of_chars (by decide)
  have hwhile : OneLine ("`" ++ facts.name ++ "` is no longer valid, while `") :=
    hname.quote (by decide) (by decide)
  have hregion : lineCount ("`" ++ user ++ "` borrows from `" ++ facts.name ++
      "` and can only be used in this region") = lineCount user := by
    rw [honly.append_lineCount, hname.append_lineCount]
    exact lineCount_quote user (by decide) (by decide)
  have hpoint : lineCount ("`" ++ facts.name ++ "` is no longer valid, while `" ++ user ++
      "` is still borrowing it") = lineCount user := by
    rw [hstill.append_lineCount, hwhile.lineCount_append]
  have htip : lineCount ("tip: make sure `" ++ user ++ "` borrows from a valid value") =
      lineCount user := lineCount_quote user (by decide) (by decide)
  have hpos : 0 < lineCount user := lineCount_pos user
  have hextent : (extent [facts.borrowed, facts.dropped, borrower.stop.line]).2 =
      max (max facts.borrowed facts.dropped) borrower.stop.line := rfl
  simp only [Clash.legible_iff, clash, collide_iff, hregion, hpoint, htip, hextent,
    Clash.pointLabelLine, UseCrowded]
  split <;> omega

/-- The end of the borrow and the compiler's explanation. -/
theorem legible_mightUseSketch_iff {facts : EarlyDrop} {line : Nat} {message : String}
    (hname : OneLine facts.name) : (mightUseSketch document facts line message).Legible ↔
      ¬ (line ≤ facts.dropped ∧ facts.dropped < line + lineCount message) := by
  have hend : OneLine facts.validText := hname.quote (by decide) (by decide)
  have hpos : 0 < lineCount message := lineCount_pos message
  show List.Pairwise _ [(facts.dropped, facts.validText), (line, message)] ↔ _
  rw [List.pairwise_pair, collide_iff, hend.lineCount_eq]
  omega

/-- The end of the borrow and what requires it to live on. -/
theorem legible_foreverSketch_iff {facts : EarlyDrop} {line : Nat} (hname : OneLine facts.name) :
    (foreverSketch document facts line).Legible ↔ line ≠ facts.dropped := by
  have hend : OneLine facts.endText := hname.quote (by decide) (by decide)
  have hneed : OneLine facts.foreverText := hname.quote (by decide) (by decide)
  show List.Pairwise _ [(facts.dropped, facts.endText), (line, facts.foreverText)] ↔ _
  rw [List.pairwise_pair, collide_iff_of_oneLine hend hneed, ne_comm]

/-- **The labels of an early drop collide:** those of a use, as said; the compiler's explanation of
a possible use stands on the line of the drop, or goes on there; or what must live forever is
required on the line of the drop. -/
def Crowded (document : LineView) (facts : EarlyDrop) : Prop :=
  match facts.later with
  | .used borrower => ∃ user, document.slice? borrower.stop.line borrower.start.character
      borrower.stop.character = some user ∧ facts.UseCrowded borrower.stop.line (lineCount user)
  | .mightUse line message => line ≤ facts.dropped ∧ facts.dropped < line + lineCount message
  | .forever line => line = facts.dropped

theorem legible_iff (h : sketch document d = .success plan) :
    plan.Legible ↔ ¬ ∃ facts, read d = .success facts ∧ facts.Crowded document := by
  obtain ⟨facts, hread, hplan⟩ := Outcome.bind_eq_success_iff.1 h
  have hname : OneLine facts.name := oneLine_of_read hread
  rw [Outcome.exists_success_iff hread, Crowded]
  cases hlater : facts.later with
  | used borrower =>
    rw [hlater] at hplan
    have hplan : usedSketch document facts borrower = .success plan := hplan
    show _ ↔ ¬ ∃ user, document.slice? borrower.stop.line borrower.start.character
      borrower.stop.character = some user ∧ _
    cases huser : document.slice? borrower.stop.line borrower.start.character
        borrower.stop.character with
    | none =>
      rw [usedSketch, huser] at hplan
      cases hplan
    | some user =>
      rw [legible_iff_of_usedSketch hname huser hplan]
      simp only [Option.some.injEq, exists_eq_left']
  | mightUse line message =>
    rw [hlater] at hplan
    obtain rfl := Outcome.success.inj hplan
    exact legible_mightUseSketch_iff hname
  | forever line =>
    rw [hlater] at hplan
    obtain rfl := Outcome.success.inj hplan
    exact legible_foreverSketch_iff hname

end EarlyDrop

/-! ## The labels of all renderers in use -/

namespace Handlers

/-- **The reports whose labels collide,** told by the lines of their facts for each of the codes. -/
def Crowded (document : LineView) (d : Diagnostic) : String → Prop
  | "E0382" => ∃ facts, MovedValue.read d = .success facts ∧ facts.Crowded
  | "E0499" => ∃ facts, SecondBorrow.read d = .success facts ∧ SecondBorrow.Crowded facts
  | "E0502" => ∃ facts, MixedBorrow.read d = .success facts ∧ facts.borrow.Crowded
  | "E0503" => ∃ facts, UseDuringBorrow.read d = .success facts ∧ facts.Crowded
  | "E0505" => ∃ facts, MoveDuringBorrow.read d = .success facts ∧ MoveDuringBorrow.Crowded facts
  | "E0506" => ∃ facts, AssignDuringBorrow.read d = .success facts ∧ facts.Crowded
  | "E0597" => ∃ facts, EarlyDrop.read d = .success facts ∧ facts.Crowded document
  | _ => False

/-- A sketch that is made is legible just if the report is not one of these. -/
theorem legible_iff_of_mem {code : String} {sketch : LineView → Diagnostic → Outcome Sketch}
    (hcode : (code, sketch) ∈ standardSketches) (h : sketch document d = .success plan) :
    plan.Legible ↔ ¬ Crowded document d code := by
  simp only [standardSketches, List.mem_cons, Prod.mk.injEq, List.not_mem_nil, or_false] at hcode
  rcases hcode with ⟨rfl, rfl⟩ | ⟨rfl, rfl⟩ | ⟨rfl, rfl⟩ | ⟨rfl, rfl⟩ | ⟨rfl, rfl⟩ | ⟨rfl, rfl⟩ |
    ⟨rfl, rfl⟩ | ⟨rfl, rfl⟩
  · exact iff_of_true (EscapingClosure.legible h) not_false
  · exact MovedValue.legible_iff h
  · exact SecondBorrow.legible_iff h
  · exact MixedBorrow.legible_iff h
  · exact UseDuringBorrow.legible_iff h
  · exact MoveDuringBorrow.legible_iff h
  · exact AssignDuringBorrow.legible_iff h
  · exact EarlyDrop.legible_iff h

variable {code : String}

/-- **The labels of every picture,** for each of the errors about borrows, any document, measures,
theme and diagnostic. When the renderer of the code makes a picture, what is written in it are the
labels of its plan, each from its line on, and no two of them are on a common row just if the report
is not one of those whose labels collide. -/
theorem legible_iff_of_standard (hcode : code ∈ borrowCodes) (scene : Scene) (theme : Theme)
    (d : Diagnostic) :
    ∃ sketch, (code, sketch) ∈ standardSketches ∧
      standardRenderers.get? code = some (Renderer.ofSketch sketch) ∧
      ∀ picture, Renderer.ofSketch sketch scene theme d = .success picture →
        ∃ plan, sketch scene.document d = .success plan ∧
          picture = plan.picture scene.config theme ∧
          picture.image.canvas.nodes.filterMap Drawing.Node.written? =
            plan.texts.map (Drawing.Mark.labelWritten scene.config picture.line) ∧
          (plan.Legible ↔ ¬ Crowded scene.document d code) := by
  obtain ⟨sketch, hmem, hrenderer⟩ := exists_renderer hcode
  refine ⟨sketch, hmem, hrenderer, fun picture hpicture => ?_⟩
  obtain ⟨plan, hplan, rfl⟩ := Outcome.map_eq_success_iff.1 hpicture
  exact ⟨plan, hplan, rfl, Sketch.filterMap_written_picture scene.config theme plan,
    legible_iff_of_mem hmem hplan⟩

/-- The move out of a borrowed place: its labels are on the rows 0 and 1, its tip on 2 and 3. -/
theorem legible_iff_of_standard_moved :
    "E0505" ∈ borrowCodes ∧
    Renderer.ofSketch MoveDuringBorrow.sketch movedScene .dark movedReport =
      .success (movedPlan.picture movedScene.config .dark) ∧
    ¬ Crowded movedScene.document movedReport "E0505" ∧ movedPlan.Legible := by
  have hcode : "E0505" ∈ borrowCodes := by decide
  have hcrowded : ¬ Crowded movedScene.document movedReport "E0505" := by
    rintro ⟨facts, hread, hfacts⟩
    obtain rfl := Outcome.success.inj (read_movedReport.symm.trans hread)
    rcases hfacts with (hlast | hlast | ⟨hpoint, -⟩) | hfirst | hpoint
    all_goals contradiction
  obtain ⟨sketch, hmem, -, hlegible⟩ :=
    legible_iff_of_standard hcode movedScene .dark movedReport
  obtain rfl : sketch = MoveDuringBorrow.sketch := by simpa [standardSketches] using hmem
  obtain ⟨plan, hplan, -, -, hiff⟩ := hlegible _ render_movedReport
  obtain rfl : movedPlan = plan := Outcome.success.inj (sketch_movedReport.symm.trans hplan)
  exact ⟨hcode, render_movedReport, hcrowded, hiff.2 hcrowded⟩

/-- **Labels that collide:** a value is used on the only line of a mutable borrow. The label of the
use is moved down, off the row of the label of the borrow; but there the tip is written, while the
last of the three rows of the image stays empty. -/
theorem not_legible_of_singleLine :
    let scene : Scene := ⟨.ofLines [some "let r = &mut x; let y = x + *r;"], .standard⟩
    let d : Diagnostic := ⟨⟨⟨0, 24⟩, ⟨0, 25⟩⟩, some .error, some (.documented (.name "E0503") none),
      some "rustc", "cannot use `x` because it was mutably borrowed",
      [⟨"`x` is borrowed here", ⟨⟨0, 8⟩, ⟨0, 14⟩⟩, none⟩,
        ⟨"borrow later used here", ⟨⟨0, 29⟩, ⟨0, 30⟩⟩, none⟩]⟩
    standardRenderers.get? "E0503" = some (Renderer.ofSketch UseDuringBorrow.sketch) ∧
    ∃ plan, UseDuringBorrow.sketch scene.document d = .success plan ∧
      Renderer.ofSketch UseDuringBorrow.sketch scene .dark d =
        .success (plan.picture scene.config .dark) ∧
      plan.texts = [(0, "`x` borrowed mutably in this region"),
        (1, "`x` used here, conflicting with the borrow"),
        (0, "tip: move the use of `x` out of the borrow region")] ∧
      plan.rows = 3 ∧ ¬ plan.Legible := by
  intro scene d
  have hread : UseDuringBorrow.read d = .success ⟨"x", 0, 0, 0⟩ := by decide
  have hplan : UseDuringBorrow.sketch scene.document d = .success
      (((⟨"x", 0, 0, 0⟩ : BorrowInUse).clash "`x` borrowed mutably in this region"
        "`x` used here, conflicting with the borrow"
        "tip: move the use of `x` out of the borrow region").sketch scene.document) := by
    rw [UseDuringBorrow.sketch, hread]
    rfl
  refine ⟨get?_standardRenderers (by simp [standardSketches]), _, hplan, ?_, rfl, rfl, ?_⟩
  · rw [Renderer.ofSketch, hplan]
    rfl
  · rw [UseDuringBorrow.legible_iff hplan, not_not]
    exact ⟨_, hread, .inl rfl⟩

end Handlers
end BorrowSketch
