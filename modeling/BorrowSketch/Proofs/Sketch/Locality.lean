import BorrowSketch.Proofs.Sketch.Layout

/-! # What a sketch sees of a document

A sketch looks at the lines of the document from the first line of the facts to the one behind the
last: how wide they are, and, for a borrower that is used after a drop, what is written on one of
them. Edits elsewhere do not change the picture.

* **`LineView.AgreeNear`** — documents that agree on the lines near the facts.
* **`Sketch.around_congr`**, **`Clash.sketch_congr`** — sketches around lines near the facts.
* **`Handlers.sketch_congr_of_mem`** — the sketches of all renderers in use.
* **`Handlers.picture_congr_of_standard`** — the pictures of every diagnostic. -/

namespace BorrowSketch

namespace Outcome

variable {α β : Type} {outcome : Outcome α}

/-- Working on with a success needs to be the same for this success only. -/
theorem map_congr {f g : α → β} (h : ∀ a, outcome = .success a → f a = g a) :
    outcome.map f = outcome.map g := by
  cases outcome with
  | success a => exact congrArg success (h a rfl)
  | inapplicable context => rfl
  | failed context => rfl

/-- Continuing after a success needs to be the same for this success only. -/
theorem bind_congr {f g : α → Outcome β} (h : ∀ a, outcome = .success a → f a = g a) :
    outcome.bind f = outcome.bind g := by
  cases outcome with
  | success a => exact h a rfl
  | inapplicable context => rfl
  | failed context => rfl

end Outcome

/-! ## Documents that agree near some lines -/

namespace LineView

/-- Two documents have the same line of a number, or it is missing from both. -/
structure AgreeAt (document other : LineView) (line : Nat) : Prop where
  /-- The line has the same text. -/
  text : document.text? line = other.text? line
  /-- The line has the same width. -/
  width : document.width? line = other.width? line

/-- **Two documents that agree near some lines:** on each line from the first of these to the one
behind the last. -/
def AgreeNear (document other : LineView) (lines : List Nat) : Prop :=
  ∀ line, IsNear lines line → document.AgreeAt other line

variable {document other : LineView}

/-- Documents that agree on a line measure it alike. -/
theorem AgreeAt.width_eq {line : Nat} (h : document.AgreeAt other line) :
    document.width line = other.width line :=
  congrArg (Option.getD · 0) h.width

/-- Documents that agree on a line have the same parts of it. -/
theorem AgreeAt.slice?_eq {line : Nat} (h : document.AgreeAt other line) (first stop : Nat) :
    document.slice? line first stop = other.slice? line first stop := by
  rw [slice?, slice?, h.text]

/-- The shift from a line depends on the widths from there to the last. -/
theorem shift_congr {first last : Nat} (hle : first ≤ last)
    (h : ∀ line, first ≤ line → line ≤ last → document.width line = other.width line) :
    document.shift first last = other.shift first last := by
  have hlongest : document.longest first last = other.longest first last := by
    apply List.foldl_ext
    intro widest line hline
    obtain ⟨hfirst, hlast⟩ := mem_linesBetween_iff.1 hline
    rw [h line hfirst (Nat.lt_succ_iff.1 hlast)]
  rw [shift, shift, hlongest, h first (Nat.le_refl first) hle]

end LineView

variable {document other : LineView} {d : Diagnostic}

/-- **A sketch around lines near the facts** is the same for documents that agree there. -/
theorem Sketch.around_congr {facts lines : List Nat} {below : Nat}
    {marks : List (Drawing.Mark Role)} (h : document.AgreeNear other facts) (hlines : lines ≠ [])
    (hnear : ∀ line ∈ lines, IsNear facts line) :
    around document lines below marks = around other lines below marks := by
  -- the first and the last of the lines are near the facts, and so is all between them
  have hfirst : (extent lines).1 ∈ lines := (isLeast_extent hlines).1
  have hlast : (extent lines).2 ∈ lines := (isGreatest_extent hlines).1
  have hshift : document.shift (extent lines).1 (extent lines).2 =
      other.shift (extent lines).1 (extent lines).2 := by
    apply LineView.shift_congr (extent_fst_le hlast)
    intro line hle hge
    exact (h line ((hnear _ hfirst).between (hnear _ hlast) hle hge)).width_eq
  rw [around, around, hshift]

/-- **The sketch of a clash** is the same for documents that agree near the region and the point, if
the tip stands near them. -/
theorem Clash.sketch_congr (clash : Clash)
    (h : document.AgreeNear other [clash.first, clash.last, clash.point])
    (htip : IsNear [clash.first, clash.last, clash.point] clash.tipLine) :
    clash.sketch document = clash.sketch other :=
  Sketch.around_congr h (List.cons_ne_nil _ _) (near htip)

/-! ## The sketches of each code -/

open Handlers

/-- The sketch of a borrowed place and what is done with it. -/
theorem BorrowInUse.sketch_congr {facts : BorrowInUse} {regionText pointText tip : String}
    (h : document.AgreeNear other [facts.first, facts.last, facts.point]) :
    (facts.clash regionText pointText tip).sketch document =
      (facts.clash regionText pointText tip).sketch other := by
  have htip : IsNear [facts.first, facts.last, facts.point] facts.last := .of_mem (by simp)
  exact Clash.sketch_congr _ h htip

theorem UseDuringBorrow.sketch_congr
    (h : ∀ facts, FactLines d "E0503" facts → document.AgreeNear other facts) :
    sketch document d = sketch other d :=
  Outcome.map_congr fun _ hread => BorrowInUse.sketch_congr (h _ (.useDuringBorrow hread))

theorem MoveDuringBorrow.sketch_congr
    (h : ∀ facts, FactLines d "E0505" facts → document.AgreeNear other facts) :
    sketch document d = sketch other d :=
  Outcome.map_congr fun _ hread => BorrowInUse.sketch_congr (h _ (.moveDuringBorrow hread))

theorem AssignDuringBorrow.sketch_congr
    (h : ∀ facts, FactLines d "E0506" facts → document.AgreeNear other facts) :
    sketch document d = sketch other d :=
  Outcome.map_congr fun _ hread => BorrowInUse.sketch_congr (h _ (.assignDuringBorrow hread))

theorem MixedBorrow.sketch_congr
    (h : ∀ facts, FactLines d "E0502" facts → document.AgreeNear other facts) :
    sketch document d = sketch other d :=
  Outcome.map_congr fun _ hread => BorrowInUse.sketch_congr (h _ (.mixedBorrow hread))

theorem SecondBorrow.sketch_congr
    (h : ∀ facts, FactLines d "E0499" facts → document.AgreeNear other facts) :
    sketch document d = sketch other d := by
  apply Outcome.map_congr
  intro facts hread
  have hagree := h _ (.secondBorrow hread)
  have hloop : loopSketch document facts = loopSketch other facts :=
    Sketch.around_congr hagree (List.cons_ne_nil _ _) (.of_subset (by simp))
  have hclash : (clash facts).sketch document = (clash facts).sketch other :=
    BorrowInUse.sketch_congr hagree
  rw [hloop, hclash]

theorem EscapingClosure.sketch_congr
    (h : ∀ facts, FactLines d "E0373" facts → document.AgreeNear other facts) :
    sketch document d = sketch other d := by
  apply Outcome.map_congr
  intro facts hread
  exact Sketch.around_congr (h _ (.escapingClosure hread)) (List.cons_ne_nil _ _)
    (.of_subset (by simp))

theorem MovedValue.sketch_congr
    (h : ∀ facts, FactLines d "E0382" facts → document.AgreeNear other facts) :
    sketch document d = sketch other d := by
  apply Outcome.map_congr
  intro facts hread
  have hagree := h _ (.movedValue hread)
  cases hdefined : facts.defined with
  | some defined =>
    rw [hdefined] at hagree
    have htip : IsNear [defined, facts.moved, facts.used] (facts.used + 1) :=
      .succ_of_mem (by simp)
    -- the pointer to the move does not depend on the document
    simp only [lifeSketch, Clash.sketch_congr (facts.clash defined (facts.used + 1)) hagree htip]
  | none =>
    rw [hdefined] at hagree
    exact Sketch.around_congr hagree (List.cons_ne_nil _ _) (.of_subset (by simp))

theorem EarlyDrop.sketch_congr
    (h : ∀ facts, FactLines d "E0597" facts → document.AgreeNear other facts) :
    sketch document d = sketch other d := by
  apply Outcome.bind_congr
  intro facts hread
  have hagree := h _ (.earlyDrop hread)
  cases hlater : facts.later with
  | used borrower =>
    rw [hlater] at hagree
    have hnear : IsNear [facts.borrowed, facts.dropped, borrower.stop.line] borrower.stop.line :=
      .of_mem (by simp)
    have htip : IsNear [facts.borrowed, facts.dropped, borrower.stop.line]
        ((extent [facts.borrowed, facts.dropped, borrower.stop.line]).2 + 1) :=
      .succ_of_mem (isGreatest_extent (List.cons_ne_nil _ _)).1
    -- the name of the borrower is read off a line of the facts
    simp only [usedSketch, (hagree _ hnear).slice?_eq,
      Clash.sketch_congr (facts.clash _ _ _) hagree htip]
  | mightUse line message =>
    rw [hlater] at hagree
    apply congrArg Outcome.success
    exact Sketch.around_congr hagree (List.cons_ne_nil _ _)
      (.of_subset (by simp [LaterNeed.line]))
  | forever line =>
    rw [hlater] at hagree
    apply congrArg Outcome.success
    exact Sketch.around_congr hagree (List.cons_ne_nil _ _)
      (.of_subset (by simp [LaterNeed.line]))

/-! ## All sketches -/

namespace Handlers

variable {code : String} {sketch : LineView → Diagnostic → Outcome Sketch}

/-- **The sketches of all renderers in use** are the same for documents that agree near the facts,
and for any two documents if there are no facts. -/
theorem sketch_congr_of_mem (hcode : (code, sketch) ∈ standardSketches)
    (h : ∀ facts, FactLines d code facts → document.AgreeNear other facts) :
    sketch document d = sketch other d := by
  simp only [standardSketches, List.mem_cons, Prod.mk.injEq, List.not_mem_nil, or_false] at hcode
  rcases hcode with ⟨rfl, rfl⟩ | ⟨rfl, rfl⟩ | ⟨rfl, rfl⟩ | ⟨rfl, rfl⟩ | ⟨rfl, rfl⟩ | ⟨rfl, rfl⟩ |
    ⟨rfl, rfl⟩ | ⟨rfl, rfl⟩
  · exact EscapingClosure.sketch_congr h
  · exact MovedValue.sketch_congr h
  · exact SecondBorrow.sketch_congr h
  · exact MixedBorrow.sketch_congr h
  · exact UseDuringBorrow.sketch_congr h
  · exact MoveDuringBorrow.sketch_congr h
  · exact AssignDuringBorrow.sketch_congr h
  · exact EarlyDrop.sketch_congr h

/-- **Edits outside the lines near the facts do not change the picture.** Take any of the errors
about borrows, any measures, theme and diagnostic. If facts are read of the diagnostic, its renderer
comes to the same for any two documents that agree on all lines from the first line of the facts to
the one behind the last: the same picture at the same line, or none for the same reason. If none are
read, it comes to the same for all documents. -/
theorem picture_congr_of_standard (hcode : code ∈ borrowCodes) (config : Config) (theme : Theme)
    (d : Diagnostic) :
    ∃ renderer, standardRenderers.get? code = some renderer ∧
      (∀ facts, FactLines d code facts → ∀ document other : LineView,
        document.AgreeNear other facts →
          renderer ⟨document, config⟩ theme d = renderer ⟨other, config⟩ theme d) ∧
      ((∀ facts, ¬ FactLines d code facts) → ∀ document other : LineView,
        renderer ⟨document, config⟩ theme d = renderer ⟨other, config⟩ theme d) := by
  obtain ⟨renderer, hrenderer⟩ :=
    Option.isSome_iff_exists.1 (contains_standardRenderers_iff.2 hcode)
  obtain ⟨sketch, hmem, rfl⟩ := exists_of_get?_standardRenderers hrenderer
  have hpicture : ∀ document other : LineView,
      (∀ facts, FactLines d code facts → document.AgreeNear other facts) →
      Renderer.ofSketch sketch ⟨document, config⟩ theme d =
        Renderer.ofSketch sketch ⟨other, config⟩ theme d := by
    intro document other hagree
    have hsketch : sketch document d = sketch other d := sketch_congr_of_mem hmem hagree
    exact congrArg (Outcome.map (Sketch.picture config theme)) hsketch
  refine ⟨_, hrenderer, fun facts hfacts document other hagree => ?_,
    fun hnone document other => ?_⟩
  · exact hpicture document other fun others hothers => hfacts.unique hothers ▸ hagree
  · exact hpicture document other fun facts hfacts => absurd hfacts (hnone facts)

/-- A borrower that is used after the drop: its picture is the same in a document that is longer and
has another first line. -/
theorem picture_congr_of_standard_dangling :
    let short : LineView := .ofLines [some "fn f() \x7b", some "r = &x;", some "\x7d",
      some "use(r);"]
    let long : LineView := .ofLines [some "fn a_much_longer_name(r: Ref) \x7b",
      some "r = &x;", some "\x7d", some "use(r);", none, some "let y = another_long_line(r);"]
    let d : Diagnostic := ⟨⟨⟨1, 4⟩, ⟨1, 6⟩⟩, some .error, some (.documented (.name "E0597") none),
      some "rustc", "`x` does not live long enough",
      [⟨"`x` dropped here while still borrowed", ⟨⟨2, 0⟩, ⟨2, 1⟩⟩, none⟩,
        ⟨"borrow later used here", ⟨⟨3, 4⟩, ⟨3, 5⟩⟩, none⟩]⟩
    "E0597" ∈ borrowCodes ∧ FactLines d "E0597" [1, 2, 3] ∧ short.AgreeNear long [1, 2, 3] ∧
    short.text? 0 ≠ long.text? 0 ∧ short.text? 5 ≠ long.text? 5 ∧
    (∃ plan, EarlyDrop.sketch short d = .success plan) ∧
    ∃ renderer, standardRenderers.get? "E0597" = some renderer ∧
      renderer ⟨short, .standard⟩ .dark d = renderer ⟨long, .standard⟩ .dark d := by
  intro short long d
  have hcode : "E0597" ∈ borrowCodes := by decide
  have hread : EarlyDrop.read d = .success ⟨"x", 1, 2, .used ⟨⟨3, 4⟩, ⟨3, 5⟩⟩⟩ := by decide
  have hfacts : FactLines d "E0597" [1, 2, 3] := .earlyDrop hread
  have hagree : short.AgreeNear long [1, 2, 3] := by
    rintro line ⟨hfirst, hlast⟩
    simp only [List.mem_cons, List.not_mem_nil, or_false, exists_eq_or_imp, exists_eq_left]
      at hfirst hlast
    obtain rfl | rfl | rfl | rfl : line = 1 ∨ line = 2 ∨ line = 3 ∨ line = 4 := by omega
    all_goals exact ⟨rfl, rfl⟩
  obtain ⟨renderer, hrenderer, hsame, -⟩ := picture_congr_of_standard hcode .standard .dark d
  refine ⟨hcode, hfacts, hagree, by decide, by decide, ?_, renderer, hrenderer,
    hsame _ hfacts _ _ hagree⟩
  rw [EarlyDrop.sketch, hread]
  exact ⟨_, rfl⟩

end Handlers
end BorrowSketch
