import BorrowSketch.Proofs.Sketch.Layout

/-! # Where sketches are drawn

An image covers lines of a document from the first line of the facts on, and starts behind the end
of the text on these lines. All that is drawn lies inside the image; and what is written is clear of
the text of the document, apart from texts that go on below the lines that the sketch is drawn by.

* **`Handlers.inside_of_standard`** — everything lies inside the image.
* **`Handlers.clear_of_standard`** — what is written beside which text. -/

namespace BorrowSketch

open Text

namespace Handlers

variable {code : String}

/-- **Where the renderers in use draw.** Each code has a renderer that draws a sketch. -/
theorem exists_renderer (h : code ∈ borrowCodes) :
    ∃ sketch, (code, sketch) ∈ standardSketches ∧
      standardRenderers.get? code = some (Renderer.ofSketch sketch) := by
  obtain ⟨_, sketch, -, hmem, -⟩ := exists_draws h
  exact ⟨sketch, hmem, get?_standardRenderers hmem⟩

/-! ## A value that is moved while it is borrowed -/

/-- Three lines on which a value is borrowed, moved and used, and one below that is wider. -/
def movedScene : Scene :=
  ⟨.ofLines [some "let r = &x;", some "drop(x);", some "use(r);", some "let y = a_long_line;"],
    .standard⟩

/-- The report on the move. -/
def movedReport : Diagnostic :=
  ⟨⟨⟨1, 5⟩, ⟨1, 6⟩⟩, some .error, some (.documented (.name "E0505") none), some "rustc",
    "cannot move out of `x` because it is borrowed",
    [⟨"borrow of `x` is borrowed here", ⟨⟨0, 8⟩, ⟨0, 10⟩⟩, none⟩,
      ⟨"borrow later used here", ⟨⟨2, 4⟩, ⟨2, 5⟩⟩, none⟩]⟩

/-- The plan of its sketch. -/
def movedPlan : Sketch :=
  ((⟨"x", 0, 2, 1⟩ : BorrowInUse).clash "`x` borrowed in this region" "`x` moved"
    MoveDuringBorrow.tip).sketch movedScene.document

/-- The report is read. -/
theorem read_movedReport : MoveDuringBorrow.read movedReport = .success ⟨"x", 0, 2, 1⟩ := by decide

/-- This is what is made of it. -/
theorem sketch_movedReport :
    MoveDuringBorrow.sketch movedScene.document movedReport = .success movedPlan := by
  rw [MoveDuringBorrow.sketch, read_movedReport]
  rfl

/-- The tip is written on the last line of the borrow. -/
theorem tip_mem_texts_movedPlan : (2, MoveDuringBorrow.tip) ∈ movedPlan.texts :=
  List.mem_cons_of_mem _ (List.mem_cons_of_mem _ List.mem_cons_self)

/-- The picture of the plan is what the renderer makes. -/
theorem render_movedReport :
    Renderer.ofSketch MoveDuringBorrow.sketch movedScene .dark movedReport =
      .success (movedPlan.picture movedScene.config .dark) := by
  rw [Renderer.ofSketch, sketch_movedReport]
  rfl

/-! ## Everything lies inside the image -/

/-- **Everything lies inside the image, and the image starts at the first line of the facts.** Take
any of the errors about borrows, a document in whose lines there are no line breaks, any measures,
theme and diagnostic; if the compiler explains a possible use after a drop, without a line break.
When the program for the code makes a picture, it is that of a plan. The picture is put at the least
of the lines that the facts of the diagnostic are about, and the image is as many lines high as the
plan has rows. All lines that the plan is drawn by are among these rows, and all texts end in them;
nothing else is written in the image.

This holds however the program counts lines: without bound, or in machine words and stopping where
they end. A program that starts over from zero there has to have room behind the facts. -/
theorem inside_of_standard (hcode : code ∈ borrowCodes) (counting : Counting) (scene : Scene)
    (theme : Theme) (d : Diagnostic)
    (hdocument : ∀ line text, scene.document.text? line = some text → OneLine text)
    (hmessage : ∀ facts line message, code = "E0597" → EarlyDrop.read d = .success facts →
      facts.later = .mightUse line message → OneLine message)
    (hroom : counting = .wrapping → RoomBehind d code) :
    ∃ rendering sketch, (code, rendering) ∈ standardRenderings ∧
      (code, sketch) ∈ standardSketches ∧
      (∀ h : counting ≠ .checked,
        (renderersBy counting h).get? code = some (rendering.renderer counting h)) ∧
      ∀ picture, rendering.render counting scene theme d = some (.success picture) →
        ∃ plan facts, sketch scene.document d = .success plan ∧
          picture = plan.picture scene.config theme ∧ FactLines d code facts ∧
          IsLeast {line | line ∈ facts} picture.line ∧
          picture.image.height = scene.config.lineHeight * Number.ofNat plan.rows ∧
          (∀ line ∈ plan.lines, picture.line ≤ line ∧ line < picture.line + plan.rows) ∧
          (∀ line text, (line, text) ∈ plan.texts →
            line + lineCount text ≤ picture.line + plan.rows) ∧
          ∀ x y color content step,
            .text x y color content step ∈ picture.image.canvas.nodes →
              ∃ line, picture.line ≤ line ∧ line + content.length ≤ picture.line + plan.rows ∧
                y = Drawing.Mark.textY scene.config picture.line line := by
  obtain ⟨rendering, sketch, hrendering, hmem, hdraws⟩ := exists_draws hcode
  refine ⟨rendering, sketch, hrendering, hmem, fun h => get?_renderersBy h hrendering,
    fun picture hpicture => ?_⟩
  obtain ⟨plan, hplan, heq⟩ := hdraws.exists_of_success hpicture
  have hlaidOut := laidOut_of_mem hmem hplan
  obtain rfl := heq fun hwrapping => hlaidOut.counted (hroom hwrapping)
  obtain ⟨facts, lines, below, hfacts, hlayout, -, hbelow, htexts⟩ := hlaidOut
  -- only the tip that takes two lines takes more than one, and there is a row more for it
  have hfits : ∀ line text, (line, text) ∈ plan.texts →
      line + lineCount text ≤ plan.anchor + plan.rows := by
    intro line text htext
    obtain ⟨-, hrows⟩ := hlayout.inside (Sketch.mem_lines_of_mem_texts htext)
    rcases List.forall_iff_forall_mem.1 htexts _ htext with hone | htall
    · have hcount : lineCount text = 1 := hone.lineCount_eq
      omega
    · cases htall with
      | tip _ _ htext =>
        have hcount : lineCount text = 2 := (congrArg lineCount htext).trans
          MoveDuringBorrow.lineCount_tip
        have hrow : below = 1 := hbelow rfl
        omega
      | message hread hlater hbroken => exact absurd (hmessage _ _ _ rfl hread hlater) hbroken
      | borrower _ _ hcontent hbroken => exact absurd (hdocument _ _ hcontent) hbroken
  refine ⟨plan, facts, hplan, rfl, hfacts, hlayout.isLeast, rfl, fun line hline => ?_, hfits, ?_⟩
  · obtain ⟨hfirst, hlast⟩ := hlayout.inside hline
    exact ⟨hfirst, by show line < plan.anchor + plan.rows; omega⟩
  · intro x y color content step hnode
    obtain ⟨line, text, htext, hplace, hcount⟩ := Sketch.exists_of_text_mem_picture hnode
    obtain ⟨hfirst, -⟩ := hlayout.inside (Sketch.mem_lines_of_mem_texts htext)
    exact ⟨line, hfirst, hcount ▸ hfits line text htext, hplace⟩

/-- There is room behind the lines of the move. -/
theorem roomBehind_movedReport : RoomBehind movedReport "E0505" := by
  intro facts hfacts
  obtain rfl := hfacts.unique (.moveDuringBorrow read_movedReport)
  decide

/-- The tip on a move takes two lines, and both are inside the image, also of a program that starts
over from zero behind the last machine word. -/
theorem inside_of_standard_moved :
    "E0505" ∈ borrowCodes ∧
    (∀ line text, movedScene.document.text? line = some text → OneLine text) ∧
    (∀ facts line message, "E0505" = "E0597" → EarlyDrop.read movedReport = .success facts →
      facts.later = .mightUse line message → OneLine message) ∧
    RoomBehind movedReport "E0505" ∧
    MoveDuringBorrow.rendering.render .wrapping movedScene .dark movedReport =
      some (.success (movedPlan.picture movedScene.config .dark)) ∧
    (2, MoveDuringBorrow.tip) ∈ movedPlan.texts ∧
    2 + lineCount MoveDuringBorrow.tip ≤ movedPlan.anchor + movedPlan.rows := by
  have hcode : "E0505" ∈ borrowCodes := by decide
  have hdocument : ∀ line text, movedScene.document.text? line = some text → OneLine text := by
    intro line text htext
    match line with
    | 0 | 1 | 2 | 3 =>
      obtain rfl := Option.some.inj htext
      exact .of_chars (by decide)
    | line + 4 => cases htext
  have hmessage : ∀ facts line message, "E0505" = "E0597" →
      EarlyDrop.read movedReport = .success facts → facts.later = .mightUse line message →
      OneLine message :=
    fun _ _ _ hother => absurd hother (by decide)
  have hcounted : movedPlan.Counted .wrapping :=
    (MoveDuringBorrow.laidOut sketch_movedReport).counted roomBehind_movedReport
  have hrender : MoveDuringBorrow.rendering.render .wrapping movedScene .dark movedReport =
      some (.success (movedPlan.picture movedScene.config .dark)) :=
    MoveDuringBorrow.draws.render_of_counted sketch_movedReport hcounted
  obtain ⟨rendering, sketch, hrendering, hmem, -, hinside⟩ :=
    inside_of_standard hcode .wrapping movedScene .dark movedReport hdocument hmessage
      fun _ => roomBehind_movedReport
  obtain rfl : rendering = MoveDuringBorrow.rendering := by
    simpa [standardRenderings] using hrendering
  obtain rfl : sketch = MoveDuringBorrow.sketch := by simpa [standardSketches] using hmem
  obtain ⟨plan, facts, hplan, -, -, -, -, -, hfits, -⟩ := hinside _ hrender
  obtain rfl : movedPlan = plan := Outcome.success.inj (sketch_movedReport.symm.trans hplan)
  exact ⟨hcode, hdocument, hmessage, roomBehind_movedReport, hrender, tip_mem_texts_movedPlan,
    hfits 2 _ tip_mem_texts_movedPlan⟩

/-! ## What is written is clear of the text beside it -/

/-- **What is written is clear of the text of the document,** for each of the errors about borrows,
any document, measures, theme and diagnostic. When the renderer of the code makes a picture, it
starts behind the end of the line that the picture is put at, by the shift of its plan. A row on
which any line of a text stands is not wider than that, with one exception: below all lines that the
plan is drawn by, where a text of more than one line goes on. These are the tip on a move out of a
borrowed place, whose second line stands behind the last line of the borrow; and texts with line
breaks that come from the compiler or from the document. -/
theorem clear_of_standard (hcode : code ∈ borrowCodes) (scene : Scene) (theme : Theme)
    (d : Diagnostic) :
    ∃ sketch, (code, sketch) ∈ standardSketches ∧
      standardRenderers.get? code = some (Renderer.ofSketch sketch) ∧
      ∀ picture, Renderer.ofSketch sketch scene theme d = .success picture →
        ∃ plan, sketch scene.document d = .success plan ∧
          picture = plan.picture scene.config theme ∧
          ∀ line text, (line, text) ∈ plan.texts →
            ∀ row, line ≤ row → row < line + lineCount text →
              scene.document.width row ≤ scene.document.width picture.line + plan.shift ∨
              (∀ other ∈ plan.lines, other < row) ∧ Tall scene.document d code line text := by
  obtain ⟨sketch, hmem, hrenderer⟩ := exists_renderer hcode
  refine ⟨sketch, hmem, hrenderer, fun picture hpicture => ?_⟩
  obtain ⟨plan, hplan, rfl⟩ := Outcome.map_eq_success_iff.1 hpicture
  obtain ⟨facts, lines, below, -, hlayout, -, -, htexts⟩ := laidOut_of_mem hmem hplan
  refine ⟨plan, hplan, rfl, fun line text htext row hrow hlast => ?_⟩
  have hline : line ∈ plan.lines := Sketch.mem_lines_of_mem_texts htext
  rcases hlayout.clear_or_below hline hrow with hclear | hbelow
  · exact .inl hclear
  · rcases List.forall_iff_forall_mem.1 htexts _ htext with hone | htall
    · -- a text on one line is on a line that the plan is drawn by
      have hcount : lineCount text = 1 := hone.lineCount_eq
      have hbehind : line < row := hbelow line hline
      omega
    · exact .inr ⟨hbelow, htall⟩

/-- The second line of the tip on a move is what is not clear of the text: it is below the plan. -/
theorem clear_of_standard_moved :
    "E0505" ∈ borrowCodes ∧
    Renderer.ofSketch MoveDuringBorrow.sketch movedScene .dark movedReport =
      .success (movedPlan.picture movedScene.config .dark) ∧
    (2, MoveDuringBorrow.tip) ∈ movedPlan.texts ∧ (∀ other ∈ movedPlan.lines, other < 3) ∧
    Tall movedScene.document movedReport "E0505" 2 MoveDuringBorrow.tip := by
  have hcode : "E0505" ∈ borrowCodes := by decide
  obtain ⟨sketch, hmem, -, hclear⟩ := clear_of_standard hcode movedScene .dark movedReport
  obtain rfl : sketch = MoveDuringBorrow.sketch := by simpa [standardSketches] using hmem
  obtain ⟨plan, hplan, -, htexts⟩ := hclear _ render_movedReport
  obtain rfl : movedPlan = plan := Outcome.success.inj (sketch_movedReport.symm.trans hplan)
  have hrow : 3 < 2 + lineCount MoveDuringBorrow.tip := by
    rw [MoveDuringBorrow.lineCount_tip]
    omega
  rcases htexts 2 _ tip_mem_texts_movedPlan 3 (by omega) hrow with hwidth | ⟨hbelow, htall⟩
  · exact absurd hwidth (by decide +kernel)
  · exact ⟨hcode, render_movedReport, tip_mem_texts_movedPlan, hbelow, htall⟩

/-- **A text that is not clear** of the document: the picture of the move starts nine cells before
the end of the row on which the tip goes on. -/
theorem width_lt_of_moved :
    standardRenderers.get? "E0505" = some (Renderer.ofSketch MoveDuringBorrow.sketch) ∧
    MoveDuringBorrow.sketch movedScene.document movedReport = .success movedPlan ∧
    Renderer.ofSketch MoveDuringBorrow.sketch movedScene .dark movedReport =
      .success (movedPlan.picture movedScene.config .dark) ∧
    (2, MoveDuringBorrow.tip) ∈ movedPlan.texts ∧ 3 < 2 + lineCount MoveDuringBorrow.tip ∧
    movedScene.document.width (movedPlan.picture movedScene.config .dark).line + movedPlan.shift +
      9 = movedScene.document.width 3 := by
  have hrow : 3 < 2 + lineCount MoveDuringBorrow.tip := by
    rw [MoveDuringBorrow.lineCount_tip]
    omega
  exact ⟨get?_standardRenderers (by simp [standardSketches]), sketch_movedReport,
    render_movedReport, tip_mem_texts_movedPlan, hrow, by decide +kernel⟩

end Handlers
end BorrowSketch
