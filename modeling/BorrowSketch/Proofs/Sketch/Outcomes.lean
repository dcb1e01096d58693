import BorrowSketch.Proofs.Sketch.Placement
import BorrowSketch.Proofs.Sketch.Themes

/-! # How rendering ends

A renderer reads the facts of a diagnostic and draws them. It does not apply where they cannot be
read, and then for the reason that reading gives. Whatever lines the facts are on, in any order and
also beyond the end of the document, they are drawn; only the name of a borrower that is used after
the drop of its value has to be read off a line of the document. A program that is checked while it
counts may stop on the way, but only where the lines of the facts are next to the end of what it can
count to.

* **`Outcome.NeverFails`** — outcomes that are not failures; readings are made of such.
* **`Sketch.Measured`** — the lines and widths that a sketch is measured by are in order.
* **`Renderer.Follows`** — a renderer that ends as the reading of its diagnostics does.
* **`Handlers.EndsAs`**, **`Handlers.follows_of_standard`** — how each renderer ends, however it
  counts. -/

namespace BorrowSketch

variable {α β : Type}

/-! ## Outcomes that are no failures -/

namespace Outcome

/-- **An outcome that is not a failure:** a value, or nothing because it does not apply. -/
def NeverFails (outcome : Outcome α) : Prop :=
  ∀ context, outcome ≠ .failed context

theorem neverFails_success (a : α) : (success a).NeverFails := by
  rintro context ⟨⟩

/-- What is not found does not fail. -/
theorem neverFails_ofOptionOr (reason : String) (found : Option α) :
    (ofOptionOr reason found).NeverFails := by
  intro context h
  cases found <;> cases h

/-- Going on after what does not fail, with what does not fail. -/
theorem NeverFails.bind {outcome : Outcome α} {next : α → Outcome β} (h : outcome.NeverFails)
    (hnext : ∀ a, (next a).NeverFails) : (outcome.bind next).NeverFails := by
  cases outcome with
  | success a => exact hnext a
  | inapplicable reason => rintro context ⟨⟩
  | failed context => exact absurd rfl (h context)

theorem NeverFails.map {outcome : Outcome α} (h : outcome.NeverFails) (f : α → β) :
    (outcome.map f).NeverFails := by
  cases outcome with
  | success a => exact neverFails_success (f a)
  | inapplicable reason => rintro context ⟨⟩
  | failed context => exact absurd rfl (h context)

/-- Working on with a value is going on with a success. -/
theorem map_eq_bind (outcome : Outcome α) (f : α → β) :
    outcome.map f = outcome.bind fun a => .success (f a) := by
  cases outcome <;> rfl

end Outcome

open Outcome

/-! ## Reading does not fail -/

theorem BorrowInUse.neverFails_read (wording : Wording) (d : Diagnostic) :
    (read wording d).NeverFails :=
  (neverFails_ofOptionOr _ _).bind fun _ => (neverFails_ofOptionOr _ _).map _

theorem MixedBorrow.neverFails_read (d : Diagnostic) : (read d).NeverFails :=
  (neverFails_ofOptionOr _ _).bind fun _ => (neverFails_ofOptionOr _ _).map _

theorem EscapingClosure.neverFails_read (d : Diagnostic) : (read d).NeverFails :=
  (neverFails_ofOptionOr _ _).map _

theorem MovedValue.neverFails_read (d : Diagnostic) : (read d).NeverFails :=
  (neverFails_ofOptionOr _ _).bind fun _ => (neverFails_ofOptionOr _ _).map _

theorem EarlyDrop.neverFails_read (d : Diagnostic) : (read d).NeverFails :=
  (neverFails_ofOptionOr _ _).bind fun _ =>
    (neverFails_ofOptionOr _ _).bind fun _ => (neverFails_ofOptionOr _ _).map _

/-! ## Measures -/

namespace Sketch

/-- **The lines and widths that a sketch is measured by are in order.** Its last line is not before
its first, and the widest line between them not shorter than the first, so that the differences are
those of numbers. -/
structure Measured (document : LineView) (plan : Sketch) (below : Nat) : Prop where
  /-- The last line is not before the first. -/
  anchor_le : plan.anchor ≤ plan.last
  /-- The rows are those of the lines and some more. -/
  rows_eq : plan.rows = plan.last - plan.anchor + 1 + below
  /-- The first line is not longer than the widest. -/
  width_le : document.width plan.anchor ≤ document.longest plan.anchor plan.last
  /-- The shift is what the first line is shorter by. -/
  shift_eq : plan.shift = document.longest plan.anchor plan.last - document.width plan.anchor

/-- A sketch that is laid out around lines goes from the first of them to the last. -/
theorem Layout.measured {document : LineView} {facts lines : List Nat} {below : Nat}
    {plan : Sketch} (h : plan.Layout document facts lines below) :
    plan.Measured document below := by
  obtain ⟨fact, hfact⟩ := List.exists_mem_of_ne_nil facts h.nonempty
  have hle : (extent lines).1 ≤ (extent lines).2 :=
    (extent_fst_le (h.subset hfact)).trans (le_extent_snd (h.subset hfact))
  rw [h.around]
  exact
    { anchor_le := hle
      rows_eq := rfl
      width_le := LineView.width_le_longest (Nat.le_refl _) hle
      shift_eq := rfl }

end Sketch

/-! ## Renderers that end as reading does -/

/-- **A renderer ends as the reading of a diagnostic does,** for every document, measures and theme:
it does not apply for the same reason, and it draws all facts that are read, unless these are
barred. Then it fails with an explanation. -/
structure Renderer.Follows (renderer : Renderer) (read : Diagnostic → Outcome α)
    (bars : LineView → α → String → Prop) : Prop where
  /-- Reading never fails. -/
  neverFails : ∀ d, (read d).NeverFails
  /-- The renderer applies where reading does. -/
  inapplicable_iff : ∀ scene theme d reason,
    renderer scene theme d = .inapplicable reason ↔ read d = .inapplicable reason
  /-- It fails on facts that are barred. -/
  failed_iff : ∀ scene theme d context, renderer scene theme d = .failed context ↔
    ∃ facts, read d = .success facts ∧ bars scene.document facts context
  /-- It draws all other facts. -/
  isSuccess_iff : ∀ scene theme d, (renderer scene theme d).isSuccess = true ↔
    ∃ facts, read d = .success facts ∧ ∀ context, ¬ bars scene.document facts context

/-- A renderer ends as reading does if another does that comes to outcomes of the same kinds. -/
theorem Renderer.Follows.of_both {renderer other : Renderer} {read : Diagnostic → Outcome α}
    {bars : LineView → α → String → Prop} (h : other.Follows read bars)
    (hboth : ∀ scene theme d,
      Both (fun _ _ => True) (renderer scene theme d) (other scene theme d)) :
    renderer.Follows read bars where
  neverFails := h.neverFails
  inapplicable_iff scene theme d reason :=
    (hboth scene theme d).inapplicable_iff.trans (h.inapplicable_iff scene theme d reason)
  failed_iff scene theme d context :=
    (hboth scene theme d).failed_iff.trans (h.failed_iff scene theme d context)
  isSuccess_iff scene theme d := by
    rw [(hboth scene theme d).isSuccess_eq]
    exact h.isSuccess_iff scene theme d

/-- However it counts, a program that draws a sketch and does not stop comes to an outcome of the
same kind. -/
theorem Rendering.Draws.both {rendering : Rendering}
    {sketch : LineView → Diagnostic → Outcome Sketch} (h : rendering.Draws sketch)
    {counting : Counting} (hcounting : counting ≠ .checked) (scene : Scene) (theme : Theme)
    (d : Diagnostic) :
    Both (fun _ _ => True) (rendering.renderer counting hcounting scene theme d)
      (Renderer.ofSketch sketch scene theme d) := by
  rcases h.render_cases counting scene theme d with ⟨plan, drawn, hplan, hdrawn, hrender⟩ |
    ⟨-, hrender⟩
  all_goals rw [rendering.render_eq_some hcounting] at hrender
  · rw [Renderer.ofSketch, hplan]
    cases hdrawn with
    | counted => exact Option.some.inj hrender ▸ .success trivial
    | wrapped => exact Option.some.inj hrender ▸ .success trivial
    | stopped _ hchecked => exact absurd hchecked hcounting
  · rw [Option.some.inj hrender]
    exact .refl (fun _ => trivial) _

/-- Facts of which none are barred. -/
def neverBarred (_ : LineView) (_ : α) (_ : String) : Prop := False

namespace Renderer

variable {read : Diagnostic → Outcome α} {bars : LineView → α → String → Prop}

/-- **A renderer that reads facts and then draws them,** where a drawing fails on what is barred. -/
theorem follows_ofSketch_bind {draw : LineView → α → Outcome Sketch}
    (hread : ∀ d, (read d).NeverFails)
    (hdraw : ∀ document facts,
      (∃ plan, draw document facts = .success plan ∧ ∀ context, ¬ bars document facts context) ∨
      ∃ failure, draw document facts = .failed failure ∧
        ∀ context, bars document facts context ↔ context = failure) :
    (ofSketch fun document d => (read d).bind (draw document)).Follows read bars := by
  have hrender : ∀ scene theme d,
      ofSketch (fun document d => (read d).bind (draw document)) scene theme d =
        ((read d).bind (draw scene.document)).map (Sketch.picture scene.config theme) :=
    fun _ _ _ => rfl
  refine ⟨hread, fun scene theme d reason => ?_, fun scene theme d context => ?_,
    fun scene theme d => ?_⟩
  -- each end is looked up among those of the reading and, where this has facts, of the drawing
  all_goals
    rw [hrender]
    cases hfacts : read d with
    | inapplicable other => simp [isSuccess]
    | failed context => exact absurd hfacts (hread d context)
    | success facts =>
      rcases hdraw scene.document facts with ⟨plan, hplan, hfree⟩ | ⟨failure, hfailure, hbarred⟩
      · simp [hplan, hfree, isSuccess]
      · simp [hfailure, hbarred, isSuccess, eq_comm]

/-- **A renderer that draws whatever facts are read.** -/
theorem follows_ofSketch_map {make : LineView → α → Sketch} (hread : ∀ d, (read d).NeverFails) :
    (ofSketch fun document d => (read d).map (make document)).Follows read neverBarred := by
  simp only [map_eq_bind]
  exact follows_ofSketch_bind hread fun document facts =>
    .inl ⟨make document facts, rfl, fun _ => id⟩

end Renderer

/-! ## Early drops -/

namespace EarlyDrop

variable {document : LineView} {facts : EarlyDrop} {borrower : Span}

/-- **Facts that are barred:** a borrower is used after the drop on a line that is not in the
document. -/
def Barred (document : LineView) (facts : EarlyDrop) (context : String) : Prop :=
  ∃ borrower, facts.later = .used borrower ∧ document.text? borrower.stop.line = none ∧
    context = "line " ++ toString borrower.stop.line ++ " is not in the document"

/-- The name of a borrower cannot be read off a line that is not there. -/
theorem usedSketch_of_text?_eq_none (h : document.text? borrower.stop.line = none) :
    usedSketch document facts borrower =
      .failed ("line " ++ toString borrower.stop.line ++ " is not in the document") := by
  have hslice : document.slice? borrower.stop.line borrower.start.character
      borrower.stop.character = none := Option.map_eq_none_iff.2 h
  rw [usedSketch, hslice]
  rfl

/-- From any other line a name is read, although it is empty where the span is not on the line. -/
theorem exists_usedSketch_of_text? {text : String} (facts : EarlyDrop)
    (h : document.text? borrower.stop.line = some text) :
    ∃ plan, usedSketch document facts borrower = .success plan := by
  have hslice : document.slice? borrower.stop.line borrower.start.character
      borrower.stop.character = some _ := Option.map_eq_some_iff.2 ⟨text, h, rfl⟩
  rw [usedSketch, hslice]
  exact ⟨_, rfl⟩

/-- **The renderer of early drops** fails on these facts and draws all others. -/
theorem follows_sketch : (Renderer.ofSketch sketch).Follows read Barred := by
  refine Renderer.follows_ofSketch_bind neverFails_read fun document facts => ?_
  simp only [Barred.eq_def]
  cases hlater : facts.later with
  | used borrower =>
    simp only [LaterNeed.used.injEq, exists_eq_left']
    cases htext : document.text? borrower.stop.line with
    | none =>
      refine .inr ⟨_, usedSketch_of_text?_eq_none htext, fun context => ?_⟩
      rw [and_iff_right rfl]
    | some text =>
      obtain ⟨plan, hplan⟩ := exists_usedSketch_of_text? facts htext
      exact .inl ⟨plan, hplan, fun context => by simp⟩
  | mightUse line message => exact .inl ⟨_, rfl, fun context => by simp⟩
  | forever line => exact .inl ⟨_, rfl, fun context => by simp⟩

end EarlyDrop

/-! ## All renderers in use -/

namespace Handlers

/-- **How the program for a code ends:** as the reading of its diagnostics does. It draws a sketch
that is measured by lines and widths in order. If it is checked while it counts, it may stop, but
not where there is room behind the lines of the facts. -/
structure EndsAs (code : String) (rendering : Rendering)
    (sketch : LineView → Diagnostic → Outcome Sketch) (read : Diagnostic → Outcome α)
    (bars : LineView → α → String → Prop) : Prop where
  /-- It is the program for the code. -/
  mem : (code, rendering) ∈ standardRenderings
  /-- Its renderer is found under the code. -/
  get : ∀ counting (h : counting ≠ .checked),
    (renderersBy counting h).get? code = some (rendering.renderer counting h)
  /-- Its renderer ends as reading does, without bound and also where it starts over from zero. -/
  follows : ∀ counting (h : counting ≠ .checked),
    (rendering.renderer counting h).Follows read bars
  /-- Without bound, its renderer draws the sketch. -/
  draws : ∀ h, rendering.renderer .exact h = Renderer.ofSketch sketch
  /-- The sketch is measured by lines and widths in order. -/
  measured : ∀ document d plan, sketch document d = .success plan →
    ∃ below, plan.Measured document below
  /-- If it is checked, it comes to the same or stops. -/
  checked : ∀ scene theme d outcome, rendering.render .checked scene theme d = some outcome →
    outcome = Renderer.ofSketch sketch scene theme d
  /-- It stops exactly on sketches that need numbers it does not count to. -/
  stops_iff : ∀ scene theme d, rendering.render .checked scene theme d = none ↔
    ∃ plan, sketch scene.document d = .success plan ∧ ¬ plan.Counted .checked
  /-- It does not stop where there is room behind the lines of the facts. -/
  goesOn : ∀ scene theme d, RoomBehind d code → rendering.render .checked scene theme d ≠ none

/-- A program ends as reading does if it draws the sketch of its code, and drawing this does. -/
theorem endsAs_of_draws {code : String} {rendering : Rendering}
    {sketch : LineView → Diagnostic → Outcome Sketch} {read : Diagnostic → Outcome α}
    {bars : LineView → α → String → Prop} (i : Nat)
    (hrendering : standardRenderings[i]? = some (code, rendering))
    (hsketch : standardSketches[i]? = some (code, sketch)) (hdraws : rendering.Draws sketch)
    (h : (Renderer.ofSketch sketch).Follows read bars) :
    EndsAs code rendering sketch read bars := by
  have hmem : (code, rendering) ∈ standardRenderings := List.mem_of_getElem? hrendering
  have hlaidOut := fun {document d plan} (hplan : sketch document d = .success plan) =>
    laidOut_of_mem (List.mem_of_getElem? hsketch) hplan
  exact
    { mem := hmem
      get := fun _ hcounting => get?_renderersBy hcounting hmem
      follows := fun _ hcounting => h.of_both (hdraws.both hcounting)
      draws := hdraws.renderer_exact
      measured := by
        intro document d plan hplan
        obtain ⟨facts, lines, below, -, hlayout, -⟩ := hlaidOut hplan
        exact ⟨below, hlayout.measured⟩
      checked := fun _ _ _ _ => hdraws.eq_of_render_checked
      stops_iff := fun _ _ _ => hdraws.render_checked_eq_none_iff
      goesOn := by
        intro scene theme d hroom hstops
        obtain ⟨plan, hplan, hnot⟩ := hdraws.render_checked_eq_none_iff.1 hstops
        exact hnot ((hlaidOut hplan).counted hroom) }

/-- **How each renderer ends.** Reading a diagnostic on a borrow never fails. Each renderer applies
to the diagnostics whose facts can be read, and else gives the reason of the reading. It draws all
facts, with one exception: it fails on an early drop if the borrower is used on a line that is not
in the document, and says which line. A program that is checked while it counts lines does the same,
or stops if there is no room behind the facts. -/
theorem follows_of_standard :
    EndsAs "E0373" EscapingClosure.rendering EscapingClosure.sketch EscapingClosure.read
      neverBarred ∧
    EndsAs "E0382" MovedValue.rendering MovedValue.sketch MovedValue.read neverBarred ∧
    EndsAs "E0499" SecondBorrow.rendering SecondBorrow.sketch SecondBorrow.read neverBarred ∧
    EndsAs "E0502" MixedBorrow.rendering MixedBorrow.sketch MixedBorrow.read neverBarred ∧
    EndsAs "E0503" UseDuringBorrow.rendering UseDuringBorrow.sketch UseDuringBorrow.read
      neverBarred ∧
    EndsAs "E0505" MoveDuringBorrow.rendering MoveDuringBorrow.sketch MoveDuringBorrow.read
      neverBarred ∧
    EndsAs "E0506" AssignDuringBorrow.rendering AssignDuringBorrow.sketch AssignDuringBorrow.read
      neverBarred ∧
    EndsAs "E0597" EarlyDrop.rendering EarlyDrop.sketch EarlyDrop.read EarlyDrop.Barred := by
  have hborrow := BorrowInUse.neverFails_read
  exact ⟨endsAs_of_draws 0 rfl rfl EscapingClosure.draws
      (Renderer.follows_ofSketch_map EscapingClosure.neverFails_read),
    endsAs_of_draws 1 rfl rfl MovedValue.draws
      (Renderer.follows_ofSketch_map MovedValue.neverFails_read),
    endsAs_of_draws 2 rfl rfl SecondBorrow.draws (Renderer.follows_ofSketch_map (hborrow _)),
    endsAs_of_draws 3 rfl rfl MixedBorrow.draws
      (Renderer.follows_ofSketch_map MixedBorrow.neverFails_read),
    endsAs_of_draws 4 rfl rfl UseDuringBorrow.draws (Renderer.follows_ofSketch_map (hborrow _)),
    endsAs_of_draws 5 rfl rfl MoveDuringBorrow.draws (Renderer.follows_ofSketch_map (hborrow _)),
    endsAs_of_draws 6 rfl rfl AssignDuringBorrow.draws (Renderer.follows_ofSketch_map (hborrow _)),
    endsAs_of_draws 7 rfl rfl EarlyDrop.draws EarlyDrop.follows_sketch⟩

end Handlers
end BorrowSketch
