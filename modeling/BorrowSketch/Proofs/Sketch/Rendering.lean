import BorrowSketch.Handlers
import BorrowSketch.Proofs.Document.Extent

/-! # Renderers draw sketches

A renderer draws straight in the colours of its theme and counts lines as its program does. A sketch
has roles for colours and counts without bound. What the renderer draws is the sketch in these
colours, as long as it counts to the numbers that the sketch needs.

* **`Sketch.Counted`** — the numbers that a sketch needs are counted to.
* **`Sketch.Drawn`**, **`Outcome.Drawn`** — what a program comes to that draws a sketch.
* **`Rendering.Draws`**, **`Rendering.Draws.render_cases`** — a program that draws the sketches of
  its diagnostics, and how it goes.
* **`Handlers.exists_draws_of_mem`** — the programs of all renderers in use. -/

namespace BorrowSketch

open Drawing

/-! ## What drawing comes to -/

namespace Sketch

/-- **The numbers that a sketch needs are counted to:** that of the line behind its last, and that
of its rows. -/
structure Counted (plan : Sketch) (counting : Counting) : Prop where
  /-- The line behind the last is counted to. -/
  stop : counting.count (plan.last + 1) = some (plan.last + 1)
  /-- The rows are counted. -/
  rows : counting.count plan.rows = some plan.rows

/-- **What a program comes to that draws a sketch.** -/
inductive Drawn (plan : Sketch) (config : Config) (theme : Theme) (counting : Counting) :
    Option Picture → Prop where
  /-- It draws the sketch, if it counts to the numbers that this needs. -/
  | counted (h : plan.Counted counting) :
    Drawn plan config theme counting (some (plan.picture config theme))
  /-- It draws something else, if it starts over on the way to these numbers. -/
  | wrapped {picture : Picture} (h : ¬ plan.Counted counting) (hcounting : counting = .wrapping) :
    Drawn plan config theme counting (some picture)
  /-- It stops, if it is checked on the way to these numbers. -/
  | stopped (h : ¬ plan.Counted counting) (hcounting : counting = .checked) :
    Drawn plan config theme counting none

variable {plan : Sketch} {config : Config} {theme : Theme} {counting : Counting}

/-- A program that counts on, and draws the sketch if it counts to a number that the sketch
needs. -/
theorem Drawn.count_bind {n : Nat} {next : Nat → Option Picture}
    (hneeded : plan.Counted counting → counting.count n = some n)
    (hgoesOn : counting ≠ .checked → ∀ m, (next m).isSome)
    (h : counting.count n = some n → plan.Drawn config theme counting (next n)) :
    plan.Drawn config theme counting ((counting.count n).bind next) := by
  by_cases hcount : counting.count n = some n
  · rw [hcount]
    exact h hcount
  · have hplan : ¬ plan.Counted counting := fun hplan => hcount (hneeded hplan)
    cases counting with
    | exact => exact absurd rfl hcount
    | checked =>
      have hnone : Counting.checked.count n = none := by
        rw [Counting.count_eq_iff] at hcount
        exact if_neg fun hlt => hcount (.inr hlt)
      rw [hnone]
      exact .stopped hplan rfl
    | wrapping =>
      obtain ⟨picture, hpicture⟩ := Option.isSome_iff_exists.1 (hgoesOn (by decide) (n % wordSize))
      have hnext : (Counting.wrapping.count n).bind next = some picture := hpicture
      rw [hnext]
      exact .wrapped hplan rfl

/-- Lines up to the last are counted to on the way. -/
theorem Counted.count_eq {n : Nat} (h : plan.Counted counting) (hle : n ≤ plan.last) :
    counting.count n = some n :=
  Counting.count_eq_of_le h.stop (Nat.le_succ_of_le hle)

end Sketch

/-- **What a program comes to that draws the sketch of a diagnostic,** if there is one. -/
inductive Outcome.Drawn (config : Config) (theme : Theme) (counting : Counting) :
    Outcome Sketch → Option (Outcome Picture) → Prop where
  /-- It draws the sketch. -/
  | success {plan : Sketch} {drawn : Option Picture} (h : plan.Drawn config theme counting drawn) :
    Outcome.Drawn config theme counting (.success plan) (drawn.map .success)
  /-- It does not apply, for the same reason. -/
  | inapplicable (context : Option String) :
    Outcome.Drawn config theme counting (.inapplicable context) (some (.inapplicable context))
  /-- It fails, with the same explanation. -/
  | failed (context : String) :
    Outcome.Drawn config theme counting (.failed context) (some (.failed context))

/-- **A program draws the sketches of its diagnostics,** for every document, measures and theme. -/
def Rendering.Draws (rendering : Rendering)
    (sketch : LineView → Diagnostic → Outcome Sketch) : Prop :=
  ∀ counting scene theme d, Outcome.Drawn scene.config theme counting (sketch scene.document d)
    (rendering.render counting scene theme d)

namespace Rendering

/-- A program that does not stop comes to what its renderer makes. -/
theorem render_eq_some (rendering : Rendering) {counting : Counting} (h : counting ≠ .checked)
    (scene : Scene) (theme : Theme) (d : Diagnostic) :
    rendering.render counting scene theme d = some (rendering.renderer counting h scene theme d) :=
  (Option.some_get _).symm

variable {α : Type} {read : Diagnostic → Outcome α}

/-- A program draws what it reads, if it draws the facts. -/
theorem draws_ofReading {next : Counting → Scene → Theme → α → Option (Outcome Picture)}
    {make : LineView → α → Outcome Sketch}
    (hgoesOn : ∀ {counting : Counting}, counting ≠ .checked →
      ∀ scene theme facts, (next counting scene theme facts).isSome)
    (h : ∀ counting scene theme facts, Outcome.Drawn scene.config theme counting
      (make scene.document facts) (next counting scene theme facts)) :
    (ofReading read next hgoesOn).Draws fun document d => (read d).bind (make document) := by
  intro counting scene theme d
  show Outcome.Drawn _ _ _ ((read d).bind _) ((read d).bind? _)
  cases read d with
  | success facts => exact h counting scene theme facts
  | inapplicable context => exact .inapplicable context
  | failed context => exact .failed context

/-- The same, where there is nothing but a drawing. -/
theorem draws_ofDrawing {draw : Counting → Scene → Theme → α → Option Picture}
    {make : LineView → α → Sketch}
    (hgoesOn : ∀ {counting : Counting}, counting ≠ .checked →
      ∀ scene theme facts, (draw counting scene theme facts).isSome)
    (h : ∀ counting scene theme facts, (make scene.document facts).Drawn scene.config theme counting
      (draw counting scene theme facts)) :
    (ofDrawing read draw hgoesOn).Draws fun document d => (read d).map (make document) := by
  intro counting scene theme d
  show Outcome.Drawn _ _ _ ((read d).map _) ((read d).bind? _)
  cases read d with
  | success facts => exact .success (h counting scene theme facts)
  | inapplicable context => exact .inapplicable context
  | failed context => exact .failed context

namespace Draws

variable {rendering : Rendering} {sketch : LineView → Diagnostic → Outcome Sketch}
  {counting : Counting} {scene : Scene} {theme : Theme} {d : Diagnostic}

/-- **How a program goes that draws sketches.** Where there is a sketch, it comes to what drawing it
comes to; where there is none, it says why. -/
theorem render_cases (h : rendering.Draws sketch) (counting : Counting) (scene : Scene)
    (theme : Theme) (d : Diagnostic) :
    (∃ plan drawn, sketch scene.document d = .success plan ∧
      plan.Drawn scene.config theme counting drawn ∧
      rendering.render counting scene theme d = drawn.map .success) ∨
    (∀ plan, sketch scene.document d ≠ .success plan) ∧
      rendering.render counting scene theme d = some (Renderer.ofSketch sketch scene theme d) := by
  have hdrawn := h counting scene theme d
  rw [Renderer.ofSketch]
  generalize sketch scene.document d = planned at hdrawn ⊢
  generalize rendering.render counting scene theme d = rendered at hdrawn ⊢
  cases hdrawn with
  | success hdrawn => exact .inl ⟨_, _, rfl, hdrawn, rfl⟩
  | inapplicable context => exact .inr ⟨nofun, rfl⟩
  | failed context => exact .inr ⟨nofun, rfl⟩

/-- A program that counts without bound draws the sketches themselves. -/
theorem render_exact (h : rendering.Draws sketch) (scene : Scene) (theme : Theme)
    (d : Diagnostic) :
    rendering.render .exact scene theme d = some (Renderer.ofSketch sketch scene theme d) := by
  rcases h.render_cases .exact scene theme d with ⟨plan, drawn, hplan, hdrawn, hrender⟩ |
    ⟨-, hrender⟩
  · cases hdrawn with
    | counted =>
      rw [hrender, Renderer.ofSketch, hplan]
      rfl
    | wrapped _ hcounting => cases hcounting
    | stopped _ hcounting => cases hcounting
  · exact hrender

/-- **The renderer of a program that counts without bound** draws the sketches. -/
theorem renderer_exact (h : rendering.Draws sketch) (hexact : Counting.exact ≠ .checked) :
    rendering.renderer .exact hexact = Renderer.ofSketch sketch := by
  funext scene theme d
  apply Option.some.inj
  rw [← h.render_exact, rendering.render_eq_some hexact]

/-- A program that counts to the numbers that a sketch needs draws it. -/
theorem render_of_counted {plan : Sketch} (h : rendering.Draws sketch)
    (hplan : sketch scene.document d = .success plan) (hcounted : plan.Counted counting) :
    rendering.render counting scene theme d =
      some (.success (plan.picture scene.config theme)) := by
  rcases h.render_cases counting scene theme d with ⟨other, drawn, hother, hdrawn, hrender⟩ |
    ⟨hnone, -⟩
  · obtain rfl := Outcome.success.inj (hplan.symm.trans hother)
    rw [hrender]
    cases hdrawn with
    | counted => rfl
    | wrapped hnot => exact absurd hcounted hnot
    | stopped hnot => exact absurd hcounted hnot
  · exact absurd hplan (hnone plan)

/-- **A picture is that of a sketch,** unless the program starts over while it counts. -/
theorem exists_of_success {picture : Picture} (h : rendering.Draws sketch)
    (hpicture : rendering.render counting scene theme d = some (.success picture)) :
    ∃ plan, sketch scene.document d = .success plan ∧
      ((counting = .wrapping → plan.Counted .wrapping) →
        picture = plan.picture scene.config theme) := by
  rcases h.render_cases counting scene theme d with ⟨plan, drawn, hplan, hdrawn, hrender⟩ |
    ⟨hnone, hrender⟩
  · refine ⟨plan, hplan, fun hcounted => ?_⟩
    rw [hrender] at hpicture
    cases hdrawn with
    | counted => exact (Outcome.success.inj (Option.some.inj hpicture)).symm
    | wrapped hnot hcounting => exact absurd (hcounting ▸ hcounted hcounting) hnot
    | stopped => cases hpicture
  · have houtcome := Option.some.inj (hrender.symm.trans hpicture)
    obtain ⟨plan, hplan, -⟩ := Outcome.map_eq_success_iff.1 houtcome
    exact absurd hplan (hnone plan)

/-- **A checked program stops** exactly on sketches that need numbers it does not count to. -/
theorem render_checked_eq_none_iff (h : rendering.Draws sketch) :
    rendering.render .checked scene theme d = none ↔
      ∃ plan, sketch scene.document d = .success plan ∧ ¬ plan.Counted .checked := by
  rcases h.render_cases .checked scene theme d with ⟨plan, drawn, hplan, hdrawn, hrender⟩ |
    ⟨hnone, hrender⟩
  · rw [hrender, hplan]
    cases hdrawn with
    | counted hcounted => simp [hcounted]
    | wrapped _ hcounting => cases hcounting
    | stopped hnot => simp [hnot]
  · simp [hrender, hnone]

/-- Where a checked program does not stop, it comes to what it would without bound. -/
theorem eq_of_render_checked {outcome : Outcome Picture} (h : rendering.Draws sketch)
    (houtcome : rendering.render .checked scene theme d = some outcome) :
    outcome = Renderer.ofSketch sketch scene theme d := by
  rcases h.render_cases .checked scene theme d with ⟨plan, drawn, hplan, hdrawn, hrender⟩ |
    ⟨-, hrender⟩
  · rw [hrender] at houtcome
    cases hdrawn with
    | counted =>
      rw [Renderer.ofSketch, hplan]
      exact (Option.some.inj houtcome).symm
    | wrapped _ hcounting => cases hcounting
    | stopped => cases houtcome
  · exact Option.some.inj (houtcome.symm.trans hrender)

end Draws
end Rendering

/-! ## Shapes of drawings -/

/-- More marks are drawn into a picture as they are added to its sketch. -/
theorem Sketch.Drawn.add {plan : Sketch} {config : Config} {theme : Theme} {counting : Counting}
    {picture? : Option Picture} {marks : List (Mark Role)} {drawn : List (Mark String)}
    (h : plan.Drawn config theme counting picture?)
    (hmarks : drawn = marks.map (Mark.recolor (config.colors theme).of)) :
    Sketch.Drawn { plan with marks := plan.marks ++ marks } config theme counting
      (picture?.map fun picture => picture.add config drawn) := by
  cases h with
  | counted hcounted =>
    have hpicture : (plan.picture config theme).add config drawn =
        Sketch.picture config theme { plan with marks := plan.marks ++ marks } := by
      simp only [Picture.add, picture, image, Group.marks, hmarks, List.map_append,
        List.flatMap_append, List.append_assoc]
    rw [Option.map_some, hpicture]
    exact .counted ⟨hcounted.stop, hcounted.rows⟩
  | wrapped hnot hcounting => exact .wrapped (fun h => hnot ⟨h.stop, h.rows⟩) hcounting
  | stopped hnot hcounting => exact .stopped (fun h => hnot ⟨h.stop, h.rows⟩) hcounting

namespace Scene

variable {counting : Counting} {theme : Theme}

/-- **A drawing beside lines** is that of the sketch around them. -/
theorem drawn_draw (scene : Scene) {lines : List Nat} {below more : Nat}
    {marks : List (Mark Role)} {drawn : List (Mark String)} (hmore : more = 1 + below)
    (hmarks : drawn = marks.map (Mark.recolor (scene.config.colors theme).of)) :
    (Sketch.around scene.document lines below marks).Drawn scene.config theme counting
      (scene.draw counting lines more drawn) := by
  obtain rfl := hmarks
  obtain rfl := hmore
  have hsteps : ∀ marks, scene.draw counting lines (1 + below) marks =
      (counting.count ((extent lines).2 + 1)).bind fun stop =>
        (counting.count ((extent lines).2 - (extent lines).1 + 1 + below)).bind fun rows =>
          some (.besideLines scene.config (extent lines).1
            (scene.document.widest (linesBetween (extent lines).1 stop)
              - scene.document.width (extent lines).1) rows marks) := by
    intro marks
    rw [Nat.add_assoc]
    simp only [draw, shift?, Option.bind_eq_bind, Option.bind_assoc, Option.pure_def,
      Option.bind_some]
  rw [hsteps]
  refine .count_bind (fun h => h.stop) ?_ fun hstop => ?_
  · intro h stop
    obtain ⟨rows, hrows⟩ := Counting.exists_count h _
    rw [hrows]
    rfl
  · refine .count_bind (fun h => h.rows) (fun _ _ => rfl) fun hrows => ?_
    exact .counted ⟨hstop, hrows⟩

/-- **Two pointers and a tip** on the line behind the second. -/
theorem drawn_drawPointers (scene : Scene) {first second : Nat}
    {firstText secondText tip : String} :
    (Sketch.around scene.document [first, second, second + 1] 0
        [.pointer ⟨first, first, 0.5, firstText, .info⟩,
          .pointer ⟨second, second, 0.5, secondText, .error⟩,
          .tip (second + 1) tip .tip]).Drawn scene.config theme counting
      (scene.drawPointers counting theme first second firstText secondText tip) := by
  refine .count_bind (fun h => h.count_eq (le_extent_snd (by simp))) ?_ fun _ => ?_
  · exact fun h _ => scene.isSome_draw h _ _ _
  · exact scene.drawn_draw rfl rfl

end Scene

/-- **A clash.** -/
theorem Clash.drawn_draw {counting : Counting} {theme : Theme} (scene : Scene) (clash : Clash) :
    (clash.sketch scene.document).Drawn scene.config theme counting
      (clash.draw counting scene theme) := by
  have hdrawn : (clash.sketch scene.document).Drawn scene.config theme counting
      (scene.draw counting clash.lines 2
        (clash.marks.map (Mark.recolor (scene.config.colors theme).of))) :=
    scene.drawn_draw rfl rfl
  rw [draw, pointLabelLine?]
  by_cases hpoint : clash.point = clash.first
  · have hlabel : clash.pointLabelLine = clash.point + 1 := if_pos hpoint
    rw [lines, marks, hlabel] at hdrawn
    rw [if_pos hpoint]
    refine .count_bind (fun h => h.count_eq ?_) ?_ fun _ => hdrawn
    · exact le_extent_snd (by simp [lines, hlabel])
    · exact fun h _ => scene.isSome_draw h _ _ _
  · have hlabel : clash.pointLabelLine = clash.point := if_neg hpoint
    rw [lines, marks, hlabel] at hdrawn
    rw [if_neg hpoint]
    exact hdrawn

/-! ## The renderers of each code -/

/-- **A program that draws a clash** of the facts that it reads. -/
theorem Rendering.draws_ofClash {α : Type} (read : Diagnostic → Outcome α) (clash : α → Clash) :
    (ofClash read clash).Draws fun document d =>
      (read d).map fun facts => (clash facts).sketch document :=
  draws_ofDrawing (fun h scene theme facts => (clash facts).isSome_draw h scene theme)
    fun _ scene _ facts => (clash facts).drawn_draw scene

theorem UseDuringBorrow.draws : rendering.Draws sketch := Rendering.draws_ofClash read clash

theorem MoveDuringBorrow.draws : rendering.Draws sketch := Rendering.draws_ofClash read clash

theorem AssignDuringBorrow.draws : rendering.Draws sketch := Rendering.draws_ofClash read clash

theorem MixedBorrow.draws : rendering.Draws sketch := Rendering.draws_ofClash read clash

theorem SecondBorrow.draws : rendering.Draws sketch := by
  refine Rendering.draws_ofDrawing isSome_draw fun counting scene theme facts => ?_
  rw [draw]
  split
  · exact scene.drawn_drawPointers
  · exact (clash facts).drawn_draw scene

theorem EscapingClosure.draws : rendering.Draws sketch := by
  refine Rendering.draws_ofDrawing isSome_draw fun counting scene theme facts => ?_
  have hfirst : (extent [facts.line, facts.line + 1]).1 = facts.line :=
    Nat.min_eq_left (Nat.le_succ _)
  have hlast : (extent [facts.line, facts.line + 1]).2 = facts.line + 1 :=
    Nat.max_eq_right (Nat.le_succ _)
  simp only [Sketch.around, hfirst, hlast, Nat.add_sub_cancel_left]
  refine .count_bind (fun h => h.count_eq (Nat.le_refl _)) (fun h next => ?_) fun _ => ?_
  · obtain ⟨stop, hstop⟩ := Counting.exists_count h (next + 1)
    simp [Scene.shift?, hstop]
  · simp only [Scene.shift?, Option.bind_eq_bind, Option.bind_assoc, Option.pure_def,
      Option.bind_some]
    refine .count_bind (fun h => h.stop) (fun _ _ => rfl) fun hstop => ?_
    -- there are two rows whatever the line is, and these are not counted
    have hrows : counting.count 2 = some 2 := Counting.count_eq_iff.2 (.inr (by decide))
    exact .counted ⟨hstop, hrows⟩

theorem MovedValue.draws : rendering.Draws sketch := by
  refine Rendering.draws_ofDrawing isSome_draw fun counting scene theme facts => ?_
  rw [draw]
  cases facts.defined with
  | none => exact scene.drawn_drawPointers
  | some defined =>
    have hclash : ((facts.clash defined (facts.used + 1)).sketch scene.document).Drawn scene.config
        theme counting ((facts.clash defined (facts.used + 1)).draw counting scene theme) :=
      Clash.drawn_draw scene _
    refine .count_bind (fun h => h.count_eq (le_extent_snd ?_)) (fun h tipLine => ?_) fun _ => ?_
    · simp [clash, Clash.lines]
    · obtain ⟨picture, hpicture⟩ := Option.isSome_iff_exists.1
        (Clash.isSome_draw h scene theme (facts.clash defined tipLine))
      simp [hpicture]
    · rw [bind_pure_comp]
      exact hclash.add rfl

theorem EarlyDrop.draws : rendering.Draws sketch := by
  refine Rendering.draws_ofReading isSome_draw fun counting scene theme facts => ?_
  rw [draw]
  cases facts.later with
  | used borrower =>
    show Outcome.Drawn _ _ _ (usedSketch scene.document facts borrower)
      (facts.drawUsed counting scene theme borrower)
    rw [usedSketch, drawUsed]
    cases scene.document.slice? borrower.stop.line borrower.start.character
        borrower.stop.character with
    | none => exact .failed _
    | some user =>
      refine .success (.count_bind (fun h => h.count_eq (le_extent_snd ?_)) ?_ fun _ => ?_)
      · simp [clash, Clash.lines]
      · exact fun h _ => Clash.isSome_draw h scene theme _
      · exact Clash.drawn_draw scene _
  | mightUse line message =>
    refine .success (.count_bind (fun h => h.count_eq (le_extent_snd (by simp))) ?_ fun _ => ?_)
    · exact fun h _ => scene.isSome_draw h _ _ _
    · exact scene.drawn_draw rfl rfl
  | forever line => exact .success (scene.drawn_draw rfl rfl)

/-- **The programs of all renderers in use** draw the sketches of their codes. -/
theorem Handlers.exists_draws_of_mem {code : String} {rendering : Rendering}
    (h : (code, rendering) ∈ standardRenderings) :
    ∃ sketch, (code, sketch) ∈ standardSketches ∧ rendering.Draws sketch := by
  simp only [standardRenderings, List.mem_cons, Prod.mk.injEq, List.not_mem_nil, or_false] at h
  rcases h with ⟨rfl, rfl⟩ | ⟨rfl, rfl⟩ | ⟨rfl, rfl⟩ | ⟨rfl, rfl⟩ | ⟨rfl, rfl⟩ | ⟨rfl, rfl⟩ |
    ⟨rfl, rfl⟩ | ⟨rfl, rfl⟩
  · exact ⟨_, by simp [standardSketches], EscapingClosure.draws⟩
  · exact ⟨_, by simp [standardSketches], MovedValue.draws⟩
  · exact ⟨_, by simp [standardSketches], SecondBorrow.draws⟩
  · exact ⟨_, by simp [standardSketches], MixedBorrow.draws⟩
  · exact ⟨_, by simp [standardSketches], UseDuringBorrow.draws⟩
  · exact ⟨_, by simp [standardSketches], MoveDuringBorrow.draws⟩
  · exact ⟨_, by simp [standardSketches], AssignDuringBorrow.draws⟩
  · exact ⟨_, by simp [standardSketches], EarlyDrop.draws⟩

end BorrowSketch
