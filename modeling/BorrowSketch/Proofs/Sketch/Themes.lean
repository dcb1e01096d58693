import BorrowSketch.Illustration
import BorrowSketch.Proofs.Handlers.Registries
import Mathlib.Data.List.Forall2

/-! # Pictures in two themes

A renderer takes the colours of its theme and draws with them. The pictures that it makes of a
diagnostic for a dark and for a light theme differ in nothing but the colours of what is drawn.

* **`Drawing.Node.Twins`**, **`Drawing.Mark.Twins`**, **`Picture.Twins`** — two drawings that differ
  in their colours alone.
* **`Outcome.Both`** — two outcomes of one kind.
* **`Scene.twins_draw`**, **`Clash.twins_draw`** — the shapes of drawings.
* **`Rendering.IgnoresTheme`** — a program for which two themes differ in the colours alone.
* **`Handlers.twins_of_standard`** — the pictures of every diagnostic. -/

namespace BorrowSketch

/-! ## Drawings that differ in colour -/

namespace Drawing.Node

/-- The colour of a node. -/
def color : Node → String
  | path _ (.stroke color) => color
  | path _ (.fill color) => color
  | text _ _ fill _ _ => fill

/-- The node in another colour. -/
def withColor (color : String) : Node → Node
  | path data (.stroke _) => path data (.stroke color)
  | path data (.fill _) => path data (.fill color)
  | text x y _ lines lineHeight => text x y color lines lineHeight

/-- **Two nodes that differ in colour alone.** Their colours stand for one role in two sets of
colours. -/
def Twins (first second : Colors) (a b : Node) : Prop :=
  ∃ role, a.color = first.of role ∧ b = a.withColor (second.of role)

variable (first second : Colors) (role : Role)

/-- One path in the colours of one role. -/
theorem twins_stroke (data : String) :
    Twins first second (path data (.stroke (first.of role)))
      (path data (.stroke (second.of role))) :=
  ⟨role, rfl, rfl⟩

/-- One text in the colours of one role. -/
theorem twins_text (x y : Float) (lines : List String) (lineHeight : Float) :
    Twins first second (text x y (first.of role) lines lineHeight)
      (text x y (second.of role) lines lineHeight) :=
  ⟨role, rfl, rfl⟩

end Drawing.Node

open Drawing

/-- **What is drawn for a mark** in two sets of colours differs in colour alone. -/
theorem Drawing.Mark.twins_nodes (config : Config) (baseline : Nat) (first second : Colors)
    (mark : Mark Role) :
    List.Forall₂ (Node.Twins first second) ((mark.recolor first.of).nodes config baseline)
      ((mark.recolor second.of).nodes config baseline) := by
  have hpath := fun data role => Node.twins_stroke first second role data
  have htext := fun x y lines lineHeight role =>
    Node.twins_text first second role x y lines lineHeight
  cases mark with
  | label line x text role => exact .cons (htext _ _ _ _ role) .nil
  | outline data role => exact .cons (hpath data role) .nil
  | descent line role => exact .cons (hpath _ role) .nil
  | pointer p => exact .cons (hpath _ p.color) (.cons (htext _ _ _ _ p.color) .nil)
  | bracket b =>
    -- each of the arrows may be there or not
    have harrow : ∀ (there : Bool) (data : String),
        List.Forall₂ (Node.Twins first second)
          (if there then [.path data (.stroke (first.of b.color))] else [])
          (if there then [.path data (.stroke (second.of b.color))] else []) := by
      intro there data
      cases there with
      | false => exact .nil
      | true => exact .cons (hpath data b.color) .nil
    exact .cons (hpath _ b.color)
      (List.rel_append (List.rel_append (List.rel_append (harrow _ _) (harrow _ _)) (harrow _ _))
        (.cons (htext _ _ _ _ b.color) .nil))

/-- **Two marks that differ in colour alone.** They are one mark in two sets of colours. -/
def Drawing.Mark.Twins (first second : Colors) (a b : Mark String) : Prop :=
  ∃ mark : Mark Role, a = mark.recolor first.of ∧ b = mark.recolor second.of

/-! ## Pictures -/

/-- **Two pictures that differ in colour alone:** the same size at the same line, the same
attributes, and the same nodes in colours of the same roles. -/
structure Picture.Twins (first second : Colors) (a b : Picture) : Prop where
  /-- They are attached to one line. -/
  line : a.line = b.line
  /-- They are equally wide. -/
  width : a.image.width = b.image.width
  /-- They are equally high. -/
  height : a.image.height = b.image.height
  /-- Their groups have the same attributes. -/
  attributes : a.image.canvas.attributes = b.image.canvas.attributes
  /-- Their nodes differ in colour alone. -/
  nodes : List.Forall₂ (Node.Twins first second) a.image.canvas.nodes b.image.canvas.nodes

section Marks

variable {config : Config} {first second : Colors} {marks others : List (Mark String)}

/-- What is drawn for marks that differ in colour alone. -/
theorem Drawing.Mark.twins_flatMap_nodes (baseline : Nat)
    (h : List.Forall₂ (Mark.Twins first second) marks others) :
    List.Forall₂ (Node.Twins first second) (marks.flatMap (Mark.nodes config baseline))
      (others.flatMap (Mark.nodes config baseline)) := by
  refine List.rel_flatMap h ?_
  rintro a b ⟨mark, rfl, rfl⟩
  exact mark.twins_nodes config baseline first second

/-- Beside the same rows. -/
theorem Picture.twins_besideLines {top shift rows : Nat}
    (h : List.Forall₂ (Mark.Twins first second) marks others) :
    Twins first second (besideLines config top shift rows marks)
      (besideLines config top shift rows others) where
  line := rfl
  width := rfl
  height := rfl
  attributes := rfl
  -- both begin with what the blank image has, which is nothing
  nodes := List.rel_append .nil (Mark.twins_flatMap_nodes top h)

/-- With more marks in pictures that differ in colour alone. -/
theorem Picture.Twins.add {a b : Picture} (h : Twins first second a b)
    (hmarks : List.Forall₂ (Mark.Twins first second) marks others) :
    Twins first second (a.add config marks) (b.add config others) where
  line := h.line
  width := h.width
  height := h.height
  attributes := h.attributes
  nodes := by
    show List.Forall₂ _ (_ ++ marks.flatMap (Mark.nodes config a.line))
      (_ ++ others.flatMap (Mark.nodes config b.line))
    rw [h.line]
    exact List.rel_append h.nodes (Mark.twins_flatMap_nodes b.line hmarks)

end Marks

/-! ## Outcomes -/

namespace Outcome

variable {α β : Type} {related : α → β → Prop}

/-- **Two outcomes of one kind.** Both succeed, with values that are related, or both do not, for
the same reason. -/
inductive Both (related : α → β → Prop) : Outcome α → Outcome β → Prop where
  /-- Both produced a value. -/
  | success {a : α} {b : β} (h : related a b) : Both related (.success a) (.success b)
  /-- Neither understands the diagnostic. -/
  | inapplicable (context : Option String) :
    Both related (.inapplicable context) (.inapplicable context)
  /-- Both failed. -/
  | failed (context : String) : Both related (.failed context) (.failed context)

/-- An outcome is of its own kind. -/
theorem Both.refl {related : α → α → Prop} (h : ∀ a, related a a) (outcome : Outcome α) :
    Both related outcome outcome := by
  cases outcome with
  | success a => exact .success (h a)
  | inapplicable context => exact .inapplicable context
  | failed context => exact .failed context

variable {a : Outcome α} {b : Outcome β}

theorem Both.isSuccess_eq (h : Both related a b) : a.isSuccess = b.isSuccess := by
  cases h <;> rfl

theorem Both.inapplicable_iff (h : Both related a b) {context : Option String} :
    a = .inapplicable context ↔ b = .inapplicable context := by
  cases h <;> simp

theorem Both.failed_iff (h : Both related a b) {context : String} :
    a = .failed context ↔ b = .failed context := by
  cases h <;> simp

end Outcome

/-! ## Steps of a program -/

section Steps

variable {α β γ : Type} {related : α → β → Prop}

/-- Two programs that take the same step first. -/
theorem rel_bind (step : Option γ) {next : γ → Option α} {other : γ → Option β}
    (h : ∀ c, Option.Rel related (next c) (other c)) :
    Option.Rel related (step.bind next) (step.bind other) := by
  cases step with
  | none => exact .none
  | some c => exact h c

/-- Two programs that go on alike from steps that are related. -/
theorem rel_bind_of_rel {δ ε : Type} {before : δ → ε → Prop} {step : Option δ} {step' : Option ε}
    {next : δ → Option α} {other : ε → Option β} (hstep : Option.Rel before step step')
    (h : ∀ c c', before c c' → Option.Rel related (next c) (other c')) :
    Option.Rel related (step.bind next) (step'.bind other) := by
  cases hstep with
  | none => exact .none
  | some hbefore => exact h _ _ hbefore

/-- Two programs that succeed with related values. -/
theorem rel_map_success {drawn : Option α} {other : Option β} (h : Option.Rel related drawn other) :
    Option.Rel (Outcome.Both related) (drawn.map .success) (other.map .success) := by
  cases h with
  | none => exact .none
  | some hrelated => exact .some (.success hrelated)

end Steps

/-! ## Shapes of drawings -/

variable {counting : Counting} {scene : Scene} {first second : Theme}

/-- **A drawing beside lines,** of marks that differ in colour alone. -/
theorem Scene.twins_draw {colors others : Colors} {lines : List Nat} {more : Nat}
    {marks drawn : List (Mark String)}
    (h : List.Forall₂ (Mark.Twins colors others) marks drawn) :
    Option.Rel (Picture.Twins colors others) (scene.draw counting lines more marks)
      (scene.draw counting lines more drawn) :=
  rel_bind _ fun _ => rel_bind _ fun _ => .some (Picture.twins_besideLines h)

/-- Two pointers, the first in the colour of a fact, the second in that of the error, and a tip. -/
theorem Scene.twins_drawPointers {line other : Nat} {text otherText tip : String} :
    Option.Rel (Picture.Twins (scene.config.colors first) (scene.config.colors second))
      (scene.drawPointers counting first line other text otherText tip)
      (scene.drawPointers counting second line other text otherText tip) :=
  rel_bind _ fun tipLine => Scene.twins_draw <|
    .cons ⟨.pointer ⟨line, line, 0.5, text, .info⟩, rfl, rfl⟩ <|
    .cons ⟨.pointer ⟨other, other, 0.5, otherText, .error⟩, rfl, rfl⟩ <|
    .cons ⟨.tip tipLine tip .tip, rfl, rfl⟩ .nil

/-- **A clash:** the region in the colour of a fact, the point in that of the error, and a tip. -/
theorem Clash.twins_draw (clash : Clash) :
    Option.Rel (Picture.Twins (scene.config.colors first) (scene.config.colors second))
      (clash.draw counting scene first) (clash.draw counting scene second) :=
  rel_bind _ fun labelLine => Scene.twins_draw <|
    .cons ⟨.bracket ⟨clash.first, clash.last, clash.first, clash.regionText, .info, .standard⟩,
      rfl, rfl⟩ <|
    .cons ⟨.pointer ⟨clash.point, labelLine, 0.5, clash.pointText, .error⟩, rfl, rfl⟩ <|
    .cons ⟨.tip clash.tipLine clash.tip .tip, rfl, rfl⟩ .nil

/-! ## The renderers of each code -/

/-- **A program ignores the theme but for its colours.** For any two themes it stops at both or at
none, what it comes to is of one kind, with the same context where there is no picture; and pictures
differ in colour alone. -/
def Rendering.IgnoresTheme (rendering : Rendering) : Prop :=
  ∀ counting scene first second d,
    Option.Rel
      (Outcome.Both (Picture.Twins (scene.config.colors first) (scene.config.colors second)))
      (rendering.render counting scene first d) (rendering.render counting scene second d)

namespace Rendering

variable {α : Type} {read : Diagnostic → Outcome α}

/-- Facts are read for all themes; what is made of them may only differ in colour. -/
theorem ignoresTheme_ofReading {next : Counting → Scene → Theme → α → Option (Outcome Picture)}
    (hgoesOn : ∀ {counting : Counting}, counting ≠ .checked →
      ∀ scene theme facts, (next counting scene theme facts).isSome)
    (h : ∀ counting scene first second facts, Option.Rel
      (Outcome.Both (Picture.Twins (scene.config.colors first) (scene.config.colors second)))
      (next counting scene first facts) (next counting scene second facts)) :
    (ofReading read next hgoesOn).IgnoresTheme := by
  intro counting scene first second d
  show Option.Rel _ ((read d).bind? _) ((read d).bind? _)
  cases read d with
  | success facts => exact h counting scene first second facts
  | inapplicable context => exact .some (.inapplicable context)
  | failed context => exact .some (.failed context)

/-- The same, where there is nothing but a drawing. -/
theorem ignoresTheme_ofDrawing {draw : Counting → Scene → Theme → α → Option Picture}
    (hgoesOn : ∀ {counting : Counting}, counting ≠ .checked →
      ∀ scene theme facts, (draw counting scene theme facts).isSome)
    (h : ∀ counting scene first second facts, Option.Rel
      (Picture.Twins (scene.config.colors first) (scene.config.colors second))
      (draw counting scene first facts) (draw counting scene second facts)) :
    (ofDrawing read draw hgoesOn).IgnoresTheme := by
  have hmapped : ∀ {counting : Counting}, counting ≠ .checked → ∀ scene theme facts,
      ((draw counting scene theme facts).map Outcome.success).isSome := by
    intro counting hcounting scene theme facts
    rw [Option.isSome_map]
    exact hgoesOn hcounting scene theme facts
  exact ignoresTheme_ofReading hmapped fun counting scene first second facts =>
    rel_map_success (h counting scene first second facts)

/-- A clash of the facts. -/
theorem ignoresTheme_ofClash (read : Diagnostic → Outcome α) (clash : α → Clash) :
    (ofClash read clash).IgnoresTheme :=
  ignoresTheme_ofDrawing (fun h scene theme facts => (clash facts).isSome_draw h scene theme)
    fun _ _ _ _ facts => (clash facts).twins_draw

end Rendering

theorem EscapingClosure.ignoresTheme : rendering.IgnoresTheme :=
  Rendering.ignoresTheme_ofDrawing isSome_draw fun _ _ _ _ facts =>
    rel_bind _ fun next => rel_bind _ fun _ => .some <| Picture.twins_besideLines <|
      .cons ⟨.descent facts.line .error, rfl, rfl⟩ <|
      .cons ⟨.tip facts.line facts.borrowText .info, rfl, rfl⟩ <|
      .cons ⟨.tip next needText .error, rfl, rfl⟩ .nil

theorem SecondBorrow.ignoresTheme : rendering.IgnoresTheme := by
  refine Rendering.ignoresTheme_ofDrawing isSome_draw fun counting scene first second facts => ?_
  rw [draw, draw]
  split
  · exact Scene.twins_drawPointers
  · exact (clash facts).twins_draw

theorem MovedValue.ignoresTheme : rendering.IgnoresTheme := by
  refine Rendering.ignoresTheme_ofDrawing isSome_draw fun counting scene first second facts => ?_
  rw [draw, draw]
  cases facts.defined with
  | none => exact Scene.twins_drawPointers
  | some defined =>
    -- the move is in a colour of its own, in the picture of the clash
    exact rel_bind _ fun tipLine => rel_bind_of_rel (facts.clash defined tipLine).twins_draw
      fun _ _ htwins => .some <| htwins.add <|
        .cons ⟨.pointer ⟨facts.moved, facts.moved, 1, facts.moveText, .aside⟩, rfl, rfl⟩ .nil

theorem EarlyDrop.ignoresTheme : rendering.IgnoresTheme := by
  refine Rendering.ignoresTheme_ofReading isSome_draw fun counting scene first second facts => ?_
  rw [draw, draw]
  cases facts.later with
  | used borrower =>
    show Option.Rel _ (facts.drawUsed counting scene first borrower)
      (facts.drawUsed counting scene second borrower)
    rw [drawUsed, drawUsed]
    -- whether there is a name depends on the document alone
    cases scene.document.slice? borrower.stop.line borrower.start.character
        borrower.stop.character with
    | none => exact .some (.failed _)
    | some user => exact rel_map_success (rel_bind _ fun _ => Clash.twins_draw _)
  | mightUse line message =>
    exact rel_map_success <| rel_bind _ fun _ => Scene.twins_draw <|
      .cons ⟨.bracket ⟨facts.borrowed, facts.dropped, facts.dropped, facts.validText, .info,
        validEnds⟩, rfl, rfl⟩ <|
      .cons ⟨.pointer ⟨line, line, 0.5, message, .error⟩, rfl, rfl⟩ .nil
  | forever line =>
    apply rel_map_success
    rw [drawForever, drawForever]
    exact Scene.twins_draw <|
      .cons ⟨.pointer ⟨facts.dropped, facts.dropped, 0.5, facts.endText, .info⟩, rfl, rfl⟩ <|
      .cons ⟨.pointer ⟨line, line, 0.5, facts.foreverText, .error⟩, rfl, rfl⟩ .nil

/-- **The programs of all renderers in use** ignore the theme but for its colours. -/
theorem Handlers.ignoresTheme_of_mem {code : String} {rendering : Rendering}
    (h : (code, rendering) ∈ standardRenderings) : rendering.IgnoresTheme := by
  simp only [standardRenderings, List.mem_cons, Prod.mk.injEq, List.not_mem_nil, or_false] at h
  rcases h with ⟨rfl, rfl⟩ | ⟨rfl, rfl⟩ | ⟨rfl, rfl⟩ | ⟨rfl, rfl⟩ | ⟨rfl, rfl⟩ | ⟨rfl, rfl⟩ |
    ⟨rfl, rfl⟩ | ⟨rfl, rfl⟩
  · exact EscapingClosure.ignoresTheme
  · exact MovedValue.ignoresTheme
  · exact SecondBorrow.ignoresTheme
  · exact Rendering.ignoresTheme_ofClash MixedBorrow.read MixedBorrow.clash
  · exact Rendering.ignoresTheme_ofClash UseDuringBorrow.read UseDuringBorrow.clash
  · exact Rendering.ignoresTheme_ofClash MoveDuringBorrow.read MoveDuringBorrow.clash
  · exact Rendering.ignoresTheme_ofClash AssignDuringBorrow.read AssignDuringBorrow.clash
  · exact EarlyDrop.ignoresTheme

/-- The decoration of a diagnostic is made of both pictures of it. -/
theorem illustrate_eq {renderers : Registry Renderer} {renderer : Renderer} {code : String}
    (scene : Scene) {d : Diagnostic} (hcode : d.codeName? = some code)
    (hrenderer : renderers.get? code = some renderer) :
    illustrate renderers scene d =
      (renderer scene .dark d).bind fun dark =>
        (renderer scene .light d).map fun light => decorationOf dark light := by
  simp only [illustrate, hcode, hrenderer]

namespace Handlers

/-- **The pictures of every diagnostic in both themes.** For each of the errors about borrows there
is a program that draws. Whatever the document, the measures, the colours and the diagnostic, and
however lines are counted, what it makes for the dark and for the light theme is of one kind, with
the same context where there is no picture; and pictures differ in nothing but the colours of their
nodes, which stand for the same roles. So a diagnostic with the code has a decoration exactly if it
has a dark picture, and the line that it is put at is that of both of its images. -/
theorem twins_of_standard (code : String) (h : code ∈ borrowCodes) (scene : Scene)
    (d : Diagnostic) :
    ∃ rendering, (code, rendering) ∈ standardRenderings ∧
      (∀ counting, Option.Rel
        (Outcome.Both (Picture.Twins scene.config.palette.dark scene.config.palette.light))
        (rendering.render counting scene .dark d) (rendering.render counting scene .light d)) ∧
      ∀ counting (hcounting : counting ≠ .checked),
        let renderer := rendering.renderer counting hcounting
        let renderers := renderersBy counting hcounting
        renderers.get? code = some renderer ∧
        Outcome.Both (Picture.Twins scene.config.palette.dark scene.config.palette.light)
          (renderer scene .dark d) (renderer scene .light d) ∧
        (d.codeName? = some code →
          ((illustrate renderers scene d).isSuccess = true ↔
            (renderer scene .dark d).isSuccess = true) ∧
          ∀ decoration, illustrate renderers scene d = .success decoration →
            ∃ dark light,
              renderer scene .dark d = .success dark ∧ renderer scene .light d = .success light ∧
              decoration.attachment = some ⟨attachment light.image, attachment dark.image⟩ ∧
              decoration.span = Span.lineStart dark.line ∧
              decoration.span = Span.lineStart light.line) := by
  obtain ⟨rendering, -, hmem, -, -⟩ := exists_draws h
  have hsteps := fun counting => ignoresTheme_of_mem hmem counting scene .dark .light d
  refine ⟨rendering, hmem, hsteps, fun counting hcounting => ?_⟩
  have hget := get?_renderersBy hcounting hmem
  have hboth : Outcome.Both (Picture.Twins scene.config.palette.dark scene.config.palette.light)
      (rendering.renderer counting hcounting scene .dark d)
      (rendering.renderer counting hcounting scene .light d) := by
    have hrel := hsteps counting
    rw [rendering.render_eq_some hcounting, rendering.render_eq_some hcounting] at hrel
    cases hrel with
    | some hboth => exact hboth
  refine ⟨hget, hboth, fun hcode => ?_⟩
  rw [illustrate_eq scene hcode hget]
  generalize rendering.renderer counting hcounting scene .dark d = first at hboth ⊢
  generalize rendering.renderer counting hcounting scene .light d = second at hboth ⊢
  cases hboth with
  | @success dark light htwins =>
    refine ⟨by simp [Outcome.isSuccess], ?_⟩
    rintro _ ⟨⟩
    exact ⟨dark, light, rfl, rfl, rfl, rfl, congrArg Span.lineStart htwins.line⟩
  | inapplicable context => exact ⟨by simp [Outcome.isSuccess], by simp⟩
  | failed context => exact ⟨by simp [Outcome.isSuccess], by simp⟩

/-- A moved value that is used again has pictures for both themes, and a decoration. -/
theorem twins_of_standard_moved :
    let scene : Scene := ⟨.ofLines [some "let t = s;", some "print(s);"], .standard⟩
    let d : Diagnostic := ⟨⟨⟨1, 6⟩, ⟨1, 7⟩⟩, some .error, some (.documented (.name "E0382") none),
      some "rustc", "borrow of moved value: `s`",
      [⟨"value moved here", ⟨⟨0, 8⟩, ⟨0, 9⟩⟩, none⟩]⟩
    "E0382" ∈ borrowCodes ∧ d.codeName? = some "E0382" ∧
    ∃ dark light, MovedValue.rendering.render .exact scene .dark d = some (.success dark) ∧
      MovedValue.rendering.render .exact scene .light d = some (.success light) ∧
      Picture.Twins Palette.standard.dark Palette.standard.light dark light ∧
      (illustrate standardRenderers scene d).isSuccess = true := by
  intro scene d
  have hmem : "E0382" ∈ borrowCodes := by decide
  obtain ⟨rendering, hrendering, hsteps, hrenderers⟩ := twins_of_standard "E0382" hmem scene d
  obtain rfl : rendering = MovedValue.rendering := by simpa [standardRenderings] using hrendering
  obtain ⟨-, -, hdecoration⟩ := hrenderers .exact (by decide)
  -- the message and its related place are read, so that there is a plan to draw
  have hread : MovedValue.read d = .success ⟨"s", 0, none, 1⟩ := by decide
  obtain ⟨plan, hplan⟩ : ∃ plan, MovedValue.sketch scene.document d = .success plan := by
    rw [MovedValue.sketch, hread]
    exact ⟨_, rfl⟩
  have hrender : ∀ theme, MovedValue.rendering.render .exact scene theme d =
      some (.success (plan.picture scene.config theme)) :=
    fun theme => MovedValue.draws.render_of_counted hplan ⟨rfl, rfl⟩
  have hsuccess : (MovedValue.rendering.renderer .exact (by decide) scene .dark d).isSuccess =
      true := by
    have hdark := hrender .dark
    rw [MovedValue.rendering.render_eq_some (by decide)] at hdark
    rw [Option.some.inj hdark]
    rfl
  have htwins := hsteps .exact
  rw [hrender, hrender] at htwins
  cases htwins with
  | some hboth =>
    cases hboth with
    | success htwins =>
      exact ⟨hmem, rfl, _, _, hrender .dark, hrender .light, htwins, (hdecoration rfl).1.2 hsuccess⟩

end Handlers
end BorrowSketch
