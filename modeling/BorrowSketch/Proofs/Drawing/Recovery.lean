import BorrowSketch.Proofs.Drawing.Building
import BorrowSketch.Proofs.Drawing.Reading

/-! # Images recovered from their markup

The markup of an image tells everything that was put into it. Texts, colours and path data come
back as they were, also those that look like markup themselves.

* **`Drawn`**, **`Sheet`** — a node and an image as their markup tells them, with numbers as
  numerals.
* **`Svg.read?`** — the image that markup tells of.
* **`Drawn.of?_tree`** — a node is told as it was drawn.
* **`Svg.sheet_of_build`** — an image is told as it was built. -/

namespace BorrowSketch.Drawing

open Markup (Tree textTrees)

/-! ### Images as markup tells them -/

/-- A node as its markup tells it. -/
inductive Drawn where
  /-- A path. -/
  | path (data : String) (paint : Paint)
  /-- Lines of text. The distance between two of them is told where there are several. -/
  | text (x y fill : String) (lines : List String) (lineHeight : Option String)
deriving DecidableEq

/-- An image as its markup tells it. -/
structure Sheet where
  /-- The width. -/
  width : String
  /-- The height. -/
  height : String
  /-- The attributes of everything that is drawn. -/
  attributes : List (String × String)
  /-- What is drawn, in order. -/
  drawn : List Drawn

/-- The text that stands alone between two tags. -/
def Markup.text? : List Tree → Option String
  | [] => some ""
  | [.text content] => some content
  | _ => none

@[simp] theorem Markup.text?_textTrees (content : String) :
    text? (textTrees content) = some content := by
  unfold textTrees
  split_ifs with h
  · rw [h]
    rfl
  · rfl

namespace Drawn

/-- The line in an element of its own, behind its distance to the line above. -/
def line? : Tree → Option (String × String)
  | .element ⟨"tspan", [("x", _), ("dy", dy)]⟩ inside =>
    (Markup.text? inside).map fun line => (dy, line)
  | _ => none

/-- The lines of a text, and the distance between them where there are several. -/
def lines? (inside : List Tree) : Option (List String × Option String) :=
  match Markup.text? inside with
  | some line => some ([line], none)
  | none => (inside.mapM line?).map fun lines =>
      (lines.map Prod.snd, lines[1]?.map Prod.fst)

/-- The node that a tree tells of. -/
def of? : Tree → Option Drawn
  | .element ⟨"path", [("d", data), ("stroke", color)]⟩ [] => some (.path data (.stroke color))
  | .element ⟨"path", [("d", data), ("fill", color)]⟩ [] => some (.path data (.fill color))
  | .element ⟨"text", [("x", x), ("y", y), ("fill", fill)]⟩ inside =>
    (lines? inside).map fun (lines, lineHeight) => .text x y fill lines lineHeight
  | _ => none

end Drawn

/-- The image that trees tell of. -/
def Sheet.of? : List Tree → Option Sheet
  | [.element ⟨"svg", [("xmlns", _), ("width", width), ("height", height)]⟩
      [.element ⟨"g", attributes⟩ nodes]] =>
    (nodes.mapM Drawn.of?).map fun drawn => ⟨width, height, attributes, drawn⟩
  | _ => none

/-- The image that markup tells of. -/
def Svg.read? (markup : String) : Option Sheet :=
  (Markup.read? markup).bind Sheet.of?

/-! ### What is told of a node -/

/-- What markup tells of a node. -/
def Node.drawn : Node → Drawn
  | path data paint => .path data paint
  | text x y fill lines lineHeight =>
    .text (Number.text x) (Number.text y) fill lines
      (if 1 < lines.length then some (Number.text lineHeight) else none)

/-- A text has a line. -/
def Node.HasLine : Node → Prop
  | path .. => True
  | text _ _ _ lines _ => lines ≠ []

/-- What every element gives, all of them give in order. -/
theorem mapM_map_eq_some {α β γ : Type} {f : α → β} {g : β → Option γ} {h : α → γ} {xs : List α}
    (hsame : ∀ x ∈ xs, g (f x) = some (h x)) : (xs.map f).mapM g = some (xs.map h) := by
  induction xs with
  | nil => rfl
  | cons x rest ih =>
    rw [List.map_cons, List.mapM_cons, hsame x List.mem_cons_self,
      ih fun y hmem => hsame y (List.mem_cons_of_mem x hmem)]
    rfl

namespace Drawn

theorem line?_lineTree (x dy : Float) (line : String) :
    line? (Node.lineTree x dy line) = some (Number.text dy, line) := by
  simp [line?, Node.lineTree, Node.lineTag]

/-- The lines of a text come back as they were. -/
theorem lines?_lineTrees (x lineHeight : Float) {lines : List String} (hlined : lines ≠ []) :
    lines? (Node.lineTrees x lineHeight lines)
      = some (lines, if 1 < lines.length then some (Number.text lineHeight) else none) := by
  match lines, hlined with
  | [line], _ => simp [lines?, Node.lineTrees]
  | first :: second :: rest, _ =>
    -- the first line stands where the text starts, the others each below the one before
    have hlater : ((second :: rest).map (Node.lineTree x lineHeight)).mapM line?
        = some ((second :: rest).map fun line => (Number.text lineHeight, line)) :=
      mapM_map_eq_some fun line _ => line?_lineTree x lineHeight line
    have hall : (Node.lineTrees x lineHeight (first :: second :: rest)).mapM line?
        = some ((Number.text 0, first)
            :: (second :: rest).map fun line => (Number.text lineHeight, line)) := by
      show (Node.lineTree x 0 first
        :: (second :: rest).map (Node.lineTree x lineHeight)).mapM line? = _
      rw [List.mapM_cons, line?_lineTree, hlater]
      rfl
    have hseveral : Markup.text? (Node.lineTrees x lineHeight (first :: second :: rest)) = none :=
      rfl
    simp [lines?, hseveral, hall, Function.comp_def]

/-- A path, and a text with a line, is told as it was drawn. -/
theorem of?_tree {node : Node} (h : node.HasLine) : of? node.tree = some node.drawn := by
  cases node with
  | path data paint => cases paint <;> simp [of?, Node.tree, Node.pathTag, Paint.entry, Node.drawn]
  | text x y fill lines lineHeight =>
    have htold := lines?_lineTrees x lineHeight h
    simp [of?, Node.tree, Node.textTag, Node.drawn, htold]

end Drawn

/-! ### What is told of an image -/

/-- Calls draw no text without a line. -/
theorem Group.hasLine_of_mem_build {calls : List Group.Call} :
    ∀ node ∈ (Group.build calls).nodes, node.HasLine := by
  intro node hmem
  rw [Group.nodes_build, List.mem_filterMap] at hmem
  obtain ⟨call, -, hdrawn⟩ := hmem
  cases call with
  | attr name value => simp [Group.Call.node?] at hdrawn
  | path data paint =>
    obtain rfl := Option.some.inj hdrawn
    trivial
  | text content fill x y lineHeight =>
    obtain rfl := Option.some.inj hdrawn
    exact Group.linesOf_ne_nil content

/-- Calls set no attribute whose name is not among theirs. -/
theorem Group.plain_of_mem_build {calls : List Group.Call}
    (hplain : ∀ name value, .attr name value ∈ calls → Markup.Plain name) :
    ∀ entry ∈ (Group.build calls).attributes, Markup.Plain entry.1 := by
  intro entry hmem
  have hname : entry.1 ∈ (calls.filterMap Group.Call.setting?).map Prod.fst := by
    rw [← List.mem_eraseDups, ← names_settled, ← Group.attributes_build]
    exact List.mem_map_of_mem hmem
  obtain ⟨setting, hsettled, hsame⟩ := List.mem_map.mp hname
  obtain ⟨call, hcalled, hsets⟩ := List.mem_filterMap.mp hsettled
  cases call with
  | attr name value =>
    obtain rfl := Option.some.inj hsets
    exact hsame ▸ hplain name value hcalled
  | path data paint => simp [Group.Call.setting?] at hsets
  | text content fill x y lineHeight => simp [Group.Call.setting?] at hsets

namespace Svg

/-- The markup of an image tells its size, each attribute once, where it was set first and with the
value that was set last, and everything that was drawn, in order. -/
theorem sheet_of_build (width height : Float) (calls : List Group.Call)
    (hplain : ∀ name value, .attr name value ∈ calls → Markup.Plain name) :
    ∃ sheet, read? (Svg.mk width height (.build calls)).markup = some sheet
      ∧ sheet.width = Number.text width ∧ sheet.height = Number.text height
      ∧ sheet.attributes.map Prod.fst
          = ((calls.filterMap Group.Call.setting?).map Prod.fst).eraseDups
      ∧ (∀ name, sheet.attributes.lookup name
          = (calls.filterMap Group.Call.setting?).reverse.lookup name)
      ∧ sheet.drawn = (calls.filterMap Group.Call.node?).map Node.drawn := by
  have hdrawn : ((Group.build calls).nodes.map Node.tree).mapM Drawn.of?
      = some ((Group.build calls).nodes.map Node.drawn) :=
    mapM_map_eq_some fun node hmem => Drawn.of?_tree (Group.hasLine_of_mem_build node hmem)
  have htold : read? (Svg.mk width height (.build calls)).markup
      = some ⟨Number.text width, Number.text height, (Group.build calls).attributes,
          (Group.build calls).nodes.map Node.drawn⟩ := by
    rw [read?, read?_markup (Svg.mk width height (.build calls)) (Group.plain_of_mem_build hplain)]
    simp [Sheet.of?, tree, tag, Group.tree, hdrawn]
  refine ⟨_, htold, rfl, rfl, ?_, fun name => ?_, ?_⟩
  · rw [Group.attributes_build, names_settled]
  · rw [Group.attributes_build, lookup_settled]
  · rw [Group.nodes_build]

/-- Texts, a colour and path data that look like markup, an attribute that is set twice, and a text
of two lines. -/
theorem sheet_of_build_lookalikes :
    let calls : List Group.Call := [.attr "id" "\x22><g>", .text "<b>\n&lt;" "'red'" 1 2 3,
      .attr "id" "&quot;", .path "M0,0\x22/>" (.stroke "</g>")]
    (∀ name value, .attr name value ∈ calls → Markup.Plain name) ∧
    ∃ sheet, read? (Svg.mk 10 20 (.build calls)).markup = some sheet
      ∧ sheet.attributes.map Prod.fst = ["id"]
      ∧ sheet.attributes.lookup "id" = some "&quot;"
      ∧ sheet.drawn = [.text (Number.text 1) (Number.text 2) "'red'" ["<b>", "&lt;"]
          (some (Number.text 3)), .path "M0,0\x22/>" (.stroke "</g>")] := by
  intro calls
  have hplain : ∀ name value, .attr name value ∈ calls → Markup.Plain name := by
    intro name value hmem
    have hsame : name = "id" := by
      simp [calls] at hmem
      rcases hmem with h | h <;> exact h.1
    rw [hsame]
    decide
  obtain ⟨sheet, hread, -, -, hnames, hvalues, hdrawn⟩ := sheet_of_build 10 20 calls hplain
  refine ⟨hplain, sheet, hread, ?_, ?_, ?_⟩
  · rw [hnames]
    rfl
  · rw [hvalues]
    rfl
  · rw [hdrawn]
    rfl

end Svg

end BorrowSketch.Drawing
