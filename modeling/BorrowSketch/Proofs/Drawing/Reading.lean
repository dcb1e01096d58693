import BorrowSketch.Drawing.Svg
import BorrowSketch.Proofs.Drawing.Reader
import BorrowSketch.Proofs.Number.Numeral

/-! # What images read as

The markup of an image is written piece by piece, and each piece is an element whose attributes and
texts are escaped. So a reader finds one tree for each piece, and nothing that is drawn can add to
them.

* **`escape_text`** — numerals are written as they are, since escaping changes nothing in them.
* **`Node.tree`**, **`Group.tree`**, **`Svg.tree`** — what a node, a group and an image read as.
* **`Node.writes_markup`**, **`Group.writes_markup`** — their markup reads as that, whatever it is
  part of.
* **`Svg.read?_markup`** — the markup of an image reads as the tree of the image. -/

namespace BorrowSketch.Drawing

open Markup (Tag Tree textTrees Writes WritesClosed)

/-! ### Numerals -/

/-- Whether a character can occur in a numeral. -/
def numeralChar (c : Char) : Bool :=
  c.isDigit || c = '-' || c = '.'

theorem escapeChar_numeral {c : Char} (h : numeralChar c) : Markup.escapeChar c = [c] :=
  Markup.escapeChar_of_ordinary fun e => Markup.ne_of_test h (by cases e <;> decide)

theorem numeralChar_of_mem_text {x : Float} {c : Char} (hmem : c ∈ (Number.text x).toList) :
    numeralChar c := by
  rw [Number.text, String.toList_ofList, ← Number.Numeral.chars_ofCount] at hmem
  simpa [numeralChar, or_assoc] using Number.Numeral.of_mem_chars hmem

/-- A numeral needs no escaping. -/
@[simp] theorem escape_text (x : Float) : Markup.escape (Number.text x) = Number.text x := by
  have hsame : (Number.text x).toList.flatMap Markup.escapeChar
      = (Number.text x).toList.flatMap fun c => [c] :=
    List.flatMap_congr fun c hmem => escapeChar_numeral (numeralChar_of_mem_text hmem)
  rw [← String.toList_inj, Markup.toList_escape, hsame, List.flatMap_singleton']

/-! ### What an image reads as -/

/-- The attribute that colours a path. -/
def Paint.entry : Paint → String × String
  | stroke color => ("stroke", color)
  | fill color => ("fill", color)

namespace Node

/-- The tag of a path. -/
def pathTag (data : String) (paint : Paint) : Tag :=
  ⟨"path", [("d", data), paint.entry]⟩

/-- The tag of a text. -/
def textTag (x y : Float) (fill : String) : Tag :=
  ⟨"text", [("x", Number.text x), ("y", Number.text y), ("fill", fill)]⟩

/-- The tag of a line that is an element of its own. -/
def lineTag (x dy : Float) : Tag :=
  ⟨"tspan", [("x", Number.text x), ("dy", Number.text dy)]⟩

/-- What a line reads as that is an element of its own. -/
def lineTree (x dy : Float) (line : String) : Tree :=
  .element (lineTag x dy) (textTrees line)

/-- What the lines of a text read as. -/
def lineTrees (x lineHeight : Float) : List String → List Tree
  | [] => []
  | [line] => textTrees line
  | first :: rest => lineTree x 0 first :: rest.map (lineTree x lineHeight)

/-- What a node reads as. -/
def tree : Node → Tree
  | path data paint => .element (pathTag data paint) []
  | text x y fill lines lineHeight => .element (textTag x y fill) (lineTrees x lineHeight lines)

theorem plain_pathTag (data : String) (paint : Paint) : (pathTag data paint).Plain := by
  cases paint with
  | stroke color => exact .of_names "path" ["d", "stroke"] rfl rfl (by decide)
  | fill color => exact .of_names "path" ["d", "fill"] rfl rfl (by decide)

theorem plain_textTag (x y : Float) (fill : String) : (textTag x y fill).Plain :=
  .of_names "text" ["x", "y", "fill"] rfl rfl (by decide)

theorem plain_lineTag (x dy : Float) : (lineTag x dy).Plain :=
  .of_names "tspan" ["x", "dy"] rfl rfl (by decide)

theorem lineMarkup_eq (x dy : Float) (line : String) :
    lineMarkup x dy line = Markup.element (lineTag x dy) (Markup.escape line) := by
  simp [lineMarkup, Markup.element, Markup.opening, Markup.closing, Markup.attrs, lineTag,
    String.append_assoc]

theorem markup_path (data : String) (paint : Paint) :
    (path data paint).markup = Markup.leaf (pathTag data paint) := by
  cases paint <;>
    simp [markup, Paint.attr, Markup.leaf, Markup.opening, Markup.attrs, pathTag, Paint.entry,
      String.append_assoc]

theorem markup_text (x y : Float) (fill : String) (lines : List String) (lineHeight : Float) :
    (text x y fill lines lineHeight).markup
      = Markup.element (textTag x y fill) (linesMarkup x lineHeight lines) := by
  simp [markup, Markup.element, Markup.opening, Markup.closing, Markup.attrs, textTag,
    String.append_assoc]

theorem writes_lineMarkup (x dy : Float) (line : String) :
    WritesClosed (lineMarkup x dy line) [lineTree x dy line] := by
  rw [lineMarkup_eq]
  exact .element (plain_lineTag x dy) (Markup.writes_escape line)

theorem writes_linesMarkup (x lineHeight : Float) :
    ∀ lines, Writes (linesMarkup x lineHeight lines) (lineTrees x lineHeight lines)
  | [] => WritesClosed.empty.writes
  | [line] => Markup.writes_escape line
  | first :: second :: rest =>
    have hlater := WritesClosed.join (writes_lineMarkup x lineHeight) (second :: rest)
    ((writes_lineMarkup x 0 first).append hlater).writes

/-- The markup of a node reads as one tree. -/
theorem writes_markup (node : Node) : WritesClosed node.markup [node.tree] := by
  cases node with
  | path data paint =>
    rw [markup_path]
    exact .leaf (plain_pathTag data paint)
  | text x y fill lines lineHeight =>
    rw [markup_text]
    exact .element (plain_textTag x y fill) (writes_linesMarkup x lineHeight lines)

end Node

/-- What a group reads as. -/
def Group.tree (group : Group) : Tree :=
  .element ⟨"g", group.attributes⟩ (group.nodes.map Node.tree)

/-- The markup of a group with plain attribute names reads as one tree. -/
theorem Group.writes_markup {group : Group}
    (hplain : ∀ entry ∈ group.attributes, Markup.Plain entry.1) :
    WritesClosed group.markup [group.tree] := by
  have hshape : group.markup
      = Markup.element ⟨"g", group.attributes⟩ (String.join (group.nodes.map Node.markup)) := by
    simp [markup, Markup.element, Markup.opening, Markup.closing, Markup.attrs,
      String.append_assoc]
  have hnamed : Tag.Plain ⟨"g", group.attributes⟩ :=
    ⟨(by decide : "g" ≠ ""), (by decide : Markup.Plain "g"), hplain⟩
  rw [hshape]
  exact .element hnamed (WritesClosed.join Node.writes_markup group.nodes).writes

namespace Svg

/-- The tag of an image. -/
def tag (svg : Svg) : Tag :=
  ⟨"svg", [("xmlns", "http://www.w3.org/2000/svg"), ("width", Number.text svg.width),
    ("height", Number.text svg.height)]⟩

/-- What an image reads as. -/
def tree (svg : Svg) : Tree :=
  .element svg.tag [svg.canvas.tree]

theorem plain_tag (svg : Svg) : svg.tag.Plain :=
  .of_names "svg" ["xmlns", "width", "height"] rfl rfl (by decide)

/-- An image reads as one tree. -/
theorem read?_markup (svg : Svg)
    (hplain : ∀ entry ∈ svg.canvas.attributes, Markup.Plain entry.1) :
    Markup.read? svg.markup = some [svg.tree] := by
  have haddress : Markup.escape "http://www.w3.org/2000/svg" = "http://www.w3.org/2000/svg" := by
    decide
  have hshape : svg.markup = Markup.element svg.tag svg.canvas.markup := by
    simp [markup, Markup.element, Markup.opening, Markup.closing, Markup.attrs, tag, haddress,
      String.append_assoc]
  rw [hshape]
  exact (WritesClosed.element svg.plain_tag (Group.writes_markup hplain).writes).writes.read?_eq

end Svg

end BorrowSketch.Drawing
