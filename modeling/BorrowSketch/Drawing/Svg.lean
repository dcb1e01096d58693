import BorrowSketch.Appearance
import BorrowSketch.Drawing.Path
import BorrowSketch.Drawing.Markup
import BorrowSketch.Text.Base64

/-! # Images

An image is one group of paths and texts. The group carries the attributes that hold for all of
them.

* **`Node`** — a path or a text.
* **`Group`** — attributes and nodes, in the order in which they were set and drawn.
* **`Svg`**, **`Svg.markup`**, **`Svg.uri`** — an image, its markup, and an address that contains
  the whole image. -/

namespace BorrowSketch.Drawing

/-- How a path is coloured. -/
inductive Paint where
  /-- Along its outline. -/
  | stroke (color : String)
  /-- Inside its outline. -/
  | fill (color : String)
deriving DecidableEq

/-- The attribute that colours a path. -/
def Paint.attr : Paint → String
  | stroke color => Markup.attr "stroke" (Markup.escape color)
  | fill color => Markup.attr "fill" (Markup.escape color)

/-- Something drawn. -/
inductive Node where
  /-- A path with its data. -/
  | path (data : String) (paint : Paint)
  /-- Lines of text, the first of them with its start at `x` and its baseline at `y`. -/
  | text (x y : Float) (fill : String) (lines : List String) (lineHeight : Float)

namespace Node

/-- The content of a text; a path has none. -/
def content? : Node → Option String
  | path _ _ => none
  | text _ _ _ lines _ => some (String.intercalate "\n" lines)

/-- The line of a text that starts `dy` below the line before it. -/
def lineMarkup (x dy : Float) (line : String) : String :=
  "<tspan" ++ Markup.attr "x" (Number.text x) ++ Markup.attr "dy" (Number.text dy) ++ ">"
    ++ Markup.escape line ++ "</tspan>"

/-- The lines of a text: a single one as it is, and of several each in an element of its own. -/
def linesMarkup (x lineHeight : Float) : List String → String
  | [] => ""
  | [line] => Markup.escape line
  | first :: rest => lineMarkup x 0 first ++ String.join (rest.map (lineMarkup x lineHeight))

/-- The markup of a node. -/
def markup : Node → String
  | path data paint =>
    "<path" ++ Markup.attr "d" (Markup.escape data) ++ paint.attr ++ "/>"
  | text x y fill lines lineHeight =>
    "<text" ++ Markup.attr "x" (Number.text x) ++ Markup.attr "y" (Number.text y)
      ++ Markup.attr "fill" (Markup.escape fill) ++ ">"
      ++ linesMarkup x lineHeight lines ++ "</text>"

end Node

/-- Nodes drawn in order, with attributes for all of them. -/
structure Group where
  /-- Names and values in the order in which the names were first set. -/
  attributes : List (String × String)
  /-- The nodes in drawing order. -/
  nodes : List Node

/-- Replace the value of a name, or add the name at the end. -/
def withAttr (name value : String) : List (String × String) → List (String × String)
  | [] => [(name, value)]
  | entry :: rest =>
    if entry.1 = name then (name, value) :: rest else entry :: withAttr name value rest

namespace Group

/-- A group with nothing in it. -/
def empty : Group := ⟨[], []⟩

/-- Set an attribute, or replace its value. -/
def setAttr (group : Group) (name value : String) : Group :=
  { group with attributes := withAttr name value group.attributes }

/-- The value of an attribute. -/
def attr? (group : Group) (name : String) : Option String :=
  group.attributes.lookup name

/-- Draw one more node. -/
def draw (group : Group) (node : Node) : Group :=
  { group with nodes := group.nodes ++ [node] }

/-- Draw a path. -/
def path (group : Group) (data : String) (paint : Paint) : Group :=
  group.draw (.path data paint)

/-- Draw a text, each of its lines below the one before it. -/
def text (group : Group) (content fill : String) (x y lineHeight : Float) : Group :=
  group.draw (.text x y fill ((content.toList.splitOn '\n').map String.ofList) lineHeight)

/-- The contents of the texts in drawing order. -/
def texts (group : Group) : List String :=
  group.nodes.filterMap Node.content?

/-- The markup of the group. -/
def markup (group : Group) : String :=
  "<g"
    ++ String.join (group.attributes.map fun (name, value) =>
        Markup.attr name (Markup.escape value))
    ++ ">" ++ String.join (group.nodes.map Node.markup) ++ "</g>"

end Group

/-- An image of a given size. -/
structure Svg where
  /-- The width in pixels. -/
  width : Float
  /-- The height in pixels. -/
  height : Float
  /-- What is drawn. -/
  canvas : Group

namespace Svg

/-- An image with nothing drawn. -/
def blank (width height : Float) : Svg := ⟨width, height, .empty⟩

/-- The markup of the image. -/
def markup (svg : Svg) : String :=
  "<svg" ++ Markup.attr "xmlns" "http://www.w3.org/2000/svg"
    ++ Markup.attr "width" (Number.text svg.width)
    ++ Markup.attr "height" (Number.text svg.height) ++ ">"
    ++ svg.canvas.markup ++ "</svg>"

/-- The bytes of a text in UTF-8. -/
def utf8Bytes (text : String) : List UInt8 :=
  text.toList.flatMap String.utf8EncodeChar

/-- What an address that contains an image starts with. -/
def uriScheme : String := "data:image/svg+xml;base64,"

/-- An address that contains the whole image. -/
def uri (svg : Svg) : String :=
  uriScheme ++ String.ofList (Text.Base64.encode (utf8Bytes svg.markup))

/-- The width of an image that starts right behind its line. -/
def baseWidth : Float := 800

/-- An image beside so many lines of an editor, whose drawing starts `shift` pixels to the right,
for drawing with the editor's monospace text. -/
def besideLines (config : Config) (shift : Float) (lines : Nat) : Svg where
  width := baseWidth + shift
  height := config.lineHeight * Number.ofNat lines
  canvas := Group.empty
    |>.setAttr "fill" "transparent"
    |>.setAttr "transform" ("translate(" ++ Number.text shift ++ ", 0)")
    |>.setAttr "style" ("font-family: monospace; font-size: " ++ Number.text config.fontSize
        ++ "px; overflow: visible;")

end Svg
end BorrowSketch.Drawing
