import BorrowSketch.Diagnostic.Span

/-! # Decorations

What an editor can be asked to show beside and over the text of a document.

* **`LayerStyle`** — how the decorations of a layer look.
* **`Decoration`** — a place in the document, with images and text of its own. -/

namespace BorrowSketch

/-- How the decorations of a layer look. -/
inductive LayerStyle where
  /-- The decorations hold for whole lines and bring their own content. -/
  | wholeLine
  /-- The decorations put an icon at the edge of their lines. -/
  | gutterIcon (uri : String)
  /-- The decorations put a text before their places. -/
  | textBefore (content color background : String)
deriving DecidableEq

/-- An image behind the end of a line. -/
structure Attachment where
  /-- The address of the image. -/
  uri : String
  /-- How the image is aligned with the line. -/
  verticalAlign : String
deriving DecidableEq

/-- An image for each kind of theme. -/
structure ThemedAttachment where
  light : Attachment
  dark : Attachment
deriving DecidableEq

/-- A decorated place. -/
structure Decoration where
  /-- The place. -/
  span : Span
  /-- An image to attach, if any. -/
  attachment : Option ThemedAttachment
  /-- A text to show when the mouse is over the place. -/
  hover : Option String
deriving DecidableEq

/-- A place decorated by nothing but the style of its layer. -/
def Decoration.plain (span : Span) : Decoration :=
  ⟨span, none, none⟩

end BorrowSketch
