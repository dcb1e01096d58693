import BorrowSketch.Editor.Decoration
import BorrowSketch.Handlers

/-! # Illustrations

The decoration that shows the sketch of a diagnostic in an editor.

* **`SketchError`** — what can go wrong, with its message.
* **`illustrate`** — the decoration of a diagnostic, with an image for each kind of theme. -/

namespace BorrowSketch

/-- Why a diagnostic cannot be illustrated. -/
inductive SketchError where
  /-- The code is not a documented name. -/
  | unexpectedCode (code : String)
  /-- There is no renderer for the code. -/
  | unsupportedCode (code : String)
  /-- The renderer failed. -/
  | renderingFailed (reason : String)
deriving DecidableEq

/-- The message to the user. -/
def SketchError.message : SketchError → String
  | unexpectedCode code => "unexpected diag.code type: " ++ code
  | unsupportedCode code => "unsupported error code " ++ code
  | renderingFailed reason => "SVG generation failed: " ++ reason

/-- The text over an illustration. -/
def illustrationHover : String := "click for visualization"

/-- An image as it is attached to a line. -/
def attachment (image : Drawing.Svg) : Attachment :=
  ⟨image.uri, "text-top"⟩

/-- The decoration that shows a picture in both kinds of theme, at the line of the dark one. -/
def decorationOf (dark light : Picture) : Decoration where
  span := Span.lineStart dark.line
  attachment := some ⟨attachment light.image, attachment dark.image⟩
  hover := some illustrationHover

/-- The decoration of a diagnostic. The dark image is drawn first. -/
def illustrate (renderers : Registry Renderer) (scene : Scene) (d : Diagnostic) :
    Outcome Decoration :=
  match d.codeName? with
  | none => .failed (SketchError.unexpectedCode d.codeText).message
  | some code =>
    match renderers.get? code with
    | none => .failed (SketchError.unsupportedCode code).message
    | some renderer =>
      (renderer scene .dark d).bind fun dark =>
        (renderer scene .light d).map fun light => decorationOf dark light

end BorrowSketch
