import BorrowSketch.Diagnostic.Basic
import BorrowSketch.Document.LineView
import BorrowSketch.Json.Printer
import BorrowSketch.Text.Units

/-! # Published diagnostics

Diagnostics as a language server publishes them: JSON objects, in which what is missing or of the
wrong kind is left out, and only what has no valid place is dropped as a whole. Their positions
count UTF-16 units.

* **`Diagnostic.ofJson?`**, **`Diagnostic.listOfJson`** — one diagnostic, and an array of them.
* **`Diagnostic.toJson`** — the published form of a diagnostic.
* **`Published`** — a publication for a document.
* **`Published.toCharacters`** — the publication with its positions counted in characters. -/

namespace BorrowSketch

/-! ## Reading -/

/-- A position, both of its numbers being integers without sign. -/
def Position.ofJson? (value : Json) : Option Position :=
  ((value.get? "line").bind Json.asNat?).bind fun line =>
    ((value.get? "character").bind Json.asNat?).map fun character => ⟨line, character⟩

/-- A span from a start to an end. -/
def Span.ofJson? (value : Json) : Option Span :=
  ((value.get? "start").bind Position.ofJson?).bind fun start =>
    ((value.get? "end").bind Position.ofJson?).map fun stop => ⟨start, stop⟩

/-- The severity with a number. -/
def Severity.ofNat? : Nat → Option Severity
  | 1 => some .error
  | 2 => some .warning
  | 3 => some .information
  | 4 => some .hint
  | _ => none

/-- A name or an integer as the value of a code. -/
def CodeValue.ofJson? : Json → Option CodeValue
  | .string text => some (.name text)
  | .int value => (Json.int value).asInt?.map .number
  | _ => none

namespace Code

/-- A code in which the value and the documentation are members of one object, or anything else that
is not a value alone. -/
def ofFolded (code : Json) : Code :=
  match (code.get? "value").bind CodeValue.ofJson? with
  | some value => .documented value ((code.get? "target").bind Json.asString?)
  | none => .unrecognized code.text

/-- The code of a diagnostic with a given `code` member. A value alone is documented if the
diagnostic has the address of a description. -/
def ofMember? (diagnostic : Json) : Json → Option Code
  | .null => none
  | code =>
    match CodeValue.ofJson? code with
    | some value =>
      match ((diagnostic.get? "codeDescription").bind (·.get? "href")).bind Json.asString? with
      | some address => some (.documented value (some address))
      | none => some (.bare value)
    | none => some (ofFolded code)

/-- The code of a diagnostic. -/
def ofJson? (diagnostic : Json) : Option Code :=
  (diagnostic.get? "code").bind (ofMember? diagnostic)

end Code

/-- A related place; none without a valid span and a message. -/
def Related.ofJson? (value : Json) : Option Related :=
  (value.get? "location").bind fun location =>
    ((location.get? "range").bind Span.ofJson?).bind fun span =>
      ((value.get? "message").bind Json.asString?).map fun message =>
        { message := message, span := span, uri := (location.get? "uri").bind Json.asString? }

namespace Diagnostic

/-- A diagnostic; none without a valid span. -/
def ofJson? (value : Json) : Option Diagnostic :=
  ((value.get? "range").bind Span.ofJson?).map fun span =>
    { span := span
      severity := ((value.get? "severity").bind Json.asNat?).bind Severity.ofNat?
      code := Code.ofJson? value
      source := (value.get? "source").bind Json.asString?
      message := ((value.get? "message").bind Json.asString?).getD ""
      related := (((value.get? "relatedInformation").bind Json.asArray?).getD []).filterMap
        Related.ofJson? }

/-- The diagnostics in an array; those without a valid span are left out. -/
def listOfJson (value : Json) : List Diagnostic :=
  (value.asArray?.getD []).filterMap ofJson?

end Diagnostic

/-! ## Publications -/

/-- The diagnostics of a document as a server publishes them. -/
structure Published where
  /-- The document. -/
  uri : String
  /-- The version of the document, if it is given. -/
  version : Option Int
  /-- The diagnostics. -/
  diagnostics : List Diagnostic
deriving DecidableEq

namespace Published

/-- An integer that 32 bits with a sign can hold. -/
def version? (value : Json) : Option Int :=
  value.asInt?.filter fun version => decide (-Nat.pow 2 31 ≤ version ∧ version < Nat.pow 2 31)

/-- A publication; none without the address of a document. -/
def ofJson? (value : Json) : Option Published :=
  ((value.get? "uri").bind Json.asString?).map fun uri =>
    { uri := uri
      version := (value.get? "version").bind version?
      diagnostics := ((value.get? "diagnostics").map Diagnostic.listOfJson).getD [] }

end Published

/-! ## Positions in characters -/

/-- A position counted in UTF-16 units, counted in characters. On a line that the document does not
have it stays as it is. -/
def Position.toCharacters (document : LineView) (position : Position) : Position :=
  match document.text? position.line with
  | some text => ⟨position.line, Text.charsBefore text.toList position.character⟩
  | none => position

/-- A position counted in characters, counted in UTF-16 units. On a line that the document does not
have it stays as it is. -/
def Position.toUnits (document : LineView) (position : Position) : Position :=
  match document.text? position.line with
  | some text => ⟨position.line, Text.unitsBefore text.toList position.character⟩
  | none => position

/-- A related place with its position changed if it is in the given document. A place that names no
document is in the same one. -/
def Related.mapPositions (related : Related) (uri : String) (f : Position → Position) : Related :=
  if related.uri.all (· = uri) then { related with span := related.span.map f } else related

/-- A diagnostic with all of its positions in a document changed. -/
def Diagnostic.mapPositions (d : Diagnostic) (uri : String) (f : Position → Position) :
    Diagnostic :=
  { d with
    span := d.span.map f
    related := d.related.map (·.mapPositions uri f) }

namespace Published

/-- The publication with all positions in its document changed. -/
def mapPositions (published : Published) (f : Position → Position) : Published :=
  { published with diagnostics := published.diagnostics.map (·.mapPositions published.uri f) }

/-- The publication with its positions counted in characters of the document. -/
def toCharacters (published : Published) (document : LineView) : Published :=
  published.mapPositions (Position.toCharacters document)

/-- The publication with its positions counted in UTF-16 units of the document. -/
def toUnits (published : Published) (document : LineView) : Published :=
  published.mapPositions (Position.toUnits document)

/-- The diagnostics in a JSON value, with positions in characters of the document. The value is an
array of diagnostics, a publication, or a message with a publication as its parameters. -/
def diagnosticsOfJson? (value : Json) (document : LineView) : Option (List Diagnostic) :=
  if value.isArray then
    some (toCharacters ⟨"", none, Diagnostic.listOfJson value⟩ document).diagnostics
  else
    (ofJson? ((value.get? "params").getD value)).map fun published =>
      (published.toCharacters document).diagnostics

end Published

/-! ## Writing -/

/-- The published form of a position. -/
def Position.toJson (position : Position) : Json :=
  .ofMembers [("line", .int position.line), ("character", .int position.character)]

/-- The published form of a span. -/
def Span.toJson (span : Span) : Json :=
  .ofMembers [("start", span.start.toJson), ("end", span.stop.toJson)]

/-- The number of a severity. -/
def Severity.toNat : Severity → Nat
  | error => 1
  | warning => 2
  | information => 3
  | hint => 4

/-- The published form of a name or number. -/
def CodeValue.toJson : CodeValue → Json
  | name text => .string text
  | number value => .int value

/-- A member that is left out when there is no value for it. -/
def optionalMember (name : String) (value : Option Json) : List (String × Json) :=
  (value.map fun value => (name, value)).toList

/-- The published form of a code, value and documentation in one object. Text that was not a code
stays text. -/
def Code.toJson : Code → Json
  | bare value => value.toJson
  | documented value target =>
    .ofMembers (("value", value.toJson) :: optionalMember "target" (target.map .string))
  | unrecognized raw => .string raw

/-- The published form of a related place. -/
def Related.toJson (related : Related) : Json :=
  .ofMembers
    [("location",
        .ofMembers (("range", related.span.toJson)
          :: optionalMember "uri" (related.uri.map .string))),
      ("message", .string related.message)]

/-- The members of the published form of a diagnostic, apart from its code. -/
def Diagnostic.members (d : Diagnostic) : List (String × Json) :=
  ("range", d.span.toJson) :: ("message", .string d.message)
    :: optionalMember "severity" (d.severity.map fun severity => .int severity.toNat)
    ++ optionalMember "source" (d.source.map .string)
    ++ [("relatedInformation", .array (d.related.map Related.toJson))]

/-- The published form of a diagnostic. -/
def Diagnostic.toJson (d : Diagnostic) : Json :=
  .ofMembers (d.members ++ optionalMember "code" (d.code.map Code.toJson))

end BorrowSketch
