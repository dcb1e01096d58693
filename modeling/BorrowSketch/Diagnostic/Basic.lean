import BorrowSketch.Diagnostic.Span
import BorrowSketch.Text.Pattern

/-! # Diagnostics

The messages of a compiler about a document, as an editor passes them on.

* **`Severity`**, **`CodeValue`**, **`Code`**, **`Related`** — the parts of a diagnostic.
* **`Diagnostic`** — one message with its place, its code and its related places.
* **`Diagnostic.codeName?`** — the code in the one form that sketches are made for. -/

namespace BorrowSketch

/-- How serious a diagnostic is. -/
inductive Severity where
  | error
  | warning
  | information
  | hint
deriving DecidableEq

/-- The name or number in a diagnostic code. -/
inductive CodeValue where
  | name (text : String)
  | number (value : Int)
deriving DecidableEq

/-- A name as it is, a number in decimal. -/
def CodeValue.text : CodeValue → String
  | .name text => text
  | .number value => toString value

/-- The code of a diagnostic. -/
inductive Code where
  /-- A name or number alone. -/
  | bare (value : CodeValue)
  /-- A name or number together with the address of its documentation. Codes from a documented
  index always have this form. -/
  | documented (value : CodeValue) (target : Option String)
  /-- Something else, kept as text. -/
  | unrecognized (raw : String)
deriving DecidableEq

namespace Code

/-- The form of a code that messages to the user show. -/
def text : Code → String
  | bare value => value.text
  | documented value _ => "\x7bvalue: " ++ value.text ++ "\x7d"
  | unrecognized raw => raw

/-- The name in a documented code. -/
def name? : Code → Option String
  | documented (.name name) _ => some name
  | _ => none

end Code

/-- A further place that a diagnostic refers to. -/
structure Related where
  /-- What there is to say about the place. -/
  message : String
  /-- The place. -/
  span : Span
  /-- The document of the place, when it is given. -/
  uri : Option String := none
deriving DecidableEq

/-- A message of a compiler about a document. -/
structure Diagnostic where
  /-- The place it is about. -/
  span : Span
  /-- How serious it is. -/
  severity : Option Severity
  /-- Its code. -/
  code : Option Code
  /-- Who reports it. -/
  source : Option String
  /-- The message. -/
  message : String
  /-- Further places, in the order reported. -/
  related : List Related
deriving DecidableEq

namespace Diagnostic

/-- The line that the diagnostic starts on. -/
def line (d : Diagnostic) : Nat :=
  d.span.start.line

/-- The name in the code, when the code is documented. -/
def codeName? (d : Diagnostic) : Option String :=
  d.code.bind Code.name?

/-- The code as messages to the user show it. -/
def codeText (d : Diagnostic) : String :=
  match d.code with
  | some code => code.text
  | none => "undefined"

/-- The first related place whose message ends with the given words. -/
def relatedEndingWith? (d : Diagnostic) (words : String) : Option Related :=
  d.related.find? fun place => Text.endsWith place.message words

/-- The first related place whose message starts with the given words. -/
def relatedStartingWith? (d : Diagnostic) (words : String) : Option Related :=
  d.related.find? fun place => Text.startsWith place.message words

end Diagnostic
end BorrowSketch
