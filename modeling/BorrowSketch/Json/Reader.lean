import BorrowSketch.Json.Token

/-! # Reading JSON

Tokens are read one by one. The arrays and objects that are open form a stack, whose height is
limited.

* **`Reading`** — what was read so far, and what may follow.
* **`Reading.step?`** — the effect of a token.
* **`Json.read?`** — the value that a text spells, if it spells one. -/

namespace BorrowSketch.Json

/-- An array or object that is not complete. -/
inductive Open where
  /-- An array with the items read so far, the last first. -/
  | array (items : List Json)
  /-- An object with the members read so far. -/
  | object (members : List (String × Json))
  /-- An object in which the value of the named member is being read. -/
  | member (members : List (String × Json)) (name : String)

/-- What has to come next. -/
inductive Expected where
  /-- A value. -/
  | value
  /-- The first item of an array, or its end. -/
  | firstItem
  /-- The first name of an object, or its end. -/
  | firstName
  /-- A name. -/
  | name
  /-- The colon behind a name. -/
  | colon (name : String)
  /-- A comma, or the end of what is open. -/
  | more
  /-- Nothing: the value is complete. -/
  | nothing (value : Json)

/-- What was read so far. -/
structure Reading where
  /-- What is open, the innermost first. -/
  stack : List Open
  /-- What has to come next. -/
  expected : Expected

/-- How many arrays and objects may be open within each other. -/
def maxDepth : Nat := 127

namespace Reading

/-- Nothing read yet. -/
def start : Reading := ⟨[], .value⟩

/-- A value is complete: put it into what is open around it. -/
def complete (value : Json) : List Open → Option Reading
  | [] => some ⟨[], .nothing value⟩
  | .array items :: rest => some ⟨.array (value :: items) :: rest, .more⟩
  | .member members name :: rest =>
    some ⟨.object (KeyMap.insertEntry name value members) :: rest, .more⟩
  | .object _ :: _ => none

/-- Open an array or object within the others, unless there are too many of them. -/
def enter (stack : List Open) (frame : Open) (expected : Expected) : Option Reading :=
  if stack.length < maxDepth then some ⟨frame :: stack, expected⟩ else none

/-- The effect of a token where a value may start. -/
def startValue (stack : List Open) : Token → Option Reading
  | .openArray => enter stack (.array []) .firstItem
  | .openObject => enter stack (.object []) .firstName
  | .text text => complete (.string text) stack
  | .scalar value => complete value stack
  | _ => none

/-- The effect of a token behind an item or member. -/
def continueOpen (stack : List Open) (token : Token) : Option Reading :=
  match token, stack with
  | .comma, .array _ :: _ => some ⟨stack, .value⟩
  | .comma, .object _ :: _ => some ⟨stack, .name⟩
  | .closeArray, .array items :: rest => complete (.array items.reverse) rest
  | .closeObject, .object members :: rest => complete (.object members) rest
  | _, _ => none

/-- The effect of a token; none if it may not stand here. -/
def step? (reading : Reading) (token : Token) : Option Reading :=
  match reading.expected, token, reading.stack with
  | .value, token, stack => startValue stack token
  | .firstItem, .closeArray, .array _ :: rest => complete (.array []) rest
  | .firstItem, token, stack => startValue stack token
  | .firstName, .closeObject, .object _ :: rest => complete (.object []) rest
  | .firstName, .text name, stack => some ⟨stack, .colon name⟩
  | .name, .text name, stack => some ⟨stack, .colon name⟩
  | .colon name, .colon, .object members :: rest => some ⟨.member members name :: rest, .value⟩
  | .more, token, stack => continueOpen stack token
  | _, _, _ => none

/-- The value, if it is complete. -/
def value? (reading : Reading) : Option Json :=
  match reading.expected with
  | .nothing value => some value
  | _ => none

end Reading

/-- The value that a text spells, if it spells one. -/
def read? (source : String) : Option Json :=
  (tokens? source.toList).bind fun tokens =>
    (tokens.foldlM Reading.step? Reading.start).bind Reading.value?

end BorrowSketch.Json
