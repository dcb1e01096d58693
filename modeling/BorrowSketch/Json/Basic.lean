import BorrowSketch.KeyMap

/-! # JSON values

* **`Json`** — a value; the members of an object are in ascending order of their names.
* **`Json.get?`** and the `as` functions — what a value contains, if it is of the right kind. -/

namespace BorrowSketch

/-- A JSON value. -/
inductive Json where
  | null
  | bool (value : Bool)
  /-- A number written as an integer that 64 bits can hold, with or without a sign bit. -/
  | int (value : Int)
  /-- Any other number. -/
  | real (value : Float)
  | string (text : String)
  | array (items : List Json)
  /-- The members by name, in ascending order and each name once. -/
  | object (members : List (String × Json))
deriving Inhabited

namespace Json

/-- The object with the given members, of which the last counts where a name occurs twice. -/
def ofMembers (members : List (String × Json)) : Json :=
  .object (members.foldl (fun object member => KeyMap.insertEntry member.1 member.2 object) [])

/-- The member of an object with a given name. -/
def get? (value : Json) (name : String) : Option Json :=
  match value with
  | object members => members.lookup name
  | _ => none

/-- The text of a string. -/
def asString? : Json → Option String
  | string text => some text
  | _ => none

/-- The items of an array. -/
def asArray? : Json → Option (List Json)
  | array items => some items
  | _ => none

/-- Whether a value is an array. -/
def isArray : Json → Bool
  | array _ => true
  | _ => false

/-- The value of an integer without sign that 64 bits can hold. -/
def asNat? : Json → Option Nat
  | int value => if 0 ≤ value ∧ value < Nat.pow 2 64 then some value.toNat else none
  | _ => none

/-- The value of an integer that 64 bits with a sign can hold. -/
def asInt? : Json → Option Int
  | int value => if -Nat.pow 2 63 ≤ value ∧ value < Nat.pow 2 63 then some value else none
  | _ => none

end Json
end BorrowSketch
