/-! # Outcomes

What came of looking at one diagnostic. A handler either produces something, finds that the
diagnostic is not one it understands, or fails.

* **`Outcome`** — success, inapplicable or failed.
* **`Outcome.map`**, **`Outcome.bind`** — working on with a success; `Outcome` is a lawful monad.
* **`Outcome.bind?`** — working on with steps that a program may stop at. -/

namespace BorrowSketch

/-- The outcome of running a handler on one diagnostic. -/
inductive Outcome (α : Type) where
  /-- The handler produced a value. -/
  | success (value : α)
  /-- The diagnostic is not one the handler understands, with an optional explanation. -/
  | inapplicable (context : Option String)
  /-- Something went wrong, with an explanation. -/
  | failed (context : String)
deriving DecidableEq

namespace Outcome

variable {α β : Type}

/-- Apply a function to a success. -/
def map (f : α → β) : Outcome α → Outcome β
  | success value => success (f value)
  | inapplicable context => inapplicable context
  | failed context => failed context

/-- Continue after a success. -/
def bind (outcome : Outcome α) (next : α → Outcome β) : Outcome β :=
  match outcome with
  | success value => next value
  | inapplicable context => inapplicable context
  | failed context => failed context

/-- Continue after a success with steps that a program may stop at. -/
def bind? (outcome : Outcome α) (next : α → Option (Outcome β)) : Option (Outcome β) :=
  match outcome with
  | success value => next value
  | inapplicable context => some (inapplicable context)
  | failed context => some (failed context)

/-- The value as a success, and its absence as inapplicable without explanation. -/
def ofOption : Option α → Outcome α
  | some value => success value
  | none => inapplicable none

/-- The value as a success, and its absence as inapplicable for the given reason. -/
def ofOptionOr (reason : String) : Option α → Outcome α
  | some value => success value
  | none => inapplicable (some reason)

/-- Whether the handler produced a value. -/
def isSuccess : Outcome α → Bool
  | success _ => true
  | _ => false

/-- Whether the handler produced no value. -/
def isUnsuccessful (outcome : Outcome α) : Bool :=
  !outcome.isSuccess

/-- The value produced, if any. -/
def value? : Outcome α → Option α
  | success value => some value
  | _ => none

/-- The explanation of an unsuccessful outcome, if there is one. -/
def context? : Outcome α → Option String
  | success _ => none
  | inapplicable context => context
  | failed context => some context

instance : Monad Outcome where
  pure := success
  bind := bind
  map := map

instance : LawfulMonad Outcome where
  map_const := rfl
  id_map x := by cases x <;> rfl
  seqLeft_eq x y := by cases x <;> cases y <;> rfl
  seqRight_eq x y := by cases x <;> cases y <;> rfl
  pure_seq _ x := by cases x <;> rfl
  bind_pure_comp _ x := by cases x <;> rfl
  bind_map f x := by cases f <;> cases x <;> rfl
  pure_bind _ _ := rfl
  bind_assoc x _ _ := by cases x <;> rfl

@[simp] theorem map_success (f : α → β) (a : α) : (success a).map f = success (f a) := rfl

@[simp] theorem map_inapplicable (f : α → β) (c : Option String) :
    (inapplicable c : Outcome α).map f = inapplicable c := rfl

@[simp] theorem map_failed (f : α → β) (c : String) :
    (failed c : Outcome α).map f = failed c := rfl

@[simp] theorem bind_success (a : α) (f : α → Outcome β) : (success a).bind f = f a := rfl

@[simp] theorem bind_inapplicable (c : Option String) (f : α → Outcome β) :
    (inapplicable c : Outcome α).bind f = inapplicable c := rfl

@[simp] theorem bind_failed (c : String) (f : α → Outcome β) :
    (failed c : Outcome α).bind f = failed c := rfl

theorem map_eq_success_iff {outcome : Outcome α} {f : α → β} {b : β} :
    outcome.map f = success b ↔ ∃ a, outcome = success a ∧ f a = b := by
  cases outcome <;> simp

theorem bind_eq_success_iff {outcome : Outcome α} {next : α → Outcome β} {b : β} :
    outcome.bind next = success b ↔ ∃ a, outcome = success a ∧ next a = success b := by
  cases outcome <;> simp

end Outcome
end BorrowSketch
