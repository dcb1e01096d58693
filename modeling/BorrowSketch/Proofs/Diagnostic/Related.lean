import BorrowSketch.Diagnostic.Basic
import BorrowSketch.Proofs.Text.Pattern

/-! # The first of the related places

Facts about a diagnostic are read off the first related place that has the fixed words.

* **`IsFirst`** — the first of a list with a property.
* **`Related.Begins`**, **`Related.Ends`** — a related place whose message has fixed words.
* **`Diagnostic.relatedEndingWith?_eq_some_iff`**, **`Diagnostic.relatedStartingWith?_eq_some_iff`**
  — the place taken is the first. -/

namespace BorrowSketch

/-- The first of a list with a property. -/
def IsFirst {α : Type} (p : α → Prop) (list : List α) (a : α) : Prop :=
  p a ∧ ∃ before after, list = before ++ a :: after ∧ ∀ other ∈ before, ¬ p other

/-- What a search for an element with a property finds is the first. -/
theorem find?_eq_some_iff_isFirst {α : Type} {test : α → Bool} {p : α → Prop} {list : List α}
    {a : α}
    (h : ∀ a, test a = true ↔ p a) : list.find? test = some a ↔ IsFirst p list a := by
  rw [List.find?_eq_some_iff_append, h, IsFirst]
  simp only [Bool.not_eq_true', ← h, Bool.not_eq_true]

/-- A search for an element with a property finds nothing exactly if no element has it. -/
theorem find?_eq_none_iff_forall {α : Type} {test : α → Bool} {p : α → Prop} {list : List α}
    (h : ∀ a, test a = true ↔ p a) : list.find? test = none ↔ ∀ a ∈ list, ¬ p a := by
  rw [List.find?_eq_none]
  simp only [h]

/-- A search for an element with a property finds something exactly if some element has it. -/
theorem isSome_find?_iff_exists {α : Type} {test : α → Bool} {p : α → Prop} {list : List α}
    (h : ∀ a, test a = true ↔ p a) : (list.find? test).isSome = true ↔ ∃ a ∈ list, p a := by
  rw [List.find?_isSome]
  simp only [h]

/-- If a list has elements with a property, one of them is the first. -/
theorem exists_isFirst {α : Type} {p : α → Prop} {list : List α} (h : ∃ a ∈ list, p a) :
    ∃ a, IsFirst p list a := by
  classical
  have hfound : (list.find? fun a => decide (p a)).isSome = true :=
    (isSome_find?_iff_exists fun a => decide_eq_true_iff).2 h
  obtain ⟨a, ha⟩ := Option.isSome_iff_exists.1 hfound
  exact ⟨a, (find?_eq_some_iff_isFirst fun a => decide_eq_true_iff).1 ha⟩

namespace Related

/-- The message of a related place begins with the words. -/
def Begins (words : String) (place : Related) : Prop :=
  Text.StartsWith words place.message

/-- The message of a related place ends with the words. -/
def Ends (words : String) (place : Related) : Prop :=
  Text.EndsWith words place.message

end Related

namespace Diagnostic

variable {d : Diagnostic} {words : String} {place : Related}

/-- **The place found by the end of its message** is the first with that end. -/
theorem relatedEndingWith?_eq_some_iff :
    d.relatedEndingWith? words = some place ↔ IsFirst (Related.Ends words) d.related place :=
  find?_eq_some_iff_isFirst fun _ => Text.endsWith_iff

/-- A place is found by the end of its message exactly if there is one. -/
theorem isSome_relatedEndingWith?_iff :
    (d.relatedEndingWith? words).isSome = true ↔ ∃ place ∈ d.related, place.Ends words :=
  isSome_find?_iff_exists fun _ => Text.endsWith_iff

/-- **The place found by the beginning of its message** is the first with that beginning. -/
theorem relatedStartingWith?_eq_some_iff :
    d.relatedStartingWith? words = some place ↔ IsFirst (Related.Begins words) d.related place :=
  find?_eq_some_iff_isFirst fun _ => Text.startsWith_iff

/-- No place is found by the beginning of its message exactly if there is none. -/
theorem relatedStartingWith?_eq_none_iff :
    d.relatedStartingWith? words = none ↔ ∀ place ∈ d.related, ¬ place.Begins words :=
  find?_eq_none_iff_forall fun _ => Text.startsWith_iff

end Diagnostic
end BorrowSketch
