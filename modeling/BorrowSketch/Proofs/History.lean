import Mathlib.Data.List.Basic

/-! # Histories

What a list of events comes to is often told by one event of it: the last that started something,
provided nothing that came behind it put an end to it.

* **`Since`** — something was started, and nothing since then put an end to it.
* **`Since.concat_iff`** — one more event. -/

namespace BorrowSketch

/-- **Something was started and still goes on.** An event of the history starts it, and each one
behind lets it go on, given all that happened before. -/
def Since {α : Type} (starts : α → Prop) (goesOn : List α → α → Prop) (history : List α) : Prop :=
  ∃ before event after, history = before ++ event :: after ∧ starts event ∧
    ∀ first other rest, after = first ++ other :: rest → goesOn (before ++ event :: first) other

namespace Since

variable {α : Type} {starts : α → Prop} {goesOn : List α → α → Prop} {history : List α}

/-- Nothing goes on before the first event. -/
theorem not_nil : ¬ Since starts goesOn [] := by
  rintro ⟨before, event, after, hsplit, -⟩
  exact List.append_ne_nil_of_right_ne_nil before (List.cons_ne_nil _ _) hsplit.symm

/-- **One more event** starts it, or lets go on what was started before. -/
theorem concat_iff {event : α} :
    Since starts goesOn (history ++ [event]) ↔
      starts event ∨ Since starts goesOn history ∧ goesOn history event := by
  constructor
  · rintro ⟨before, start, after, hsplit, hstart, hafter⟩
    rcases List.eq_nil_or_concat after with rfl | ⟨first, last, rfl⟩
    · -- nothing came behind what started it, so that is the last event
      obtain ⟨-, rfl⟩ : history = before ∧ event = start := by
        simpa using List.append_inj' hsplit rfl
      exact .inl hstart
    · rw [List.concat_eq_append] at hsplit hafter
      rw [← List.cons_append, ← List.append_assoc] at hsplit
      obtain ⟨rfl, rfl⟩ : history = before ++ start :: first ∧ event = last := by
        simpa using List.append_inj' hsplit rfl
      refine .inr ⟨⟨before, start, first, rfl, hstart, fun prior other rest hfirst => ?_⟩,
        hafter first _ [] rfl⟩
      exact hafter prior other (rest ++ [event]) (by rw [hfirst]; simp)
  · rintro (hstart | ⟨⟨before, start, after, rfl, hstart, hafter⟩, hlast⟩)
    · exact ⟨history, event, [], rfl, hstart, fun first other rest hnil => by simp at hnil⟩
    · refine ⟨before, start, after ++ [event], by simp, hstart, fun first other rest hsplit => ?_⟩
      -- an event behind is one of those before, or the last
      rcases List.eq_nil_or_concat rest with rfl | ⟨rest, last, rfl⟩
      · obtain ⟨rfl, rfl⟩ : after = first ∧ event = other := by
          simpa using List.append_inj' hsplit rfl
        exact hlast
      · rw [List.concat_eq_append, ← List.cons_append, ← List.append_assoc] at hsplit
        exact hafter first other rest (List.append_inj' hsplit rfl).1

end Since
end BorrowSketch
