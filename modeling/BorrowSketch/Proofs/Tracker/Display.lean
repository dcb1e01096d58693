import BorrowSketch.Proofs.Tracker.Custody

/-! # What is on display

The editor of a tracker shows over whole lines what the tracker says is shown, and nothing else.

* **`Tracker.Kept.visible_eq`** — the layers visible in an editor that serves a tracker alone.
* **`Tracker.display_of_run`** — what is on display after any operations. -/

namespace BorrowSketch
namespace Tracker

/-- The layers that show something are those of the entries shown. -/
theorem filter_holdingsOf {entries : List (Key × Entry)}
    (h : ∀ entry ∈ entries, entry.2.displayed = true → ∃ decoration,
      entry.2.rendered = some decoration) :
    ((holdingsOf entries).filter fun cell =>
        decide (cell.2.style = .wholeLine) && !cell.2.decorations.isEmpty).map Prod.fst =
      (entries.filter fun entry => entry.2.displayed).filterMap fun entry => entry.2.layer := by
  induction entries with
  | nil => rfl
  | cons entry rest ih =>
    have hrest := ih fun other hother => h other (List.mem_cons_of_mem _ hother)
    rw [holdingsOf, List.filterMap_cons, ← holdingsOf]
    cases hdisplayed : entry.2.displayed with
    | false => cases hlayer : entry.2.layer <;> simp [Entry.holding?, hlayer, hdisplayed, hrest]
    | true =>
      obtain ⟨decoration, hrendered⟩ := h entry List.mem_cons_self hdisplayed
      cases hlayer : entry.2.layer <;>
        simp [Entry.holding?, hlayer, hdisplayed, hrendered, hrest]

/-- The layers of the triangles are not for whole lines. -/
theorem filter_triangleHoldings (layers : Option TriangleLayers)
    (available shown : List Decoration) :
    (triangleHoldings layers available shown).filter (fun cell =>
      decide (cell.2.style = .wholeLine) && !cell.2.decorations.isEmpty) = [] := by
  cases layers <;> simp [triangleHoldings]

namespace Kept

variable {tracker : Tracker} {editor : Editor} {others : List (LayerId × Layer)}

/-- **What is visible.** An editor that serves a tracker alone shows over whole lines the sketch of
the entry shown, if there is one, and nothing else. -/
theorem visible_eq (h : Kept (tracker, editor) []) :
    editor.visible = tracker.displayedEntries.filterMap fun entry => entry.2.layer := by
  obtain ⟨available, shown, gone, hholds⟩ := h.holds
  have hrendered : ∀ entry ∈ tracker.entries.toList, entry.2.displayed = true →
      ∃ decoration, entry.2.rendered = some decoration := by
    rintro ⟨key, entry⟩ hmem hdisplayed
    obtain ⟨-, id, decoration, -, hrendered⟩ :=
      h.exclusive.complete (KeyMap.mem_toList_iff.1 hmem) hdisplayed
    exact ⟨decoration, hrendered⟩
  have hperm := hholds.perm_visible
  rw [List.filter_append, List.filter_append, filter_triangleHoldings, List.filter_nil,
    List.append_nil, List.append_nil, sketchHoldings, filter_holdingsOf hrendered,
    ← displayedEntries] at hperm
  -- a list with at most one element is determined by what is on it
  rcases h.exclusive.displayedEntries_eq with hnone | ⟨⟨key, entry⟩, hone⟩
  · have hnone : tracker.displayedEntries = [] := hnone
    rw [hnone] at hperm ⊢
    exact hperm.eq_nil
  · have hone : tracker.displayedEntries = [(key, entry)] := hone
    rw [hone] at hperm ⊢
    cases hlayer : entry.layer with
    | none =>
      simp only [List.filterMap_cons, hlayer, List.filterMap_nil] at hperm ⊢
      exact hperm.eq_nil
    | some id =>
      simp only [List.filterMap_cons, hlayer, List.filterMap_nil] at hperm ⊢
      exact List.perm_singleton.1 hperm

end Kept

/-- **What is on display.** After any operations on a tracker, starting from nothing and with
handlers, documents and measures that may differ from one operation to the next: at most one entry
has its sketch shown; such an entry has no hints, and its layer is live and carries exactly the
decoration shown last; the layer of any other entry is empty. So the editor shows the sketch of that
entry over whole lines, and nothing else. -/
theorem display_of_run (operations : List Operation) :
    let tracker := (run operations).1
    let editor := (run operations).2
    tracker.displayedKeys.length ≤ 1 ∧
    (∀ key entry, tracker.get? key = some entry → entry.displayed = true →
      entry.hinted = false ∧ ∃ id decoration,
        entry.layer = some id ∧ entry.rendered = some decoration ∧
        editor.layer? id = some ⟨.wholeLine, [decoration], false⟩ ∧
        editor.decorations id = [decoration]) ∧
    (∀ key entry id, tracker.get? key = some entry → entry.displayed = false →
      entry.layer = some id →
        editor.layer? id = some ⟨.wholeLine, [], false⟩ ∧ editor.decorations id = []) ∧
    editor.visible = tracker.displayedEntries.filterMap fun entry => entry.2.layer := by
  intro tracker editor
  have hkept : Kept (tracker, editor) [] := kept_run operations
  refine ⟨?_, ?_, ?_, hkept.visible_eq⟩
  · -- there are as many keys as entries shown
    rw [displayedKeys, List.length_map, ← displayedEntries]
    rcases hkept.exclusive.displayedEntries_eq with hnone | ⟨⟨key, entry⟩, hone⟩
    · simp [show tracker.displayedEntries = [] from hnone]
    · simp [show tracker.displayedEntries = [(key, entry)] from hone]
  · intro key entry hget hdisplayed
    obtain ⟨hhinted, id, decoration, hid, hrendered⟩ := hkept.exclusive.complete hget hdisplayed
    have hholding : entry.holding? = some (id, ⟨.wholeLine, [decoration], false⟩) := by
      simp [Entry.holding?, hid, hdisplayed, hrendered]
    obtain ⟨hfound, hdecorations⟩ := hkept.layer?_eq hget hholding
    exact ⟨hhinted, id, decoration, hid, hrendered, hfound, hdecorations⟩
  · intro key entry id hget hdisplayed hid
    refine hkept.layer?_eq hget ?_
    simp [Entry.holding?, hid, hdisplayed]

end Tracker
end BorrowSketch
