import BorrowSketch.Proofs.History
import BorrowSketch.Proofs.Tracker.Custody

/-! # The triangles at the edge

The triangles are a second account of the entries, kept in the editor and not in the tracker. Most
operations put them in place anew once they are done with the entries; the others leave the entries
as they are.

* **`Tracker.Operation.refreshes`** — whether an operation puts the triangles in place anew.
* **`Tracker.Cleared`** — the triangles were taken away, and not put in place since.
* **`Tracker.Performing`** — the ways in which an operation can treat the triangles.
* **`Tracker.Edge`**, **`Tracker.edge_run`** — what the triangles look like, after any operations.
* **`Tracker.triangles_of_run`** — the same, read off the editor. -/

namespace BorrowSketch
namespace Tracker

variable {tracker : Tracker} {editor : Editor}

/-! ## Runs -/

/-- A longer run goes on from where the shorter one ended. -/
theorem run_append (operations more : List Operation) :
    run (operations ++ more) =
      more.foldl (fun state operation => (state.1.perform state.2 operation).2)
        (run operations) :=
  List.foldl_append

@[simp] theorem run_concat (operations : List Operation) (operation : Operation) :
    run (operations ++ [operation]) =
      ((run operations).1.perform (run operations).2 operation).2 :=
  run_append operations [operation]

/-! ## Putting in place and taking away -/

/-- Whether an operation puts the triangles in place anew, in the state that it is asked for in: a
replacement of the diagnostics unless it is refused, the toggling of an entry that is there, and
whatever shows or hides sketches. -/
def Operation.refreshes (state : Tracker × Editor) : Operation → Bool
  | .rebuild scope diagnostics => (state.1.rebuild state.2 scope diagnostics).isOk
  | .toggle _ key => (state.1.get? key).isSome
  | .reveal _ _ | .hide _ | .hideAll | .showTriangles => true
  | .hideTriangles | .dispose => false

/-- The triangles were taken away, and no operation since then put them in place anew. -/
def Cleared (operations : List Operation) : Prop :=
  ∃ before after, operations = before ++ .hideTriangles :: after ∧
    ∀ first operation rest, after = first ++ operation :: rest →
      operation.refreshes (run (before ++ .hideTriangles :: first)) = false

/-- Taking the triangles away goes on until an operation puts them in place anew. -/
theorem cleared_iff_since {operations : List Operation} :
    Cleared operations ↔ Since (· = .hideTriangles)
      (fun before operation => operation.refreshes (run before) = false) operations := by
  constructor
  · rintro ⟨before, after, hsplit, hafter⟩
    exact ⟨before, _, after, hsplit, rfl, hafter⟩
  · rintro ⟨before, _, after, hsplit, rfl, hafter⟩
    exact ⟨before, after, hsplit, hafter⟩

theorem not_cleared_nil : ¬ Cleared [] := by
  rw [cleared_iff_since]
  exact Since.not_nil

/-- **Cleared by the last operation or before.** -/
theorem cleared_concat_iff {operations : List Operation} {operation : Operation} :
    Cleared (operations ++ [operation]) ↔
      operation = .hideTriangles ∨
        Cleared operations ∧ operation.refreshes (run operations) = false := by
  rw [cleared_iff_since, cleared_iff_since, Since.concat_iff]

/-! ## What an operation does to the triangles -/

/-- **The ways in which an operation can treat the triangles.** It puts them in place anew, for
entries that it is done with; it takes them away; it disposes of everything; or it changes nothing
at all. -/
inductive Performing (tracker : Tracker) (editor : Editor) :
    Operation → Tracker × Editor → Prop where
  /-- The triangles are put in place anew. -/
  | refreshed {operation : Operation} {changed : Tracker} {made : Editor}
      (hrefreshes : operation.refreshes (tracker, editor) = true)
      (htriangles : changed.triangles = tracker.triangles)
      (hholds : ∃ available shown gone, made.Holds (changed.sketchHoldings ++
        (triangleHoldings changed.triangles available shown ++ [])) gone) :
    Performing tracker editor operation (changed.showTriangles made)
  /-- The triangles are taken away. -/
  | cleared : Performing tracker editor .hideTriangles (tracker, tracker.hideTriangles editor)
  /-- All is forgotten. -/
  | disposed : Performing tracker editor .dispose (tracker.dispose editor)
  /-- Nothing changes. -/
  | unchanged {operation : Operation}
      (hrefreshes : operation.refreshes (tracker, editor) = false)
      (hcleared : operation ≠ .hideTriangles) :
    Performing tracker editor operation (tracker, editor)

/-- An operation that is not refused and shows or hides sketches puts the triangles in place for
what it leaves behind. -/
theorem Performing.of_kept {operation : Operation} {changed : Tracker} {made : Editor}
    (h : Kept (changed, made) []) (hrefreshes : operation.refreshes (tracker, editor) = true)
    (htriangles : changed.triangles = tracker.triangles) :
    Performing tracker editor operation (changed.showTriangles made) :=
  .refreshed hrefreshes htriangles h.holds

/-- Every operation treats the triangles in one of these ways. -/
theorem performing (h : Kept (tracker, editor) []) (operation : Operation) :
    Performing tracker editor operation (tracker.perform editor operation).2 := by
  cases operation with
  | rebuild scope diagnostics =>
    unfold perform
    dsimp only
    cases hentries : entriesOf scope.handlers diagnostics with
    | error error =>
      have hrefused : tracker.rebuild editor scope diagnostics = .error error := by
        rw [Tracker.rebuild, hentries]
      rw [hrefused]
      exact .unchanged (by simp only [Operation.refreshes, hrefused]; rfl) (by simp)
    | ok entries =>
      have hrebuild := rebuild_eq_ok tracker editor hentries
      obtain ⟨available, shown, gone, hholds⟩ := h.holds
      obtain ⟨hreshown, htriangles⟩ := holds_reshown hholds hentries
      rw [hrebuild]
      refine .refreshed (by simp only [Operation.refreshes, hrebuild]; rfl) htriangles ?_
      rw [htriangles]
      exact ⟨available, shown, _, hreshown⟩
  | reveal scope key =>
    exact .of_kept (h.showEntry scope key) rfl (triangles_showEntry tracker editor scope key)
  | hide key => exact .of_kept (h.hideEntry key) rfl (triangles_hideEntry tracker editor key)
  | toggle scope key =>
    unfold perform Tracker.toggle
    dsimp only
    split
    · next hget => exact .unchanged (by simp [Operation.refreshes, hget]) (by simp)
    · next entry hget =>
      have hrefreshes : (Operation.toggle scope key).refreshes (tracker, editor) = true := by
        simp [Operation.refreshes, hget]
      -- an entry that is there is hidden if it is shown, and shown otherwise
      split
      · exact .of_kept (h.hideEntry key) hrefreshes (triangles_hideEntry tracker editor key)
      · exact .of_kept (h.showEntry scope key) hrefreshes
          (triangles_showEntry tracker editor scope key)
  | hideAll => exact .of_kept h.hideEntries rfl rfl
  | showTriangles => exact .of_kept h rfl rfl
  | hideTriangles => exact .cleared
  | dispose => exact .disposed

/-! ## What the triangles look like -/

/-- The triangles of all lines on which a sketch is available. -/
def availableTriangles (tracker : Tracker) : List Decoration :=
  tracker.trianglesWhere fun entry => !(entry.displayed || entry.hinted)

/-- The triangles of all lines on which something is shown. -/
def shownTriangles (tracker : Tracker) : List Decoration :=
  tracker.trianglesWhere fun entry => entry.displayed || entry.hinted

/-- Triangles on both layers, each layer live and with its own icon. -/
def Carries (state : Tracker × Editor) (available shown : List Decoration) : Prop :=
  ∀ layers, state.1.triangles = some layers →
    state.2.layer? layers.available =
      some ⟨.gutterIcon Drawing.Triangle.available.uri, available, false⟩ ∧
    state.2.layer? layers.shown =
      some ⟨.gutterIcon Drawing.Triangle.shown.uri, shown, false⟩

/-- **The state of the edge.** Without layers for the triangles there are no entries; with them the
triangles are those of the entries, unless they were taken away. -/
structure Edge (state : Tracker × Editor) (cleared : Prop) : Prop where
  /-- Entries come with triangles. -/
  untracked : state.1.triangles = none → state.1.entries.toList = []
  /-- No triangles are left once they were taken away. -/
  clear : cleared → Carries state [] []
  /-- Otherwise the triangles are those of the entries. -/
  drawn : ¬ cleared → Carries state state.1.availableTriangles state.1.shownTriangles

/-- The layers of the triangles carry what the account says. -/
theorem carries_of_holds {available shown : List Decoration} {gone : Set LayerId}
    (h : editor.Holds
      (tracker.sketchHoldings ++ (triangleHoldings tracker.triangles available shown ++ [])) gone) :
    Carries (tracker, editor) available shown := by
  intro layers htriangles
  have htriangles : tracker.triangles = some layers := htriangles
  constructor
  · exact h.layer?_eq (by simp [triangleHoldings, htriangles])
  · exact h.layer?_eq (by simp [triangleHoldings, htriangles])

/-- A tracker of nothing has nothing at the edge. -/
theorem edge_empty : Edge (empty, Editor.empty) (Cleared []) where
  untracked _ := rfl
  clear hcleared := absurd hcleared not_cleared_nil
  drawn _ _ htriangles := by simp [empty] at htriangles

/-- **One operation.** -/
theorem Edge.perform {cleared : Prop} (hkept : Kept (tracker, editor) [])
    (h : Edge (tracker, editor) cleared) (operation : Operation) :
    Edge (tracker.perform editor operation).2
      (operation = .hideTriangles ∨
        cleared ∧ operation.refreshes (tracker, editor) = false) := by
  have hperforming := performing hkept operation
  generalize (tracker.perform editor operation).2 = result at hperforming ⊢
  cases hperforming with
  | refreshed hrefreshes _ hholds =>
    obtain ⟨_, _, _, hholds⟩ := hholds
    refine ⟨fun hnone => by simp [showTriangles] at hnone, fun hcleared => ?_,
      fun _ => carries_of_holds (holds_showTriangles hholds)⟩
    -- what puts the triangles in place does not take them away
    rcases hcleared with rfl | ⟨-, hnot⟩
    · simp [Operation.refreshes] at hrefreshes
    · simp [hrefreshes] at hnot
  | cleared =>
    obtain ⟨_, _, _, hholds⟩ := hkept.holds
    exact ⟨h.untracked, fun _ => carries_of_holds (holds_hideTriangles hholds),
      fun hnot => absurd (.inl rfl) hnot⟩
  | disposed =>
    exact ⟨fun _ => rfl, fun _ _ hsome => by simp [dispose, empty] at hsome,
      fun _ _ hsome => by simp [dispose, empty] at hsome⟩
  | unchanged hrefreshes hoperation =>
    simp only [hoperation, hrefreshes, and_true, false_or]
    exact h

/-- **All runs.** -/
theorem edge_run (operations : List Operation) : Edge (run operations) (Cleared operations) := by
  induction operations using List.reverseRecOn with
  | nil => exact edge_empty
  | append_singleton operations operation ih =>
    rw [run_concat, cleared_concat_iff]
    exact ih.perform (kept_run operations) operation

/-! ## The layers of the triangles -/

/-- An operation other than disposing of everything leaves the layers of the triangles the same. -/
theorem triangles_perform (h : Kept (tracker, editor) []) {operation : Operation}
    {layers : TriangleLayers} (htriangles : tracker.triangles = some layers)
    (hoperation : operation ≠ .dispose) :
    (tracker.perform editor operation).2.1.triangles = some layers := by
  have hperforming := performing h operation
  generalize (tracker.perform editor operation).2 = result at hperforming ⊢
  cases hperforming with
  | refreshed _ hchanged _ =>
    rw [htriangles] at hchanged
    simp [showTriangles, triangleLayers, hchanged]
  | cleared => exact htriangles
  | disposed => exact absurd rfl hoperation
  | unchanged => exact htriangles

/-- The layers of the triangles stay the same until they are disposed of. -/
theorem triangles_run_append (operations : List Operation) {more : List Operation}
    {layers : TriangleLayers} (h : (run operations).1.triangles = some layers)
    (hmore : .dispose ∉ more) : (run (operations ++ more)).1.triangles = some layers := by
  induction more using List.reverseRecOn with
  | nil => rwa [List.append_nil]
  | append_singleton more operation ih =>
    rw [List.mem_append, List.mem_singleton, not_or] at hmore
    rw [← List.append_assoc, run_concat]
    exact triangles_perform (kept_run (operations ++ more)) (ih hmore.1) (Ne.symm hmore.2)

/-- Every entry has one triangle, among those shown or among those available. -/
theorem perm_triangles (tracker : Tracker) :
    (tracker.shownTriangles ++ tracker.availableTriangles).Perm
      (tracker.entries.toList.map fun entry => triangle entry.1) := by
  rw [shownTriangles, availableTriangles, trianglesWhere, trianglesWhere, ← List.map_append]
  exact (List.filter_append_perm _ _).map _

/-- **The triangles after any operations.** A tracker without layers for triangles has no entries.
With them, each layer is live and has its icon. If the triangles were taken away since they were
last put in place, both layers are empty. If not, one layer has the starts of the lines of the
entries that are shown or have hints, and the other those of all other entries, both in the order
of the keys, so that every entry has exactly one triangle. Toggling what is not tracked and
diagnostics that are refused change nothing, and the layers stay the same until everything is
disposed of. -/
theorem triangles_of_run (operations : List Operation) :
    let tracker := (run operations).1
    let editor := (run operations).2
    (tracker.triangles = none → tracker.entries.toList = []) ∧
    (∀ layers, tracker.triangles = some layers →
      (∃ available shown,
        editor.layer? layers.available =
          some ⟨.gutterIcon Drawing.Triangle.available.uri, available, false⟩ ∧
        editor.layer? layers.shown =
          some ⟨.gutterIcon Drawing.Triangle.shown.uri, shown, false⟩) ∧
      (Cleared operations →
        editor.decorations layers.shown = [] ∧ editor.decorations layers.available = []) ∧
      (¬ Cleared operations →
        editor.decorations layers.shown =
          (tracker.entries.toList.filter fun entry => entry.2.displayed || entry.2.hinted).map
            (fun entry => Decoration.plain (Span.lineStart entry.1.line)) ∧
        editor.decorations layers.available =
          (tracker.entries.toList.filter fun entry => !(entry.2.displayed || entry.2.hinted)).map
            (fun entry => Decoration.plain (Span.lineStart entry.1.line)) ∧
        (editor.decorations layers.shown ++ editor.decorations layers.available).Perm
          (tracker.entries.toList.map fun entry =>
            Decoration.plain (Span.lineStart entry.1.line)))) ∧
    (∀ scope key, tracker.get? key = none →
      run (operations ++ [.toggle scope key]) = run operations) ∧
    (∀ scope diagnostics error, tracker.rebuild editor scope diagnostics = .error error →
      run (operations ++ [.rebuild scope diagnostics]) = run operations) ∧
    (∀ layers more, tracker.triangles = some layers → .dispose ∉ more →
      (run (operations ++ more)).1.triangles = some layers) := by
  intro tracker editor
  have hedge : Edge (tracker, editor) (Cleared operations) := edge_run operations
  refine ⟨hedge.untracked, fun layers hlayers => ?_, fun scope key hget => ?_,
    fun scope diagnostics error herror => ?_,
    fun layers more hlayers hmore => triangles_run_append operations hlayers hmore⟩
  · by_cases hcleared : Cleared operations
    · obtain ⟨havailable, hshown⟩ := hedge.clear hcleared layers hlayers
      refine ⟨⟨_, _, havailable, hshown⟩, fun _ => ⟨?_, ?_⟩, fun hnot => absurd hcleared hnot⟩
      · simp [Editor.decorations, hshown]
      · simp [Editor.decorations, havailable]
    · obtain ⟨havailable, hshown⟩ := hedge.drawn hcleared layers hlayers
      have hshownList : editor.decorations layers.shown = tracker.shownTriangles := by
        simp [Editor.decorations, hshown]
      have havailableList : editor.decorations layers.available = tracker.availableTriangles := by
        simp [Editor.decorations, havailable]
      refine ⟨⟨_, _, havailable, hshown⟩, fun hyes => absurd hyes hcleared, fun _ => ?_⟩
      rw [hshownList, havailableList]
      exact ⟨rfl, rfl, perm_triangles tracker⟩
  · have hget : (run operations).1.get? key = none := hget
    simp [perform, toggle, hget]
  · have herror : (run operations).1.rebuild (run operations).2 scope diagnostics =
      .error error := herror
    simp [perform, herror]

end Tracker
end BorrowSketch
