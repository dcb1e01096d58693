import BorrowSketch.Proofs.Editor.Requests
import BorrowSketch.Proofs.Tracker.Showing

/-! # What a tracker asks of its editor

A tracker has three uses for layers: sketches, and triangles of two kinds. Whatever is asked of it,
it asks its editor for layers of these styles only.

* **`Tracker.Uses`** — the styles that a tracker has a use for.
* **`Tracker.reaches_perform`** — every operation reaches the editor by requests for these. -/

namespace BorrowSketch
namespace Tracker

/-- **The styles of a tracker.** -/
inductive Uses : LayerStyle → Prop where
  /-- Sketches are drawn over whole lines. -/
  | sketch : Uses .wholeLine
  /-- A triangle tells that there is a sketch. -/
  | available : Uses (.gutterIcon Drawing.Triangle.available.uri)
  /-- A triangle tells that something is shown. -/
  | shown : Uses (.gutterIcon Drawing.Triangle.shown.uri)

variable (tracker : Tracker) (editor : Editor) (scope : Scope) (key : Key)

/-! ## The changes that operations are made of -/

theorem reaches_hideEntries : editor.Reaches Uses (tracker.hideEntries editor).2 :=
  Editor.Reaches.refl.clearAll tracker.layers

theorem reaches_hideEntry : editor.Reaches Uses (tracker.hideEntry editor key).2.2 := by
  unfold hideEntry
  split
  · exact .refl
  · next entry _ => exact Editor.Reaches.refl.clearAll entry.layer.toList

theorem reaches_layerFor (entry : Entry) : editor.Reaches Uses (layerFor entry editor).2 := by
  unfold layerFor
  split
  · exact .refl
  · exact Editor.Reaches.refl.createLayer .sketch

theorem reaches_showEntry : editor.Reaches Uses (tracker.showEntry editor scope key).2.2 := by
  have hhidden := tracker.reaches_hideEntries editor
  have hshowing := tracker.showing editor scope key
  generalize tracker.showEntry editor scope key = result at hshowing ⊢
  cases hshowing with
  | missing => exact .refl
  | hinted => exact .refl
  | inapplicable => exact hhidden
  | failed _ _ _ hhide =>
    rw [hhide] at hhidden
    exact hhidden.notify _
  | @shown entry decoration _ _ _ hidden blank made layer hhide hlayer =>
    rw [hhide] at hhidden
    have hmade : blank.Reaches Uses made := by
      have hmade := reaches_layerFor blank entry
      rwa [hlayer] at hmade
    exact (hhidden.trans hmade).decorate layer [decoration]

theorem reaches_triangleLayers : editor.Reaches Uses (tracker.triangleLayers editor).2 := by
  unfold triangleLayers
  split
  · exact .refl
  · exact (Editor.Reaches.refl.createLayer .available).createLayer .shown

theorem reaches_showTriangles : editor.Reaches Uses (tracker.showTriangles editor).2 :=
  ((tracker.reaches_triangleLayers editor).decorate _ _).decorate _ _

theorem reaches_showEntries (keys : List Key) :
    editor.Reaches Uses (tracker.showEntries editor scope keys).2 := by
  induction keys generalizing tracker editor with
  | nil => exact .refl
  | cons key keys ih => exact (tracker.reaches_showEntry editor scope key).trans (ih _ _)

/-! ## Operations -/

theorem reaches_rebuild {diagnostics : List Diagnostic} {state : Tracker × Editor}
    (h : tracker.rebuild editor scope diagnostics = .ok state) : editor.Reaches Uses state.2 := by
  cases hentries : entriesOf scope.handlers diagnostics with
  | error error =>
    rw [rebuild, hentries] at h
    cases h
  | ok entries =>
    rw [rebuild_eq_ok tracker editor hentries] at h
    obtain rfl := Except.ok.inj h
    have hreleased : editor.Reaches Uses (editor.releaseAll tracker.layers) :=
      Editor.Reaches.refl.releaseAll tracker.layers
    exact (hreleased.trans (reaches_showEntries _ _ scope _)).trans (reaches_showTriangles _ _)

theorem reaches_reveal : editor.Reaches Uses (tracker.reveal editor scope key).2.2 :=
  (tracker.reaches_showEntry editor scope key).trans (reaches_showTriangles _ _)

theorem reaches_hide : editor.Reaches Uses (tracker.hide editor key).2.2 :=
  (tracker.reaches_hideEntry editor key).trans (reaches_showTriangles _ _)

theorem reaches_toggle : editor.Reaches Uses (tracker.toggle editor scope key).2.2 := by
  unfold toggle
  split
  · exact .refl
  · split
    · exact tracker.reaches_hide editor key
    · exact tracker.reaches_reveal editor scope key

theorem reaches_hideTriangles : editor.Reaches Uses (tracker.hideTriangles editor) := by
  unfold hideTriangles
  split
  · exact Editor.Reaches.refl.clearAll _
  · exact .refl

theorem reaches_dispose : editor.Reaches Uses (tracker.dispose editor).2 := by
  have hreleased : editor.Reaches Uses (editor.releaseAll tracker.layers) :=
    Editor.Reaches.refl.releaseAll tracker.layers
  cases htriangles : tracker.triangles with
  | none =>
    rw [dispose, htriangles]
    exact hreleased
  | some layers =>
    rw [dispose, htriangles]
    exact (hreleased.dispose layers.shown).dispose layers.available

/-- **Whatever is asked of a tracker,** it reaches its editor by requests alone, and creates layers
for sketches and triangles only. -/
theorem reaches_perform (operation : Operation) :
    editor.Reaches Uses (tracker.perform editor operation).2.2 := by
  cases operation with
  | rebuild scope diagnostics =>
    cases hrebuild : tracker.rebuild editor scope diagnostics with
    | error error =>
      simp only [perform, hrebuild]
      exact .refl
    | ok state =>
      simp only [perform, hrebuild]
      exact tracker.reaches_rebuild editor scope hrebuild
  | reveal scope key => exact tracker.reaches_reveal editor scope key
  | hide key => exact tracker.reaches_hide editor key
  | toggle scope key => exact tracker.reaches_toggle editor scope key
  | hideAll => exact (tracker.reaches_hideEntries editor).trans (reaches_showTriangles _ _)
  | showTriangles => exact tracker.reaches_showTriangles editor
  | hideTriangles => exact tracker.reaches_hideTriangles editor
  | dispose => exact tracker.reaches_dispose editor

end Tracker
end BorrowSketch
