import BorrowSketch.Proofs.Editor.Mirror
import BorrowSketch.Proofs.Tracker.Showing

/-! # Trackers under other names

A tracker uses the numbers of its layers only to hand them back to the editor. So in an editor that
mirrors another, the same tracker with its layers renamed does the same.

* **`Tracker.rename`** — a tracker with its layers renamed.
* **`Tracker.Alike`** — a tracker and its editor, and the same under other names.
* **`Tracker.alike_rebuild`**, **`Tracker.alike_toggle`**, **`Tracker.alike_hideAll`**,
  **`Tracker.alike_dispose`** — the operations lead from alike to alike, with the same answers. -/

namespace BorrowSketch

/-! ## Renaming -/

/-- A change of all values, followed by one under a key. -/
theorem KeyMap.modify_mapValues {κ α β : Type} [Ord κ] (m : KeyMap κ α) (key : κ) (f : α → β)
    {g : α → α} {g' : β → β} (h : ∀ value, g' (f value) = f (g value)) :
    (m.mapValues f).modify key g' = (m.modify key g).mapValues f := by
  refine KeyMap.ext ?_
  simp only [KeyMap.toList_modify, KeyMap.toList_mapValues, List.map_map]
  refine List.map_congr_left fun entry _ => ?_
  simp only [Function.comp_apply, h, apply_ite f]

/-- An entry with its layer renamed. -/
def Entry.rename (f : LayerId → LayerId) (entry : Entry) : Entry :=
  { entry with layer := entry.layer.map f }

@[simp] theorem Entry.diagnostic_rename (f : LayerId → LayerId) (entry : Entry) :
    (entry.rename f).diagnostic = entry.diagnostic := rfl

@[simp] theorem Entry.hinted_rename (f : LayerId → LayerId) (entry : Entry) :
    (entry.rename f).hinted = entry.hinted := rfl

@[simp] theorem Entry.displayed_rename (f : LayerId → LayerId) (entry : Entry) :
    (entry.rename f).displayed = entry.displayed := rfl

@[simp] theorem Entry.layer_rename (f : LayerId → LayerId) (entry : Entry) :
    (entry.rename f).layer = entry.layer.map f := rfl

/-- The layers of the triangles renamed. -/
def TriangleLayers.rename (f : LayerId → LayerId) (layers : TriangleLayers) : TriangleLayers :=
  ⟨f layers.available, f layers.shown⟩

namespace Tracker

/-- A tracker with its layers renamed. -/
def rename (f : LayerId → LayerId) (tracker : Tracker) : Tracker :=
  ⟨tracker.entries.mapValues (Entry.rename f), tracker.triangles.map (TriangleLayers.rename f)⟩

section Views

variable (f : LayerId → LayerId) (tracker : Tracker)

@[simp] theorem get?_rename (key : Key) :
    (tracker.rename f).get? key = (tracker.get? key).map (Entry.rename f) :=
  KeyMap.get?_mapValues _ _ _

@[simp] theorem isDisplayed_rename (key : Key) :
    (tracker.rename f).isDisplayed key = tracker.isDisplayed key := by
  rw [isDisplayed, isDisplayed, get?_rename]
  cases tracker.get? key <;> rfl

@[simp] theorem keysOnLine_rename (line : Nat) :
    (tracker.rename f).keysOnLine line = tracker.keysOnLine line := by
  rw [keysOnLine, keysOnLine, rename, KeyMap.keys_mapValues]

@[simp] theorem layers_rename : (tracker.rename f).layers = tracker.layers.map f := by
  simp only [layers, rename, KeyMap.values, KeyMap.toList_mapValues, List.map_map,
    List.filterMap_map, List.map_filterMap]
  rfl

/-- The triangles do not depend on the layers. -/
theorem trianglesWhere_rename {condition : Entry → Bool}
    (h : ∀ entry : Entry, condition (entry.rename f) = condition entry) :
    (tracker.rename f).trianglesWhere condition = tracker.trianglesWhere condition := by
  simp only [trianglesWhere, rename, KeyMap.toList_mapValues, List.filter_map, List.map_map,
    Function.comp_def, h]

/-- New entries have no layers to rename. -/
theorem rename_entriesOf {handlers : Handlers} {diagnostics : List Diagnostic}
    {entries : KeyMap Key Entry} (h : entriesOf handlers diagnostics = .ok entries) :
    entries.mapValues (Entry.rename f) = entries := by
  refine KeyMap.ext ?_
  rw [KeyMap.toList_mapValues]
  refine (List.map_congr_left fun entry hmem => ?_).trans (List.map_id _)
  obtain ⟨key, entry⟩ := entry
  obtain ⟨-, d, -, rfl⟩ := exists_of_get?_entriesOf h (KeyMap.mem_toList_iff.1 hmem)
  rfl

/-- The sketch of an entry is shown on the renamed layer. -/
theorem rename_withShown (key : Key) (layer : LayerId) (decoration : Decoration) :
    (tracker.withShown key layer decoration).rename f =
      (tracker.rename f).withShown key (f layer) decoration := by
  have hentries : (tracker.entries.mapValues (Entry.rename f)).modify key
      (fun entry => entry.shown (f layer) decoration) =
        (tracker.entries.modify key fun entry => entry.shown layer decoration).mapValues
          (Entry.rename f) :=
    KeyMap.modify_mapValues tracker.entries key (Entry.rename f) fun _ => rfl
  rw [withShown, withShown, rename, rename, hentries]

end Views

/-! ## What trackers do under other names -/

open Editor (Mirrors Naming)

variable {alone₀ shared₀ alone shared : Editor} {naming : Naming alone₀ shared₀}

/-- **A tracker and its editor, and the same under other names.** -/
def Alike (naming : Naming alone₀ shared₀) (alone shared : Tracker × Editor) : Prop :=
  shared.1 = alone.1.rename naming.map ∧ Mirrors naming alone.2 shared.2

/-- Hiding all sketches. -/
theorem alike_hideEntries (h : Mirrors naming alone shared) (tracker : Tracker) :
    Alike naming (tracker.hideEntries alone)
      ((tracker.rename naming.map).hideEntries shared) := by
  refine ⟨?_, ?_⟩
  · simp only [hideEntries, rename, Tracker.mk.injEq, and_true]
    refine KeyMap.ext ?_
    simp only [KeyMap.toList_mapValues, List.map_map]
    rfl
  · rw [hideEntries, hideEntries, layers_rename]
    exact h.clearAll tracker.layers

/-- The layer of an entry. -/
theorem alike_layerFor (h : Mirrors naming alone shared) (entry : Entry) :
    (layerFor (entry.rename naming.map) shared).1 = naming.map (layerFor entry alone).1 ∧
      Mirrors naming (layerFor entry alone).2 (layerFor (entry.rename naming.map) shared).2 := by
  rw [layerFor, layerFor, Entry.layer_rename]
  cases entry.layer with
  | some layer => exact ⟨rfl, h⟩
  | none => exact h.createLayer .wholeLine

/-- Showing one sketch. -/
theorem alike_showEntry (h : Mirrors naming alone shared) (tracker : Tracker) (scope : Scope)
    (key : Key) :
    ((tracker.rename naming.map).showEntry shared scope key).1 =
        (tracker.showEntry alone scope key).1 ∧
      Alike naming (tracker.showEntry alone scope key).2
        ((tracker.rename naming.map).showEntry shared scope key).2 := by
  rw [showEntry, showEntry, get?_rename]
  cases tracker.get? key with
  | none => exact ⟨rfl, rfl, h⟩
  | some entry =>
    dsimp only [Option.map_some]
    rw [Entry.hinted_rename, Entry.diagnostic_rename]
    split
    · exact ⟨rfl, rfl, h⟩
    · obtain ⟨hhidden, hblank⟩ := alike_hideEntries h tracker
      cases illustrate scope.handlers.renderers scope.scene entry.diagnostic with
      | inapplicable context => exact ⟨rfl, hhidden, hblank⟩
      | failed context => exact ⟨rfl, hhidden, hblank.notify _⟩
      | success decoration =>
        obtain ⟨hlayer, hmade⟩ := alike_layerFor hblank entry
        refine ⟨rfl, ?_, ?_⟩
        · show withShown _ key _ decoration = rename naming.map (withShown _ key _ decoration)
          rw [hhidden, hlayer, rename_withShown]
        · show Mirrors naming _ (Editor.decorate _ _ [decoration])
          rw [hlayer]
          exact hmade.decorate _ _

/-- Hiding one sketch. -/
theorem alike_hideEntry (h : Mirrors naming alone shared) (tracker : Tracker) (key : Key) :
    ((tracker.rename naming.map).hideEntry shared key).1 = (tracker.hideEntry alone key).1 ∧
      Alike naming (tracker.hideEntry alone key).2
        ((tracker.rename naming.map).hideEntry shared key).2 := by
  rw [hideEntry, hideEntry, get?_rename]
  cases tracker.get? key with
  | none => exact ⟨rfl, rfl, h⟩
  | some entry =>
    refine ⟨rfl, ?_, ?_⟩
    · have hentries :
          (tracker.entries.mapValues (Entry.rename naming.map)).modify key Entry.hidden =
            (tracker.entries.modify key Entry.hidden).mapValues (Entry.rename naming.map) :=
        KeyMap.modify_mapValues tracker.entries key (Entry.rename naming.map) fun _ => rfl
      simp only [Option.map_some, rename, hentries]
    · have hlayer : (entry.rename naming.map).layer.toList =
          entry.layer.toList.map naming.map := by
        rw [Entry.layer_rename]
        cases entry.layer <;> rfl
      dsimp only [Option.map_some]
      rw [hlayer]
      exact h.clearAll entry.layer.toList

/-- The layers of the triangles. -/
theorem alike_triangleLayers (h : Mirrors naming alone shared) (tracker : Tracker) :
    ((tracker.rename naming.map).triangleLayers shared).1 =
        (tracker.triangleLayers alone).1.rename naming.map ∧
      Mirrors naming (tracker.triangleLayers alone).2
        ((tracker.rename naming.map).triangleLayers shared).2 := by
  have htriangles : (tracker.rename naming.map).triangles =
      tracker.triangles.map (TriangleLayers.rename naming.map) := rfl
  rw [triangleLayers, triangleLayers, htriangles]
  cases tracker.triangles with
  | some layers => exact ⟨rfl, h⟩
  | none =>
    obtain ⟨havailable, hfirst⟩ :=
      h.createLayer (.gutterIcon Drawing.Triangle.available.uri)
    obtain ⟨hshown, hsecond⟩ :=
      hfirst.createLayer (.gutterIcon Drawing.Triangle.shown.uri)
    exact ⟨congrArg₂ TriangleLayers.mk havailable hshown, hsecond⟩

/-- Showing the triangles. -/
theorem Alike.showTriangles {state state' : Tracker × Editor} (h : Alike naming state state') :
    Alike naming (state.1.showTriangles state.2) (state'.1.showTriangles state'.2) := by
  obtain ⟨tracker, alone⟩ := state
  obtain ⟨_, shared⟩ := state'
  obtain ⟨rfl, hmirrors⟩ := h
  obtain ⟨hlayers, hmade⟩ := alike_triangleLayers hmirrors tracker
  have hshown : (tracker.rename naming.map).trianglesWhere
      (fun entry => entry.displayed || entry.hinted) =
        tracker.trianglesWhere fun entry => entry.displayed || entry.hinted :=
    trianglesWhere_rename _ _ fun _ => rfl
  have havailable : (tracker.rename naming.map).trianglesWhere
      (fun entry => !(entry.displayed || entry.hinted)) =
        tracker.trianglesWhere fun entry => !(entry.displayed || entry.hinted) :=
    trianglesWhere_rename _ _ fun _ => rfl
  rw [Tracker.showTriangles, Tracker.showTriangles]
  refine ⟨?_, ?_⟩
  · show Tracker.mk _ _ = Tracker.mk _ _
    rw [hlayers]
    rfl
  · dsimp only
    rw [hlayers, hshown, havailable]
    exact (hmade.decorate _ _).decorate _ _

/-- Showing several sketches, one after the other. -/
theorem alike_showEntries (h : Mirrors naming alone shared) (tracker : Tracker) (scope : Scope)
    (keys : List Key) :
    Alike naming (tracker.showEntries alone scope keys)
      ((tracker.rename naming.map).showEntries shared scope keys) := by
  induction keys generalizing tracker alone shared with
  | nil => exact ⟨rfl, h⟩
  | cons key keys ih =>
    obtain ⟨-, htracker, hmirrors⟩ := alike_showEntry h tracker scope key
    have hrest := ih hmirrors (tracker.showEntry alone scope key).2.1
    rw [← htracker] at hrest
    exact hrest

/-! ## Operations -/

/-- **Replacing the diagnostics.** -/
theorem alike_rebuild (h : Mirrors naming alone shared) (tracker : Tracker) {scope : Scope}
    {diagnostics : List Diagnostic} {state : Tracker × Editor}
    (hrebuild : tracker.rebuild alone scope diagnostics = .ok state) :
    ∃ state', (tracker.rename naming.map).rebuild shared scope diagnostics = .ok state' ∧
      Alike naming state state' := by
  cases hentries : entriesOf scope.handlers diagnostics with
  | error error => simp [rebuild, hentries] at hrebuild
  | ok entries =>
    rw [rebuild_eq_ok tracker alone hentries] at hrebuild
    obtain rfl := Except.ok.inj hrebuild
    refine ⟨_, rebuild_eq_ok _ shared hentries, ?_⟩
    -- the new entries are the same under other names, and the same keys are asked for again
    have hreleased := h.releaseAll tracker.layers
    have hrenamed : Tracker.mk entries (tracker.rename naming.map).triangles =
        rename naming.map ⟨entries, tracker.triangles⟩ := by
      show _ = Tracker.mk (entries.mapValues (Entry.rename naming.map)) _
      rw [rename_entriesOf naming.map hentries]
      rfl
    have hkeys : entries.keys.filter (tracker.rename naming.map).isDisplayed =
        entries.keys.filter tracker.isDisplayed :=
      List.filter_congr fun key _ => isDisplayed_rename naming.map tracker key
    have hreshown : Alike naming (tracker.reshown alone scope entries)
        ((tracker.rename naming.map).reshown shared scope entries) := by
      rw [reshown, reshown, hkeys, layers_rename, hrenamed]
      exact alike_showEntries hreleased _ scope _
    exact hreshown.showTriangles

/-- **Showing or hiding one sketch.** -/
theorem alike_toggle (h : Mirrors naming alone shared) (tracker : Tracker) (scope : Scope)
    (key : Key) :
    ((tracker.rename naming.map).toggle shared scope key).1 =
        (tracker.toggle alone scope key).1 ∧
      Alike naming (tracker.toggle alone scope key).2
        ((tracker.rename naming.map).toggle shared scope key).2 := by
  rw [toggle, toggle, get?_rename]
  cases tracker.get? key with
  | none => exact ⟨rfl, rfl, h⟩
  | some entry =>
    dsimp only [Option.map_some]
    rw [Entry.displayed_rename]
    split
    · obtain ⟨houtcome, hhidden⟩ := alike_hideEntry h tracker key
      exact ⟨houtcome, hhidden.showTriangles⟩
    · obtain ⟨houtcome, hshown⟩ := alike_showEntry h tracker scope key
      exact ⟨houtcome, hshown.showTriangles⟩

/-- **Hiding all sketches.** -/
theorem alike_hideAll (h : Mirrors naming alone shared) (tracker : Tracker) :
    Alike naming (tracker.hideAll alone) ((tracker.rename naming.map).hideAll shared) :=
  (alike_hideEntries h tracker).showTriangles

/-- **Forgetting everything.** -/
theorem alike_dispose (h : Mirrors naming alone shared) (tracker : Tracker) :
    Alike naming (tracker.dispose alone) ((tracker.rename naming.map).dispose shared) := by
  have hreleased := h.releaseAll tracker.layers
  have htriangles : (tracker.rename naming.map).triangles =
      tracker.triangles.map (TriangleLayers.rename naming.map) := rfl
  rw [dispose, dispose, layers_rename, htriangles]
  refine ⟨rfl, ?_⟩
  cases tracker.triangles with
  | none => exact hreleased
  | some layers => exact (hreleased.dispose layers.shown).dispose layers.available

end Tracker
end BorrowSketch
