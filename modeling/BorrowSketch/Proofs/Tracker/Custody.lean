import BorrowSketch.Proofs.Editor.Holdings
import BorrowSketch.Proofs.Tracker.Showing

/-! # The layers of a tracker

A tracker owns the layers of its entries and of its triangles. Whoever else has layers in the same
editor is on the rest of the editor's account, and no operation of the tracker reaches there.

* **`Tracker.sketchHoldings`**, **`Tracker.triangleHoldings`** — the layers of a tracker, as they
  look when the tracker is right about them.
* **`Tracker.Kept`** — the tracker is right about its layers, and shows at most one sketch.
* **`Tracker.Kept.perform`**, **`Tracker.kept_run`** — every operation, and so every run, keeps it
  so. -/

namespace BorrowSketch

/-- The layer of an entry as it looks: with the decoration shown last while the sketch is shown,
and empty while it is hidden. -/
def Entry.holding? (entry : Entry) : Option (LayerId × Layer) :=
  entry.layer.map fun id =>
    (id, ⟨.wholeLine, if entry.displayed then entry.rendered.toList else [], false⟩)

theorem Entry.holding?_eq {entry : Entry} {id : LayerId} (h : entry.layer = some id) :
    entry.holding? =
      some (id, ⟨.wholeLine, if entry.displayed then entry.rendered.toList else [], false⟩) := by
  rw [holding?, h, Option.map_some]

namespace Tracker

variable {tracker : Tracker} {editor : Editor} {before after live others : List (LayerId × Layer)}
  {gone : Set LayerId}

/-! ## Holdings -/

/-- The layers of several entries. -/
def holdingsOf (entries : List (Key × Entry)) : List (LayerId × Layer) :=
  entries.filterMap fun entry => entry.2.holding?

/-- The layers of the sketches of a tracker. -/
def sketchHoldings (tracker : Tracker) : List (LayerId × Layer) :=
  holdingsOf tracker.entries.toList

/-- The layers of the triangles, with the decorations that they have. -/
def triangleHoldings (layers : Option TriangleLayers) (available shown : List Decoration) :
    List (LayerId × Layer) :=
  match layers with
  | none => []
  | some layers =>
    [(layers.available, ⟨.gutterIcon Drawing.Triangle.available.uri, available, false⟩),
      (layers.shown, ⟨.gutterIcon Drawing.Triangle.shown.uri, shown, false⟩)]

/-- The layer of one entry among those of others. -/
theorem holdingsOf_append_cons (first rest : List (Key × Entry)) (entry : Key × Entry) :
    holdingsOf (first ++ entry :: rest) =
      holdingsOf first ++ (entry.2.holding?.toList ++ holdingsOf rest) := by
  rw [holdingsOf, List.filterMap_append, List.filterMap_cons]
  cases entry.2.holding? <;> rfl

/-- The layers that the entries own are those of their holdings. -/
theorem layers_eq (tracker : Tracker) : tracker.layers = tracker.sketchHoldings.map Prod.fst := by
  rw [layers, KeyMap.values, sketchHoldings, holdingsOf, List.filterMap_map, List.map_filterMap]
  congr 1
  funext entry
  cases hlayer : entry.2.layer <;> simp [Entry.holding?, hlayer]

/-- A hidden entry has nothing on its layer. -/
theorem holding?_hidden (entry : Entry) :
    entry.hidden.holding? = entry.holding?.map Editor.Holds.cleared := by
  cases hlayer : entry.layer <;>
    simp [Entry.holding?, Entry.hidden, Editor.Holds.cleared, hlayer]

/-- Hiding all sketches clears all their layers. -/
theorem sketchHoldings_hideEntries (tracker : Tracker) (editor : Editor) :
    (tracker.hideEntries editor).1.sketchHoldings =
      tracker.sketchHoldings.map Editor.Holds.cleared := by
  simp only [hideEntries, sketchHoldings, holdingsOf, KeyMap.toList_mapValues,
    List.filterMap_map, List.map_filterMap, Function.comp_def, holding?_hidden]

/-! ## What the operations do to the layers -/

/-- Hiding all sketches clears their layers and no others. -/
theorem holds_hideEntries (h : editor.Holds (tracker.sketchHoldings ++ live) gone) :
    (tracker.hideEntries editor).2.Holds
      ((tracker.hideEntries editor).1.sketchHoldings ++ live) gone := by
  rw [sketchHoldings_hideEntries]
  have hlayers : (tracker.hideEntries editor).2 =
      editor.clearAll (tracker.sketchHoldings.map Prod.fst) := by
    rw [← layers_eq]
    rfl
  rw [hlayers]
  exact h.clearAll

/-- An entry that is hidden gets a layer without decorations, or has it already. -/
theorem holds_layerFor {entry : Entry}
    (h : editor.Holds (before ++ (entry.hidden.holding?.toList ++ after)) gone) :
    (layerFor entry editor).2.Holds
      (before ++ ((layerFor entry editor).1, ⟨.wholeLine, [], false⟩) :: after) gone := by
  cases hlayer : entry.layer with
  | some id => simpa [layerFor, Entry.holding?, Entry.hidden, hlayer] using h
  | none =>
    have hbefore : editor.Holds (before ++ after) gone := by
      simpa [Entry.holding?, Entry.hidden, hlayer] using h
    rw [layerFor, hlayer]
    exact (hbefore.createLayer .wholeLine).perm List.perm_middle.symm

/-- Showing the sketch of an entry hides the others, and touches no layers but theirs. -/
theorem holds_showEntry (h : editor.Holds (tracker.sketchHoldings ++ live) gone) (scope : Scope)
    (key : Key) :
    (tracker.showEntry editor scope key).2.2.Holds
      ((tracker.showEntry editor scope key).2.1.sketchHoldings ++ live) gone := by
  have hhidden := holds_hideEntries h
  have hshowing := tracker.showing editor scope key
  generalize tracker.showEntry editor scope key = result at hshowing ⊢
  cases hshowing with
  | missing => exact h
  | hinted => exact h
  | inapplicable => exact hhidden
  | failed _ _ _ hhide =>
    rw [hhide] at hhidden
    exact hhidden.notify _
  | @shown entry decoration hget _ _ hidden blank made layer hhide hlayer =>
    have hentry : hidden.entries.get? key = some entry.hidden := by
      have hentry := tracker.get?_hideEntries editor key
      rwa [hhide, hget] at hentry
    rw [hhide] at hhidden
    -- the layer of the entry stands between those of the entries before and after it
    obtain ⟨first, rest, hsplit, hmodify⟩ := KeyMap.exists_split hentry
    have hmade : made.Holds
        (holdingsOf first ++ (layer, ⟨.wholeLine, [], false⟩) :: (holdingsOf rest ++ live))
        gone := by
      rw [sketchHoldings, hsplit, holdingsOf_append_cons, List.append_assoc, List.append_assoc]
        at hhidden
      have hmade := holds_layerFor hhidden
      rwa [hlayer] at hmade
    have hshown : (hidden.withShown key layer decoration).sketchHoldings =
        holdingsOf first ++ (layer, ⟨.wholeLine, [decoration], false⟩) :: holdingsOf rest := by
      rw [sketchHoldings, withShown, hmodify, holdingsOf_append_cons]
      rfl
    rw [hshown, List.append_assoc]
    exact hmade.decorate [decoration]

/-- Hiding the sketch of an entry clears its layer and no other. -/
theorem holds_hideEntry (h : editor.Holds (tracker.sketchHoldings ++ live) gone) (key : Key) :
    (tracker.hideEntry editor key).2.2.Holds
      ((tracker.hideEntry editor key).2.1.sketchHoldings ++ live) gone := by
  unfold hideEntry
  split
  · exact h
  · next entry hget =>
    obtain ⟨first, rest, hsplit, hmodify⟩ := KeyMap.exists_split hget
    simp only [sketchHoldings, hsplit, hmodify, holdingsOf_append_cons, List.append_assoc,
      holding?_hidden] at h ⊢
    cases hlayer : entry.layer with
    | none => simpa [Entry.holding?, hlayer, Editor.clearAll] using h
    | some id =>
      simp only [Entry.holding?, hlayer, Option.map_some, Option.toList_some,
        List.singleton_append] at h ⊢
      exact h.decorate []

/-- The layers of the triangles are there, or are created empty. -/
theorem holds_triangleLayers {available shown : List Decoration}
    (h : editor.Holds (before ++ (triangleHoldings tracker.triangles available shown ++ after))
      gone) :
    ∃ available shown, (tracker.triangleLayers editor).2.Holds
      (before ++ (triangleHoldings (some (tracker.triangleLayers editor).1) available shown
        ++ after)) gone := by
  unfold triangleLayers
  cases htriangles : tracker.triangles with
  | some layers =>
    rw [htriangles] at h
    exact ⟨available, shown, h⟩
  | none =>
    -- both layers take their places behind those of the entries
    rw [htriangles] at h
    have hfirst := (h.createLayer (.gutterIcon Drawing.Triangle.available.uri)).perm
      List.perm_middle.symm
    rw [List.append_cons] at hfirst
    have hsecond := (hfirst.createLayer (.gutterIcon Drawing.Triangle.shown.uri)).perm
      List.perm_middle.symm
    rw [← List.append_cons] at hsecond
    exact ⟨[], [], hsecond⟩

/-- Showing the triangles replaces the decorations of their layers and of no others. -/
theorem holds_showTriangles {available shown : List Decoration}
    (h : editor.Holds (before ++ (triangleHoldings tracker.triangles available shown ++ after))
      gone) :
    (tracker.showTriangles editor).2.Holds
      (before ++ (triangleHoldings (tracker.showTriangles editor).1.triangles
        (tracker.trianglesWhere fun entry => !(entry.displayed || entry.hinted))
        (tracker.trianglesWhere fun entry => entry.displayed || entry.hinted) ++ after)) gone := by
  obtain ⟨_, _, hlayers⟩ := holds_triangleLayers h
  -- the layer that is second on the list is decorated first
  rw [triangleHoldings, List.cons_append, List.singleton_append, List.append_cons] at hlayers
  have hshown := hlayers.decorate
    (tracker.trianglesWhere fun entry => entry.displayed || entry.hinted)
  rw [← List.append_cons] at hshown
  exact hshown.decorate
    (tracker.trianglesWhere fun entry => !(entry.displayed || entry.hinted))

@[simp] theorem triangles_hideEntry (tracker : Tracker) (editor : Editor) (key : Key) :
    (tracker.hideEntry editor key).2.1.triangles = tracker.triangles := by
  unfold hideEntry
  split <;> rfl

@[simp] theorem triangles_showEntry (tracker : Tracker) (editor : Editor) (scope : Scope)
    (key : Key) : (tracker.showEntry editor scope key).2.1.triangles = tracker.triangles := by
  have hshowing := tracker.showing editor scope key
  generalize tracker.showEntry editor scope key = result at hshowing ⊢
  cases hshowing with
  | missing => rfl
  | hinted => rfl
  | inapplicable => rfl
  | failed _ _ _ hhide => exact (congrArg (·.1.triangles) hhide).symm
  | shown _ _ _ hhide => exact (congrArg (·.1.triangles) hhide).symm

/-- Showing several sketches, one after the other. -/
theorem holds_showEntries (h : editor.Holds (tracker.sketchHoldings ++ live) gone) (scope : Scope)
    (keys : List Key) :
    (tracker.showEntries editor scope keys).2.Holds
      ((tracker.showEntries editor scope keys).1.sketchHoldings ++ live) gone ∧
    (tracker.showEntries editor scope keys).1.triangles = tracker.triangles := by
  induction keys generalizing tracker editor with
  | nil => exact ⟨h, rfl⟩
  | cons key keys ih =>
    obtain ⟨hholds, htriangles⟩ := ih (holds_showEntry h scope key)
    exact ⟨hholds, htriangles.trans (triangles_showEntry tracker editor scope key)⟩

/-- **Asking again for what was shown.** The layers of all entries before are disposed of, the new
entries have only those that they are shown on, and nothing else has changed. -/
theorem holds_reshown {scope : Scope} {diagnostics : List Diagnostic} {entries : KeyMap Key Entry}
    (h : editor.Holds (tracker.sketchHoldings ++ live) gone)
    (hentries : entriesOf scope.handlers diagnostics = .ok entries) :
    (tracker.reshown editor scope entries).2.Holds
      ((tracker.reshown editor scope entries).1.sketchHoldings ++ live)
      ({id | id ∈ tracker.layers} ∪ gone) ∧
    (tracker.reshown editor scope entries).1.triangles = tracker.triangles := by
  -- the new entries have no layers yet
  have hnone : sketchHoldings { tracker with entries := entries } = [] := by
    refine List.filterMap_eq_nil_iff.2 ?_
    rintro ⟨key, entry⟩ hmem
    obtain ⟨-, d, -, rfl⟩ := exists_of_get?_entriesOf hentries (KeyMap.mem_toList_iff.1 hmem)
    rfl
  have hreleased := h.releaseAll
  rw [← layers_eq] at hreleased
  have hfresh : (editor.releaseAll tracker.layers).Holds
      (sketchHoldings { tracker with entries := entries } ++ live)
      ({id | id ∈ tracker.layers} ∪ gone) := by
    rw [hnone]
    exact hreleased
  exact holds_showEntries hfresh scope (entries.keys.filter tracker.isDisplayed)

/-- **Replacing the diagnostics** disposes of all layers of the entries before, and of no others. -/
theorem holds_of_rebuild {available shown : List Decoration} {scope : Scope}
    {diagnostics : List Diagnostic} {state : Tracker × Editor}
    (h : editor.Holds (tracker.sketchHoldings ++
      (triangleHoldings tracker.triangles available shown ++ others)) gone)
    (hrebuild : tracker.rebuild editor scope diagnostics = .ok state) :
    ∃ available shown, state.2.Holds
      (state.1.sketchHoldings ++ (triangleHoldings state.1.triangles available shown ++ others))
      ({id | id ∈ tracker.layers} ∪ gone) := by
  cases hentries : entriesOf scope.handlers diagnostics with
  | error error => simp [Tracker.rebuild, hentries] at hrebuild
  | ok entries =>
    rw [rebuild_eq_ok tracker editor hentries] at hrebuild
    obtain rfl := Except.ok.inj hrebuild
    obtain ⟨hreshown, htriangles⟩ := holds_reshown h hentries
    rw [← htriangles] at hreshown
    exact ⟨_, _, holds_showTriangles hreshown⟩

/-- Taking the triangles away empties their layers and no others. -/
theorem holds_hideTriangles {available shown : List Decoration}
    (h : editor.Holds (before ++ (triangleHoldings tracker.triangles available shown ++ after))
      gone) :
    (tracker.hideTriangles editor).Holds
      (before ++ (triangleHoldings tracker.triangles [] [] ++ after)) gone := by
  unfold Tracker.hideTriangles
  cases htriangles : tracker.triangles with
  | none =>
    rw [htriangles] at h
    exact h
  | some layers =>
    -- the layer that is second on the list is cleared first
    rw [htriangles, triangleHoldings, List.cons_append, List.singleton_append, List.append_cons]
      at h
    have hshown := h.decorate []
    rw [← List.append_cons] at hshown
    exact hshown.decorate []

/-! ## Custody -/

/-- **What every operation keeps.** At most one sketch is shown, the layers of the tracker are on
the account of the editor as the tracker has them, and the rest of the account belongs to others. -/
structure Kept (state : Tracker × Editor) (others : List (LayerId × Layer)) : Prop where
  /-- At most one sketch is shown. -/
  exclusive : state.1.Exclusive
  /-- The layers of the tracker and of the others are all there are. -/
  holds : ∃ available shown gone, state.2.Holds
    (state.1.sketchHoldings ++ (triangleHoldings state.1.triangles available shown ++ others)) gone

/-- A tracker of nothing has no layers. -/
theorem kept_empty : Kept (empty, Editor.empty) [] where
  exclusive := exclusive_of_hidden fun _ _ hget => by simp [empty, get?] at hget
  holds := ⟨[], [], ∅, Editor.Holds.empty⟩

namespace Kept

/-- The layer of an entry looks as the entry says. -/
theorem layer?_eq (h : Kept (tracker, editor) others) {key : Key} {entry : Entry} {id : LayerId}
    {layer : Layer} (hget : tracker.get? key = some entry)
    (hholding : entry.holding? = some (id, layer)) :
    editor.layer? id = some layer ∧ editor.decorations id = layer.decorations := by
  obtain ⟨available, shown, gone, hholds⟩ := h.holds
  have hmem : (id, layer) ∈ tracker.sketchHoldings :=
    List.mem_filterMap.2 ⟨(key, entry), KeyMap.mem_toList_iff.2 hget, hholding⟩
  exact ⟨hholds.layer?_eq (List.mem_append_left _ hmem),
    hholds.decorations_eq (List.mem_append_left _ hmem)⟩

/-- The layer of an entry is for whole lines. -/
theorem exists_layer?_eq (h : Kept (tracker, editor) others) {key : Key} {entry : Entry}
    {id : LayerId} (hget : tracker.get? key = some entry) (hid : entry.layer = some id) :
    ∃ decorations, editor.layer? id = some ⟨.wholeLine, decorations, false⟩ :=
  ⟨_, (h.layer?_eq hget (Entry.holding?_eq hid)).1⟩

/-- The layers of the triangles are for icons at the edge. -/
theorem exists_layer?_triangles (h : Kept (tracker, editor) others) {layers : TriangleLayers}
    (htriangles : tracker.triangles = some layers) :
    ∃ available shown,
      editor.layer? layers.available =
        some ⟨.gutterIcon Drawing.Triangle.available.uri, available, false⟩ ∧
      editor.layer? layers.shown =
        some ⟨.gutterIcon Drawing.Triangle.shown.uri, shown, false⟩ := by
  obtain ⟨available, shown, gone, hholds⟩ := h.holds
  refine ⟨available, shown, hholds.layer?_eq ?_, hholds.layer?_eq ?_⟩ <;>
    simp [triangleHoldings, htriangles]

/-- Hiding all sketches. -/
theorem hideEntries (h : Kept (tracker, editor) others) :
    Kept (tracker.hideEntries editor) others := by
  obtain ⟨available, shown, gone, hholds⟩ := h.holds
  exact ⟨exclusive_hideEntries tracker editor, available, shown, gone, holds_hideEntries hholds⟩

/-- Hiding one sketch. -/
theorem hideEntry (h : Kept (tracker, editor) others) (key : Key) :
    Kept (tracker.hideEntry editor key).2 others := by
  obtain ⟨available, shown, gone, hholds⟩ := h.holds
  refine ⟨h.exclusive.hideEntry editor key, available, shown, gone, ?_⟩
  rw [triangles_hideEntry]
  exact holds_hideEntry hholds key

/-- Showing one sketch. -/
theorem showEntry (h : Kept (tracker, editor) others) (scope : Scope) (key : Key) :
    Kept (tracker.showEntry editor scope key).2 others := by
  obtain ⟨available, shown, gone, hholds⟩ := h.holds
  refine ⟨h.exclusive.showEntry editor scope key, available, shown, gone, ?_⟩
  rw [triangles_showEntry]
  exact holds_showEntry hholds scope key

/-- Showing the triangles. -/
theorem showTriangles (h : Kept (tracker, editor) others) :
    Kept (tracker.showTriangles editor) others := by
  obtain ⟨available, shown, gone, hholds⟩ := h.holds
  exact ⟨⟨h.exclusive.unique, h.exclusive.complete⟩, _, _, gone, holds_showTriangles hholds⟩

/-- **Replacing the diagnostics.** -/
theorem rebuild (h : Kept (tracker, editor) others) {scope : Scope}
    {diagnostics : List Diagnostic} {state : Tracker × Editor}
    (hrebuild : tracker.rebuild editor scope diagnostics = .ok state) : Kept state others := by
  obtain ⟨available, shown, gone, hholds⟩ := h.holds
  obtain ⟨available, shown, hrebuilt⟩ := holds_of_rebuild hholds hrebuild
  exact ⟨exclusive_of_rebuild hrebuild, available, shown, _, hrebuilt⟩

/-- Taking the triangles away. -/
theorem hideTriangles (h : Kept (tracker, editor) others) :
    Kept (tracker, tracker.hideTriangles editor) others := by
  obtain ⟨available, shown, gone, hholds⟩ := h.holds
  exact ⟨h.exclusive, [], [], gone, holds_hideTriangles hholds⟩

/-- Forgetting all entries and disposing of all layers. -/
theorem dispose (h : Kept (tracker, editor) others) : Kept (tracker.dispose editor) others := by
  obtain ⟨available, shown, gone, hholds⟩ := h.holds
  have hreleased := hholds.releaseAll
  rw [← layers_eq] at hreleased
  refine ⟨kept_empty.exclusive, [], [], ?_⟩
  unfold Tracker.dispose
  dsimp only at hreleased ⊢
  cases htriangles : tracker.triangles with
  | none =>
    rw [htriangles] at hreleased
    exact ⟨_, hreleased⟩
  | some layers =>
    -- of the layers left, that of the lines with something shown goes first
    rw [htriangles] at hreleased
    have hshown : (editor.releaseAll tracker.layers).Holds
        ([(layers.available, _)] ++ (layers.shown, _) :: others) _ := hreleased
    have havailable : ((editor.releaseAll tracker.layers).dispose layers.shown).Holds
        ([] ++ (layers.available, _) :: others) _ := hshown.dispose
    exact ⟨_, havailable.dispose⟩

/-- **One operation.** -/
theorem perform (h : Kept (tracker, editor) others) (operation : Operation) :
    Kept (tracker.perform editor operation).2 others := by
  cases operation with
  | rebuild scope diagnostics =>
    unfold Tracker.perform
    dsimp only
    split
    · next hrebuild => exact h.rebuild hrebuild
    · exact h
  | reveal scope key => exact (h.showEntry scope key).showTriangles
  | hide key => exact (h.hideEntry key).showTriangles
  | toggle scope key =>
    unfold Tracker.perform Tracker.toggle
    dsimp only
    -- an entry that is there is hidden if it is shown, and shown otherwise
    split
    · exact h
    · split
      · exact (h.hideEntry key).showTriangles
      · exact (h.showEntry scope key).showTriangles
  | hideAll => exact h.hideEntries.showTriangles
  | showTriangles => exact h.showTriangles
  | hideTriangles => exact h.hideTriangles
  | dispose => exact h.dispose

end Kept

/-- **All runs.** A tracker and its editor are in order after any operations. -/
theorem kept_run (operations : List Operation) : Kept (run operations) [] := by
  suffices h : ∀ state, Kept state [] →
      Kept (operations.foldl (fun state operation => (state.1.perform state.2 operation).2) state)
        [] from h _ kept_empty
  induction operations with
  | nil => exact fun _ h => h
  | cons operation operations ih => exact fun state h => ih _ (h.perform operation)

end Tracker
end BorrowSketch
