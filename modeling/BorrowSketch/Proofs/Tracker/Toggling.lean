import BorrowSketch.Proofs.Tracker.Display
import BorrowSketch.Proofs.Tracker.Rebuilding
import BorrowSketch.Proofs.Tracker.Triangles

/-! # Toggling entries

To toggle an entry is to hide its sketch or to ask for it. What is answered depends on the entry
alone; asking hides everything before the renderer is called, so that nothing is shown if it fails,
and a layer is created only for a picture that there is.

* **`Tracker.layerAt?`** — the layer of the entry under a key.
* **`Tracker.toggle_fst`** — the answer.
* **`Tracker.get?_toggle_of_displayed`**, **`Tracker.exists_get?_toggle`** — the entries.
* **`Tracker.displayedEntries_toggle_eq_nil`**, **`Tracker.isDisplayed_toggle`** — what is shown.
* **`Tracker.layerAt?_toggle`**, **`Tracker.created_toggle`** — the layers, and those created.
* **`Tracker.toggle_of_run`** — all of this, after any operations. -/

namespace BorrowSketch
namespace Tracker

variable {tracker : Tracker} {editor : Editor} {scope : Scope} {key other : Key} {entry : Entry}

/-! ## The ways to toggle -/

/-- What is not there cannot be toggled. -/
theorem toggle_of_none (hget : tracker.get? key = none) (editor : Editor) (scope : Scope) :
    tracker.toggle editor scope key = (.missing, tracker, editor) := by
  rw [toggle, hget]

/-- A sketch that is shown is hidden. -/
theorem toggle_of_displayed (hget : tracker.get? key = some entry)
    (hdisplayed : entry.displayed = true) (editor : Editor) (scope : Scope) :
    tracker.toggle editor scope key = tracker.hide editor key := by
  rw [toggle, hget]
  exact if_pos hdisplayed

/-- A sketch that is hidden is asked for. -/
theorem toggle_of_hidden (hget : tracker.get? key = some entry)
    (hdisplayed : entry.displayed = false) (editor : Editor) (scope : Scope) :
    tracker.toggle editor scope key = tracker.reveal editor scope key := by
  rw [toggle, hget]
  exact if_neg (by simp [hdisplayed])

/-- **The answer.** -/
theorem toggle_fst (tracker : Tracker) (editor : Editor) (scope : Scope) (key : Key) :
    (tracker.toggle editor scope key).1 =
      match tracker.get? key with
      | none => .missing
      | some entry => if entry.displayed then .hidden else answerFor scope entry := by
  cases hget : tracker.get? key with
  | none => rw [toggle_of_none hget]
  | some entry =>
    cases hdisplayed : entry.displayed with
    | true => simp [toggle_of_displayed hget hdisplayed, hide, hideEntry, hget, hdisplayed]
    | false =>
      have hanswer : (tracker.reveal editor scope key).1 = answerFor scope entry :=
        (tracker.showing editor scope key).answer_eq hget
      simp [toggle_of_hidden hget hdisplayed, hanswer, hdisplayed]

/-- It is missing exactly if there is no entry. -/
theorem toggle_fst_eq_missing_iff :
    (tracker.toggle editor scope key).1 = .missing ↔ tracker.get? key = none := by
  rw [toggle_fst]
  cases tracker.get? key with
  | none => simp
  | some entry => cases hdisplayed : entry.displayed <;> simp [hdisplayed, answerFor_ne]

/-- It is now hidden exactly if it was shown. -/
theorem toggle_fst_eq_hidden_iff :
    (tracker.toggle editor scope key).1 = .hidden ↔ tracker.isDisplayed key = true := by
  rw [toggle_fst, isDisplayed]
  cases tracker.get? key with
  | none => simp
  | some entry => cases hdisplayed : entry.displayed <;> simp [hdisplayed, answerFor_ne]

/-- It has hints exactly if the entry has, which is never shown then. -/
theorem toggle_fst_eq_hinted_iff (h : tracker.Exclusive) :
    (tracker.toggle editor scope key).1 = .hinted ↔
      ∃ entry, tracker.get? key = some entry ∧ entry.hinted = true := by
  rw [toggle_fst]
  cases hget : tracker.get? key with
  | none => simp
  | some entry =>
    cases hdisplayed : entry.displayed with
    | true => simp [hdisplayed, (h.complete hget hdisplayed).1]
    | false => simp [hdisplayed, answerFor_eq_hinted_iff]

/-! ## The entries -/

/-- Toggling what is shown hides everything, since nothing else was shown. -/
theorem get?_toggle_of_displayed (h : tracker.Exclusive) (hget : tracker.get? key = some entry)
    (hdisplayed : entry.displayed = true) (editor : Editor) (scope : Scope) (other : Key) :
    (tracker.toggle editor scope key).2.1.get? other = (tracker.get? other).map Entry.hidden := by
  have hentries : (tracker.toggle editor scope key).2.1.entries =
      tracker.entries.modify key Entry.hidden := by
    rw [toggle_of_displayed hget hdisplayed, hide, hideEntry, hget]
    rfl
  rw [get?, hentries]
  by_cases hother : other = key
  · rw [hother]
    exact KeyMap.get?_modify_self _ _ _
  · -- only one sketch was shown, and that was not this one
    rw [KeyMap.get?_modify_of_ne _ _ hother]
    refine Option.map_id'.symm.trans (Option.map_congr fun found hfound => ?_)
    refine (Entry.hidden_eq_self ?_).symm
    by_contra hshown
    exact hother (h.unique hfound (Bool.eq_true_of_not_eq_false hshown) hget hdisplayed)

/-- Toggling what has hints changes no entries. -/
theorem entries_toggle_of_hinted (hget : tracker.get? key = some entry)
    (hdisplayed : entry.displayed = false) (hhinted : entry.hinted = true) (editor : Editor)
    (scope : Scope) : (tracker.toggle editor scope key).2.1.entries = tracker.entries := by
  have hall : ∀ found, tracker.get? key = some found → found.hinted = true := by
    intro found hfound
    rwa [Option.some.inj (hfound.symm.trans hget)]
  rw [toggle_of_hidden hget hdisplayed]
  exact congrArg (·.1.entries) (showEntry_snd_of_hinted hall editor scope)

/-- Toggling what is hidden and has no hints hides everything else. -/
theorem get?_toggle_of_hidden (hget : tracker.get? key = some entry)
    (hdisplayed : entry.displayed = false) (hhinted : entry.hinted = false) (editor : Editor)
    (scope : Scope) (other : Key) :
    (tracker.toggle editor scope key).2.1.get? other = (tracker.get? other).map fun entry =>
      if other = key then entry.hidden.pictured scope (entry.layer.getD ⟨editor.created + 1⟩)
      else entry.hidden := by
  rw [toggle_of_hidden hget hdisplayed]
  exact get?_showEntry_of_hinted_eq_false hget hhinted editor scope other

/-- Toggling leaves all keys as they are. -/
theorem keys_toggle (tracker : Tracker) (editor : Editor) (scope : Scope) (key : Key) :
    (tracker.toggle editor scope key).2.1.entries.keys = tracker.entries.keys := by
  cases hget : tracker.get? key with
  | none => rw [toggle_of_none hget]
  | some entry =>
    cases hdisplayed : entry.displayed with
    | true =>
      rw [toggle_of_displayed hget hdisplayed, hide, hideEntry, hget]
      exact KeyMap.keys_modify _ _ _
    | false =>
      rw [toggle_of_hidden hget hdisplayed]
      exact keys_showEntry tracker editor scope key

/-- Each entry keeps its diagnostic, its hints and its layer when one is toggled, except that the
one that is shown gets a layer if it had none. -/
theorem exists_get?_toggle (h : tracker.Exclusive) (editor : Editor) (scope : Scope) (key : Key)
    (hget : tracker.get? other = some entry) :
    ∃ later, (tracker.toggle editor scope key).2.1.get? other = some later ∧
      later.diagnostic = entry.diagnostic ∧ later.hinted = entry.hinted ∧
      later.layer = if (tracker.toggle editor scope key).1 = .shown ∧ other = key then
        some (entry.layer.getD ⟨editor.created + 1⟩) else entry.layer := by
  rw [toggle_fst]
  cases hkey : tracker.get? key with
  | none =>
    rw [toggle_of_none hkey]
    exact ⟨entry, hget, rfl, rfl, by simp⟩
  | some asked =>
    cases hdisplayed : asked.displayed with
    | true =>
      rw [get?_toggle_of_displayed h hkey hdisplayed, hget]
      exact ⟨entry.hidden, rfl, rfl, rfl, by simp [hdisplayed]⟩
    | false =>
      cases hhinted : asked.hinted with
      | true =>
        rw [get?, entries_toggle_of_hinted hkey hdisplayed hhinted]
        exact ⟨entry, hget, rfl, rfl, by simp [hdisplayed, answerFor, hhinted]⟩
      | false =>
        rw [get?_toggle_of_hidden hkey hdisplayed hhinted, hget, Option.map_some]
        by_cases hother : other = key
        · -- the entry asked for is the one that is looked at
          rw [hother, hkey] at hget
          obtain rfl := Option.some.inj hget
          rw [if_pos hother]
          refine ⟨_, rfl, Entry.diagnostic_pictured _ _ _, Entry.hinted_pictured _ _ _, ?_⟩
          simp only [Entry.layer_pictured, answerFor_hidden, hother, hdisplayed, and_true,
            Bool.false_eq_true, if_false]
          rfl
        · exact ⟨entry.hidden, by rw [if_neg hother], rfl, rfl, by simp [hother]⟩

/-! ## What is shown -/

/-- Toggling an entry that may have a sketch leaves nothing shown unless the answer says so. -/
theorem displayedEntries_toggle_eq_nil (h : tracker.Exclusive)
    (hget : tracker.get? key = some entry) (hhinted : entry.hinted = false)
    (hanswer : (tracker.toggle editor scope key).1 ≠ .shown) :
    (tracker.toggle editor scope key).2.1.displayedEntries = [] := by
  rw [displayedEntries_eq_nil_iff]
  intro other later hlater
  cases hdisplayed : entry.displayed with
  | true =>
    rw [get?_toggle_of_displayed h hget hdisplayed] at hlater
    obtain ⟨found, -, rfl⟩ := Option.map_eq_some_iff.1 hlater
    rfl
  | false =>
    rw [get?_toggle_of_hidden hget hdisplayed hhinted] at hlater
    obtain ⟨found, hfound, rfl⟩ := Option.map_eq_some_iff.1 hlater
    split
    · next hother =>
      -- the entry itself was asked for, and there was nothing to show
      rw [hother, hget] at hfound
      obtain rfl := Option.some.inj hfound
      have hnot : answerFor scope entry ≠ .shown := by
        simpa [toggle_fst, hget, hdisplayed] using hanswer
      simp [Entry.displayed_pictured, hnot]
    · rfl

/-- An entry of which there is a picture has it once it was hidden and is toggled. -/
theorem get?_toggle_of_picture (hget : tracker.get? key = some entry)
    (hdisplayed : entry.displayed = false) (hhinted : entry.hinted = false)
    {decoration : Decoration} (hpicture : picture scope entry = .success decoration)
    (editor : Editor) :
    (tracker.toggle editor scope key).2.1.get? key =
      some (entry.shown (entry.layer.getD ⟨editor.created + 1⟩) decoration) := by
  have hhiddenHinted : entry.hidden.hinted = false := hhinted
  have hhiddenPicture : picture scope entry.hidden = .success decoration := hpicture
  rw [get?_toggle_of_hidden hget hdisplayed hhinted, hget, Option.map_some, if_pos rfl,
    Entry.pictured, hhiddenHinted, hhiddenPicture]
  rfl

/-- An entry of which there is no picture stays as it is when it was hidden and is toggled. -/
theorem get?_toggle_of_ne_shown (hget : tracker.get? key = some entry)
    (hdisplayed : entry.displayed = false) (hhinted : entry.hinted = false)
    (hanswer : answerFor scope entry ≠ .shown) (editor : Editor) :
    (tracker.toggle editor scope key).2.1.get? key = some entry := by
  rw [get?_toggle_of_hidden hget hdisplayed hhinted, hget, Option.map_some, if_pos rfl,
    Entry.hidden_eq_self hdisplayed, Entry.pictured_eq_self hanswer]

/-! ## Messages and layers -/

/-- Toggling tells the user what the renderer fails with, and nothing else. -/
theorem messages_toggle (tracker : Tracker) (editor : Editor) (scope : Scope) (key : Key) :
    (tracker.toggle editor scope key).2.2.messages = editor.messages ++
      match (tracker.toggle editor scope key).1 with
      | .failed context => ["SVG generation failed: " ++ context]
      | _ => [] := by
  rw [toggle_fst]
  cases hget : tracker.get? key with
  | none => simp [toggle_of_none hget]
  | some entry =>
    cases hdisplayed : entry.displayed with
    | true => simp [toggle_of_displayed hget hdisplayed, hide, hideEntry, hget, hdisplayed]
    | false =>
      -- what the entry complains of is what the answer tells of a failure
      have hmessages := messages_showEntry tracker editor scope key
      rw [hget, Option.toList_some, List.flatMap_singleton] at hmessages
      rw [toggle_of_hidden hget hdisplayed, reveal, messages_showTriangles, hmessages,
        Entry.complaints_eq]
      simp only [hdisplayed, Bool.false_eq_true, if_false]
      rfl

/-- The layer of the entry under a key. -/
def layerAt? (tracker : Tracker) (key : Key) : Option LayerId :=
  (tracker.get? key).bind Entry.layer

/-- **The layers after toggling.** The entry that is shown gets a layer if it had none, and all
others keep what they have. -/
theorem layerAt?_toggle (h : tracker.Exclusive) (editor : Editor) (scope : Scope)
    (key other : Key) :
    (tracker.toggle editor scope key).2.1.layerAt? other =
      if (tracker.toggle editor scope key).1 = .shown ∧ other = key then
        some ((tracker.layerAt? other).getD ⟨editor.created + 1⟩) else tracker.layerAt? other := by
  rw [layerAt?, layerAt?]
  cases hget : tracker.get? other with
  | none =>
    have hnone : (tracker.toggle editor scope key).2.1.get? other = none := by
      rw [get?, KeyMap.get?_eq_none_iff, keys_toggle, ← KeyMap.get?_eq_none_iff]
      exact hget
    have hshown : ¬ ((tracker.toggle editor scope key).1 = .shown ∧ other = key) := by
      rintro ⟨hanswer, rfl⟩
      simp [toggle_fst, hget] at hanswer
    rw [hnone, if_neg hshown]
  | some entry =>
    obtain ⟨later, hlater, -, -, hlayer⟩ := exists_get?_toggle h editor scope key hget
    rw [hlater, Option.bind_some, hlayer, Option.bind_some]

/-- A layer is created only for an entry that is shown and had none. -/
theorem created_toggle (h : tracker.triangles = none → tracker.entries.toList = [])
    (editor : Editor) (scope : Scope) (key : Key) :
    (tracker.toggle editor scope key).2.2.created = editor.created +
      if (tracker.toggle editor scope key).1 = .shown ∧ tracker.layerAt? key = none then 1
      else 0 := by
  rw [toggle_fst, layerAt?]
  cases hget : tracker.get? key with
  | none => simp [toggle_of_none hget]
  | some entry =>
    -- where there is an entry the triangles have their layers
    have htriangles : ∃ layers, tracker.triangles = some layers := by
      refine Option.ne_none_iff_exists'.1 fun hnone => ?_
      have hmem := KeyMap.mem_toList_iff.2 hget
      rw [h hnone] at hmem
      cases hmem
    obtain ⟨layers, htriangles⟩ := htriangles
    cases hdisplayed : entry.displayed with
    | true =>
      have hhidden : (tracker.hideEntry editor key).2.2.created = editor.created := by
        rw [hideEntry, hget]
        exact Editor.created_clearAll editor _
      rw [toggle_of_displayed hget hdisplayed, hide,
        created_showTriangles ((triangles_hideEntry tracker editor key).trans htriangles), hhidden]
      simp [hdisplayed]
    | false =>
      have hcreated := created_showEntry hget editor scope
      rw [toggle_of_hidden hget hdisplayed, reveal,
        created_showTriangles ((triangles_showEntry tracker editor scope key).trans htriangles),
        hcreated]
      simp [hdisplayed]

/-! ## Several toggles -/

/-- The sketch of an entry is shown after it was toggled exactly if the answer says so. -/
theorem isDisplayed_toggle (h : tracker.Exclusive) (editor : Editor) (scope : Scope) (key : Key) :
    (tracker.toggle editor scope key).2.1.isDisplayed key = true ↔
      (tracker.toggle editor scope key).1 = .shown := by
  rw [toggle_fst, isDisplayed]
  cases hget : tracker.get? key with
  | none => simp [toggle_of_none hget, hget]
  | some entry =>
    cases hdisplayed : entry.displayed with
    | true => simp [get?_toggle_of_displayed h hget hdisplayed, hget, hdisplayed]
    | false =>
      cases hhinted : entry.hinted with
      | true =>
        rw [get?, entries_toggle_of_hinted hget hdisplayed hhinted, ← get?, hget]
        simp [hdisplayed, answerFor, hhinted]
      | false =>
        rw [get?_toggle_of_hidden hget hdisplayed hhinted, hget]
        simp only [hdisplayed, Option.map_some, Option.any_some, if_true, Bool.false_eq_true,
          if_false, Entry.displayed_pictured, Entry.displayed_hidden, Bool.false_or,
          answerFor_hidden]
        exact decide_eq_true_iff

/-- An entry that was hidden is hidden again after it was toggled twice in the same scope. -/
theorem toggle_toggle_fst_ne_shown (h : tracker.Exclusive) (hget : tracker.get? key = some entry)
    (hdisplayed : entry.displayed = false) (editor : Editor) (scope : Scope) :
    ((tracker.toggle editor scope key).2.1.toggle (tracker.toggle editor scope key).2.2 scope
      key).1 ≠ .shown := by
  obtain ⟨later, hlater, hdiagnostic, hhinted, -⟩ := exists_get?_toggle h editor scope key hget
  have hshown := isDisplayed_toggle h editor scope key
  rw [isDisplayed, hlater, toggle_fst, hget] at hshown
  rw [toggle_fst, hlater]
  cases hlaterDisplayed : later.displayed with
  | true => simp [hlaterDisplayed]
  | false =>
    -- the first answer was that there is nothing to show, and the second is the same
    have hsame : answerFor scope later = answerFor scope entry := by
      rw [answerFor, answerFor, picture, picture, hdiagnostic, hhinted]
    simpa [hlaterDisplayed, hdisplayed, hsame] using hshown

@[simp] theorem run_concat_toggle (operations : List Operation) (scope : Scope) (key : Key) :
    run (operations ++ [.toggle scope key]) =
      ((run operations).1.toggle (run operations).2 scope key).2 :=
  run_concat operations (.toggle scope key)

/-- **However often entries are toggled,** one that has a layer keeps it. -/
theorem layerAt?_toggles (operations : List Operation) (toggles : List (Scope × Key))
    {id : LayerId} (h : (run operations).1.layerAt? other = some id) :
    (run (operations ++ toggles.map fun toggle => .toggle toggle.1 toggle.2)).1.layerAt? other =
      some id := by
  induction toggles using List.reverseRecOn with
  | nil => rwa [List.map_nil, List.append_nil]
  | append_singleton toggles toggle ih =>
    rw [List.map_append, ← List.append_assoc, List.map_singleton, run_concat_toggle,
      layerAt?_toggle (kept_run _).exclusive, ih]
    split <;> rfl

/-- **However often entries with layers are toggled,** no layer is created. -/
theorem created_toggles (operations : List Operation) {toggles : List (Scope × Key)}
    (h : ∀ toggle ∈ toggles, ((run operations).1.layerAt? toggle.2).isSome = true) :
    (run (operations ++ toggles.map fun toggle => .toggle toggle.1 toggle.2)).2.created =
      (run operations).2.created := by
  induction toggles using List.reverseRecOn with
  | nil => rw [List.map_nil, List.append_nil]
  | append_singleton toggles toggle ih =>
    -- the entry toggled last had a layer at the start, and has it still
    obtain ⟨id, hid⟩ := Option.isSome_iff_exists.1 (h toggle (by simp))
    have hnow := layerAt?_toggles operations toggles hid
    rw [List.map_append, ← List.append_assoc, List.map_singleton, run_concat_toggle,
      created_toggle (edge_run _).untracked, hnow, if_neg (by simp), Nat.add_zero]
    exact ih fun other hother => h other (List.mem_append_left _ hother)

/-! ## After any operations -/

/-- Where no entry is shown, the editor shows no sketch. -/
theorem Kept.visible_eq_nil (h : Kept (tracker, editor) [])
    (hnone : tracker.displayedEntries = []) :
    tracker.displayedKeys = [] ∧ editor.visible = [] := by
  rw [displayedKeys, ← displayedEntries, h.visible_eq, hnone]
  exact ⟨rfl, rfl⟩

/-- The layer of an entry that is hidden shows nothing. -/
theorem Kept.decorations_eq_nil (h : Kept (tracker, editor) []) {id : LayerId}
    (hdisplayed : tracker.isDisplayed key ≠ true) (hid : tracker.layerAt? key = some id) :
    editor.decorations id = [] := by
  obtain ⟨entry, hget, hid⟩ := Option.bind_eq_some_iff.1 hid
  have hhidden : entry.displayed = false := by
    simpa [isDisplayed, hget] using hdisplayed
  have hdecorations := (h.layer?_eq hget (Entry.holding?_eq hid)).2
  rwa [if_neg (by simp [hhidden])] at hdecorations

/-- The editor shows the sketch of an entry that is shown, and no other. -/
theorem Kept.visible_eq_singleton (h : Kept (tracker, editor) []) {id : LayerId}
    {decoration : Decoration} (hget : tracker.get? key = some (entry.shown id decoration)) :
    tracker.displayedKeys = [key] ∧ editor.visible = [id] ∧
      editor.decorations id = [decoration] := by
  have hone := h.exclusive.displayedEntries_eq_singleton hget rfl
  rw [displayedKeys, ← displayedEntries, h.visible_eq, hone]
  exact ⟨rfl, rfl, (h.layer?_eq hget rfl).2⟩

/-- Toggling what is shown leaves no sketch shown, and nothing on the layer of the entry. -/
theorem Kept.toggle_eq_hidden (h : Kept (tracker, editor) [])
    (hhidden : (tracker.toggle editor scope key).1 = .hidden) :
    (tracker.toggle editor scope key).2.1.displayedKeys = [] ∧
      (tracker.toggle editor scope key).2.2.visible = [] ∧
      ∃ id, (tracker.toggle editor scope key).2.1.layerAt? key = some id ∧
        (tracker.toggle editor scope key).2.2.decorations id = [] := by
  have hafter := h.perform (.toggle scope key)
  obtain ⟨entry, hget, hdisplayed⟩ := isDisplayed_iff.1 (toggle_fst_eq_hidden_iff.1 hhidden)
  obtain ⟨hhinted, id, -, hid, -⟩ := h.exclusive.complete hget hdisplayed
  have hnot : (tracker.toggle editor scope key).1 ≠ .shown := by simp [hhidden]
  -- the layer is the one that the entry had while it was shown
  have hlayer : (tracker.toggle editor scope key).2.1.layerAt? key = some id := by
    have hbefore : tracker.layerAt? key = some id := Option.bind_eq_some_iff.2 ⟨entry, hget, hid⟩
    rw [layerAt?_toggle h.exclusive, if_neg fun hshown => hnot hshown.1, hbefore]
  obtain ⟨hkeys, hvisible⟩ := hafter.visible_eq_nil
    (displayedEntries_toggle_eq_nil h.exclusive hget hhinted hnot)
  have hclear := hafter.decorations_eq_nil
    (mt (isDisplayed_toggle h.exclusive editor scope key).1 hnot) hlayer
  exact ⟨hkeys, hvisible, id, hlayer, hclear⟩

/-- Toggling what has hints leaves all entries and their layers as they are. -/
theorem Kept.toggle_eq_hinted (h : Kept (tracker, editor) [])
    (hhinted : (tracker.toggle editor scope key).1 = .hinted) :
    (tracker.toggle editor scope key).2.1.entries = tracker.entries ∧
      ∀ other id, tracker.layerAt? other = some id →
        (tracker.toggle editor scope key).2.2.layer? id = editor.layer? id := by
  have hafter := h.perform (.toggle scope key)
  obtain ⟨entry, hget, hentry⟩ := (toggle_fst_eq_hinted_iff h.exclusive).1 hhinted
  have hdisplayed : entry.displayed = false := by
    by_contra hshown
    have hnot := (h.exclusive.complete hget (Bool.eq_true_of_not_eq_false hshown)).1
    simp [hentry] at hnot
  have hentries := entries_toggle_of_hinted hget hdisplayed hentry editor scope
  refine ⟨hentries, fun other id hid => ?_⟩
  obtain ⟨found, hfound, hid⟩ := Option.bind_eq_some_iff.1 hid
  have hlater : (tracker.toggle editor scope key).2.1.get? other = some found :=
    (congrArg (·.get? other) hentries).trans hfound
  -- the entry is the same, and so what its layer looks like is the same
  have hholding := Entry.holding?_eq hid
  exact (hafter.layer?_eq hlater hholding).1.trans (h.layer?_eq hfound hholding).1.symm

/-- Toggling an entry that is hidden and may have a sketch shows the picture of it, if there is one,
and nothing otherwise. -/
theorem Kept.toggle_of_hidden (h : Kept (tracker, editor) [])
    (hget : tracker.get? key = some entry) (hdisplayed : entry.displayed = false)
    (hhinted : entry.hinted = false) (scope : Scope) :
    let outcome := (tracker.toggle editor scope key).1
    let after := (tracker.toggle editor scope key).2.1
    let made := (tracker.toggle editor scope key).2.2
    match illustrate scope.handlers.renderers scope.scene entry.diagnostic with
    | .success decoration => outcome = .shown ∧ after.displayedKeys = [key] ∧
      ∃ id, after.get? key = some (entry.shown id decoration) ∧ made.visible = [id] ∧
        made.decorations id = [decoration]
    | .inapplicable context => outcome = .inapplicable context ∧
      after.get? key = some entry ∧ after.displayedKeys = [] ∧ made.visible = []
    | .failed context => outcome = .failed context ∧
      after.get? key = some entry ∧ after.displayedKeys = [] ∧ made.visible = [] := by
  intro outcome after made
  have hafter : Kept (after, made) [] := h.perform (.toggle scope key)
  have hanswer : outcome = answerFor scope entry := by
    show (tracker.toggle editor scope key).1 = _
    rw [toggle_fst, hget]
    exact if_neg (by simp [hdisplayed])
  -- without a picture the entry stays as it is, and nothing is shown
  have hnone : outcome ≠ .shown →
      after.get? key = some entry ∧ after.displayedKeys = [] ∧ made.visible = [] := by
    intro hnot
    exact ⟨get?_toggle_of_ne_shown hget hdisplayed hhinted (hanswer ▸ hnot) editor,
      hafter.visible_eq_nil (displayedEntries_toggle_eq_nil h.exclusive hget hhinted hnot)⟩
  have hpicture : picture scope entry =
    illustrate scope.handlers.renderers scope.scene entry.diagnostic := rfl
  rw [answerFor, hhinted, if_neg Bool.false_ne_true, hpicture] at hanswer
  cases hillustrate : illustrate scope.handlers.renderers scope.scene entry.diagnostic with
  | success decoration =>
    rw [hillustrate] at hanswer
    have hlater := get?_toggle_of_picture hget hdisplayed hhinted
      (hpicture.trans hillustrate) editor
    obtain ⟨hkeys, hvisible, hdecorations⟩ := hafter.visible_eq_singleton hlater
    exact ⟨hanswer, hkeys, _, hlater, hvisible, hdecorations⟩
  | inapplicable context =>
    rw [hillustrate] at hanswer
    exact ⟨hanswer, hnone (by simp [hanswer])⟩
  | failed context =>
    rw [hillustrate] at hanswer
    exact ⟨hanswer, hnone (by simp [hanswer])⟩

/-- Toggled twice in one scope, an entry that was hidden is hidden, with nothing on its layer. -/
theorem toggle_toggle_of_run (operations : List Operation)
    (hget : (run operations).1.get? key = some entry) (hdisplayed : entry.displayed = false)
    (scope : Scope) :
    let twice := run (operations ++ [.toggle scope key, .toggle scope key])
    twice.1.isDisplayed key = false ∧
      (∀ id, twice.1.layerAt? key = some id → twice.2.decorations id = []) ∧
      (entry.hinted = false → twice.1.displayedKeys = [] ∧ twice.2.visible = []) := by
  intro twice
  have htwice : twice = run (operations ++ [.toggle scope key] ++ [.toggle scope key]) := by
    rw [← List.append_cons]
  have honce : Kept (run (operations ++ [.toggle scope key])) [] := kept_run _
  have hlast : Kept twice [] := kept_run _
  have hexclusive := (kept_run operations).exclusive
  have hnot := toggle_toggle_fst_ne_shown hexclusive hget hdisplayed (run operations).2 scope
  rw [run_concat_toggle] at honce htwice
  rw [run_concat_toggle] at htwice
  have hhidden : ¬ twice.1.isDisplayed key = true := by
    rw [htwice]
    exact mt (isDisplayed_toggle honce.exclusive _ scope key).1 hnot
  refine ⟨Bool.eq_false_of_not_eq_true hhidden,
    fun id hid => hlast.decorations_eq_nil hhidden hid, fun hhinted => ?_⟩
  obtain ⟨later, hlater, -, hlaterHinted, -⟩ :=
    exists_get?_toggle hexclusive (run operations).2 scope key hget
  have hnone : twice.1.displayedEntries = [] := by
    rw [htwice]
    exact displayedEntries_toggle_eq_nil honce.exclusive hlater (hlaterHinted.trans hhinted) hnot
  exact hlast.visible_eq_nil hnone

/-- **What toggling an entry does.** After any operations, toggling what is not there changes
nothing; a sketch that is shown is hidden, and then no sketch is shown; an entry with hints is left
as it is, and so are all others. In every other case all other sketches are hidden, and that of the
entry is asked for: with a picture it is shown, alone, as the only decoration of the layer of the
entry; without one nothing is shown. The user is told what a renderer failed with, and nothing else.
Keys, diagnostics and hints stay the same. A layer is created for an entry only when it is first
shown, and it keeps that layer however often entries are toggled. Toggled twice in one scope, an
entry that was hidden is hidden again, with nothing on its layer. -/
theorem toggle_of_run (operations : List Operation) (scope : Scope) (key : Key) :
    let before := (run operations).1
    let editor := (run operations).2
    let outcome := (before.toggle editor scope key).1
    let after := (before.toggle editor scope key).2.1
    let made := (before.toggle editor scope key).2.2
    ((outcome = .missing ↔ before.get? key = none) ∧
      (outcome = .missing → after = before ∧ made = editor)) ∧
    ((outcome = .hidden ↔ before.isDisplayed key = true) ∧
      (outcome = .hidden → after.displayedKeys = [] ∧ made.visible = [] ∧
        ∃ id, after.layerAt? key = some id ∧ made.decorations id = [])) ∧
    ((outcome = .hinted ↔ ∃ entry, before.get? key = some entry ∧ entry.hinted = true) ∧
      (outcome = .hinted → after.entries = before.entries ∧
        ∀ other id, before.layerAt? other = some id → made.layer? id = editor.layer? id)) ∧
    (∀ entry, before.get? key = some entry → entry.displayed = false → entry.hinted = false →
      (∀ other, other ≠ key → after.get? other = (before.get? other).map Entry.hidden) ∧
      match illustrate scope.handlers.renderers scope.scene entry.diagnostic with
      | .success decoration => outcome = .shown ∧ after.displayedKeys = [key] ∧
        ∃ id, after.get? key = some (entry.shown id decoration) ∧ made.visible = [id] ∧
          made.decorations id = [decoration]
      | .inapplicable context => outcome = .inapplicable context ∧
        after.get? key = some entry ∧ after.displayedKeys = [] ∧ made.visible = []
      | .failed context => outcome = .failed context ∧
        after.get? key = some entry ∧ after.displayedKeys = [] ∧ made.visible = []) ∧
    (made.messages = editor.messages ++
      match outcome with
      | .failed context => ["SVG generation failed: " ++ context]
      | _ => []) ∧
    (after.entries.keys = before.entries.keys ∧
      ∀ other entry, before.get? other = some entry → ∃ later, after.get? other = some later ∧
        later.diagnostic = entry.diagnostic ∧ later.hinted = entry.hinted) ∧
    (∀ other, after.layerAt? other = if outcome = .shown ∧ other = key then
        some ((before.layerAt? other).getD ⟨editor.created + 1⟩) else before.layerAt? other) ∧
    (made.created = editor.created +
      if outcome = .shown ∧ before.layerAt? key = none then 1 else 0) ∧
    (∀ toggles : List (Scope × Key),
      let later := run (operations ++ toggles.map fun toggle => .toggle toggle.1 toggle.2)
      (∀ other id, before.layerAt? other = some id → later.1.layerAt? other = some id) ∧
      ((∀ toggle ∈ toggles, (before.layerAt? toggle.2).isSome = true) →
        later.2.created = editor.created)) ∧
    ∀ entry, before.get? key = some entry → entry.displayed = false →
      let twice := run (operations ++ [.toggle scope key, .toggle scope key])
      twice.1.isDisplayed key = false ∧
      (∀ id, twice.1.layerAt? key = some id → twice.2.decorations id = []) ∧
      (entry.hinted = false → twice.1.displayedKeys = [] ∧ twice.2.visible = []) := by
  intro before editor outcome after made
  have hkept : Kept (before, editor) [] := kept_run operations
  have hedge : Edge (before, editor) (Cleared operations) := edge_run operations
  refine ⟨⟨toggle_fst_eq_missing_iff, fun hmissing => ?_⟩,
    ⟨toggle_fst_eq_hidden_iff, hkept.toggle_eq_hidden⟩,
    ⟨toggle_fst_eq_hinted_iff hkept.exclusive, hkept.toggle_eq_hinted⟩,
    fun entry hget hdisplayed hhinted =>
      ⟨fun other hother => ?_, hkept.toggle_of_hidden hget hdisplayed hhinted scope⟩,
    messages_toggle before editor scope key,
    ⟨keys_toggle before editor scope key, fun other entry hget => ?_⟩,
    layerAt?_toggle hkept.exclusive editor scope key,
    created_toggle hedge.untracked editor scope key,
    fun toggles => ⟨fun other id => layerAt?_toggles operations toggles,
      created_toggles operations⟩,
    fun entry hget hdisplayed => toggle_toggle_of_run operations hget hdisplayed scope⟩
  · have hsame := toggle_of_none (toggle_fst_eq_missing_iff.1 hmissing) editor scope
    exact ⟨congrArg (·.2.1) hsame, congrArg (·.2.2) hsame⟩
  · rw [get?_toggle_of_hidden hget hdisplayed hhinted]
    simp only [if_neg hother]
  · obtain ⟨later, hlater, hdiagnostic, hhinted, -⟩ :=
      exists_get?_toggle hkept.exclusive editor scope key hget
    exact ⟨later, hlater, hdiagnostic, hhinted⟩

end Tracker
end BorrowSketch
