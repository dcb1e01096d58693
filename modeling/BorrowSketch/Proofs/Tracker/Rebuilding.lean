import BorrowSketch.Proofs.Tracker.Custody

/-! # Replacing the diagnostics

What a tracker is like once its diagnostics were replaced, told from the new diagnostics and from
what was shown before. At most one sketch was shown, so at most one is asked for again; of the new
entries this one alone can be shown, and only its renderer can give rise to a message.

* **`Entry.pictured`**, **`Entry.complaints`** — an entry whose sketch was asked for, and what the
  user is told.
* **`Tracker.get?_reshown`**, **`Tracker.messages_reshown`** — the entries and the messages once the
  sketch shown before is asked for again.
* **`Tracker.rebuild_of_run`** — what replacing the diagnostics does, after any operations. -/

namespace BorrowSketch

/-! ## Asking for the sketch of an entry -/

namespace Entry

/-- The entry once its sketch was asked for: shown on a layer, if it may have a sketch and there is
one. -/
def pictured (scope : Scope) (layer : LayerId) (entry : Entry) : Entry :=
  match entry.hinted, Tracker.picture scope entry with
  | false, .success decoration => entry.shown layer decoration
  | _, _ => entry

/-- What the user is told when the sketch of an entry is asked for. -/
def complaints (scope : Scope) (entry : Entry) : List String :=
  match entry.hinted, Tracker.picture scope entry with
  | false, .failed context => [(SketchError.renderingFailed context).message]
  | _, _ => []

variable {scope : Scope} {layer : LayerId} {entry : Entry}

/-- The user is told something exactly if the renderer fails. -/
theorem mem_complaints_iff {message : String} :
    message ∈ entry.complaints scope ↔ entry.hinted = false ∧ ∃ context,
      Tracker.picture scope entry = .failed context ∧
        message = (SketchError.renderingFailed context).message := by
  unfold complaints
  cases entry.hinted <;> cases Tracker.picture scope entry <;> simp

/-- The user is told one thing at most. -/
theorem length_complaints_le (scope : Scope) (entry : Entry) :
    (entry.complaints scope).length ≤ 1 := by
  unfold complaints
  split <;> simp

@[simp] theorem diagnostic_hidden (entry : Entry) : entry.hidden.diagnostic = entry.diagnostic :=
  rfl

@[simp] theorem hinted_hidden (entry : Entry) : entry.hidden.hinted = entry.hinted := rfl

@[simp] theorem displayed_hidden (entry : Entry) : entry.hidden.displayed = false := rfl

@[simp] theorem layer_hidden (entry : Entry) : entry.hidden.layer = entry.layer := rfl

/-- Hiding what is hidden changes nothing. -/
theorem hidden_eq_self (h : entry.displayed = false) : entry.hidden = entry := by
  rw [hidden, ← h]

/-- What an entry complains of is what the answer tells of a failure. -/
theorem complaints_eq (scope : Scope) (entry : Entry) :
    entry.complaints scope = match Tracker.answerFor scope entry with
      | .failed context => [(SketchError.renderingFailed context).message]
      | _ => [] := by
  unfold complaints Tracker.answerFor
  cases entry.hinted <;> cases Tracker.picture scope entry <;> rfl

/-- Asking for a sketch that is not shown then leaves the entry as it is. -/
theorem pictured_eq_self (h : Tracker.answerFor scope entry ≠ .shown) :
    entry.pictured scope layer = entry := by
  unfold pictured
  split
  · next decoration hhinted hpicture =>
    exact absurd (Tracker.answerFor_eq_shown_iff.2 ⟨hhinted, decoration, hpicture⟩) h
  · rfl

@[simp] theorem diagnostic_pictured (scope : Scope) (layer : LayerId) (entry : Entry) :
    (entry.pictured scope layer).diagnostic = entry.diagnostic := by
  unfold pictured
  split <;> rfl

@[simp] theorem hinted_pictured (scope : Scope) (layer : LayerId) (entry : Entry) :
    (entry.pictured scope layer).hinted = entry.hinted := by
  unfold pictured
  split <;> rfl

/-- Asking for a sketch shows it exactly if the answer says so. -/
theorem displayed_pictured (scope : Scope) (layer : LayerId) (entry : Entry) :
    (entry.pictured scope layer).displayed =
      (entry.displayed || decide (Tracker.answerFor scope entry = .shown)) := by
  unfold pictured Tracker.answerFor
  cases entry.hinted <;> cases Tracker.picture scope entry <;> simp [shown]

/-- Asking for a sketch gives the entry the layer exactly if the answer says that it is shown. -/
theorem layer_pictured (scope : Scope) (layer : LayerId) (entry : Entry) :
    (entry.pictured scope layer).layer =
      if Tracker.answerFor scope entry = .shown then some layer else entry.layer := by
  unfold pictured Tracker.answerFor
  cases entry.hinted <;> cases Tracker.picture scope entry <;> simp [shown]

/-- What an entry complains of does not depend on whether its sketch was asked for before. -/
@[simp] theorem complaints_pictured (scope : Scope) (layer : LayerId) (entry : Entry) :
    (entry.pictured scope layer).complaints scope = entry.complaints scope := by
  rw [complaints, complaints, Tracker.picture, Tracker.picture, hinted_pictured,
    diagnostic_pictured]

/-- **A new entry, once its sketch was asked for or not.** The sketch is shown exactly if it was
asked for, the entry has no hints and there is a picture; otherwise there still is no layer and no
decoration. -/
theorem renewed (d : Diagnostic) (hinted : Bool) {asked : Prop} [Decidable asked]
    (hentry : entry = if asked then (ofDiagnostic d hinted).pictured scope layer
      else ofDiagnostic d hinted) :
    entry.diagnostic = d ∧ entry.hinted = hinted ∧
    (entry.displayed = true ↔ asked ∧ hinted = false ∧ ∃ decoration,
      illustrate scope.handlers.renderers scope.scene d = .success decoration) ∧
    (entry.displayed = true → entry.layer.isSome = true ∧ ∃ decoration,
      illustrate scope.handlers.renderers scope.scene d = .success decoration ∧
        entry.rendered = some decoration) ∧
    (entry.displayed = false → entry.layer = none ∧ entry.rendered = none) := by
  have hpicture : Tracker.picture scope (ofDiagnostic d hinted) =
      illustrate scope.handlers.renderers scope.scene d := rfl
  have hhinted : (ofDiagnostic d hinted).hinted = hinted := rfl
  by_cases hasked : asked
  · rw [if_pos hasked, pictured, hpicture, hhinted] at hentry
    cases hinted with
    | true => simp [hentry, ofDiagnostic]
    | false =>
      cases hillustrate : illustrate scope.handlers.renderers scope.scene d with
      | success decoration => simp [hentry, hillustrate, hasked, shown, ofDiagnostic]
      | inapplicable context => simp [hentry, hillustrate, ofDiagnostic]
      | failed context => simp [hentry, hillustrate, ofDiagnostic]
  · rw [if_neg hasked] at hentry
    simp [hentry, hasked, ofDiagnostic]

end Entry

namespace Tracker

variable {tracker : Tracker} {editor : Editor} {scope : Scope} {diagnostics : List Diagnostic}
  {entries : KeyMap Key Entry}

/-- The layer of an entry is the one that it has, or a new one. -/
@[simp] theorem layerFor_fst (entry : Entry) (editor : Editor) :
    (layerFor entry editor).1 = entry.layer.getD ⟨editor.created + 1⟩ := by
  unfold layerFor
  split
  · next layer hlayer => rw [hlayer, Option.getD_some]
  · next hlayer => rw [hlayer, Option.getD_none, Editor.createLayer_fst]

/-- **Asking for a sketch that an entry may have** hides all others, and shows this one if there is
a picture of it. -/
theorem get?_showEntry_of_hinted_eq_false {key : Key} {entry : Entry}
    (hget : tracker.get? key = some entry) (hhinted : entry.hinted = false) (editor : Editor)
    (scope : Scope) (other : Key) :
    (tracker.showEntry editor scope key).2.1.get? other = (tracker.get? other).map fun entry =>
      if other = key then entry.hidden.pictured scope (entry.layer.getD ⟨editor.created + 1⟩)
      else entry.hidden := by
  have hhide := tracker.get?_hideEntries editor other
  have hshowing := tracker.showing editor scope key
  generalize tracker.showEntry editor scope key = result at hshowing ⊢
  have hanswer := hshowing.answer_eq hget
  have hsame : ∀ {found}, tracker.get? key = some found → found = entry := fun hfound =>
    Option.some.inj (hfound.symm.trans hget)
  -- without a picture the entry is only hidden, as all others are
  have hnone : answerFor scope entry ≠ .shown →
      (tracker.get? other).map Entry.hidden = (tracker.get? other).map fun entry =>
        if other = key then entry.hidden.pictured scope (entry.layer.getD ⟨editor.created + 1⟩)
        else entry.hidden := by
    intro hanswer
    refine Option.map_congr fun found hfound => ?_
    split
    · next hother =>
      rw [hother, hget] at hfound
      obtain rfl := Option.some.inj hfound
      have hhidden : answerFor scope entry.hidden ≠ .shown := hanswer
      exact (Entry.pictured_eq_self hhidden).symm
    · rfl
  cases hshowing with
  | missing hmissing => simp [hget] at hmissing
  | hinted hfound htrue => simp [hsame hfound, hhinted] at htrue
  | inapplicable => exact hhide.trans (hnone (by simp [← hanswer]))
  | failed _ _ _ hfailed =>
    rw [hfailed] at hhide
    exact hhide.trans (hnone (by simp [← hanswer]))
  | @shown found decoration hfound _ hpicture hidden blank made layer hshown hlayer =>
    obtain rfl := hsame hfound
    have hhidden := tracker.get?_hideEntries editor key
    have hid : layer = found.layer.getD ⟨editor.created + 1⟩ := by
      have hblank : blank.created = editor.created := by
        rw [← Editor.created_clearAll editor tracker.layers]
        exact (congrArg (·.2.created) hshown).symm
      rw [← hblank, ← layerFor_fst, hlayer]
    rw [hshown] at hhide hhidden
    rw [hget, Option.map_some] at hhidden
    rw [get?_withShown hhidden]
    split
    · next hother =>
      have hpictured : found.hidden.pictured scope layer = found.hidden.shown layer decoration := by
        have hhiddenHinted : found.hidden.hinted = false := hhinted
        have hhiddenPicture : picture scope found.hidden = .success decoration := hpicture
        rw [Entry.pictured, hhiddenHinted, hhiddenPicture]
      rw [hother, hget, Option.map_some, ← hid, hpictured]
    · exact hhide

/-- Asking for the sketch of an entry that is not there, or has hints, changes nothing. -/
theorem showEntry_snd_of_hinted {key : Key}
    (h : ∀ entry, tracker.get? key = some entry → entry.hinted = true) (editor : Editor)
    (scope : Scope) : (tracker.showEntry editor scope key).2 = (tracker, editor) := by
  have hshowing := tracker.showing editor scope key
  generalize tracker.showEntry editor scope key = result at hshowing ⊢
  cases hshowing with
  | missing => rfl
  | hinted => rfl
  | shown hget hhinted => simp [h _ hget] at hhinted
  | inapplicable hget hhinted => simp [h _ hget] at hhinted
  | failed hget hhinted => simp [h _ hget] at hhinted

/-- When nothing is shown, asking for one sketch changes the entry under its key and no other. -/
theorem get?_showEntry
    (hhidden : ∀ key entry, tracker.get? key = some entry → entry.displayed = false)
    (editor : Editor) (scope : Scope) (key : Key) :
    ∃ layer, ∀ other, (tracker.showEntry editor scope key).2.1.get? other =
      (tracker.get? other).map fun entry =>
        if other = key then entry.pictured scope layer else entry := by
  by_cases hmay : ∃ entry, tracker.get? key = some entry ∧ entry.hinted = false
  · obtain ⟨entry, hget, hhinted⟩ := hmay
    refine ⟨entry.layer.getD ⟨editor.created + 1⟩, fun other => ?_⟩
    rw [get?_showEntry_of_hinted_eq_false hget hhinted]
    -- hiding what is hidden already changes nothing
    refine Option.map_congr fun found hfound => ?_
    rw [Entry.hidden_eq_self (hhidden _ _ hfound)]
    split
    · next hother =>
      rw [hother, hget] at hfound
      rw [Option.some.inj hfound]
    · rfl
  · have hhinted : ∀ entry, tracker.get? key = some entry → entry.hinted = true := by
      intro entry hget
      by_contra hnot
      exact hmay ⟨entry, hget, Bool.eq_false_of_not_eq_true hnot⟩
    refine ⟨⟨0⟩, fun other => ?_⟩
    rw [showEntry_snd_of_hinted hhinted]
    refine Option.map_id'.symm.trans (Option.map_congr fun found hfound => ?_)
    split
    · next hother =>
      rw [hother] at hfound
      rw [Entry.pictured, hhinted _ hfound]
    · rfl

/-! ## Messages -/

@[simp] theorem messages_hideEntries (tracker : Tracker) (editor : Editor) :
    (tracker.hideEntries editor).2.messages = editor.messages :=
  Editor.messages_clearAll editor tracker.layers

@[simp] theorem messages_layerFor (entry : Entry) (editor : Editor) :
    (layerFor entry editor).2.messages = editor.messages := by
  unfold layerFor
  split <;> simp

@[simp] theorem messages_showTriangles (tracker : Tracker) (editor : Editor) :
    (tracker.showTriangles editor).2.messages = editor.messages := by
  have hlayers : (tracker.triangleLayers editor).2.messages = editor.messages := by
    unfold triangleLayers
    split <;> rfl
  simp only [showTriangles, Editor.messages_decorate, hlayers]

/-- Asking for the sketch of an entry tells the user what its renderer failed with. -/
theorem messages_showEntry (tracker : Tracker) (editor : Editor) (scope : Scope) (key : Key) :
    (tracker.showEntry editor scope key).2.2.messages =
      editor.messages ++ (tracker.get? key).toList.flatMap (Entry.complaints scope) := by
  have hshowing := tracker.showing editor scope key
  generalize tracker.showEntry editor scope key = result at hshowing ⊢
  cases hshowing with
  | missing hget => simp [hget]
  | hinted hget hhinted => simp [hget, Entry.complaints, hhinted]
  | inapplicable hget hhinted hpicture =>
    simp [hget, Entry.complaints, hhinted, hpicture]
  | @failed entry context hget hhinted hpicture hidden blank hhide =>
    have hblank : blank.messages = editor.messages := by
      rw [← messages_hideEntries tracker editor, hhide]
    simp [hblank, hget, Entry.complaints, hhinted, hpicture]
  | @shown entry decoration hget hhinted hpicture hidden blank made layer hhide hlayer =>
    have hblank : blank.messages = editor.messages := by
      rw [← messages_hideEntries tracker editor, hhide]
    have hmade : made.messages = blank.messages := by
      rw [← messages_layerFor entry blank, hlayer]
    simp [hmade, hblank, hget, Entry.complaints, hhinted, hpicture]

/-! ## Layers created -/

@[simp] theorem created_hideEntries (tracker : Tracker) (editor : Editor) :
    (tracker.hideEntries editor).2.created = editor.created :=
  Editor.created_clearAll editor tracker.layers

/-- A layer is created for an entry that has none. -/
theorem created_layerFor (entry : Entry) (editor : Editor) :
    (layerFor entry editor).2.created =
      editor.created + if entry.layer = none then 1 else 0 := by
  unfold layerFor
  split
  · next hlayer => simp [hlayer]
  · next hlayer => simp [hlayer]

/-- Asking for a sketch creates a layer only if it is shown, and the entry had none. -/
theorem created_showEntry {key : Key} {entry : Entry} (hget : tracker.get? key = some entry)
    (editor : Editor) (scope : Scope) :
    (tracker.showEntry editor scope key).2.2.created = editor.created +
      if answerFor scope entry = .shown ∧ entry.layer = none then 1 else 0 := by
  have hshowing := tracker.showing editor scope key
  generalize tracker.showEntry editor scope key = result at hshowing ⊢
  have hanswer := hshowing.answer_eq hget
  rw [← hanswer]
  cases hshowing with
  | missing => simp
  | hinted => simp
  | inapplicable => simp
  | @failed _ context _ _ _ hidden blank hhide =>
    have hblank : blank.created = editor.created := by
      rw [← created_hideEntries tracker editor, hhide]
    simp [hblank]
  | @shown found decoration hfound _ _ hidden blank made layer hhide hlayer =>
    obtain rfl : found = entry := Option.some.inj (hfound.symm.trans hget)
    have hblank : blank.created = editor.created := by
      rw [← created_hideEntries tracker editor, hhide]
    have hmade := created_layerFor found blank
    rw [hlayer, hblank] at hmade
    simpa using hmade

/-- Putting the triangles in place creates no layers once they have them. -/
theorem created_showTriangles {layers : TriangleLayers} (h : tracker.triangles = some layers)
    (editor : Editor) : (tracker.showTriangles editor).2.created = editor.created := by
  simp [showTriangles, triangleLayers, h]

/-! ## Asking again for what was shown -/

/-- The key of an entry is asked for again exactly if its sketch was shown. -/
theorem mem_asked_iff {key : Key} {entry : Entry} (hget : entries.get? key = some entry) :
    key ∈ entries.keys.filter tracker.isDisplayed ↔ tracker.isDisplayed key = true := by
  rw [List.mem_filter]
  exact and_iff_right (KeyMap.mem_keys_iff.2 ⟨entry, hget⟩)

/-- **The entries once the sketch shown before is asked for again.** -/
theorem get?_reshown (h : tracker.Exclusive)
    (hentries : entriesOf scope.handlers diagnostics = .ok entries) (editor : Editor) :
    ∃ layer, ∀ key, (tracker.reshown editor scope entries).1.get? key =
      (entries.get? key).map fun entry =>
        if tracker.isDisplayed key then entry.pictured scope layer else entry := by
  have hhidden : ∀ key entry, Tracker.get? { tracker with entries := entries } key = some entry →
      entry.displayed = false := by
    intro key entry hget
    obtain ⟨-, d, -, rfl⟩ := exists_of_get?_entriesOf hentries hget
    rfl
  -- at most one sketch was shown, so at most one is asked for again
  unfold reshown
  rcases h.filter_isDisplayed entries.nodup_keys with hnone | ⟨shown, hone⟩
  · rw [hnone]
    refine ⟨⟨0⟩, fun key => ?_⟩
    show entries.get? key = _
    cases hget : entries.get? key with
    | none => rfl
    | some entry =>
      have hnot : ¬ tracker.isDisplayed key = true := by
        rw [← mem_asked_iff hget, hnone]
        exact List.not_mem_nil
      rw [Option.map_some, if_neg hnot]
  · rw [hone]
    obtain ⟨layer, hlayer⟩ := get?_showEntry hhidden (editor.releaseAll tracker.layers) scope shown
    refine ⟨layer, fun key => (hlayer key).trans ?_⟩
    show (entries.get? key).map _ = _
    cases hget : entries.get? key with
    | none => rfl
    | some entry =>
      have hiff : key = shown ↔ tracker.isDisplayed key = true := by
        rw [← mem_asked_iff hget, hone, List.mem_singleton]
      simp only [Option.map_some, hiff]

/-- **The messages once the sketch shown before is asked for again.** There is at most one, and it
is what the renderer of that sketch fails with. -/
theorem messages_reshown (h : tracker.Exclusive) (editor : Editor) (scope : Scope)
    (entries : KeyMap Key Entry) :
    ∃ messages, (tracker.reshown editor scope entries).2.messages = editor.messages ++ messages ∧
      messages.length ≤ 1 ∧
      ∀ message, message ∈ messages ↔ ∃ key entry, entries.get? key = some entry ∧
        tracker.isDisplayed key = true ∧ message ∈ entry.complaints scope := by
  have hreleased : (editor.releaseAll tracker.layers).messages = editor.messages :=
    Editor.messages_releaseAll editor tracker.layers
  unfold reshown
  rcases h.filter_isDisplayed entries.nodup_keys with hnone | ⟨shown, hone⟩
  · rw [hnone]
    refine ⟨[], hreleased.trans (List.append_nil _).symm, Nat.zero_le 1, fun message => ?_⟩
    refine iff_of_false List.not_mem_nil ?_
    rintro ⟨key, entry, hget, hdisplayed, -⟩
    rw [← mem_asked_iff hget, hnone] at hdisplayed
    exact List.not_mem_nil hdisplayed
  · rw [hone]
    have hmem : shown ∈ entries.keys.filter tracker.isDisplayed := by
      rw [hone]
      exact List.mem_singleton_self shown
    -- the key asked for has a new entry, and what that one complains of is all that is said
    obtain ⟨entry, hentry⟩ := KeyMap.mem_keys_iff.1 (List.mem_filter.1 hmem).1
    have hmessages := messages_showEntry { tracker with entries := entries }
      (editor.releaseAll tracker.layers) scope shown
    have hget : Tracker.get? { tracker with entries := entries } shown = some entry := hentry
    rw [hget, hreleased, Option.toList_some, List.flatMap_singleton] at hmessages
    refine ⟨entry.complaints scope, hmessages, entry.length_complaints_le scope, fun message => ?_⟩
    constructor
    · intro hmessage
      exact ⟨shown, entry, hentry, (List.mem_filter.1 hmem).2, hmessage⟩
    · rintro ⟨key, other, hother, hdisplayed, hmessage⟩
      rw [← mem_asked_iff hother, hone, List.mem_singleton] at hdisplayed
      rw [hdisplayed, hentry] at hother
      rwa [Option.some.inj hother]

/-- The keys once the sketch shown before is asked for again. -/
theorem mem_keys_reshown (h : tracker.Exclusive)
    (hentries : entriesOf scope.handlers diagnostics = .ok entries) (editor : Editor) {key : Key} :
    key ∈ (tracker.reshown editor scope entries).1.entries.keys ↔
      (∃ d ∈ diagnostics, d.line = key.line ∧ d.codeName? = some key.code) ∧
      (scope.handlers.renderers.contains key.code = true ∨
        scope.handlers.hinters.contains key.code = true) := by
  obtain ⟨layer, hafter⟩ := get?_reshown h hentries editor
  have hsame : key ∈ (tracker.reshown editor scope entries).1.entries.keys ↔
      key ∈ entries.keys := by
    rw [KeyMap.mem_keys_iff, KeyMap.mem_keys_iff]
    show (∃ entry, (tracker.reshown editor scope entries).1.get? key = some entry) ↔ _
    rw [hafter key]
    cases entries.get? key <;> simp
  rw [hsame, mem_keys_entriesOf hentries]
  simp only [Diagnostic.key?_eq_some_iff, Handlers.supports, Bool.or_eq_true]

/-- What the entries complain of once the sketch shown before is asked for again. -/
theorem complaints_reshown (h : tracker.Exclusive)
    (hentries : entriesOf scope.handlers diagnostics = .ok entries) (editor : Editor)
    {message : String} :
    (∃ key entry, entries.get? key = some entry ∧ tracker.isDisplayed key = true ∧
        message ∈ entry.complaints scope) ↔
      ∃ key entry, (tracker.reshown editor scope entries).1.get? key = some entry ∧
        tracker.isDisplayed key = true ∧ message ∈ entry.complaints scope := by
  obtain ⟨layer, hafter⟩ := get?_reshown h hentries editor
  constructor
  · rintro ⟨key, entry, hget, hdisplayed, hcomplaint⟩
    refine ⟨key, entry.pictured scope layer, ?_, hdisplayed, ?_⟩
    · rw [hafter key, hget, Option.map_some, if_pos hdisplayed]
    · rwa [Entry.complaints_pictured]
  · rintro ⟨key, entry, hget, hdisplayed, hcomplaint⟩
    rw [hafter key] at hget
    obtain ⟨new, hnew, rfl⟩ := Option.map_eq_some_iff.1 hget
    rw [if_pos hdisplayed, Entry.complaints_pictured] at hcomplaint
    exact ⟨key, new, hnew, hdisplayed, hcomplaint⟩

/-! ## After any operations -/

/-- **What replacing the diagnostics does.** Diagnostics whose codes are documented names are never
refused. After any operations, they make one entry for each line and supported code among them; it
holds the last diagnostic with that line and code, and has hints exactly if there is a hinter for
the code. A sketch is shown exactly if one was shown under the same key, the entry has no hints and
the renderer makes a picture of the new diagnostic; then this is the decoration on its layer, and no
other entry has a layer or a decoration. The layers of all entries before are disposed of. The user
is told at most one thing more: what the renderer of the sketch that was shown fails with. -/
theorem rebuild_of_run (operations : List Operation) (scope : Scope)
    (diagnostics : List Diagnostic) (h : ∀ d ∈ diagnostics, d.codeName?.isSome = true) :
    let before := (run operations).1
    let editor := (run operations).2
    ∃ after made, before.rebuild editor scope diagnostics = .ok (after, made) ∧
      (∀ key : Key, key ∈ after.entries.keys ↔
        (∃ d ∈ diagnostics, d.line = key.line ∧ d.codeName? = some key.code) ∧
        (scope.handlers.renderers.contains key.code = true ∨
          scope.handlers.hinters.contains key.code = true)) ∧
      (∀ key entry, after.get? key = some entry →
        (∃ first rest, diagnostics = first ++ entry.diagnostic :: rest ∧
          entry.diagnostic.line = key.line ∧ entry.diagnostic.codeName? = some key.code ∧
          ∀ d ∈ rest, ¬ (d.line = key.line ∧ d.codeName? = some key.code)) ∧
        entry.hinted = scope.handlers.hinters.contains key.code ∧
        (entry.displayed = true ↔ before.isDisplayed key = true ∧ entry.hinted = false ∧
          ∃ decoration, illustrate scope.handlers.renderers scope.scene entry.diagnostic =
            .success decoration) ∧
        (entry.displayed = true → entry.layer.isSome = true ∧
          ∃ decoration, illustrate scope.handlers.renderers scope.scene entry.diagnostic =
            .success decoration ∧ entry.rendered = some decoration) ∧
        (entry.displayed = false → entry.layer = none ∧ entry.rendered = none)) ∧
      (∀ id ∈ before.layers, ∃ layer, made.layer? id = some layer ∧ layer.disposed = true) ∧
      ∃ messages, made.messages = editor.messages ++ messages ∧ messages.length ≤ 1 ∧
        ∀ message, message ∈ messages ↔ ∃ key entry, after.get? key = some entry ∧
          before.isDisplayed key = true ∧ entry.hinted = false ∧ ∃ context,
          illustrate scope.handlers.renderers scope.scene entry.diagnostic = .failed context ∧
          message = (SketchError.renderingFailed context).message := by
  intro before editor
  have hkept : Kept (before, editor) [] := kept_run operations
  have hexclusive : before.Exclusive := hkept.exclusive
  obtain ⟨entries, hentries⟩ : ∃ entries, entriesOf scope.handlers diagnostics = .ok entries :=
    exists_entriesOf_eq_ok h
  have hrebuild := rebuild_eq_ok before editor hentries
  obtain ⟨layer, hafter⟩ := get?_reshown hexclusive hentries editor
  obtain ⟨messages, hmessages, hlength, hmem⟩ := messages_reshown hexclusive editor scope entries
  refine ⟨((before.reshown editor scope entries).1.showTriangles
      (before.reshown editor scope entries).2).1,
    ((before.reshown editor scope entries).1.showTriangles
      (before.reshown editor scope entries).2).2, hrebuild,
    fun key => mem_keys_reshown hexclusive hentries editor, fun key entry hget => ?_,
    fun id hid => ?_, messages, ?_, hlength, fun message => ?_⟩
  · have hget : (before.reshown editor scope entries).1.get? key = some entry := hget
    rw [hafter key] at hget
    obtain ⟨new, hnew, hentry⟩ := Option.map_eq_some_iff.1 hget
    obtain ⟨-, d, hlast, rfl⟩ := exists_of_get?_entriesOf hentries hnew
    obtain ⟨hdiagnostic, hhinted, hrenewed⟩ := Entry.renewed d _ hentry.symm
    obtain ⟨hkey, first, rest, hsplit, hrest⟩ := lastAt?_eq_some_iff.1 hlast
    obtain ⟨hline, hcode⟩ := Diagnostic.key?_eq_some_iff.1 hkey
    rw [hdiagnostic, hhinted]
    refine ⟨⟨first, rest, hsplit, hline, hcode, fun other hother => ?_⟩, rfl, hrenewed⟩
    rw [← Diagnostic.key?_eq_some_iff]
    exact hrest other hother
  · -- the layers of the entries before went to those disposed of, and stay there
    obtain ⟨available, shown, gone, hholds⟩ := hkept.holds
    obtain ⟨_, _, hrebuilt⟩ := holds_of_rebuild hholds hrebuild
    exact hrebuilt.mem_gone_iff.1 (.inl hid)
  · rw [messages_showTriangles, hmessages]
  · rw [hmem, complaints_reshown hexclusive hentries editor]
    simp only [Entry.mem_complaints_iff]
    rfl

/-- Of two diagnostics with one line and code, the later replaces the one that was shown. -/
theorem rebuild_of_run_later :
    let first : Diagnostic := ⟨⟨⟨3, 4⟩, ⟨3, 9⟩⟩, some .error,
      some (.documented (.name "E0382") none), some "rustc", "use of moved value", []⟩
    let second : Diagnostic := { first with message := "borrow of moved value" }
    let scope : Scope :=
      ⟨⟨.ofList [("E0382", fun _ _ _ => .success ⟨.besideLines .standard 0 1, 3⟩)], ∅⟩,
        ⟨.ofLines [], .standard⟩⟩
    let operations : List Operation := [.rebuild scope [first], .reveal scope ⟨3, "E0382"⟩]
    (∀ d ∈ [first, second], d.codeName?.isSome = true) ∧
    ∃ after made,
      (run operations).1.rebuild (run operations).2 scope [first, second] = .ok (after, made) ∧
      ∃ entry, after.get? ⟨3, "E0382"⟩ = some entry ∧ entry.diagnostic = second := by
  intro first second scope operations
  have hnames : ∀ d ∈ [first, second], d.codeName?.isSome = true := by
    simp [first, second, Diagnostic.codeName?, Code.name?]
  obtain ⟨after, made, hrebuild, hkeys, hentries, -⟩ :=
    rebuild_of_run operations scope [first, second] hnames
  have hsupported : scope.handlers.renderers.contains "E0382" = true := by
    simp [scope, Registry.ofList, KeyMap.contains]
  obtain ⟨entry, hget⟩ := KeyMap.mem_keys_iff.1 ((hkeys ⟨3, "E0382"⟩).2
    ⟨⟨second, by simp, rfl, rfl⟩, .inl hsupported⟩)
  obtain ⟨⟨before, rest, hsplit, -, -, hrest⟩, -⟩ := hentries ⟨3, "E0382"⟩ entry hget
  refine ⟨hnames, after, made, hrebuild, entry, hget, ?_⟩
  -- nothing of this key stands behind the entry's diagnostic, so it is the last on the list
  rcases List.eq_nil_or_concat rest with rfl | ⟨rest, d, rfl⟩
  · have hlast : [first, second].getLast? = some entry.diagnostic := by rw [hsplit]; simp
    exact (Option.some.inj hlast).symm
  · have hlast : [first, second].getLast? = some d := by
      rw [hsplit, List.concat_eq_append, ← List.cons_append, ← List.append_assoc,
        List.getLast?_concat]
    obtain rfl : second = d := Option.some.inj hlast
    exact absurd ⟨rfl, rfl⟩ (hrest second (by simp))

end Tracker
end BorrowSketch
