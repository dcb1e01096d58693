import BorrowSketch.Proofs.Tracker.Entries

/-! # Showing entries

Whether the sketch of an entry is shown, and how that changes. An entry is shown only after all
others were hidden, so that there is never more than one.

* **`Tracker.Showing`** — the ways in which showing an entry can go.
* **`Tracker.diagnostic_reshown`** — no entry gets another diagnostic by it.
* **`Tracker.Exclusive`** — at most one sketch is shown, and it has all that it takes.
* **`Tracker.displayedEntries`** — the entries shown, of which there is at most one. -/

namespace BorrowSketch
namespace Tracker

variable {tracker : Tracker} {key : Key}

/-! ## What happens when an entry is shown -/

/-- What an entry looks like in a scope. -/
def picture (scope : Scope) (entry : Entry) : Outcome Decoration :=
  illustrate scope.handlers.renderers scope.scene entry.diagnostic

/-- A tracker with the sketch of one more entry shown. -/
def withShown (tracker : Tracker) (key : Key) (layer : LayerId) (decoration : Decoration) :
    Tracker :=
  { tracker with
    entries := tracker.entries.modify key fun entry => entry.shown layer decoration }

/-- **The ways in which showing an entry can go.** Either nothing happens, or all sketches are
hidden and after that the sketch of the entry is shown or not. -/
inductive Showing (tracker : Tracker) (editor : Editor) (scope : Scope) (key : Key) :
    Toggle × Tracker × Editor → Prop where
  /-- There is no entry. -/
  | missing (hget : tracker.get? key = none) :
    Showing tracker editor scope key (.missing, tracker, editor)
  /-- The entry has hints. -/
  | hinted {entry : Entry} (hget : tracker.get? key = some entry)
      (hhinted : entry.hinted = true) :
    Showing tracker editor scope key (.hinted, tracker, editor)
  /-- There is a picture to show. -/
  | shown {entry : Entry} {decoration : Decoration} (hget : tracker.get? key = some entry)
      (hhinted : entry.hinted = false) (hpicture : picture scope entry = .success decoration)
      {hidden : Tracker} {blank made : Editor} {layer : LayerId}
      (hhide : tracker.hideEntries editor = (hidden, blank))
      (hlayer : layerFor entry blank = (layer, made)) :
    Showing tracker editor scope key
      (.shown, hidden.withShown key layer decoration, made.decorate layer [decoration])
  /-- The renderer does not understand the diagnostic. -/
  | inapplicable {entry : Entry} {context : Option String}
      (hget : tracker.get? key = some entry) (hhinted : entry.hinted = false)
      (hpicture : picture scope entry = .inapplicable context) :
    Showing tracker editor scope key (.inapplicable context, tracker.hideEntries editor)
  /-- The renderer fails. -/
  | failed {entry : Entry} {context : String} (hget : tracker.get? key = some entry)
      (hhinted : entry.hinted = false) (hpicture : picture scope entry = .failed context)
      {hidden : Tracker} {blank : Editor} (hhide : tracker.hideEntries editor = (hidden, blank)) :
    Showing tracker editor scope key
      (.failed context, hidden, blank.notify (SketchError.renderingFailed context).message)

/-- Showing an entry goes in one of these ways. -/
theorem showing (tracker : Tracker) (editor : Editor) (scope : Scope) (key : Key) :
    Showing tracker editor scope key (tracker.showEntry editor scope key) := by
  unfold showEntry
  split
  · next hget => exact .missing hget
  · next entry hget =>
    split
    · next hhinted => exact .hinted hget hhinted
    · next hhinted =>
      have hhinted : entry.hinted = false := by simpa using hhinted
      split
      next hidden blank hhide =>
      split
      · next decoration hpicture => exact .shown hget hhinted hpicture hhide rfl
      · next context hpicture => exact hhide ▸ .inapplicable hget hhinted hpicture
      · next context hpicture => exact .failed hget hhinted hpicture hhide

/-! ## What the entries are about -/

/-- The entries after all sketches were hidden. -/
@[simp] theorem get?_hideEntries (tracker : Tracker) (editor : Editor) (key : Key) :
    (tracker.hideEntries editor).1.get? key = (tracker.get? key).map Entry.hidden :=
  KeyMap.get?_mapValues _ _ _

/-- The entries of a tracker whose sketches are hidden, once the sketch of one is shown. -/
theorem get?_withShown {hidden : Tracker} {layer : LayerId} {decoration : Decoration}
    {entry : Entry} (hget : hidden.get? key = some entry) (other : Key) :
    (hidden.withShown key layer decoration).get? other =
      if other = key then some (entry.shown layer decoration) else hidden.get? other := by
  split
  · next hother =>
    rw [hother]
    exact (KeyMap.get?_modify_self _ _ _).trans (congrArg _ hget)
  · next hother => exact KeyMap.get?_modify_of_ne _ _ hother

/-- Showing an entry leaves all keys as they are. -/
theorem keys_showEntry (tracker : Tracker) (editor : Editor) (scope : Scope) (key : Key) :
    (tracker.showEntry editor scope key).2.1.entries.keys = tracker.entries.keys := by
  have hhidden : (tracker.hideEntries editor).1.entries.keys = tracker.entries.keys :=
    KeyMap.keys_mapValues _ _
  have hshowing := tracker.showing editor scope key
  generalize tracker.showEntry editor scope key = result at hshowing ⊢
  cases hshowing with
  | missing => rfl
  | hinted => rfl
  | inapplicable => exact hhidden
  | failed _ _ _ hhide => rwa [hhide] at hhidden
  | shown _ _ _ hhide =>
    rw [hhide] at hhidden
    exact (KeyMap.keys_modify _ _ _).trans hhidden

/-- Showing an entry leaves all entries at their keys and with their diagnostics. -/
theorem diagnostic_showEntry (tracker : Tracker) (editor : Editor) (scope : Scope)
    (key other : Key) :
    ((tracker.showEntry editor scope key).2.1.get? other).map Entry.diagnostic =
      (tracker.get? other).map Entry.diagnostic := by
  have hhidden : ((tracker.hideEntries editor).1.get? other).map Entry.diagnostic =
      (tracker.get? other).map Entry.diagnostic := by
    rw [get?_hideEntries, Option.map_map]
    rfl
  have hshowing := tracker.showing editor scope key
  generalize tracker.showEntry editor scope key = result at hshowing ⊢
  cases hshowing with
  | missing => rfl
  | hinted => rfl
  | inapplicable => exact hhidden
  | failed _ _ _ hhide =>
    rw [hhide] at hhidden
    exact hhidden
  | @shown entry decoration hget _ _ hidden blank made layer hhide _ =>
    have hentry : hidden.get? key = some entry.hidden := by
      have hentry := tracker.get?_hideEntries editor key
      rwa [hhide, hget] at hentry
    rw [hhide] at hhidden
    rw [get?_withShown hentry, ← hhidden]
    split
    · next hother =>
      rw [hother, hentry]
      rfl
    · rfl

/-- **Asking again for what was shown** leaves the new entries at their keys and with their
diagnostics. -/
theorem diagnostic_reshown (tracker : Tracker) (editor : Editor) (scope : Scope)
    (entries : KeyMap Key Entry) (key : Key) :
    ((tracker.reshown editor scope entries).1.get? key).map Entry.diagnostic =
      (entries.get? key).map Entry.diagnostic := by
  suffices h : ∀ (keys : List Key) (before : Tracker) (editor : Editor),
      ((before.showEntries editor scope keys).1.get? key).map Entry.diagnostic =
        (before.get? key).map Entry.diagnostic from h _ _ _
  intro keys
  induction keys with
  | nil => exact fun _ _ => rfl
  | cons first keys ih =>
    exact fun before editor =>
      (ih _ _).trans (diagnostic_showEntry before editor scope first key)

/-! ## What is answered -/

section Answer

variable {editor : Editor} {scope : Scope} {entry : Entry} {result : Toggle × Tracker × Editor}

/-- What is answered when the sketch of an entry is asked for. -/
def answerFor (scope : Scope) (entry : Entry) : Toggle :=
  if entry.hinted then .hinted
  else match picture scope entry with
    | .success _ => .shown
    | .inapplicable context => .inapplicable context
    | .failed context => .failed context

/-- The answer tells that the entry has hints exactly if it has. -/
theorem answerFor_eq_hinted_iff : answerFor scope entry = .hinted ↔ entry.hinted = true := by
  unfold answerFor
  cases entry.hinted <;> cases picture scope entry <;> simp

/-- The answer tells that the sketch is shown exactly if there is one to show. -/
theorem answerFor_eq_shown_iff :
    answerFor scope entry = .shown ↔
      entry.hinted = false ∧ ∃ decoration, picture scope entry = .success decoration := by
  unfold answerFor
  cases entry.hinted <;> cases picture scope entry <;> simp

/-- An entry that is there and asked for is neither missing nor hidden. -/
theorem answerFor_ne (scope : Scope) (entry : Entry) :
    answerFor scope entry ≠ .missing ∧ answerFor scope entry ≠ .hidden := by
  unfold answerFor
  cases entry.hinted <;> cases picture scope entry <;> simp

@[simp] theorem answerFor_hidden (scope : Scope) (entry : Entry) :
    answerFor scope entry.hidden = answerFor scope entry := rfl

/-- The answer depends on the entry alone. -/
theorem Showing.answer_eq (h : Showing tracker editor scope key result)
    (hget : tracker.get? key = some entry) : result.1 = answerFor scope entry := by
  have hsame : ∀ {other}, tracker.get? key = some other → other = entry := by
    intro other hother
    exact Option.some.inj (hother.symm.trans hget)
  cases h with
  | missing hmissing =>
    rw [hget] at hmissing
    cases hmissing
  | hinted hother hhinted =>
    obtain rfl := hsame hother
    rw [answerFor, if_pos hhinted]
  | shown hother hhinted hpicture =>
    obtain rfl := hsame hother
    rw [answerFor, hhinted, if_neg Bool.false_ne_true, hpicture]
  | inapplicable hother hhinted hpicture =>
    obtain rfl := hsame hother
    rw [answerFor, hhinted, if_neg Bool.false_ne_true, hpicture]
  | failed hother hhinted hpicture =>
    obtain rfl := hsame hother
    rw [answerFor, hhinted, if_neg Bool.false_ne_true, hpicture]

/-- An entry whose sketch was asked for and shown has the decoration on a layer. -/
theorem Showing.exists_shown (h : Showing tracker editor scope key result)
    (hget : tracker.get? key = some entry) (hhinted : entry.hinted = false)
    {decoration : Decoration} (hpicture : picture scope entry = .success decoration) :
    ∃ layer, result.2.1.get? key = some (entry.shown layer decoration) := by
  have hanswer := h.answer_eq hget
  rw [answerFor, hhinted, if_neg Bool.false_ne_true, hpicture] at hanswer
  cases h with
  | missing => cases hanswer
  | hinted => cases hanswer
  | inapplicable => cases hanswer
  | failed => cases hanswer
  | @shown other otherDecoration hother _ hshown hidden blank made layer hhide _ =>
    obtain rfl : other = entry := Option.some.inj (hother.symm.trans hget)
    obtain rfl : otherDecoration = decoration := Outcome.success.inj (hshown.symm.trans hpicture)
    have hhidden : hidden.get? key = some other.hidden := by
      have hentry := tracker.get?_hideEntries editor key
      rwa [hhide, hget] at hentry
    refine ⟨layer, ?_⟩
    rw [get?_withShown hhidden, if_pos rfl]
    rfl

end Answer

/-! ## At most one sketch is shown -/

/-- **At most one sketch is shown,** and only of an entry without hints that has a layer and a
decoration. -/
structure Exclusive (tracker : Tracker) : Prop where
  /-- Two entries whose sketches are shown are one. -/
  unique : ∀ {key other entry otherEntry}, tracker.get? key = some entry →
    entry.displayed = true → tracker.get? other = some otherEntry →
    otherEntry.displayed = true → key = other
  /-- An entry whose sketch is shown has all that it takes. -/
  complete : ∀ {key entry}, tracker.get? key = some entry → entry.displayed = true →
    entry.hinted = false ∧ ∃ id decoration,
      entry.layer = some id ∧ entry.rendered = some decoration

/-- Nothing is wrong with a tracker that shows nothing. -/
theorem exclusive_of_hidden
    (h : ∀ key entry, tracker.get? key = some entry → entry.displayed = false) :
    tracker.Exclusive where
  unique hget hdisplayed := by simp [h _ _ hget] at hdisplayed
  complete hget hdisplayed := by simp [h _ _ hget] at hdisplayed

/-- After all sketches were hidden none is shown. -/
theorem hidden_of_hideEntries (tracker : Tracker) (editor : Editor) {key : Key} {entry : Entry}
    (hget : (tracker.hideEntries editor).1.get? key = some entry) : entry.displayed = false := by
  rw [get?_hideEntries] at hget
  obtain ⟨old, -, rfl⟩ := Option.map_eq_some_iff.1 hget
  rfl

theorem exclusive_hideEntries (tracker : Tracker) (editor : Editor) :
    (tracker.hideEntries editor).1.Exclusive :=
  exclusive_of_hidden fun _ _ => hidden_of_hideEntries tracker editor

/-- Hiding one entry leaves at most the others shown. -/
theorem Exclusive.hideEntry (h : tracker.Exclusive) (editor : Editor) (key : Key) :
    (tracker.hideEntry editor key).2.1.Exclusive := by
  unfold Tracker.hideEntry
  split
  · exact h
  · -- an entry that is still shown is another one, and as it was
    have hold : ∀ other entry,
        (tracker.entries.modify key Entry.hidden).get? other = some entry →
        entry.displayed = true → tracker.get? other = some entry := by
      intro other entry hget hdisplayed
      by_cases hother : other = key
      · subst hother
        rw [KeyMap.get?_modify_self] at hget
        obtain ⟨old, -, rfl⟩ := Option.map_eq_some_iff.1 hget
        simp [Entry.hidden] at hdisplayed
      · rwa [KeyMap.get?_modify_of_ne _ _ hother] at hget
    exact
      { unique := fun hget hdisplayed hget' hdisplayed' =>
          h.unique (hold _ _ hget hdisplayed) hdisplayed (hold _ _ hget' hdisplayed') hdisplayed'
        complete := fun hget hdisplayed => h.complete (hold _ _ hget hdisplayed) hdisplayed }

/-- Showing an entry leaves at most that one shown. -/
theorem Exclusive.showEntry (h : tracker.Exclusive) (editor : Editor) (scope : Scope)
    (key : Key) : (tracker.showEntry editor scope key).2.1.Exclusive := by
  have hshowing := tracker.showing editor scope key
  generalize tracker.showEntry editor scope key = result at hshowing ⊢
  cases hshowing with
  | missing => exact h
  | hinted => exact h
  | inapplicable => exact exclusive_hideEntries tracker editor
  | failed _ _ _ hhide =>
    have hexclusive := exclusive_hideEntries tracker editor
    rwa [hhide] at hexclusive
  | @shown entry decoration hget hhinted _ hidden blank made layer hhide _ =>
    obtain rfl : (tracker.hideEntries editor).1 = hidden := by rw [hhide]
    have hhidden : (tracker.hideEntries editor).1.get? key = some entry.hidden := by
      rw [get?_hideEntries, hget, Option.map_some]
    -- whatever is shown now has the key that was asked for
    have honly : ∀ {other otherEntry},
        ((tracker.hideEntries editor).1.withShown key layer decoration).get? other =
          some otherEntry → otherEntry.displayed = true →
        other = key ∧ otherEntry = entry.hidden.shown layer decoration := by
      intro other otherEntry hgetOther hdisplayed
      rw [get?_withShown hhidden] at hgetOther
      split at hgetOther
      · next hkey => exact ⟨hkey, (Option.some.inj hgetOther).symm⟩
      · simp [hidden_of_hideEntries tracker editor hgetOther] at hdisplayed
    exact
      { unique := fun hget hdisplayed hget' hdisplayed' =>
          (honly hget hdisplayed).1.trans (honly hget' hdisplayed').1.symm
        complete := fun hget hdisplayed => by
          obtain ⟨-, rfl⟩ := honly hget hdisplayed
          exact ⟨hhinted, layer, decoration, rfl, rfl⟩ }

/-- Showing several entries leaves at most one of them shown. -/
theorem Exclusive.showEntries (h : tracker.Exclusive) (editor : Editor) (scope : Scope)
    (keys : List Key) : (tracker.showEntries editor scope keys).1.Exclusive := by
  induction keys generalizing tracker editor with
  | nil => exact h
  | cons key keys ih => exact ih (h.showEntry editor scope key) _

/-- Whatever was shown before, at most one entry is shown once the diagnostics are replaced. -/
theorem exclusive_of_rebuild {editor : Editor} {scope : Scope} {diagnostics : List Diagnostic}
    {state : Tracker × Editor} (h : tracker.rebuild editor scope diagnostics = .ok state) :
    state.1.Exclusive := by
  cases hentries : entriesOf scope.handlers diagnostics with
  | error error => simp [rebuild, hentries] at h
  | ok entries =>
    rw [rebuild_eq_ok tracker editor hentries] at h
    obtain rfl := Except.ok.inj h
    -- the new entries are hidden, and those shown after that are shown one at a time
    have hfresh : Exclusive { tracker with entries := entries } :=
      exclusive_of_hidden fun key entry hget => by
        obtain ⟨-, d, -, rfl⟩ := exists_of_get?_entriesOf hentries hget
        rfl
    have hreshown := hfresh.showEntries (editor.releaseAll tracker.layers) scope
      (entries.keys.filter tracker.isDisplayed)
    exact ⟨hreshown.unique, hreshown.complete⟩

/-! ## The entries shown -/

/-- The entries whose sketches are shown. -/
def displayedEntries (tracker : Tracker) : List (Key × Entry) :=
  tracker.entries.toList.filter fun entry => entry.2.displayed

theorem mem_displayedEntries_iff {entry : Entry} :
    (key, entry) ∈ tracker.displayedEntries ↔
      tracker.get? key = some entry ∧ entry.displayed = true := by
  rw [displayedEntries, List.mem_filter, KeyMap.mem_toList_iff]
  rfl

/-- No entry is shown exactly if each of them is hidden. -/
theorem displayedEntries_eq_nil_iff :
    tracker.displayedEntries = [] ↔
      ∀ key entry, tracker.get? key = some entry → entry.displayed = false := by
  rw [displayedEntries, List.filter_eq_nil_iff]
  simp only [Prod.forall, KeyMap.mem_toList_iff, Bool.not_eq_true]
  rfl

/-- A list without duplicates in which all are one has at most one element. -/
theorem eq_nil_or_singleton {α : Type} {list : List α} (hnodup : list.Nodup)
    (hsame : ∀ a ∈ list, ∀ b ∈ list, a = b) : list = [] ∨ ∃ a, list = [a] := by
  match list with
  | [] => exact .inl rfl
  | [a] => exact .inr ⟨a, rfl⟩
  | a :: b :: rest =>
    have heq : a = b := hsame a (by simp) b (by simp)
    rw [heq] at hnodup
    simp at hnodup

/-- At most one sketch is shown: the entries shown are none or one. -/
theorem Exclusive.displayedEntries_eq (h : tracker.Exclusive) :
    tracker.displayedEntries = [] ∨
      ∃ shown, tracker.displayedEntries = [shown] := by
  have hnodup : tracker.displayedEntries.Nodup :=
    .filter _ (.of_map Prod.fst tracker.entries.nodup_keys)
  -- two entries whose sketches are shown have one key, and so are one entry
  refine eq_nil_or_singleton hnodup ?_
  rintro ⟨key, entry⟩ ha ⟨other, otherEntry⟩ hb
  obtain ⟨hget, hdisplayed⟩ := mem_displayedEntries_iff.1 ha
  obtain ⟨hgetOther, hdisplayedOther⟩ := mem_displayedEntries_iff.1 hb
  obtain rfl := h.unique hget hdisplayed hgetOther hdisplayedOther
  rw [Option.some.inj (hget.symm.trans hgetOther)]

/-- An entry that is shown is the only one. -/
theorem Exclusive.displayedEntries_eq_singleton (h : tracker.Exclusive) {entry : Entry}
    (hget : tracker.get? key = some entry) (hdisplayed : entry.displayed = true) :
    tracker.displayedEntries = [(key, entry)] := by
  have hmem : (key, entry) ∈ tracker.displayedEntries :=
    mem_displayedEntries_iff.2 ⟨hget, hdisplayed⟩
  rcases h.displayedEntries_eq with hnone | ⟨shown, hone⟩
  · rw [hnone] at hmem
    cases hmem
  · rw [hone] at hmem ⊢
    rw [List.mem_singleton.1 hmem]

/-- A sketch is shown under a key exactly if the entry there says so. -/
theorem isDisplayed_iff {tracker : Tracker} {key : Key} :
    tracker.isDisplayed key = true ↔
      ∃ entry, tracker.get? key = some entry ∧ entry.displayed = true := by
  rw [isDisplayed]
  cases tracker.get? key <;> simp

/-- Of any keys, at most one has its sketch shown. -/
theorem Exclusive.filter_isDisplayed (h : tracker.Exclusive) {keys : List Key}
    (hnodup : keys.Nodup) :
    keys.filter tracker.isDisplayed = [] ∨ ∃ key, keys.filter tracker.isDisplayed = [key] := by
  refine eq_nil_or_singleton (hnodup.filter _) fun key hkey other hother => ?_
  obtain ⟨entry, hget, hdisplayed⟩ := isDisplayed_iff.1 (List.mem_filter.1 hkey).2
  obtain ⟨otherEntry, hgetOther, hdisplayedOther⟩ :=
    isDisplayed_iff.1 (List.mem_filter.1 hother).2
  exact h.unique hget hdisplayed hgetOther hdisplayedOther

end Tracker
end BorrowSketch
