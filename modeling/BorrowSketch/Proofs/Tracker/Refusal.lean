import BorrowSketch.Proofs.Diagnostic.Related
import BorrowSketch.Proofs.Tracker.Triangles

/-! # Diagnostics that are refused

A tracker takes all of a list of diagnostics or none of it. The new entries are made one after the
other, and the keys that are to be shown again are noted on the way; a diagnostic whose code is not
a documented name ends this, wherever it stands on the list, before anything of it reached the
tracker or the editor.

* **`Diagnostic.Unexpected`** — a diagnostic that cannot be tracked, and what is said of its code.
* **`Tracker.Attempt`**, **`Tracker.replace`** — the replacement of the diagnostics step by step.
  What a step did to the tracker and the editor stays done when a later step is refused.
* **`Tracker.run_replace`** — step by step the diagnostics are replaced as they are at once.
* **`Tracker.refusal_of_run`** — when a list is refused, and what this changes. -/

namespace BorrowSketch

/-! ## Codes that are not documented names -/

/-- **A diagnostic that cannot be tracked,** and how its code is shown to the user. It has no code,
or one that is not a documented name. -/
inductive Diagnostic.Unexpected (d : Diagnostic) : String → Prop where
  /-- There is no code. -/
  | missing (h : d.code = none) : Unexpected d "undefined"
  /-- The code is a name without documentation. -/
  | bareName {name : String} (h : d.code = some (.bare (.name name))) : Unexpected d name
  /-- The code is a number without documentation. -/
  | bareNumber {value : Int} (h : d.code = some (.bare (.number value))) :
    Unexpected d (toString value)
  /-- The code is documented, and a number. -/
  | documentedNumber {value : Int} {target : Option String}
      (h : d.code = some (.documented (.number value) target)) :
    Unexpected d ("\x7bvalue: " ++ toString value ++ "\x7d")
  /-- The code is something else. -/
  | unrecognized {raw : String} (h : d.code = some (.unrecognized raw)) : Unexpected d raw

/-- These are the diagnostics without the name of a code. -/
theorem Diagnostic.unexpected_iff {d : Diagnostic} {text : String} :
    d.Unexpected text ↔ d.codeName? = none ∧ text = d.codeText := by
  constructor
  · intro h
    cases h with
    | missing h => exact ⟨by rw [codeName?, h]; rfl, by rw [codeText, h]⟩
    | bareName h => exact ⟨by rw [codeName?, h]; rfl, by rw [codeText, h]; rfl⟩
    | bareNumber h => exact ⟨by rw [codeName?, h]; rfl, by rw [codeText, h]; rfl⟩
    | documentedNumber h => exact ⟨by rw [codeName?, h]; rfl, by rw [codeText, h]; rfl⟩
    | unrecognized h => exact ⟨by rw [codeName?, h]; rfl, by rw [codeText, h]; rfl⟩
  · rintro ⟨hname, rfl⟩
    rw [codeName?] at hname
    rw [codeText]
    cases hcode : d.code with
    | none => exact .missing hcode
    | some code =>
      rw [hcode] at hname
      cases code with
      | bare value =>
        cases value with
        | name name => exact .bareName hcode
        | number value => exact .bareNumber hcode
      | documented value target =>
        cases value with
        | name name => cases hname
        | number value => exact .documentedNumber hcode
      | unrecognized raw => exact .unrecognized hcode

/-- There is one way to show a code. -/
theorem Diagnostic.exists_unexpected_iff {d : Diagnostic} :
    (∃ text, d.Unexpected text) ↔ d.codeName? = none := by
  simp only [unexpected_iff, exists_and_left, exists_eq, and_true]

namespace Tracker

variable {tracker : Tracker} {editor : Editor} {scope : Scope} {handlers : Handlers}
  {diagnostics : List Diagnostic} {error : SketchError}

/-! ## Lists that are refused -/

/-- One diagnostic without a documented name as its code is enough for a tracker to refuse all of
them; it complains of the first. -/
theorem rebuild_of_isFirst {d : Diagnostic}
    (h : IsFirst (fun d => d.codeName? = none) diagnostics d) :
    tracker.rebuild editor scope diagnostics = .error (.unexpectedCode d.codeText) := by
  obtain ⟨hname, before, after, rfl, hbefore⟩ := h
  obtain ⟨entries, hentries⟩ : ∃ entries, entriesOf scope.handlers before = .ok entries :=
    exists_entriesOf_eq_ok fun other hother => Option.isSome_iff_ne_none.2 (hbefore other hother)
  have hrefused : entriesOf scope.handlers (before ++ d :: after) =
      .error (.unexpectedCode d.codeText) := by
    have htrack : track scope.handlers entries d = .error (.unexpectedCode d.codeText) := by
      rw [track, hname]
    rw [entriesOf] at hentries
    rw [entriesOf, List.foldlM_append, hentries]
    change (track scope.handlers entries d).bind _ = _
    rw [htrack]
    rfl
  rw [rebuild, hrefused]

/-- A list without such a diagnostic is taken. -/
theorem exists_rebuild_eq_ok (tracker : Tracker) (editor : Editor) (scope : Scope)
    (h : ∀ d ∈ diagnostics, d.codeName? ≠ none) :
    ∃ state, tracker.rebuild editor scope diagnostics = .ok state := by
  obtain ⟨entries, hentries⟩ : ∃ entries, entriesOf scope.handlers diagnostics = .ok entries :=
    exists_entriesOf_eq_ok fun d hd => Option.isSome_iff_ne_none.2 (h d hd)
  exact ⟨_, rebuild_eq_ok tracker editor hentries⟩

/-- **A list is refused** exactly for the first diagnostic on it that cannot be tracked. -/
theorem rebuild_eq_error_iff :
    tracker.rebuild editor scope diagnostics = .error error ↔
      ∃ d, IsFirst (fun d => d.codeName? = none) diagnostics d ∧
        error = .unexpectedCode d.codeText := by
  constructor
  · intro herror
    by_cases hsome : ∃ d ∈ diagnostics, d.codeName? = none
    · obtain ⟨d, hfirst⟩ := exists_isFirst hsome
      rw [rebuild_of_isFirst hfirst] at herror
      exact ⟨d, hfirst, (Except.error.inj herror).symm⟩
    · have hall : ∀ d ∈ diagnostics, d.codeName? ≠ none := by
        intro d hd hname
        exact hsome ⟨d, hd, hname⟩
      obtain ⟨state, hok⟩ := exists_rebuild_eq_ok tracker editor scope hall
      rw [hok] at herror
      cases herror
  · rintro ⟨d, hfirst, rfl⟩
    exact rebuild_of_isFirst hfirst

/-! ## Step by step -/

/-- Work on a tracker and its editor that may be refused on the way. What was done to them until
then stays done. -/
abbrev Attempt := ExceptT SketchError (StateM (Tracker × Editor))

namespace Attempt

variable {α β : Type} {first : Attempt α} {next : α → Attempt β} {state after : Tracker × Editor}

/-- What was refused is not gone on with. -/
theorem run_bind_of_error (h : first.run.run state = (.error error, after)) :
    (first >>= next).run.run state = (.error error, after) := by
  rw [ExceptT.run_bind, StateT.run_bind, h]
  rfl

/-- What was done is gone on with, in the state that it left. -/
theorem run_bind_of_ok {a : α} (h : first.run.run state = (.ok a, after)) :
    (first >>= next).run.run state = (next a).run.run after := by
  rw [ExceptT.run_bind, StateT.run_bind, h]
  rfl

end Attempt

/-- What looking through new diagnostics has come to. -/
structure Draft where
  /-- The entries made. -/
  entries : KeyMap Key Entry
  /-- The keys to show again. -/
  again : KeyMap Key Unit

/-- A draft of nothing. -/
def Draft.empty : Draft := ⟨∅, ∅⟩

/-- Enter one more diagnostic if its code has a handler, and note its key if its sketch is shown
now. -/
def Draft.enter (handlers : Handlers) (draft : Draft) (d : Diagnostic) : Attempt Draft :=
  match d.codeName? with
  | none => throw (.unexpectedCode d.codeText)
  | some code =>
    if handlers.supports code then do
      let (tracker, _) ← get
      let key : Key := ⟨d.line, code⟩
      return {
        entries := draft.entries.insert key (.ofDiagnostic d (handlers.hasHinter d))
        again := if tracker.isDisplayed key then draft.again.insert key () else draft.again }
    else return draft

/-- Replace the diagnostics: look through the new ones, dispose of the layers of the old entries,
put the new entries in place, show again what was shown before, and put the triangles in place. -/
def replace (scope : Scope) (diagnostics : List Diagnostic) : Attempt Unit := do
  let draft ← diagnostics.foldlM (Draft.enter scope.handlers) Draft.empty
  modify fun (tracker, editor) =>
    ({ tracker with entries := draft.entries }, editor.releaseAll tracker.layers)
  modify fun (tracker, editor) => tracker.showEntries editor scope draft.again.keys
  modify fun (tracker, editor) => tracker.showTriangles editor

namespace Draft

/-- The keys noted are those of the entries made that are shown now. -/
def Notes (tracker : Tracker) (draft : Draft) : Prop :=
  ∀ key, key ∈ draft.again.keys ↔ key ∈ draft.entries.keys ∧ tracker.isDisplayed key = true

variable {draft : Draft} {d : Diagnostic} {code : String}

/-- There is nothing to note for a draft of nothing. -/
theorem notes_empty (tracker : Tracker) : empty.Notes tracker := by
  intro key
  exact iff_of_false List.not_mem_nil fun h => List.not_mem_nil h.1

/-- A diagnostic that cannot be tracked is refused, and the tracker and the editor are as before. -/
theorem run_enter_of_eq_none (hcode : d.codeName? = none) :
    (draft.enter handlers d).run.run (tracker, editor) =
      (.error (.unexpectedCode d.codeText), tracker, editor) := by
  rw [enter, hcode]
  rfl

/-- Any other diagnostic is entered as it is at once, with the tracker and the editor as before. -/
theorem exists_run_enter_eq (hcode : d.codeName? = some code) (h : draft.Notes tracker)
    (editor : Editor) :
    ∃ after : Draft, track handlers draft.entries d = .ok after.entries ∧ after.Notes tracker ∧
      (draft.enter handlers d).run.run (tracker, editor) = (.ok after, tracker, editor) := by
  rw [enter, hcode, track, hcode]
  dsimp only
  by_cases hsupports : handlers.supports code = true
  · rw [if_pos hsupports, if_pos hsupports]
    refine ⟨_, rfl, fun key => ?_, rfl⟩
    dsimp only
    rw [KeyMap.mem_keys_insert_iff]
    -- the key entered is noted if it is shown, and all others are noted as before
    by_cases hdisplayed : tracker.isDisplayed ⟨d.line, code⟩ = true
    · rw [if_pos hdisplayed, KeyMap.mem_keys_insert_iff, h]
      constructor
      · rintro (rfl | ⟨hkey, hshown⟩)
        · exact ⟨.inl rfl, hdisplayed⟩
        · exact ⟨.inr hkey, hshown⟩
      · rintro ⟨rfl | hkey, hshown⟩
        · exact .inl rfl
        · exact .inr ⟨hkey, hshown⟩
    · rw [if_neg hdisplayed, h]
      constructor
      · rintro ⟨hkey, hshown⟩
        exact ⟨.inr hkey, hshown⟩
      · rintro ⟨rfl | hkey, hshown⟩
        · exact absurd hshown hdisplayed
        · exact ⟨hkey, hshown⟩
  · rw [if_neg hsupports, if_neg hsupports]
    exact ⟨draft, rfl, h, rfl⟩

/-- **Looking through a list** comes to the entries that are made of it at once, or is refused with
the same error; the tracker and the editor are as before. -/
theorem run_foldlM_enter (handlers : Handlers) (diagnostics : List Diagnostic)
    (h : draft.Notes tracker) (editor : Editor) :
    match diagnostics.foldlM (track handlers) draft.entries with
    | .error error => (diagnostics.foldlM (enter handlers) draft).run.run (tracker, editor) =
      (.error error, tracker, editor)
    | .ok entries => ∃ after : Draft, after.entries = entries ∧ after.Notes tracker ∧
      (diagnostics.foldlM (enter handlers) draft).run.run (tracker, editor) =
        (.ok after, tracker, editor) := by
  induction diagnostics generalizing draft with
  | nil => exact ⟨draft, rfl, h, rfl⟩
  | cons d diagnostics ih =>
    rw [List.foldlM_cons, List.foldlM_cons]
    cases hcode : d.codeName? with
    | none =>
      have htrack : track handlers draft.entries d = .error (.unexpectedCode d.codeText) := by
        rw [track, hcode]
      rw [htrack]
      exact Attempt.run_bind_of_error (run_enter_of_eq_none hcode)
    | some code =>
      obtain ⟨entered, htrack, hnotes, hrun⟩ := exists_run_enter_eq hcode h editor
      rw [htrack, Attempt.run_bind_of_ok hrun]
      exact ih hnotes

end Draft

/-- **Step by step the diagnostics are replaced as they are at once.** If one of them is refused,
the tracker and the editor are as before. -/
theorem run_replace (tracker : Tracker) (editor : Editor) (scope : Scope)
    (diagnostics : List Diagnostic) :
    (replace scope diagnostics).run.run (tracker, editor) =
      match tracker.rebuild editor scope diagnostics with
      | .error error => (.error error, tracker, editor)
      | .ok state => (.ok (), state) := by
  have hlooked :=
    Draft.run_foldlM_enter scope.handlers diagnostics (Draft.notes_empty tracker) editor
  have hentries : diagnostics.foldlM (track scope.handlers) Draft.empty.entries =
    entriesOf scope.handlers diagnostics := rfl
  rw [hentries] at hlooked
  rw [replace, rebuild]
  cases hof : entriesOf scope.handlers diagnostics with
  | error error =>
    rw [hof] at hlooked
    exact Attempt.run_bind_of_error hlooked
  | ok entries =>
    rw [hof] at hlooked
    obtain ⟨draft, rfl, hnotes, hrun⟩ := hlooked
    rw [Attempt.run_bind_of_ok hrun]
    -- the keys noted on the way are those that are looked for at once
    have hagain : draft.again.keys = draft.entries.keys.filter tracker.isDisplayed :=
      KeyMap.keys_eq_filter hnotes
    rw [hagain]
    rfl

/-! ## After any operations -/

/-- **When a list of diagnostics is refused.** After any operations, whatever handlers, document and
measures they are to be shown with, new diagnostics are refused exactly if one of them, anywhere on
the list, cannot be tracked, since it has no code or one that is not a documented name; its severity
and its source do not matter. The error tells of the code of the first of them. Then the tracker
with its entries, and the editor with its layers, decorations, messages and the count of
replacements, are exactly as before, also if the diagnostics are looked through one by one, so that
all of those before the first were entered already. -/
theorem refusal_of_run (operations : List Operation) (scope : Scope)
    (diagnostics : List Diagnostic) :
    let before := (run operations).1
    let editor := (run operations).2
    ((∃ error, before.rebuild editor scope diagnostics = .error error) ↔
      ∃ d ∈ diagnostics, ∃ text, d.Unexpected text) ∧
    (∀ error, before.rebuild editor scope diagnostics = .error error ↔
      ∃ first d rest text, diagnostics = first ++ d :: rest ∧ d.Unexpected text ∧
        (∀ other ∈ first, ¬ ∃ text, other.Unexpected text) ∧ error = .unexpectedCode text) ∧
    (∀ error, before.rebuild editor scope diagnostics = .error error →
      (replace scope diagnostics).run.run (before, editor) = (.error error, before, editor) ∧
      before.perform editor (.rebuild scope diagnostics) = (.refused error, before, editor) ∧
      run (operations ++ [.rebuild scope diagnostics]) = run operations) ∧
    ∀ state, before.rebuild editor scope diagnostics = .ok state →
      (replace scope diagnostics).run.run (before, editor) = (.ok (), state) ∧
      before.perform editor (.rebuild scope diagnostics) = (.done, state) := by
  intro before editor
  have hstep := run_replace before editor scope diagnostics
  refine ⟨?_, fun error => ?_, fun error herror => ?_, fun state hok => ?_⟩
  · constructor
    · rintro ⟨error, herror⟩
      obtain ⟨d, ⟨hname, first, rest, rfl, -⟩, -⟩ := rebuild_eq_error_iff.1 herror
      refine ⟨d, ?_, Diagnostic.exists_unexpected_iff.2 hname⟩
      exact List.mem_append_right first List.mem_cons_self
    · rintro ⟨d, hd, hunexpected⟩
      have hnone : ∃ d ∈ diagnostics, d.codeName? = none :=
        ⟨d, hd, Diagnostic.exists_unexpected_iff.1 hunexpected⟩
      obtain ⟨first, hfirst⟩ := exists_isFirst hnone
      exact ⟨_, rebuild_of_isFirst hfirst⟩
  · rw [rebuild_eq_error_iff]
    constructor
    · rintro ⟨d, ⟨hname, first, rest, hsplit, hfirst⟩, rfl⟩
      refine ⟨first, d, rest, d.codeText, hsplit, Diagnostic.unexpected_iff.2 ⟨hname, rfl⟩,
        fun other hother hunexpected => ?_, rfl⟩
      exact hfirst other hother (Diagnostic.exists_unexpected_iff.1 hunexpected)
    · rintro ⟨first, d, rest, text, hsplit, hunexpected, hfirst, rfl⟩
      obtain ⟨hname, rfl⟩ := Diagnostic.unexpected_iff.1 hunexpected
      refine ⟨d, ⟨hname, first, rest, hsplit, fun other hother hother' => ?_⟩, rfl⟩
      exact hfirst other hother (Diagnostic.exists_unexpected_iff.2 hother')
  · rw [herror] at hstep
    have hperform : before.perform editor (.rebuild scope diagnostics) =
        (.refused error, before, editor) := by
      simp only [perform, herror]
    refine ⟨hstep, hperform, ?_⟩
    rw [run_concat]
    exact congrArg (·.2) hperform
  · rw [hok] at hstep
    refine ⟨hstep, ?_⟩
    simp only [perform, hok]

end Tracker
end BorrowSketch
