import BorrowSketch.Proofs.Tracker.Entries
import BorrowSketch.Session.Basic

/-! # How a session handles events

A session rebuilds only from diagnostics that count, and all of these can be tracked; so nothing
that happens to it is refused.

* **`Session.exists_rebuild_eq_ok`** — a session always can replace its diagnostics.
* **`Session.Handling`** — the ways in which handling an event can go.
* **`Session.settings_run`** — no event changes the handlers, measures and options. -/

namespace BorrowSketch
namespace Session

/-! ## Rebuilding -/

/-- The code of a diagnostic that counts is a documented name. -/
theorem isSome_codeName?_of_mem_accepted {session : Session} {diagnostics : List Diagnostic}
    {d : Diagnostic} (h : d ∈ session.accepted diagnostics) : d.codeName?.isSome := by
  have haccepts := (List.mem_filter.1 h).2
  rw [Handlers.accepts, Bool.and_eq_true] at haccepts
  cases hname : d.codeName? with
  | none => simp [hname] at haccepts
  | some name => rfl

/-- **What replacing the diagnostics comes to.** First the tracker replaces those that count, then
the hints for them are posted. -/
theorem rebuild_eq_ok_iff {session : Session} {editor : Editor} {document : LineView}
    {diagnostics : List Diagnostic} {state : Session × Editor} :
    session.rebuild editor document diagnostics = .ok state ↔
      ∃ tracker made,
        session.tracker.rebuild editor (session.scope document) (session.accepted diagnostics) =
          .ok (tracker, made) ∧
        state =
          ({ session with
              tracker := tracker
              board := (session.board.post made session.handlers.hinters document
                (session.accepted diagnostics)).1 },
            (session.board.post made session.handlers.hinters document
              (session.accepted diagnostics)).2) := by
  unfold rebuild
  dsimp only
  cases session.tracker.rebuild editor (session.scope document) (session.accepted diagnostics) with
  | error error => simp
  | ok after =>
    obtain ⟨tracker, made⟩ := after
    simp [eq_comm]

/-- **A session always can replace its diagnostics.** -/
theorem exists_rebuild_eq_ok (session : Session) (editor : Editor) (document : LineView)
    (diagnostics : List Diagnostic) :
    ∃ state, session.rebuild editor document diagnostics = .ok state := by
  obtain ⟨entries, hentries⟩ : ∃ entries,
      Tracker.entriesOf (session.scope document).handlers (session.accepted diagnostics) =
        .ok entries :=
    Tracker.exists_entriesOf_eq_ok fun d => isSome_codeName?_of_mem_accepted
  exact ⟨_, rebuild_eq_ok_iff.2
    ⟨_, _, Tracker.rebuild_eq_ok session.tracker editor hentries, rfl⟩⟩

/-! ## Events -/

/-- **The ways in which handling an event can go.** Nothing is ever refused. -/
inductive Handling (session : Session) (editor : Editor) :
    Event → Reply × Session × Editor → Prop where
  /-- A change is noted. -/
  | noted {language : String} {now : Nat} (hlanguage : language = session.options.language) :
    Handling session editor (.changed language now)
      (.decided true, { session with due := some (now + session.options.delay) }, editor)
  /-- A change in another language does not count. -/
  | notNoted {language : String} {now : Nat} (hlanguage : language ≠ session.options.language) :
    Handling session editor (.changed language now) (.decided false, session, editor)
  /-- No change was noted that is still to take effect. -/
  | idle {document : LineView} {diagnostics : List Diagnostic} {now : Nat}
      (hdue : session.due = none) :
    Handling session editor (.poll document diagnostics now) (.decided false, session, editor)
  /-- A change takes effect only later. -/
  | early {document : LineView} {diagnostics : List Diagnostic} {now due : Nat}
      (hdue : session.due = some due) (hearly : now < due) :
    Handling session editor (.poll document diagnostics now) (.decided false, session, editor)
  /-- A change takes effect. -/
  | polled {document : LineView} {diagnostics : List Diagnostic} {now due : Nat}
      {state : Session × Editor} (hdue : session.due = some due) (hnow : due ≤ now)
      (hrebuild :
        { session with due := none }.rebuild editor document diagnostics = .ok state) :
    Handling session editor (.poll document diagnostics now) (.decided true, state)
  /-- Diagnostics take effect at once. -/
  | updated {language : String} {document : LineView} {diagnostics : List Diagnostic}
      {state : Session × Editor} (hlanguage : language = session.options.language)
      (hrebuild : session.rebuild editor document diagnostics = .ok state) :
    Handling session editor (.update language document diagnostics) (.decided true, state)
  /-- Diagnostics in another language do not count. -/
  | notUpdated {language : String} {document : LineView} {diagnostics : List Diagnostic}
      (hlanguage : language ≠ session.options.language) :
    Handling session editor (.update language document diagnostics)
      (.decided false, session, editor)
  /-- An entry is toggled. -/
  | toggled {document : LineView} {key : Key} :
    Handling session editor (.toggle document key)
      (.toggled (session.toggle editor document key).1, (session.toggle editor document key).2)
  /-- There is nothing on the line. -/
  | nothingOnLine {document : LineView} {line : Nat}
      (hkeys : session.tracker.keysOnLine line = []) :
    Handling session editor (.toggleLine document line) (.lineToggled .nothing, session, editor)
  /-- The one entry on the line is toggled. -/
  | lineToggled {document : LineView} {line : Nat} {key : Key}
      (hkeys : session.tracker.keysOnLine line = [key]) :
    Handling session editor (.toggleLine document line)
      (.lineToggled (.toggled key (session.toggle editor document key).1),
        (session.toggle editor document key).2)
  /-- There are several entries on the line. -/
  | severalOnLine {document : LineView} {line : Nat} {keys : List Key}
      (hkeys : session.tracker.keysOnLine line = keys) (hseveral : 2 ≤ keys.length) :
    Handling session editor (.toggleLine document line)
      (.lineToggled (.choose keys), session, editor)
  /-- All sketches are hidden. -/
  | cleared : Handling session editor .clear (.done, session.clear editor)
  /-- Everything is forgotten. -/
  | disposed : Handling session editor .dispose (.done, session.dispose editor)

/-- What is said of handling an event determines what it comes to. -/
theorem Handling.handle_eq {session : Session} {editor : Editor} {event : Event}
    {result : Reply × Session × Editor} (h : Handling session editor event result) :
    session.handle editor event = result := by
  cases h with
  | noted hlanguage => rw [handle, changed, if_pos hlanguage]
  | notNoted hlanguage => rw [handle, changed, if_neg hlanguage]
  | idle hdue =>
    simp only [handle, poll, hdue]
    rfl
  | early hdue hearly =>
    simp only [handle, poll, hdue, if_pos hearly]
    rfl
  | polled hdue hnow hrebuild =>
    simp only [handle, poll, hdue, if_neg (Nat.not_lt.2 hnow), hrebuild]
    rfl
  | updated hlanguage hrebuild =>
    simp only [handle, update, if_pos hlanguage, hrebuild]
    rfl
  | notUpdated hlanguage =>
    simp only [handle, update, if_neg hlanguage]
    rfl
  | toggled => rfl
  | nothingOnLine hkeys => simp only [handle, toggleLine, hkeys]
  | lineToggled hkeys => simp only [handle, toggleLine, hkeys]
  | @severalOnLine document line keys hkeys hseveral =>
    match keys, hseveral with
    | first :: second :: rest, _ => simp only [handle, toggleLine, hkeys]
  | cleared => rfl
  | disposed => rfl

/-- Handling an event goes in one of these ways. -/
theorem handling (session : Session) (editor : Editor) (event : Event) :
    Handling session editor event (session.handle editor event) := by
  suffices hway : ∃ result, Handling session editor event result by
    obtain ⟨result, hresult⟩ := hway
    rw [hresult.handle_eq]
    exact hresult
  cases event with
  | changed language now =>
    by_cases hlanguage : language = session.options.language
    · exact ⟨_, .noted hlanguage⟩
    · exact ⟨_, .notNoted hlanguage⟩
  | poll document diagnostics now =>
    cases hdue : session.due with
    | none => exact ⟨_, .idle hdue⟩
    | some due =>
      rcases Nat.lt_or_ge now due with hearly | hnow
      · exact ⟨_, .early hdue hearly⟩
      · obtain ⟨state, hrebuild⟩ :=
          { session with due := none }.exists_rebuild_eq_ok editor document diagnostics
        exact ⟨_, .polled hdue hnow hrebuild⟩
  | update language document diagnostics =>
    by_cases hlanguage : language = session.options.language
    · obtain ⟨state, hrebuild⟩ := session.exists_rebuild_eq_ok editor document diagnostics
      exact ⟨_, .updated hlanguage hrebuild⟩
    · exact ⟨_, .notUpdated hlanguage⟩
  | toggle document key => exact ⟨_, .toggled⟩
  | toggleLine document line =>
    match hkeys : session.tracker.keysOnLine line with
    | [] => exact ⟨_, .nothingOnLine hkeys⟩
    | [key] => exact ⟨_, .lineToggled hkeys⟩
    | first :: second :: rest =>
      have hseveral : 2 ≤ (first :: second :: rest).length := by
        rw [List.length_cons, List.length_cons]
        omega
      exact ⟨_, .severalOnLine hkeys hseveral⟩
  | clear => exact ⟨_, .cleared⟩
  | dispose => exact ⟨_, .disposed⟩

/-- A session and its editor after one more event. -/
theorem run_append_singleton (session : Session) (editor : Editor) (events : List Event)
    (event : Event) :
    session.run editor (events ++ [event]) =
      ((session.run editor events).1.handle (session.run editor events).2 event).2 := by
  rw [run, List.foldl_append]
  rfl

/-! ## Settings -/

/-- What a session is made with. -/
def settings (session : Session) : Handlers × Config × Options :=
  (session.handlers, session.config, session.options)

/-- Rebuilding does not change the settings. -/
theorem settings_rebuild {session : Session} {editor : Editor} {document : LineView}
    {diagnostics : List Diagnostic} {state : Session × Editor}
    (h : session.rebuild editor document diagnostics = .ok state) :
    state.1.settings = session.settings := by
  obtain ⟨tracker, made, -, rfl⟩ := rebuild_eq_ok_iff.1 h
  rfl

/-- No event changes the settings. -/
theorem settings_handle (session : Session) (editor : Editor) (event : Event) :
    (session.handle editor event).2.1.settings = session.settings := by
  have hhandling := session.handling editor event
  generalize session.handle editor event = result at hhandling ⊢
  cases hhandling with
  | polled _ _ hrebuild => exact (settings_rebuild hrebuild).trans rfl
  | updated _ hrebuild => exact settings_rebuild hrebuild
  | _ => rfl

/-- **No events change the settings.** -/
theorem settings_run (session : Session) (editor : Editor) (events : List Event) :
    (session.run editor events).1.settings = session.settings := by
  induction events generalizing session editor with
  | nil => rfl
  | cons event events ih => exact (ih _ _).trans (settings_handle session editor event)

end Session
end BorrowSketch
