import BorrowSketch.Proofs.History
import BorrowSketch.Proofs.Session.Handling

/-! # When changes take effect

A session keeps one time, that at which the last change takes effect. Several events set it or take
it away; that it is right is a matter of everything that happened before.

* **`Session.Event.changeTime?`**, **`Session.Event.Settles`** — the events that note a change, and
  those after which there is none to wait for.
* **`Session.Noted`** — the time of the last change, as long as it is still to take effect.
* **`Session.due_handle_iff`**, **`Session.due_run_iff`** — the time that a session keeps, after one
  event and after any.
* **`Session.effects`** — how often a poll let a change take effect.
* **`Session.poll_of_run`** — what a poll comes to after any events. -/

namespace BorrowSketch
namespace Session

variable {session : Session} {editor : Editor} {event : Event}

/-! ## Changes and what settles them -/

/-- The time of a change that counts. -/
def Event.changeTime? (options : Options) : Event → Option Nat
  | .changed language now => if language = options.language then some now else none
  | _ => none

/-- There is no change to wait for after a poll that let one take effect, and after everything was
disposed of. -/
def Event.Settles (state : Session × Editor) : Event → Prop
  | .poll document diagnostics now => (state.1.poll state.2 document diagnostics now).1 = .ok true
  | .dispose => True
  | _ => False

/-- **A change is still to take effect.** It was noted at the time, and since then no other change
was noted and nothing settled it. -/
def Noted (session : Session) (editor : Editor) (events : List Event) (time : Nat) : Prop :=
  Since (fun event => event.changeTime? session.options = some time)
    (fun before event => event.changeTime? session.options = none ∧
      ¬ event.Settles (session.run editor before)) events

/-! ## What a poll comes to -/

section Poll

variable {document : LineView} {diagnostics : List Diagnostic} {now : Nat}

/-- A poll before the time that the session keeps, or without one, changes nothing. -/
theorem poll_eq_of_not_due (h : ¬ ∃ due, session.due = some due ∧ due ≤ now) :
    session.poll editor document diagnostics now = (.ok false, session, editor) := by
  cases hdue : session.due with
  | none => simp only [poll, hdue]
  | some due =>
    have hearly : now < due := Nat.lt_of_not_le fun hnow => h ⟨due, hdue, hnow⟩
    simp only [poll, hdue, if_pos hearly]

/-- A poll once the time has come replaces the diagnostics, and there is no change to wait for any
more. -/
theorem exists_poll_eq_of_due {due : Nat} (hdue : session.due = some due) (hnow : due ≤ now) :
    ∃ state, { session with due := none }.rebuild editor document diagnostics = .ok state ∧
      session.poll editor document diagnostics now = (.ok true, state) := by
  obtain ⟨state, hrebuild⟩ :=
    { session with due := none }.exists_rebuild_eq_ok editor document diagnostics
  refine ⟨state, hrebuild, ?_⟩
  simp only [poll, hdue, if_neg (Nat.not_lt.2 hnow), hrebuild]

/-- **A poll lets a change take effect** exactly if the time that the session keeps has come. -/
theorem poll_eq_ok_true_iff :
    (session.poll editor document diagnostics now).1 = .ok true ↔
      ∃ due, session.due = some due ∧ due ≤ now := by
  constructor
  · intro htrue
    by_contra hnot
    rw [poll_eq_of_not_due hnot] at htrue
    cases htrue
  · rintro ⟨due, hdue, hnow⟩
    obtain ⟨state, -, hpoll⟩ := exists_poll_eq_of_due hdue hnow
    rw [hpoll]

end Poll

/-! ## The time that a session keeps -/

/-- Replacing the diagnostics does not touch the time. -/
theorem due_rebuild {document : LineView} {diagnostics : List Diagnostic}
    {state : Session × Editor} (h : session.rebuild editor document diagnostics = .ok state) :
    state.1.due = session.due := by
  obtain ⟨tracker, made, -, rfl⟩ := rebuild_eq_ok_iff.1 h
  rfl

/-- **The time after one event.** It is that of a change, or the time from before if the event
neither notes a change nor settles one. -/
theorem due_handle_iff {due : Nat} :
    (session.handle editor event).2.1.due = some due ↔
      (∃ time, event.changeTime? session.options = some time ∧
        due = time + session.options.delay) ∨
      (event.changeTime? session.options = none ∧ ¬ event.Settles (session, editor)) ∧
        session.due = some due := by
  have hhandling := session.handling editor event
  generalize session.handle editor event = result at hhandling ⊢
  cases hhandling with
  | noted hlanguage => simp [Event.changeTime?, hlanguage, eq_comm]
  | notNoted hlanguage => simp [Event.changeTime?, hlanguage, Event.Settles]
  | idle hdue => simp [Event.changeTime?, hdue]
  | early hdue hearly => simp [Event.changeTime?, Event.Settles, poll_eq_ok_true_iff, hdue, hearly]
  | polled hdue hnow hrebuild =>
    simp [Event.changeTime?, Event.Settles, poll_eq_ok_true_iff, hdue, hnow, due_rebuild hrebuild]
  | updated _ hrebuild => simp [Event.changeTime?, Event.Settles, due_rebuild hrebuild]
  | disposed => simp [Event.changeTime?, Event.Settles, dispose]
  | _ => simp [Event.changeTime?, Event.Settles, toggle, clear]

/-- An event that neither notes a change nor settles one leaves the time as it is. -/
theorem due_handle_eq (event : Event) (htime : event.changeTime? session.options = none)
    (hsettles : ¬ event.Settles (session, editor)) :
    (session.handle editor event).2.1.due = session.due := by
  refine Option.ext fun due => ?_
  rw [due_handle_iff, htime]
  simp [hsettles]

/-- **The time after any events,** for a session that starts without one. It is that of the change
that is still to take effect, with the delay. -/
theorem due_run_iff (hstart : session.due = none) (editor : Editor) {events : List Event}
    {due : Nat} : (session.run editor events).1.due = some due ↔
      ∃ time, session.Noted editor events time ∧ due = time + session.options.delay := by
  -- the last event decides, so the induction takes events off the end
  induction events using List.reverseRecOn with
  | nil =>
    have hnone : ∀ time, ¬ session.Noted editor [] time := fun _ => Since.not_nil
    simp [hnone, run, hstart]
  | append_singleton events event ih =>
    have hoptions : (session.run editor events).1.options = session.options :=
      congrArg (·.2.2) (settings_run session editor events)
    rw [run_append_singleton, due_handle_iff, ih, hoptions]
    simp only [Noted, Since.concat_iff]
    constructor
    · rintro (⟨time, htime, hdue⟩ | ⟨hkeeps, time, hnoted, hdue⟩)
      · exact ⟨time, .inl htime, hdue⟩
      · exact ⟨time, .inr ⟨hnoted, hkeeps⟩, hdue⟩
    · rintro ⟨time, htime | ⟨hnoted, hkeeps⟩, hdue⟩
      · exact .inl ⟨time, htime, hdue⟩
      · exact .inr ⟨hkeeps, time, hnoted, hdue⟩

/-! ## How often changes take effect -/

/-- A poll let a change take effect, as its reply tells. -/
def Event.tookEffect : Event → Reply → Bool
  | .poll _ _ _, .decided true => true
  | _, _ => false

/-- How often a poll let a change take effect in the course of several events. -/
def effects (session : Session) (editor : Editor) : List Event → Nat
  | [] => 0
  | event :: events =>
    let (reply, after, made) := session.handle editor event
    (event.tookEffect reply).toNat + after.effects made events

/-- **One event.** A poll that lets a change take effect uses up the one that was waited for, and
only a change that counts is a new one to wait for. -/
theorem tookEffect_add_due_le (session : Session) (editor : Editor) (event : Event) :
    (event.tookEffect (session.handle editor event).1).toNat +
        (session.handle editor event).2.1.due.isSome.toNat ≤
      session.due.isSome.toNat + (event.changeTime? session.options).isSome.toNat := by
  have hhandling := session.handling editor event
  generalize session.handle editor event = result at hhandling ⊢
  cases hhandling with
  | noted hlanguage => simp [Event.tookEffect, Event.changeTime?, hlanguage]
  | polled hdue _ hrebuild => simp [Event.tookEffect, hdue, due_rebuild hrebuild]
  | updated _ hrebuild => simp [Event.tookEffect, due_rebuild hrebuild]
  | disposed => simp [Event.tookEffect, dispose]
  | _ => simp [Event.tookEffect, toggle, clear]

/-- **Any events.** No more changes take effect in polls than there were to wait for at first and
came to count since. -/
theorem effects_le (session : Session) (editor : Editor) (events : List Event) :
    session.effects editor events ≤ session.due.isSome.toNat +
      events.countP fun event => (event.changeTime? session.options).isSome := by
  induction events generalizing session editor with
  | nil => exact Nat.zero_le _
  | cons event events ih =>
    have hoptions : (session.handle editor event).2.1.options = session.options :=
      congrArg (·.2.2) (settings_handle session editor event)
    have hrest := ih (session.handle editor event).2.1 (session.handle editor event).2.2
    rw [hoptions] at hrest
    have hstep := tookEffect_add_due_le session editor event
    have hcount : (event.changeTime? session.options).isSome.toNat =
        if (event.changeTime? session.options).isSome then 1 else 0 :=
      Bool.cond_eq_ite _ _ _
    rw [List.countP_cons, ← hcount]
    change (event.tookEffect (session.handle editor event).1).toNat +
      (session.handle editor event).2.1.effects (session.handle editor event).2.2 events ≤ _
    omega

/-- **What a poll comes to after any events,** whatever their times. The session keeps the time of
the last change that counts, with the delay, if since that change no poll let one take effect and
not everything was disposed of; otherwise it keeps none. A poll lets a change take effect exactly if
that time has come. Then it replaces the diagnostics, and there is no change to wait for any more;
otherwise it answers that there was none and changes nothing. Replacing the diagnostics at once,
toggling, hiding all sketches and changes in another language do not touch the time. So polls let
changes take effect at most as often as changes that count were noted. -/
theorem poll_of_run (handlers : Handlers) (config : Config) (options : Options) (editor : Editor)
    (events : List Event) :
    let first := start handlers config options
    let session := (first.run editor events).1
    let made := (first.run editor events).2
    (∀ due, session.due = some due ↔
      ∃ time, first.Noted editor events time ∧ due = time + options.delay) ∧
    (∀ document diagnostics now,
      ((session.poll made document diagnostics now).1 = .ok true ↔
        ∃ time, first.Noted editor events time ∧ time + options.delay ≤ now) ∧
      ((session.poll made document diagnostics now).1 = .ok true →
        { session with due := none }.rebuild made document diagnostics =
          .ok (session.poll made document diagnostics now).2) ∧
      ((session.poll made document diagnostics now).1 ≠ .ok true →
        session.poll made document diagnostics now = (.ok false, session, made))) ∧
    ((∀ language document diagnostics,
        (session.update made language document diagnostics).2.1.due = session.due) ∧
      (∀ document key, (session.toggle made document key).2.1.due = session.due) ∧
      (∀ document line, (session.toggleLine made document line).2.1.due = session.due) ∧
      (session.clear made).1.due = session.due ∧
      ∀ language now, language ≠ options.language →
        session.changed language now = (false, session)) ∧
    first.effects editor events ≤
      events.countP fun event => (event.changeTime? options).isSome := by
  intro first session made
  have hoptions : session.options = options :=
    congrArg (·.2.2) (settings_run first editor events)
  have hdue : ∀ due, session.due = some due ↔
      ∃ time, first.Noted editor events time ∧ due = time + options.delay :=
    fun due => due_run_iff rfl editor
  refine ⟨hdue, fun document diagnostics now => ⟨?_, fun hpoll => ?_, fun hpoll => ?_⟩,
    ⟨fun language document diagnostics => ?_, fun document key => rfl,
      fun document line => ?_, rfl, fun language now hlanguage => ?_⟩, ?_⟩
  · rw [poll_eq_ok_true_iff]
    constructor
    · rintro ⟨due, hkept, hnow⟩
      obtain ⟨time, hnoted, rfl⟩ := (hdue due).1 hkept
      exact ⟨time, hnoted, hnow⟩
    · rintro ⟨time, hnoted, hnow⟩
      exact ⟨_, (hdue _).2 ⟨time, hnoted, rfl⟩, hnow⟩
  · obtain ⟨due, hkept, hnow⟩ := poll_eq_ok_true_iff.1 hpoll
    obtain ⟨state, hrebuild, htrue⟩ := exists_poll_eq_of_due hkept hnow
    rw [hrebuild, htrue]
  · exact poll_eq_of_not_due (mt poll_eq_ok_true_iff.2 hpoll)
  · exact due_handle_eq (.update language document diagnostics) rfl id
  · exact due_handle_eq (.toggleLine document line) rfl id
  · rw [changed, hoptions, if_neg hlanguage]
  · have hle := effects_le first editor events
    rwa [show first.due.isSome.toNat = 0 from rfl, Nat.zero_add] at hle

end Session
end BorrowSketch
