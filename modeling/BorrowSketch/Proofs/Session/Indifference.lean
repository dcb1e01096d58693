import BorrowSketch.Proofs.Session.Handling
import BorrowSketch.Proofs.Tracker.Refusal

/-! # What a session pays no attention to

Diagnostics of other tools, diagnostics that are no errors and such without a supported code do not
reach what a session tracks, and neither do changes in documents of another language. Two courses of
events that differ only by these come to the same.

* **`AlikeBut`** — two lists that differ only by ignored elements.
* **`Handlers.Ignores`** — the diagnostics that are not kept track of.
* **`Session.Event.isForeign`**, **`Session.Event.Alike`** — the events that do not count, and those
  that differ only by ignored diagnostics.
* **`Session.handle_eq_of_alike`**, **`Session.handle_of_isForeign`** — what one event comes to.
* **`Session.course`** — what comes of each event that counts.
* **`Session.course_of_alike`** — all courses of events. -/

namespace BorrowSketch

/-! ## Lists that differ by ignored elements -/

/-- **Two lists that differ only by ignored elements.** These may stand anywhere in either list; the
others are alike one by one. -/
inductive AlikeBut {α : Type} (ignored : α → Prop) (alike : α → α → Prop) :
    List α → List α → Prop where
  /-- Both lists are empty. -/
  | nil : AlikeBut ignored alike [] []
  /-- Both lists begin alike. -/
  | kept {a b : α} {list other : List α} (h : alike a b)
      (hrest : AlikeBut ignored alike list other) : AlikeBut ignored alike (a :: list) (b :: other)
  /-- The first list begins with an ignored element. -/
  | left {a : α} {list other : List α} (h : ignored a)
      (hrest : AlikeBut ignored alike list other) : AlikeBut ignored alike (a :: list) other
  /-- The second list begins with an ignored element. -/
  | right {b : α} {list other : List α} (h : ignored b)
      (hrest : AlikeBut ignored alike list other) : AlikeBut ignored alike list (b :: other)

/-- Leaving out what is ignored, among other things, makes the lists equal. -/
theorem AlikeBut.filter_eq {α : Type} {ignored : α → Prop} {accepts : α → Bool}
    {list other : List α} (hignored : ∀ a, ignored a → accepts a = false)
    (h : AlikeBut ignored Eq list other) : list.filter accepts = other.filter accepts := by
  have hrejected : ∀ a, ignored a → ¬ accepts a = true := fun a ha =>
    Bool.eq_false_iff.1 (hignored a ha)
  induction h with
  | nil => rfl
  | kept hsame _ ih => rw [hsame, List.filter_cons, List.filter_cons, ih]
  | left hleft _ ih => rw [List.filter_cons_of_neg (hrejected _ hleft), ih]
  | right hright _ ih => rw [List.filter_cons_of_neg (hrejected _ hright), ih]

/-! ## Ignored diagnostics -/

/-- **A diagnostic that is not kept track of:** it has another source or none, it is not an error,
or its code is not a documented name with a handler. -/
inductive Handlers.Ignores (handlers : Handlers) (source : String) (d : Diagnostic) : Prop where
  /-- It has another source, or none. -/
  | source (h : d.source ≠ some source)
  /-- It is not an error. -/
  | severity (h : d.severity ≠ some .error)
  /-- It has no code. -/
  | uncoded (h : d.code = none)
  /-- Its code is not documented. -/
  | bare {value : CodeValue} (h : d.code = some (.bare value))
  /-- Its code is a number. -/
  | number {value : Int} {target : Option String}
      (h : d.code = some (.documented (.number value) target))
  /-- Its code is something else. -/
  | unrecognized {raw : String} (h : d.code = some (.unrecognized raw))
  /-- Its code has no handler. -/
  | unsupported {name : String} {target : Option String}
      (h : d.code = some (.documented (.name name) target))
      (hrenderers : handlers.renderers.contains name = false)
      (hhinters : handlers.hinters.contains name = false)

/-- **What is not accepted is ignored,** for one of the reasons there are. -/
theorem Handlers.ignores_iff {handlers : Handlers} {source : String} {d : Diagnostic} :
    handlers.Ignores source d ↔ handlers.accepts d source = false := by
  constructor
  · intro h
    unfold accepts Diagnostic.codeName?
    cases h with
    | source h => rw [decide_eq_false h, Bool.false_and, Bool.false_and]
    | severity h => rw [decide_eq_false h, Bool.and_false, Bool.false_and]
    | uncoded h => rw [h]; exact Bool.and_false _
    | bare h => rw [h]; exact Bool.and_false _
    | number h => rw [h]; exact Bool.and_false _
    | unrecognized h => rw [h]; exact Bool.and_false _
    | @unsupported name target h hrenderers hhinters =>
      have hsupports : handlers.supports name = false := by
        rw [supports, hrenderers, hhinters, Bool.or_false]
      rw [h]
      exact (congrArg _ hsupports).trans (Bool.and_false _)
  · intro h
    by_cases hsource : d.source = some source
    · by_cases hseverity : d.severity = some .error
      · have hcode : d.codeName?.any handlers.supports = false := by
          rwa [accepts, decide_eq_true hsource, decide_eq_true hseverity, Bool.true_and,
            Bool.true_and] at h
        unfold Diagnostic.codeName? at hcode
        cases hd : d.code with
        | none => exact .uncoded hd
        | some code =>
          cases code with
          | bare value => exact .bare hd
          | unrecognized raw => exact .unrecognized hd
          | documented value target =>
            cases value with
            | number value => exact .number hd
            | name name =>
              have hsupports : handlers.supports name = false := by
                rw [hd] at hcode
                exact hcode
              rw [supports, Bool.or_eq_false_iff] at hsupports
              exact .unsupported hd hsupports.1 hsupports.2
      · exact .severity hseverity
    · exact .source hsource

namespace Session

/-! ## Events that do not count, and such that are alike -/

/-- Whether an event is a change in a document of another language. -/
def Event.isForeign (options : Options) : Event → Bool
  | .changed language _ => language ≠ options.language
  | .update language _ _ => language ≠ options.language
  | _ => false

/-- Two lists of diagnostics that differ only by those a session ignores. -/
def SameAccepted (handlers : Handlers) (options : Options) :
    List Diagnostic → List Diagnostic → Prop :=
  AlikeBut (handlers.Ignores options.source) Eq

/-- **Two events that differ only by ignored diagnostics.** -/
inductive Event.Alike (handlers : Handlers) (options : Options) : Event → Event → Prop where
  /-- The same event. -/
  | same (event : Event) : Alike handlers options event event
  /-- Changes that may be due, at the same time. -/
  | poll {document : LineView} {diagnostics others : List Diagnostic} {now : Nat}
      (h : SameAccepted handlers options diagnostics others) :
      Alike handlers options (.poll document diagnostics now) (.poll document others now)
  /-- Changes that take effect at once, in the same language. -/
  | update {language : String} {document : LineView} {diagnostics others : List Diagnostic}
      (h : SameAccepted handlers options diagnostics others) :
      Alike handlers options (.update language document diagnostics)
        (.update language document others)

/-- Of two events that are alike, either both count or none does. -/
theorem Event.Alike.isForeign_eq {handlers : Handlers} {options : Options} {event other : Event}
    (h : Alike handlers options event other) :
    event.isForeign options = other.isForeign options := by
  cases h <;> rfl

variable {session : Session} {editor : Editor} {document : LineView}

/-- What a session accepts does not depend on what it ignores. -/
theorem accepted_eq {diagnostics others : List Diagnostic}
    (h : SameAccepted session.handlers session.options diagnostics others) :
    session.accepted diagnostics = session.accepted others :=
  h.filter_eq fun _ => Handlers.ignores_iff.1

/-- Replacing the diagnostics depends on what is accepted only. -/
theorem rebuild_congr {diagnostics others : List Diagnostic}
    (h : session.accepted diagnostics = session.accepted others) :
    session.rebuild editor document diagnostics = session.rebuild editor document others := by
  rw [rebuild, rebuild, h]

/-- **Events that are alike come to the same,** in the answer, the session and the editor. -/
theorem handle_eq_of_alike {event other : Event}
    (h : event.Alike session.handlers session.options other) :
    session.handle editor event = session.handle editor other := by
  cases h with
  | same => rfl
  | @poll document diagnostics others now hsame =>
    have hrebuild : { session with due := none }.rebuild editor document diagnostics =
        { session with due := none }.rebuild editor document others :=
      rebuild_congr (accepted_eq hsame)
    rw [handle, handle, poll, poll]
    simp only [hrebuild]
  | @update language document diagnostics others hsame =>
    rw [handle, handle, update, update, rebuild_congr (accepted_eq hsame)]

/-- **A change in another language** is answered and changes nothing. -/
theorem handle_of_isForeign {event : Event} (h : event.isForeign session.options = true) :
    session.handle editor event = (.decided false, session, editor) := by
  cases event with
  | changed language now =>
    exact (Handling.notNoted (of_decide_eq_true h)).handle_eq
  | update language document diagnostics =>
    exact (Handling.notUpdated (of_decide_eq_true h)).handle_eq
  | _ => cases h

/-- **No event is refused.** -/
theorem handle_ne_refused (session : Session) (editor : Editor) (event : Event)
    (error : SketchError) : (session.handle editor event).1 ≠ .refused error := by
  have hhandling := session.handling editor event
  generalize session.handle editor event = result at hhandling ⊢
  cases hhandling <;> exact Reply.noConfusion

/-! ## Courses of events -/

/-- What comes of each event that counts: the answer, and the session and its editor afterwards.
Events that do not count happen as well. -/
def course (session : Session) (editor : Editor) :
    List Event → List (Reply × Session × Editor)
  | [] => []
  | event :: events =>
    let result := session.handle editor event
    if event.isForeign session.options then result.2.1.course result.2.2 events
    else result :: result.2.1.course result.2.2 events

/-- An event that does not count leaves no trace. -/
theorem course_cons_of_isForeign {event : Event} (h : event.isForeign session.options = true)
    (events : List Event) :
    session.course editor (event :: events) = session.course editor events := by
  rw [course, if_pos h, handle_of_isForeign h]

/-- An event that does not count does not matter to what comes after it. -/
theorem run_cons_of_isForeign {event : Event} (h : event.isForeign session.options = true)
    (events : List Event) :
    session.run editor (event :: events) = session.run editor events := by
  rw [run, List.foldl_cons, handle_of_isForeign h]
  rfl

/-- Two courses of events that are alike come to the same, for any session with the handlers and
options. -/
theorem course_eq_and_run_eq {handlers : Handlers} {options : Options} {events others : List Event}
    (h : AlikeBut (fun event => event.isForeign options = true) (Event.Alike handlers options)
      events others) (session : Session) (editor : Editor)
    (hhandlers : session.handlers = handlers) (hoptions : session.options = options) :
    session.course editor events = session.course editor others ∧
      session.run editor events = session.run editor others := by
  induction h generalizing session editor with
  | nil => exact ⟨rfl, rfl⟩
  | @kept event other events others halike _ ih =>
    subst hhandlers hoptions
    -- the event does not change what counts, so the rest is alike for the session after it
    have hsettings := settings_handle session editor other
    obtain ⟨hcourse, hrun⟩ := ih (session.handle editor other).2.1
      (session.handle editor other).2.2 (congrArg Prod.fst hsettings)
      (congrArg (·.2.2) hsettings)
    constructor
    · rw [course, course, handle_eq_of_alike halike, halike.isForeign_eq]
      simp only [hcourse]
    · rw [run, run, List.foldl_cons, List.foldl_cons, handle_eq_of_alike halike]
      exact hrun
  | left hforeign _ ih =>
    subst hhandlers hoptions
    rw [course_cons_of_isForeign hforeign, run_cons_of_isForeign hforeign]
    exact ih session editor rfl rfl
  | right hforeign _ ih =>
    subst hhandlers hoptions
    rw [course_cons_of_isForeign hforeign, run_cons_of_isForeign hforeign]
    exact ih session editor rfl rfl

/-- **What does not count is invisible, and nothing is refused.** Take any session and two courses
of events that differ only by changes in documents of another language and by diagnostics that are
ignored, anywhere in the lists. Then each event that counts has the same answer in both and leaves
the same session and editor behind, and so do all of them together. An event that does not count is
answered alike at all times and changes nothing. No event is ever refused, although a tracker
refuses all diagnostics of a list if one has a code of another shape. -/
theorem course_of_alike (session : Session) (editor : Editor) (events others : List Event)
    (h : AlikeBut (fun event => event.isForeign session.options = true)
      (Event.Alike session.handlers session.options) events others) :
    session.course editor events = session.course editor others ∧
    session.run editor events = session.run editor others ∧
    (∀ (event : Event) (session : Session) (editor : Editor),
      event.isForeign session.options = true →
        session.handle editor event = (.decided false, session, editor)) ∧
    (∀ (session : Session) (editor : Editor) (event : Event) (error : SketchError),
      (session.handle editor event).1 ≠ .refused error) ∧
    ∀ (tracker : Tracker) (editor : Editor) (scope : Scope) (diagnostics : List Diagnostic)
      (d : Diagnostic), IsFirst (fun d => d.codeName? = none) diagnostics d →
        tracker.rebuild editor scope diagnostics = .error (.unexpectedCode d.codeText) := by
  obtain ⟨hcourse, hrun⟩ := course_eq_and_run_eq h session editor rfl rfl
  refine ⟨hcourse, hrun, ?_, handle_ne_refused, ?_⟩
  · intro event session editor hforeign
    exact handle_of_isForeign hforeign
  · intro tracker editor scope diagnostics d hfirst
    exact Tracker.rebuild_of_isFirst hfirst

/-- A warning with the code and the place of an error, and a change in another language, leave no
trace; the error is tracked. -/
theorem course_of_alike_warning :
    let session : Session := .start .standard .standard .standard
    let document : LineView := .ofLines [some "let t = s;", some "print(s);"]
    let error : Diagnostic := ⟨⟨⟨1, 6⟩, ⟨1, 7⟩⟩, some .error,
      some (.documented (.name "E0382") none), some "rustc", "borrow of moved value: `s`", []⟩
    let warning : Diagnostic := { error with severity := some .warning }
    let events : List Event :=
      [.changed "python" 5, .update "rust" document [error, warning]]
    let others : List Event := [.update "rust" document [error]]
    AlikeBut (fun event => event.isForeign session.options = true)
      (Event.Alike session.handlers session.options) events others ∧
    (session.course .empty others).map Prod.fst = [.decided true] ∧
    session.course .empty events = session.course .empty others ∧
    session.run .empty events = session.run .empty others := by
  intro session document error warning events others
  have haccepted : SameAccepted session.handlers session.options [error, warning] [error] :=
    .kept rfl (.left (.severity (by decide)) .nil)
  have halike : AlikeBut (fun event => event.isForeign session.options = true)
      (Event.Alike session.handlers session.options) events others :=
    .left (by decide) (.kept (.update haccepted) .nil)
  obtain ⟨hcourse, hrun, -⟩ := course_of_alike session .empty events others halike
  exact ⟨halike, rfl, hcourse, hrun⟩

end Session
end BorrowSketch
