import BorrowSketch.Tracker.Operation

/-! # Sessions

A session looks after the sketches and hints of one editor. It is told of changes and asked for
sketches, and is given the time by its caller: a change of the diagnostics takes effect only when
nothing has changed for a while.

* **`Options`** — the delay, and what the session pays attention to.
* **`Session`** — the state of a session.
* **`Session.changed`**, **`Session.poll`**, **`Session.update`** — changes of diagnostics.
* **`Session.toggle`**, **`Session.toggleLine`**, **`Session.clear`**, **`Session.dispose`** —
  requests of the user.
* **`Session.Event`**, **`Session.handle`** — all of these as data, and their effect. -/

namespace BorrowSketch

/-- What a session pays attention to. -/
structure Options where
  /-- The milliseconds between the last change of the diagnostics and its effect. -/
  delay : Nat
  /-- The source of the diagnostics that count. -/
  source : String
  /-- The language of the documents that count. -/
  language : String
deriving DecidableEq

/-- The options in use unless others are chosen. -/
def Options.standard : Options := ⟨200, "rustc", "rust"⟩

/-- The state of the sketches and hints of one editor. -/
structure Session where
  /-- The renderers and hinters. -/
  handlers : Handlers
  /-- The measures and colours. -/
  config : Config
  /-- What counts. -/
  options : Options
  /-- The tracked diagnostics. -/
  tracker : Tracker
  /-- The hints. -/
  board : HintBoard
  /-- When the last change takes effect, if that is still to come. -/
  due : Option Nat

namespace Session

/-- A session that has seen nothing yet. -/
def start (handlers : Handlers) (config : Config) (options : Options) : Session :=
  ⟨handlers, config, options, .empty, .empty, none⟩

/-- What entries are shown with in a document. -/
def scope (session : Session) (document : LineView) : Scope :=
  ⟨session.handlers, ⟨document, session.config⟩⟩

/-- The diagnostics that count. -/
def accepted (session : Session) (diagnostics : List Diagnostic) : List Diagnostic :=
  diagnostics.filter fun d => session.handlers.accepts d session.options.source

/-! ## Changes of diagnostics -/

/-- Note a change of the diagnostics at a time; it takes effect after the delay, in place of a
change noted before. A change in a document of another language does not count. -/
def changed (session : Session) (language : String) (now : Nat) : Bool × Session :=
  if language = session.options.language then
    (true, { session with due := some (now + session.options.delay) })
  else (false, session)

/-- Replace the tracked diagnostics and the hints. -/
def rebuild (session : Session) (editor : Editor) (document : LineView)
    (diagnostics : List Diagnostic) : Except SketchError (Session × Editor) :=
  let candidates := session.accepted diagnostics
  match session.tracker.rebuild editor (session.scope document) candidates with
  | .error error => .error error
  | .ok (tracker, editor) =>
    let (board, editor) := session.board.post editor session.handlers.hinters document candidates
    .ok ({ session with tracker := tracker, board := board }, editor)

/-- Let a noted change take effect if it is due; answers whether it did. -/
def poll (session : Session) (editor : Editor) (document : LineView)
    (diagnostics : List Diagnostic) (now : Nat) : Except SketchError Bool × Session × Editor :=
  match session.due with
  | none => (.ok false, session, editor)
  | some due =>
    if now < due then (.ok false, session, editor)
    else
      let session := { session with due := none }
      match session.rebuild editor document diagnostics with
      | .ok after => (.ok true, after)
      | .error error => (.error error, session, editor)

/-- Let the diagnostics of a document take effect at once; answers whether they count. -/
def update (session : Session) (editor : Editor) (language : String) (document : LineView)
    (diagnostics : List Diagnostic) : Except SketchError Bool × Session × Editor :=
  if language = session.options.language then
    match session.rebuild editor document diagnostics with
    | .ok after => (.ok true, after)
    | .error error => (.error error, session, editor)
  else (.ok false, session, editor)

/-! ## Requests of the user -/

/-- Show or hide the sketch under a key. -/
def toggle (session : Session) (editor : Editor) (document : LineView) (key : Key) :
    Toggle × Session × Editor :=
  let (outcome, tracker, editor) := session.tracker.toggle editor (session.scope document) key
  (outcome, { session with tracker := tracker }, editor)

/-- What came of a request for the sketch on a line. -/
inductive LineToggle where
  /-- There is nothing on the line. -/
  | nothing
  /-- There is one entry on the line, and it was toggled. -/
  | toggled (key : Key) (outcome : Toggle)
  /-- There are several entries to choose from. -/
  | choose (keys : List Key)
deriving DecidableEq

/-- Show or hide the sketch on a line, if there is only one. -/
def toggleLine (session : Session) (editor : Editor) (document : LineView) (line : Nat) :
    LineToggle × Session × Editor :=
  match session.tracker.keysOnLine line with
  | [] => (.nothing, session, editor)
  | [key] =>
    let (outcome, after) := session.toggle editor document key
    (.toggled key outcome, after)
  | keys => (.choose keys, session, editor)

/-- Hide all sketches. -/
def clear (session : Session) (editor : Editor) : Session × Editor :=
  let (tracker, editor) := session.tracker.hideAll editor
  ({ session with tracker := tracker }, editor)

/-- Forget everything and dispose of all layers. -/
def dispose (session : Session) (editor : Editor) : Session × Editor :=
  let (tracker, editor) := session.tracker.dispose editor
  let (board, editor) := session.board.dispose editor
  ({ session with tracker := tracker, board := board, due := none }, editor)

/-! ## Events as data -/

/-- Something that happens to a session. -/
inductive Event where
  | changed (language : String) (now : Nat)
  | poll (document : LineView) (diagnostics : List Diagnostic) (now : Nat)
  | update (language : String) (document : LineView) (diagnostics : List Diagnostic)
  | toggle (document : LineView) (key : Key)
  | toggleLine (document : LineView) (line : Nat)
  | clear
  | dispose

/-- What a session answers to an event. -/
inductive Reply where
  /-- No answer. -/
  | done
  /-- Whether a change counts, or took effect. -/
  | decided (answer : Bool)
  /-- The event was refused. -/
  | refused (error : SketchError)
  /-- What came of toggling an entry. -/
  | toggled (outcome : Toggle)
  /-- What came of toggling a line. -/
  | lineToggled (outcome : LineToggle)
deriving DecidableEq

/-- The answer to a change of diagnostics. -/
def Reply.ofChange : Except SketchError Bool → Reply
  | .ok answer => .decided answer
  | .error error => .refused error

/-- The effect of an event on a session and its editor. -/
def handle (session : Session) (editor : Editor) : Event → Reply × Session × Editor
  | .changed language now =>
    let (answer, session) := session.changed language now
    (.decided answer, session, editor)
  | .poll document diagnostics now =>
    let (answer, after) := session.poll editor document diagnostics now
    (.ofChange answer, after)
  | .update language document diagnostics =>
    let (answer, after) := session.update editor language document diagnostics
    (.ofChange answer, after)
  | .toggle document key =>
    let (outcome, after) := session.toggle editor document key
    (.toggled outcome, after)
  | .toggleLine document line =>
    let (outcome, after) := session.toggleLine editor document line
    (.lineToggled outcome, after)
  | .clear => (.done, session.clear editor)
  | .dispose => (.done, session.dispose editor)

/-- A session and its editor after several events. -/
def run (session : Session) (editor : Editor) (events : List Event) : Session × Editor :=
  events.foldl (fun state event => (state.1.handle state.2 event).2) (session, editor)

end Session
end BorrowSketch
