import BorrowSketch.Proofs.History
import BorrowSketch.Proofs.Session.Custody
import BorrowSketch.Proofs.Session.Publication
import BorrowSketch.Proofs.Tracker.Requests
import BorrowSketch.Proofs.Tracker.Toggling

/-! # Where hints come from

The hints of a session, the entries that it tracks and the decorations in the editor are replaced
one after the other, each in its own place. They always are of the same diagnostics and the same
document: those that the session took in last, unless it was disposed of since.

* **`Hint.Given`** — the hints for one diagnostic.
* **`Session.log`**, **`Session.InEffect`** — the answers to events, and what was taken in last.
* **`Session.Took`** — the hints and the entries are of certain diagnostics in a document.
* **`Session.Turn`**, **`Session.took_run`** — what one event does to them, and any events.
* **`Session.KeepsLayer`** — the layer of the hints stays, and is created only once.
* **`Session.hints_of_run`** — the hints after any events. -/

namespace BorrowSketch

/-! ## The hints for diagnostics -/

/-- **The hints for one diagnostic** are those that the hinter for its code gives. There are none if
there is no such hinter, or if it gives nothing. -/
inductive Hint.Given (hinters : KeyMap String Hinter) (document : LineView) (d : Diagnostic) :
    List Hint → Prop where
  /-- The hinter gives them. -/
  | given {code : String} {hinter : Hinter} {hints : List Hint} (hcode : d.codeName? = some code)
      (hhinter : hinters.get? code = some hinter) (hgiven : hinter document d = .success hints) :
    Given hinters document d hints
  /-- The hinter gives nothing. -/
  | nothing {code : String} {hinter : Hinter} (hcode : d.codeName? = some code)
      (hhinter : hinters.get? code = some hinter)
      (hnothing : ∀ hints, hinter document d ≠ .success hints) : Given hinters document d []
  /-- There is no hinter. -/
  | unhinted (h : ∀ code, d.codeName? = some code → hinters.get? code = none) :
    Given hinters document d []

/-- A board shows for each diagnostic what is given for it. -/
theorem HintBoard.given_hintsFor (hinters : KeyMap String Hinter) (document : LineView)
    (d : Diagnostic) : Hint.Given hinters document d (hintsFor hinters document d) := by
  unfold hintsFor
  cases hfound : d.codeName?.bind hinters.get? with
  | none =>
    apply Hint.Given.unhinted
    intro code hcode
    rwa [hcode, Option.bind_some] at hfound
  | some hinter =>
    obtain ⟨code, hcode, hhinter⟩ := Option.bind_eq_some_iff.1 hfound
    dsimp only
    cases hgiven : hinter document d with
    | success hints => exact .given hcode hhinter hgiven
    | inapplicable context =>
      apply Hint.Given.nothing hcode hhinter
      intro hints hsuccess
      rw [hgiven] at hsuccess
      cases hsuccess
    | failed context =>
      apply Hint.Given.nothing hcode hhinter
      intro hints hsuccess
      rw [hgiven] at hsuccess
      cases hsuccess

/-- The hints for several diagnostics are those for each of them, in the same order. -/
theorem HintBoard.exists_parts (hinters : KeyMap String Hinter) (document : LineView)
    (diagnostics : List Diagnostic) :
    ∃ parts, List.Forall₂ (Hint.Given hinters document) diagnostics parts ∧
      diagnostics.flatMap (hintsFor hinters document) = parts.flatten := by
  refine ⟨diagnostics.map (hintsFor hinters document), ?_, List.flatMap_def⟩
  rw [List.forall₂_map_right_iff, List.forall₂_same]
  intro d _
  exact given_hintsFor hinters document d

/-- What an entry is about: its diagnostic, and whether it gets hints. -/
def Entry.subject (entry : Entry) : Diagnostic × Bool :=
  (entry.diagnostic, entry.hinted)

namespace Tracker

variable {tracker : Tracker} {editor : Editor} {scope : Scope}

/-- What the entry under a key is about. -/
def subject? (tracker : Tracker) (key : Key) : Option (Diagnostic × Bool) :=
  (tracker.get? key).map Entry.subject

/-- Toggling one entry leaves all of them about the same. -/
theorem subject?_toggle (h : tracker.Exclusive) (editor : Editor) (scope : Scope)
    (toggled key : Key) :
    (tracker.toggle editor scope toggled).2.1.subject? key = tracker.subject? key := by
  rw [subject?, subject?]
  cases hget : tracker.get? key with
  | none =>
    have hkeys := tracker.keys_toggle editor scope toggled
    have hnone : (tracker.toggle editor scope toggled).2.1.get? key = none := by
      rw [get?, KeyMap.get?_eq_none_iff, hkeys, ← KeyMap.get?_eq_none_iff]
      exact hget
    rw [hnone]
  | some entry =>
    obtain ⟨later, hlater, hdiagnostic, hhinted, -⟩ :=
      exists_get?_toggle h editor scope toggled hget
    rw [hlater, Option.map_some, Option.map_some, Entry.subject, Entry.subject, hdiagnostic,
      hhinted]

/-- Hiding all entries leaves them about the same. -/
theorem subject?_hideAll (tracker : Tracker) (editor : Editor) (key : Key) :
    (tracker.hideAll editor).1.subject? key = tracker.subject? key := by
  show ((tracker.hideEntries editor).1.get? key).map Entry.subject = _
  rw [get?_hideEntries, Option.map_map]
  rfl

end Tracker

namespace Session

variable {session : Session} {editor : Editor} {event : Event} {events : List Event}
  {document : LineView} {diagnostics : List Diagnostic}

/-! ## What is taken in -/

/-- The document and the diagnostics that a session took in, if its answer to the event tells so. -/
def Event.taken? : Event → Reply → Option (LineView × List Diagnostic)
  | .poll document diagnostics _, .decided true => some (document, diagnostics)
  | .update _ document diagnostics, .decided true => some (document, diagnostics)
  | _, _ => none

/-- Several events, each with its answer. -/
def log (session : Session) (editor : Editor) : List Event → List (Event × Reply)
  | [] => []
  | event :: events =>
    let (reply, session, editor) := session.handle editor event
    (event, reply) :: session.log editor events

/-- **What was taken in last** is in effect, unless the session was disposed of since. -/
def InEffect (session : Session) (editor : Editor) (events : List Event) (document : LineView)
    (diagnostics : List Diagnostic) : Prop :=
  Since (fun step => step.1.taken? step.2 = some (document, diagnostics))
    (fun _ step => step.1.taken? step.2 = none ∧ step.1 ≠ .dispose) (session.log editor events)

/-- One more event is answered by the session as it is then. -/
theorem log_append_singleton (session : Session) (editor : Editor) (events : List Event)
    (event : Event) :
    session.log editor (events ++ [event]) = session.log editor events ++
      [(event, ((session.run editor events).1.handle (session.run editor events).2 event).1)] := by
  induction events generalizing session editor with
  | nil => rfl
  | cons first events ih =>
    rw [List.cons_append, log, log, List.cons_append]
    exact congrArg _ (ih _ _)

/-- One more event is what is in effect, or leaves in effect what was. -/
theorem inEffect_append_singleton_iff :
    session.InEffect editor (events ++ [event]) document diagnostics ↔
      event.taken? ((session.run editor events).1.handle (session.run editor events).2 event).1 =
        some (document, diagnostics) ∨
      session.InEffect editor events document diagnostics ∧
        event.taken? ((session.run editor events).1.handle (session.run editor events).2 event).1 =
          none ∧ event ≠ .dispose := by
  rw [InEffect, log_append_singleton, Since.concat_iff]
  rfl

/-- **What a session took in** is what its hints and its entries are of: the diagnostics that count,
in the document. -/
structure Took (session : Session) (document : LineView) (diagnostics : List Diagnostic) :
    Prop where
  /-- The hints are those for the diagnostics. -/
  hints : session.board.hints = (session.accepted diagnostics).flatMap
    (HintBoard.hintsFor session.handlers.hinters document)
  /-- There is a layer for the hints. -/
  layer : ∃ id, session.board.layer = some id
  /-- Under each key stands the last of the diagnostics, with hints if there is a hinter. -/
  subject : ∀ key, session.tracker.subject? key =
    (Tracker.lastAt? key (session.accepted diagnostics)).map fun d =>
      (d, session.handlers.hinters.contains key.code)

/-! ## One event -/

section Rebuild

variable {state : Session × Editor}

/-- Once the diagnostics are replaced, an entry has hints exactly if there is a hinter. -/
theorem hinted_of_rebuild (h : session.tracker.Exclusive)
    (hrebuild : session.rebuild editor document diagnostics = .ok state) {key : Key} {entry : Entry}
    (hget : state.1.tracker.get? key = some entry) :
    entry.hinted = session.handlers.hinters.contains key.code := by
  obtain ⟨tracker, made, htracker, rfl⟩ := rebuild_eq_ok_iff.1 hrebuild
  obtain ⟨entries, hentries⟩ : ∃ entries, Tracker.entriesOf (session.scope document).handlers
      (session.accepted diagnostics) = .ok entries :=
    Tracker.exists_entriesOf_eq_ok fun d => isSome_codeName?_of_mem_accepted
  rw [Tracker.rebuild_eq_ok session.tracker editor hentries] at htracker
  obtain ⟨rfl, -⟩ := Prod.mk.inj (Except.ok.inj htracker)
  obtain ⟨layer, hreshown⟩ := Tracker.get?_reshown h hentries editor
  have hshown : (session.tracker.reshown editor (session.scope document) entries).1.get? key =
      some entry := hget
  rw [hreshown] at hshown
  obtain ⟨new, hnew, rfl⟩ := Option.map_eq_some_iff.1 hshown
  obtain ⟨-, d, -, rfl⟩ := Tracker.exists_of_get?_entriesOf hentries hnew
  -- asking for its sketch does not change whether an entry has hints
  by_cases hdisplayed : session.tracker.isDisplayed key = true
  · rw [if_pos hdisplayed, Entry.hinted_pictured]
    rfl
  · rw [if_neg hdisplayed]
    rfl

/-- **Replacing the diagnostics** takes them in. -/
theorem took_of_rebuild (h : session.tracker.Exclusive)
    (hrebuild : session.rebuild editor document diagnostics = .ok state) :
    state.1.Took document diagnostics := by
  have hsubject : ∀ key, state.1.tracker.subject? key =
      (Tracker.lastAt? key (session.accepted diagnostics)).map fun d =>
        (d, session.handlers.hinters.contains key.code) := by
    intro key
    rw [← diagnostic_of_rebuild hrebuild key, Tracker.subject?]
    cases hget : state.1.tracker.get? key with
    | none => rfl
    | some entry =>
      rw [Option.map_some, Option.map_some, Option.map_some, Entry.subject,
        hinted_of_rebuild h hrebuild hget]
  obtain ⟨tracker, made, -, rfl⟩ := rebuild_eq_ok_iff.1 hrebuild
  exact ⟨rfl, ⟨_, rfl⟩, hsubject⟩

end Rebuild

/-- **What an event does** to the hints and to what the entries are about. -/
inductive Turn (session : Session) (event : Event) : Reply × Session × Editor → Prop where
  /-- Diagnostics are taken in. -/
  | took {reply : Reply} {after : Session} {made : Editor} {document : LineView}
      {diagnostics : List Diagnostic} (htaken : event.taken? reply = some (document, diagnostics))
      (htook : after.Took document diagnostics) : Turn session event (reply, after, made)
  /-- All is forgotten. -/
  | forgot {reply : Reply} {after : Session} {made : Editor} (htaken : event.taken? reply = none)
      (hevent : event = .dispose) (hboard : after.board = .empty) :
    Turn session event (reply, after, made)
  /-- All stays as it is. -/
  | stayed {reply : Reply} {after : Session} {made : Editor} (htaken : event.taken? reply = none)
      (hevent : event ≠ .dispose) (hboard : after.board = session.board)
      (hsubject : ∀ key, after.tracker.subject? key = session.tracker.subject? key) :
    Turn session event (reply, after, made)

/-- An event does one of these. -/
theorem turn (h : session.tracker.Exclusive) (editor : Editor) (event : Event) :
    Turn session event (session.handle editor event) := by
  have hhandling := session.handling editor event
  generalize session.handle editor event = result at hhandling ⊢
  cases hhandling with
  | polled _ _ hrebuild =>
    have hdue : Tracker.Exclusive { session with due := none }.tracker := h
    exact .took rfl (took_of_rebuild hdue hrebuild)
  | updated _ hrebuild => exact .took rfl (took_of_rebuild h hrebuild)
  | disposed => exact .forgot rfl rfl rfl
  | toggled => exact .stayed rfl Event.noConfusion rfl (Tracker.subject?_toggle h editor _ _)
  | lineToggled => exact .stayed rfl Event.noConfusion rfl (Tracker.subject?_toggle h editor _ _)
  | cleared =>
    exact .stayed rfl Event.noConfusion rfl (session.tracker.subject?_hideAll editor)
  | _ => exact .stayed rfl Event.noConfusion rfl fun _ => rfl

/-- With the same settings there are the same handlers, and the same diagnostics count. -/
theorem accepted_eq_of_settings {after : Session} (h : after.settings = session.settings)
    (diagnostics : List Diagnostic) :
    after.handlers = session.handlers ∧
      after.accepted diagnostics = session.accepted diagnostics := by
  rw [settings, settings, Prod.mk.injEq, Prod.mk.injEq] at h
  obtain ⟨hhandlers, -, hoptions⟩ := h
  exact ⟨hhandlers, by rw [accepted, accepted, hhandlers, hoptions]⟩

/-- What was taken in stays so, as long as the hints and what the entries are about do. -/
theorem Took.stay {after : Session} (h : session.Took document diagnostics)
    (hsettings : after.settings = session.settings) (hboard : after.board = session.board)
    (hsubject : ∀ key, after.tracker.subject? key = session.tracker.subject? key) :
    after.Took document diagnostics := by
  obtain ⟨hhandlers, haccepted⟩ := accepted_eq_of_settings hsettings diagnostics
  refine ⟨?_, ?_, fun key => ?_⟩
  · rw [hboard, haccepted, hhandlers]
    exact h.hints
  · rw [hboard]
    exact h.layer
  · rw [hsubject, haccepted, hhandlers]
    exact h.subject key

/-! ## All events -/

/-- **What is in effect is what was taken in,** after any events; and without anything in effect
there is no board. -/
theorem took_run {others : List (LayerId × Layer)} (h : Kept (session, editor) others)
    (hboard : session.board = .empty) (events : List Event) :
    ((∀ document diagnostics, ¬ session.InEffect editor events document diagnostics) →
      (session.run editor events).1.board = .empty) ∧
    ∀ document diagnostics, session.InEffect editor events document diagnostics →
      (session.run editor events).1.Took document diagnostics := by
  -- the last event decides, so the induction takes events off the end
  induction events using List.reverseRecOn with
  | nil => exact ⟨fun _ => hboard, fun document diagnostics heffect => absurd heffect Since.not_nil⟩
  | append_singleton events event ih =>
    obtain ⟨hnothing, hsomething⟩ := ih
    have hkept : Kept (session.run editor events) others := h.run events
    simp only [inEffect_append_singleton_iff]
    rw [run_append_singleton]
    generalize session.run editor events = state at hkept hnothing hsomething ⊢
    have hsettings := settings_handle state.1 state.2 event
    have hturn := turn hkept.exclusive state.2 event
    generalize state.1.handle state.2 event = result at hsettings hturn ⊢
    cases hturn with
    | took htaken htook =>
      refine ⟨fun hnone => absurd (.inl htaken) (hnone _ _), ?_⟩
      rintro document diagnostics (htaken' | ⟨-, htaken', -⟩)
      · rw [htaken] at htaken'
        obtain ⟨rfl, rfl⟩ := Prod.mk.inj (Option.some.inj htaken')
        exact htook
      · rw [htaken] at htaken'
        cases htaken'
    | forgot htaken hevent hempty =>
      refine ⟨fun _ => hempty, ?_⟩
      rintro document diagnostics (htaken' | ⟨-, -, hevent'⟩)
      · rw [htaken] at htaken'
        cases htaken'
      · exact absurd hevent hevent'
    | stayed htaken hevent hboard hsubject =>
      refine ⟨fun hnone => ?_, ?_⟩
      · rw [hboard]
        apply hnothing
        intro document diagnostics heffect
        exact hnone document diagnostics (.inr ⟨heffect, htaken, hevent⟩)
      · rintro document diagnostics (htaken' | ⟨heffect, -, -⟩)
        · rw [htaken] at htaken'
          cases htaken'
        · exact (hsomething document diagnostics heffect).stay hsettings hboard hsubject

/-! ## The layer of the hints -/

/-- A tracker has no use for the style of hints. -/
theorem not_uses_style : ¬ Tracker.Uses HintBoard.style := by
  intro h
  cases h

/-- **The layer of the hints is kept.** Once there is one it stays, and one is created only for a
session that gets its first. -/
structure KeepsLayer (before after : Session × Editor) : Prop where
  /-- The layers created are those that the session got. -/
  created : after.2.createdWith HintBoard.style + before.1.board.layer.toList.length =
    before.2.createdWith HintBoard.style + after.1.board.layer.toList.length
  /-- The layer that there is stays. -/
  kept : ∀ id, before.1.board.layer = some id → after.1.board.layer = some id

namespace KeepsLayer

variable {before middle after : Session × Editor}

theorem refl (state : Session × Editor) : KeepsLayer state state := ⟨rfl, fun _ => id⟩

/-- First some events, then others. -/
theorem trans (h : KeepsLayer before middle) (hafter : KeepsLayer middle after) :
    KeepsLayer before after := by
  refine ⟨?_, fun id hid => hafter.kept id (h.kept id hid)⟩
  have hfirst := h.created
  have hsecond := hafter.created
  omega

/-- The tracker does nothing to it. -/
theorem of_reaches (h : before.2.Reaches Tracker.Uses after.2)
    (hboard : after.1.board = before.1.board) : KeepsLayer before after := by
  refine ⟨?_, fun id hid => ?_⟩
  · rw [h.createdWith_eq not_uses_style, hboard]
  · rw [hboard]
    exact hid

/-- Posting hints creates it if there is none. -/
theorem post {session after : Session} {editor : Editor} (hinters : KeyMap String Hinter)
    (document : LineView) (diagnostics : List Diagnostic)
    (hboard : after.board = (session.board.post editor hinters document diagnostics).1) :
    KeepsLayer (session, editor)
      (after, (session.board.post editor hinters document diagnostics).2) := by
  have hdecorate : ∀ (made : Editor) (id : LayerId) (decorations : List Decoration),
      (made.decorate id decorations).createdWith HintBoard.style =
        made.createdWith HintBoard.style := by
    intro made id decorations
    rw [show made.decorate id decorations = made.serve (.decorate id decorations) from rfl,
      Editor.createdWith_serve, if_neg Editor.Request.noConfusion, Nat.add_zero]
  refine ⟨?_, fun id hid => ?_⟩
  · rw [hboard]
    unfold HintBoard.post
    cases hlayer : session.board.layer with
    | some id => rw [hdecorate]
    | none =>
      have hcreate := editor.createdWith_serve (.createLayer HintBoard.style) HintBoard.style
      rw [if_pos rfl] at hcreate
      rw [hdecorate]
      exact hcreate
  · have hid : session.board.layer = some id := hid
    rw [hboard, HintBoard.post, hid]

/-- So does replacing the diagnostics. -/
theorem rebuild {state : Session × Editor}
    (h : session.rebuild editor document diagnostics = .ok state) :
    KeepsLayer (session, editor) state := by
  obtain ⟨tracker, made, hmade, rfl⟩ := rebuild_eq_ok_iff.1 h
  have htracker : KeepsLayer (session, editor) (session, made) :=
    of_reaches (session.tracker.reaches_rebuild editor _ hmade) rfl
  exact htracker.trans (post session.handlers.hinters document (session.accepted diagnostics) rfl)

/-- **One event,** unless it disposes of everything. -/
theorem handle (session : Session) (editor : Editor) (hevent : event ≠ .dispose) :
    KeepsLayer (session, editor) (session.handle editor event).2 := by
  have hhandling := session.handling editor event
  generalize session.handle editor event = result at hhandling ⊢
  cases hhandling with
  | polled _ _ hrebuild =>
    have hdue : KeepsLayer (session, editor) ({ session with due := none }, editor) :=
      ⟨rfl, fun _ => id⟩
    exact hdue.trans (rebuild hrebuild)
  | updated _ hrebuild => exact rebuild hrebuild
  | toggled => exact of_reaches (session.tracker.reaches_toggle editor _ _) rfl
  | lineToggled => exact of_reaches (session.tracker.reaches_toggle editor _ _) rfl
  | cleared => exact of_reaches (session.tracker.reaches_perform editor .hideAll) rfl
  | disposed => exact absurd rfl hevent
  | noted => exact ⟨rfl, fun _ => id⟩
  | _ => exact refl _

/-- **Any events,** as long as none of them disposes of everything. -/
theorem run (hevents : Event.dispose ∉ events) (state : Session × Editor) :
    KeepsLayer state (state.1.run state.2 events) := by
  induction events generalizing state with
  | nil => exact refl state
  | cons event events ih =>
    have hevent : event ≠ .dispose := fun heq => hevents (heq ▸ List.mem_cons_self)
    have hrest : Event.dispose ∉ events := fun hmem => hevents (List.mem_cons_of_mem _ hmem)
    exact (handle state.1 state.2 hevent).trans (ih hrest _)

end KeepsLayer

/-- A live layer with the style of hints is that of the session, or was there from the beginning. -/
theorem Kept.layer_of_style {others : List (LayerId × Layer)} (h : Kept (session, editor) others)
    {id : LayerId} {layer : Layer} (hlayer : editor.layer? id = some layer)
    (hstyle : layer.style = HintBoard.style) (hdisposed : layer.disposed = false) :
    session.board.layer = some id ∨ (id, layer) ∈ others := by
  obtain ⟨available, shown, gone, hholds⟩ := Tracker.Kept.holds h
  have hlive := hholds.mem_live_iff.2 ⟨hlayer, hdisposed⟩
  rw [List.mem_append, List.mem_append, List.mem_append] at hlive
  rcases hlive with hsketch | htriangle | hboard | hother
  · -- sketches are on layers of another style, and so are triangles
    obtain ⟨⟨key, entry⟩, -, hholding⟩ := List.mem_filterMap.1 hsketch
    obtain ⟨_, -, hcell⟩ := Option.map_eq_some_iff.1 hholding
    obtain ⟨-, rfl⟩ := Prod.mk.inj hcell
    cases hstyle
  · cases htriangles : session.tracker.triangles with
    | none =>
      rw [htriangles] at htriangle
      cases htriangle
    | some layers =>
      rw [htriangles, Tracker.triangleHoldings, List.mem_cons, List.mem_singleton] at htriangle
      rcases htriangle with hcell | hcell
      · obtain ⟨-, rfl⟩ := Prod.mk.inj hcell
        cases hstyle
      · obtain ⟨-, rfl⟩ := Prod.mk.inj hcell
        cases hstyle
  · obtain ⟨found, hfound, hcell⟩ := List.mem_map.1 hboard
    obtain ⟨rfl, -⟩ := Prod.mk.inj hcell
    exact .inl (Option.mem_toList.1 hfound)
  · exact .inr hother

/-- The layer of the hints has the marks of all of them. -/
theorem Kept.layer?_board {others : List (LayerId × Layer)} (h : Kept (session, editor) others)
    {id : LayerId} (hid : session.board.layer = some id) :
    editor.layer? id =
      some ⟨HintBoard.style, session.board.hints.map Hint.decoration, false⟩ := by
  obtain ⟨available, shown, gone, hholds⟩ := Tracker.Kept.holds h
  apply hholds.layer?_eq
  apply List.mem_append_right
  apply List.mem_append_right
  apply List.mem_append_left
  rw [HintBoard.holdings, hid]
  exact List.mem_singleton_self _

/-! ## After any events -/

/-- **The hints after any events,** for a session that starts in an editor in which anything was
asked for before.

As long as nothing was taken in since the start, or since the session was disposed of, there are no
hints and there is no layer for them. Otherwise take the diagnostics that were taken in last, and of
them those that count. The hints are what is given for them in the document they were taken in with,
one after the other; the layer of the hints carries a mark for each hint, in the same order; and
each of the diagnostics whose code has a hinter has an entry that tells so, which is about the last
of them with the line and the code. Of the layers with the style of hints, only that of the session
and those that were there before are live. An event that takes nothing in leaves all this as it is,
unless it disposes of the session. Until then a layer for hints is created once, and only if there
is none. -/
theorem hints_of_run (handlers : Handlers) (config : Config) (options : Options)
    (requests : List Editor.Request) (events : List Event) :
    let first := start handlers config options
    let before := Editor.run requests
    let session := (first.run before events).1
    let editor := (first.run before events).2
    ((∀ document diagnostics, ¬ first.InEffect before events document diagnostics) →
      session.board.hints = [] ∧ session.board.layer = none) ∧
    (∀ document diagnostics, first.InEffect before events document diagnostics →
      let accepted := diagnostics.filter fun d => handlers.accepts d options.source
      (∃ parts, List.Forall₂ (Hint.Given handlers.hinters document) accepted parts ∧
        session.board.hints = parts.flatten) ∧
      (∃ id, session.board.layer = some id ∧ editor.layer? id = some ⟨HintBoard.style,
        session.board.hints.map fun hint => ⟨hint.span, none, some hint.hover⟩, false⟩) ∧
      ∀ d ∈ accepted, ∀ code, d.codeName? = some code → handlers.hinters.contains code = true →
        ∃ entry, session.tracker.get? ⟨d.line, code⟩ = some entry ∧ entry.hinted = true ∧
          Tracker.lastAt? ⟨d.line, code⟩ accepted = some entry.diagnostic) ∧
    (∀ id layer, editor.layer? id = some layer → layer.style = HintBoard.style →
      layer.disposed = false → session.board.layer = some id ∨ before.layer? id = some layer) ∧
    (∀ event, event.taken? (session.handle editor event).1 = none → event ≠ .dispose →
      (session.handle editor event).2.1.board = session.board ∧
      (∀ id, session.board.layer = some id →
        (session.handle editor event).2.2.layer? id = editor.layer? id) ∧
      ∀ key,
        (session.handle editor event).2.1.tracker.subject? key = session.tracker.subject? key) ∧
    ∀ more, Event.dispose ∉ more →
      let later := first.run before (events ++ more)
      (session.board.layer = none → later.2.createdWith HintBoard.style =
        editor.createdWith HintBoard.style + if later.1.board.layer = none then 0 else 1) ∧
      ∀ id, session.board.layer = some id → later.1.board.layer = some id ∧
        later.2.createdWith HintBoard.style = editor.createdWith HintBoard.style := by
  intro first before session editor
  obtain ⟨others, gone, hholds⟩ := Editor.exists_holds_run requests
  have hstart : Kept (first, before) others := ⟨Tracker.kept_empty.exclusive, [], [], gone, hholds⟩
  have hkept : Kept (session, editor) others := hstart.run events
  have hsettings : session.settings = first.settings := settings_run first before events
  obtain ⟨hnothing, htook⟩ := took_run hstart rfl events
  refine ⟨?_, ?_, ?_, ?_, ?_⟩
  · intro hnone
    have hempty : session.board = .empty := hnothing hnone
    rw [hempty]
    exact ⟨rfl, rfl⟩
  · intro document diagnostics heffect accepted
    have htook : session.Took document diagnostics := htook document diagnostics heffect
    obtain ⟨hhandlers, haccepted⟩ := accepted_eq_of_settings hsettings diagnostics
    have hhandlers : session.handlers = handlers := hhandlers
    have haccepted : session.accepted diagnostics = accepted := haccepted
    obtain ⟨hhints, ⟨id, hid⟩, hsubject⟩ := htook
    rw [haccepted, hhandlers] at hhints hsubject
    refine ⟨?_, ⟨id, hid, hkept.layer?_board hid⟩, fun d hd code hcode hhinter => ?_⟩
    · obtain ⟨parts, hparts, hflatten⟩ :=
        HintBoard.exists_parts handlers.hinters document accepted
      exact ⟨parts, hparts, hhints.trans hflatten⟩
    · have hkey : d.key? = some ⟨d.line, code⟩ := Diagnostic.key?_eq_some_iff.2 ⟨rfl, hcode⟩
      obtain ⟨last, hlast⟩ := Tracker.exists_lastAt?_iff.2 ⟨d, hd, hkey⟩
      have hentry := hsubject ⟨d.line, code⟩
      rw [hlast] at hentry
      obtain ⟨entry, hget, hpair⟩ := Option.map_eq_some_iff.1 hentry
      obtain ⟨rfl, hhinted⟩ := Prod.mk.inj hpair
      exact ⟨entry, hget, hhinted.trans hhinter, hlast⟩
  · intro id layer hlayer hstyle hdisposed
    rcases hkept.layer_of_style hlayer hstyle hdisposed with hboard | hother
    · exact .inl hboard
    · exact .inr (hholds.layer?_eq hother)
  · intro event htaken hevent
    have hafter : Kept (session.handle editor event).2 others := hkept.handle event
    have hturn := turn hkept.exclusive editor event
    generalize session.handle editor event = result at hafter hturn htaken ⊢
    cases hturn with
    | took htaken' => simp [htaken'] at htaken
    | forgot _ hdispose => exact absurd hdispose hevent
    | stayed _ _ hboard hsubject =>
      refine ⟨hboard, fun id hid => ?_, hsubject⟩
      rw [hkept.layer?_board hid, hafter.layer?_board (hboard ▸ hid), hboard]
  · intro more hmore later
    have hlater : later = session.run editor more := by
      show first.run before (events ++ more) = _
      rw [run, List.foldl_append]
      rfl
    have hkeeps : KeepsLayer (session, editor) later := by
      rw [hlater]
      exact KeepsLayer.run hmore (session, editor)
    obtain ⟨hcreated, hkeptLayer⟩ := hkeeps
    refine ⟨fun hnone => ?_, fun id hid => ⟨hkeptLayer id hid, ?_⟩⟩
    · rw [hnone] at hcreated
      cases hlayer : later.1.board.layer with
      | none =>
        rw [hlayer] at hcreated
        exact hcreated
      | some id =>
        rw [hlayer] at hcreated
        exact hcreated
    · rw [hid, hkeptLayer id hid] at hcreated
      exact Nat.add_right_cancel hcreated

/-- Two diagnostics with one line and code share an entry, and both have their hints; these stay
when the entry is toggled. -/
example :
    let hinter : Hinter := fun _ d => .success [⟨d.span, "mend", ⟨d.span.start, "*"⟩⟩]
    let first : Diagnostic := ⟨⟨⟨1, 6⟩, ⟨1, 7⟩⟩, some .error,
      some (.documented (.name "E0308") none), some "rustc", "mismatched types", []⟩
    let second : Diagnostic := { first with span := ⟨⟨1, 9⟩, ⟨2, 0⟩⟩ }
    let document : LineView := .ofLines []
    let session := ((start ⟨∅, .ofList [("E0308", hinter)]⟩ .standard .standard).run .empty
      [.update "rust" document [first, second], .toggle document ⟨1, "E0308"⟩]).1
    session.board.hints.map Hint.span = [first.span, second.span] ∧
      session.tracker.subject? ⟨1, "E0308"⟩ = some (second, true) := by
  decide +kernel

end Session
end BorrowSketch
