import BorrowSketch.Proofs.Session.Handling
import BorrowSketch.Proofs.Tracker.Custody

/-! # The layers of a session

A session owns the layers of its tracker and that of its hints, and no others: whatever happens to
it, no layer is lost and none has two owners, and once it is disposed of no layer is left.

* **`HintBoard.holdings`**, **`Session.layers`** — the layers of a session.
* **`Session.Kept`** — the layers of a session are all there are, and look as it has them.
* **`Session.live_of_run`** — the live layers after any events. -/

namespace BorrowSketch

/-- The layer of the hints as it looks. -/
def HintBoard.holdings (board : HintBoard) : List (LayerId × Layer) :=
  board.layer.toList.map fun id => (id, ⟨style, board.hints.map Hint.decoration, false⟩)

namespace Session

variable {session : Session} {editor : Editor} {others : List (LayerId × Layer)}

/-- The layers that a session owns: those of the triangles, those of the entries and that of the
hints. -/
def layers (session : Session) : List LayerId :=
  session.tracker.layers ++
    (session.tracker.triangles.toList.flatMap (fun layers => [layers.available, layers.shown]) ++
      session.board.layer.toList)

/-! ## Hints -/

section Hints

variable {board : HintBoard} {before after : List (LayerId × Layer)} {gone : Set LayerId}

/-- Posting hints replaces the decorations of their layer and of no other. -/
theorem holds_post (h : editor.Holds (before ++ (board.holdings ++ after)) gone)
    (hinters : KeyMap String Hinter) (document : LineView) (diagnostics : List Diagnostic) :
    (board.post editor hinters document diagnostics).2.Holds
      (before ++ ((board.post editor hinters document diagnostics).1.holdings ++ after)) gone := by
  unfold HintBoard.post
  cases hlayer : board.layer with
  | some id =>
    simp only [HintBoard.holdings, hlayer, Option.toList_some, List.map_cons, List.map_nil,
      List.singleton_append] at h ⊢
    exact h.decorate _
  | none =>
    simp only [HintBoard.holdings, hlayer, Option.toList_none, List.map_nil, List.nil_append] at h
    exact ((h.createLayer HintBoard.style).perm List.perm_middle.symm).decorate _

/-- Disposing of the hints disposes of their layer and of no other. -/
theorem holds_disposeHints (h : editor.Holds (before ++ (board.holdings ++ after)) gone) :
    ∃ gone, (board.dispose editor).2.Holds (before ++ after) gone := by
  unfold HintBoard.dispose
  cases hlayer : board.layer with
  | some id =>
    simp only [HintBoard.holdings, hlayer, Option.toList_some, List.map_cons, List.map_nil,
      List.singleton_append] at h
    exact ⟨_, h.dispose⟩
  | none =>
    simp only [HintBoard.holdings, hlayer, Option.toList_none, List.map_nil, List.nil_append] at h
    exact ⟨gone, h⟩

end Hints

/-! ## Custody -/

/-- **What every event keeps.** The tracker of the session is in order, and besides its layers and
that of the hints the editor has only those of others. -/
def Kept (state : Session × Editor) (others : List (LayerId × Layer)) : Prop :=
  Tracker.Kept (state.1.tracker, state.2) (state.1.board.holdings ++ others)

/-- A session that has seen nothing has no layers. -/
theorem kept_start (handlers : Handlers) (config : Config) (options : Options) :
    Kept (start handlers config options, Editor.empty) [] :=
  Tracker.kept_empty

namespace Kept

/-- Replacing the diagnostics and the hints. -/
theorem rebuild (h : Kept (session, editor) others) {document : LineView}
    {diagnostics : List Diagnostic} {state : Session × Editor}
    (hrebuild : session.rebuild editor document diagnostics = .ok state) : Kept state others := by
  obtain ⟨tracker, made, htracker, rfl⟩ := rebuild_eq_ok_iff.1 hrebuild
  -- to the tracker, the layer of the hints is one of the others
  have hkept : Tracker.Kept (tracker, made) (session.board.holdings ++ others) :=
    Tracker.Kept.rebuild h htracker
  obtain ⟨available, shown, gone, hholds⟩ := hkept.holds
  rw [← List.append_assoc] at hholds
  have hposted := holds_post hholds session.handlers.hinters document
    (session.accepted diagnostics)
  rw [List.append_assoc] at hposted
  exact ⟨hkept.exclusive, available, shown, gone, hposted⟩

/-- Toggling one sketch. -/
theorem toggle (h : Kept (session, editor) others) (document : LineView) (key : Key) :
    Kept (session.toggle editor document key).2 others :=
  Tracker.Kept.perform h (.toggle (session.scope document) key)

/-- Forgetting everything. -/
theorem dispose (h : Kept (session, editor) others) : Kept (session.dispose editor) others := by
  have hkept : Tracker.Kept (session.tracker.dispose editor) (session.board.holdings ++ others) :=
    Tracker.Kept.dispose h
  obtain ⟨available, shown, gone, hholds⟩ := hkept.holds
  rw [← List.append_assoc] at hholds
  obtain ⟨gone, hdisposed⟩ := holds_disposeHints hholds
  rw [List.append_assoc] at hdisposed
  exact ⟨hkept.exclusive, available, shown, gone, hdisposed⟩

/-- **One event.** -/
theorem handle (h : Kept (session, editor) others) (event : Event) :
    Kept (session.handle editor event).2 others := by
  have hhandling := session.handling editor event
  generalize session.handle editor event = result at hhandling ⊢
  cases hhandling with
  | noted => exact h
  | notNoted => exact h
  | idle => exact h
  | early => exact h
  | polled _ _ hrebuild =>
    have hdue : Kept ({ session with due := none }, editor) others := h
    exact hdue.rebuild hrebuild
  | updated _ hrebuild => exact h.rebuild hrebuild
  | notUpdated => exact h
  | toggled => exact h.toggle _ _
  | nothingOnLine => exact h
  | lineToggled => exact h.toggle _ _
  | severalOnLine => exact h
  | cleared => exact Tracker.Kept.perform h .hideAll
  | disposed => exact h.dispose

/-- **All runs.** -/
theorem run (h : Kept (session, editor) others) (events : List Event) :
    Kept (session.run editor events) others := by
  induction events generalizing session editor with
  | nil => exact h
  | cons event events ih => exact ih (h.handle event)

end Kept

/-! ## The layers after a run -/

/-- The layers that a session owns are those that its account gives it. -/
theorem layers_eq (session : Session) (available shown : List Decoration) :
    session.layers = (session.tracker.sketchHoldings ++
      (Tracker.triangleHoldings session.tracker.triangles available shown ++
        (session.board.holdings ++ []))).map Prod.fst := by
  have htriangles : (Tracker.triangleHoldings session.tracker.triangles available shown).map
      Prod.fst = session.tracker.triangles.toList.flatMap
        fun layers => [layers.available, layers.shown] := by
    cases session.tracker.triangles <;> rfl
  have hboard : session.board.holdings.map Prod.fst = session.board.layer.toList := by
    rw [HintBoard.holdings, List.map_map]
    exact List.map_id _
  rw [List.append_nil, List.map_append, List.map_append, htriangles, hboard,
    ← Tracker.layers_eq, layers]

namespace Kept

/-- The layers that are live in an editor that serves a session alone. -/
theorem perm_layers (h : Kept (session, editor) []) :
    editor.live.Perm session.layers ∧ session.layers.Nodup := by
  obtain ⟨available, shown, gone, hholds⟩ := Tracker.Kept.holds h
  rw [layers_eq session available shown]
  exact ⟨hholds.perm_live, hholds.nodup⟩

/-- The layers that a session owns are there. -/
theorem exists_layer?_of_mem (h : Kept (session, editor) []) {id : LayerId}
    (hmem : id ∈ session.layers) : ∃ layer, editor.layer? id = some layer := by
  obtain ⟨available, shown, gone, hholds⟩ := Tracker.Kept.holds h
  rw [layers_eq session available shown] at hmem
  obtain ⟨⟨id, layer⟩, hcell, rfl⟩ := List.mem_map.1 hmem
  exact ⟨layer, hholds.layer?_eq hcell⟩

/-- The layers that a session does not own were disposed of. -/
theorem disposed_of_not_mem (h : Kept (session, editor) []) {id : LayerId} {layer : Layer}
    (hlayer : editor.layer? id = some layer) (hmem : id ∉ session.layers) :
    layer.disposed = true ∧ layer.decorations = [] := by
  obtain ⟨available, shown, gone, hholds⟩ := Tracker.Kept.holds h
  rcases hholds.live_or_gone hlayer with hlive | hgone
  · rw [layers_eq session available shown] at hmem
    exact absurd (List.mem_map_of_mem hlive) hmem
  · obtain ⟨found, hfound, hdisposed⟩ := hholds.mem_gone_iff.1 hgone
    obtain rfl := Option.some.inj (hlayer.symm.trans hfound)
    exact ⟨hdisposed, hholds.clean hlayer hdisposed⟩

/-- The layer of the hints is for texts before their places. -/
theorem exists_layer?_board (h : Kept (session, editor) others) {id : LayerId}
    (hid : session.board.layer = some id) :
    ∃ decorations, editor.layer? id = some ⟨HintBoard.style, decorations, false⟩ := by
  obtain ⟨available, shown, gone, hholds⟩ := Tracker.Kept.holds h
  have hholding : (id, ⟨HintBoard.style, session.board.hints.map Hint.decoration, false⟩) ∈
      session.board.holdings := by
    rw [HintBoard.holdings, hid]
    exact List.mem_singleton_self _
  exact ⟨_, hholds.layer?_eq (List.mem_append_right _ (List.mem_append_right _
    (List.mem_append_left _ hholding)))⟩

end Kept

/-- **The layers after any events.** A session that serves an editor alone, starting from nothing,
owns exactly the live layers: those of its triangles, those of its entries and that of its hints, no
two of them the same and each of the style its use asks for. All other layers were disposed of and
carry nothing. Once the session is disposed of there is no live layer, and it is as it was at the
start. -/
theorem live_of_run (handlers : Handlers) (config : Config) (options : Options)
    (events : List Event) :
    let session := (run (start handlers config options) .empty events).1
    let editor := (run (start handlers config options) .empty events).2
    editor.live.Perm session.layers ∧ session.layers.Nodup ∧
    (∀ layers, session.tracker.triangles = some layers → ∃ available shown,
      editor.layer? layers.available =
        some ⟨.gutterIcon Drawing.Triangle.available.uri, available, false⟩ ∧
      editor.layer? layers.shown =
        some ⟨.gutterIcon Drawing.Triangle.shown.uri, shown, false⟩) ∧
    (∀ key entry id, session.tracker.get? key = some entry → entry.layer = some id →
      ∃ decorations, editor.layer? id = some ⟨.wholeLine, decorations, false⟩) ∧
    (∀ id, session.board.layer = some id →
      ∃ decorations, editor.layer? id = some ⟨HintBoard.style, decorations, false⟩) ∧
    (∀ id layer, editor.layer? id = some layer → id ∉ session.layers →
      layer.disposed = true ∧ layer.decorations = []) ∧
    (session.dispose editor).2.live = [] ∧
    (session.dispose editor).1 = start handlers config options := by
  intro session editor
  have hkept : Kept (session, editor) [] := (kept_start handlers config options).run events
  obtain ⟨hperm, hnodup⟩ := hkept.perm_layers
  refine ⟨hperm, hnodup, fun layers htriangles => ?_, fun key entry id hget hid => ?_,
    fun id hid => ?_, fun id layer hlayer hmem => ?_, ?_, ?_⟩
  · exact Tracker.Kept.exists_layer?_triangles hkept htriangles
  · exact Tracker.Kept.exists_layer?_eq hkept hget hid
  · exact hkept.exists_layer?_board hid
  · exact hkept.disposed_of_not_mem hlayer hmem
  · -- a session that was disposed of owns nothing, so nothing is live
    have hdisposed : (session.dispose editor).2.live.Perm [] := hkept.dispose.perm_layers.1
    exact hdisposed.eq_nil
  · have hsettings := settings_run (start handlers config options) .empty events
    simp only [settings, Prod.mk.injEq] at hsettings
    obtain ⟨hhandlers, hconfig, hoptions⟩ := hsettings
    calc (session.dispose editor).1
        = start session.handlers session.config session.options := rfl
      _ = start handlers config options := by rw [hhandlers, hconfig, hoptions]; rfl

end Session
end BorrowSketch
