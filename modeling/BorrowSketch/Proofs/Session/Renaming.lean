import BorrowSketch.Proofs.Session.Custody
import BorrowSketch.Proofs.Tracker.Renaming

/-! # Sessions under other names

A session does the same in an editor that mirrors another, with its layers renamed.

* **`Session.rename`** — a session with its layers renamed.
* **`Session.rename_congr`** — only the names of layers that the session owns matter.
* **`Session.alike_handle`** — every event has the same answer, and leads to the same session under
  the new names. -/

namespace BorrowSketch

/-- Hints with their layer renamed. -/
def HintBoard.rename (f : LayerId → LayerId) (board : HintBoard) : HintBoard :=
  { board with layer := board.layer.map f }

namespace Session

/-- A session with its layers renamed. -/
def rename (f : LayerId → LayerId) (session : Session) : Session :=
  { session with tracker := session.tracker.rename f, board := session.board.rename f }

/-- Renaming depends only on the names of the layers that the session owns. -/
theorem rename_congr {f g : LayerId → LayerId} {session : Session}
    (h : ∀ id ∈ session.layers, f id = g id) : session.rename f = session.rename g := by
  have htriangles : session.tracker.triangles.map (TriangleLayers.rename f) =
      session.tracker.triangles.map (TriangleLayers.rename g) := by
    cases htriangles : session.tracker.triangles with
    | none => rfl
    | some layers =>
      have havailable : f layers.available = g layers.available :=
        h _ (by simp [Session.layers, htriangles])
      have hshown : f layers.shown = g layers.shown :=
        h _ (by simp [Session.layers, htriangles])
      rw [Option.map_some, Option.map_some, TriangleLayers.rename, TriangleLayers.rename,
        havailable, hshown]
  have hboard : session.board.layer.map f = session.board.layer.map g := by
    cases hlayer : session.board.layer with
    | none => rfl
    | some id =>
      have hid : f id = g id := h _ (by simp [Session.layers, hlayer])
      rw [Option.map_some, Option.map_some, hid]
  have hentries : session.tracker.entries.mapValues (Entry.rename f) =
      session.tracker.entries.mapValues (Entry.rename g) := by
    refine KeyMap.ext ?_
    rw [KeyMap.toList_mapValues, KeyMap.toList_mapValues]
    refine List.map_congr_left fun entry hmem => ?_
    cases hlayer : entry.2.layer with
    | none => simp only [Entry.rename, hlayer, Option.map_none]
    | some id =>
      have hlayers : id ∈ session.tracker.layers :=
        List.mem_filterMap.2 ⟨entry.2, List.mem_map_of_mem hmem, hlayer⟩
      have hid : f id = g id := h _ (List.mem_append_left _ hlayers)
      simp only [Entry.rename, hlayer, Option.map_some, hid]
  simp only [rename, Tracker.rename, HintBoard.rename, htriangles, hboard, hentries]

/-! ## What sessions do under other names -/

open Editor (Mirrors Naming)

variable {alone₀ shared₀ alone shared : Editor} {naming : Naming alone₀ shared₀}

/-- **A session and its editor, and the same under other names.** -/
def Alike (naming : Naming alone₀ shared₀) (alone shared : Session × Editor) : Prop :=
  shared.1 = alone.1.rename naming.map ∧ Mirrors naming alone.2 shared.2

/-- Posting hints. -/
theorem alike_post (h : Mirrors naming alone shared) (board : HintBoard)
    (hinters : KeyMap String Hinter) (document : LineView) (diagnostics : List Diagnostic) :
    ((board.rename naming.map).post shared hinters document diagnostics).1 =
        (board.post alone hinters document diagnostics).1.rename naming.map ∧
      Mirrors naming (board.post alone hinters document diagnostics).2
        ((board.rename naming.map).post shared hinters document diagnostics).2 := by
  have hlayer : (board.rename naming.map).layer = board.layer.map naming.map := rfl
  rw [HintBoard.post, HintBoard.post, hlayer]
  cases board.layer with
  | some id => exact ⟨rfl, h.decorate id _⟩
  | none =>
    obtain ⟨hnew, hmade⟩ := h.createLayer HintBoard.style
    refine ⟨congrArg (HintBoard.mk · _) (congrArg some hnew), ?_⟩
    dsimp only [Option.map_none]
    rw [hnew]
    exact hmade.decorate _ _

/-- Disposing of the hints. -/
theorem alike_disposeHints (h : Mirrors naming alone shared) (board : HintBoard) :
    ((board.rename naming.map).dispose shared).1 = (board.dispose alone).1.rename naming.map ∧
      Mirrors naming (board.dispose alone).2 ((board.rename naming.map).dispose shared).2 := by
  have hlayer : (board.rename naming.map).layer = board.layer.map naming.map := rfl
  rw [HintBoard.dispose, HintBoard.dispose, hlayer]
  refine ⟨rfl, ?_⟩
  cases board.layer with
  | some id => exact h.dispose id
  | none => exact h

/-- Replacing the diagnostics and the hints. -/
theorem alike_rebuild (h : Mirrors naming alone shared) (session : Session) {document : LineView}
    {diagnostics : List Diagnostic} {state : Session × Editor}
    (hrebuild : session.rebuild alone document diagnostics = .ok state) :
    ∃ state', (session.rename naming.map).rebuild shared document diagnostics = .ok state' ∧
      Alike naming state state' := by
  obtain ⟨tracker, made, htracker, rfl⟩ := rebuild_eq_ok_iff.1 hrebuild
  obtain ⟨⟨_, made'⟩, htracker', rfl, hmirrors⟩ :=
    Tracker.alike_rebuild h session.tracker htracker
  obtain ⟨hboard, hposted⟩ := alike_post hmirrors session.board session.handlers.hinters document
    (session.accepted diagnostics)
  refine ⟨_, rebuild_eq_ok_iff.2 ⟨tracker.rename naming.map, made', htracker', rfl⟩, ?_, hposted⟩
  simp only [rename]
  rw [← hboard]
  rfl

/-- Showing or hiding one sketch. -/
theorem alike_toggle (h : Mirrors naming alone shared) (session : Session) (document : LineView)
    (key : Key) :
    ((session.rename naming.map).toggle shared document key).1 =
        (session.toggle alone document key).1 ∧
      Alike naming (session.toggle alone document key).2
        ((session.rename naming.map).toggle shared document key).2 := by
  obtain ⟨houtcome, htracker, hmirrors⟩ :=
    Tracker.alike_toggle h session.tracker (session.scope document) key
  refine ⟨houtcome, ?_, hmirrors⟩
  exact congrArg (fun tracker => { session.rename naming.map with tracker := tracker }) htracker

/-- Forgetting everything. -/
theorem alike_dispose (h : Mirrors naming alone shared) (session : Session) :
    Alike naming (session.dispose alone) ((session.rename naming.map).dispose shared) := by
  obtain ⟨htracker, hmirrors⟩ := Tracker.alike_dispose h session.tracker
  obtain ⟨hboard, hdisposed⟩ := alike_disposeHints hmirrors session.board
  exact ⟨rfl, hdisposed⟩

/-- **One event.** It is answered alike, and leads to the same session under the new names. -/
theorem alike_handle (h : Mirrors naming alone shared) (session : Session) (event : Event) :
    ((session.rename naming.map).handle shared event).1 = (session.handle alone event).1 ∧
      Alike naming (session.handle alone event).2
        ((session.rename naming.map).handle shared event).2 := by
  -- neither the settings, nor what is due, nor the keys on a line depend on the names
  have hkeysOnLine : ∀ line, (session.rename naming.map).tracker.keysOnLine line =
      session.tracker.keysOnLine line :=
    Tracker.keysOnLine_rename naming.map session.tracker
  suffices hshared : ∃ result, Handling (session.rename naming.map) shared event result ∧
      result.1 = (session.handle alone event).1 ∧
      Alike naming (session.handle alone event).2 result.2 by
    obtain ⟨result, hresult, hreply, halike⟩ := hshared
    rw [hresult.handle_eq]
    exact ⟨hreply, halike⟩
  have hhandling := session.handling alone event
  generalize session.handle alone event = result at hhandling ⊢
  cases hhandling with
  | noted hlanguage => exact ⟨_, .noted hlanguage, rfl, rfl, h⟩
  | notNoted hlanguage => exact ⟨_, .notNoted hlanguage, rfl, rfl, h⟩
  | idle hdue => exact ⟨_, .idle hdue, rfl, rfl, h⟩
  | early hdue hearly => exact ⟨_, .early hdue hearly, rfl, rfl, h⟩
  | polled hdue hnow hrebuild =>
    obtain ⟨state, hrebuilt, halike⟩ := alike_rebuild h { session with due := none } hrebuild
    exact ⟨_, .polled hdue hnow hrebuilt, rfl, halike⟩
  | updated hlanguage hrebuild =>
    obtain ⟨state, hrebuilt, halike⟩ := alike_rebuild h session hrebuild
    exact ⟨_, .updated hlanguage hrebuilt, rfl, halike⟩
  | notUpdated hlanguage => exact ⟨_, .notUpdated hlanguage, rfl, rfl, h⟩
  | @toggled document key =>
    obtain ⟨houtcome, halike⟩ := alike_toggle h session document key
    exact ⟨_, .toggled, congrArg Reply.toggled houtcome, halike⟩
  | @nothingOnLine document line hkeys =>
    exact ⟨_, .nothingOnLine ((hkeysOnLine line).trans hkeys), rfl, rfl, h⟩
  | @lineToggled document line key hkeys =>
    obtain ⟨houtcome, halike⟩ := alike_toggle h session document key
    refine ⟨_, .lineToggled ((hkeysOnLine line).trans hkeys), ?_, halike⟩
    dsimp only
    rw [houtcome]
  | @severalOnLine document line keys hkeys hseveral =>
    exact ⟨_, .severalOnLine ((hkeysOnLine line).trans hkeys) hseveral, rfl, rfl, h⟩
  | cleared =>
    obtain ⟨htracker, hmirrors⟩ := Tracker.alike_hideAll h session.tracker
    exact ⟨_, .cleared, rfl, congrArg
      (fun tracker => { session.rename naming.map with tracker := tracker }) htracker, hmirrors⟩
  | disposed => exact ⟨_, .disposed, rfl, alike_dispose h session⟩

end Session
end BorrowSketch
