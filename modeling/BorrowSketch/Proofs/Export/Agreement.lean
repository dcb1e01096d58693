import BorrowSketch.Proofs.Drawing.Address
import BorrowSketch.Proofs.Export.Jobs
import BorrowSketch.Proofs.Session.Custody
import BorrowSketch.Proofs.Sketch.Themes

/-! # Exports and sessions agree

An export draws the sketches of a session with a loop of its own. What it leaves behind for an entry
is what a session with the same document, diagnostics and measures shows when the entry is toggled.

* **`Session.toggle_of_hidden`** — what toggling an entry comes to whose sketch is hidden.
* **`Export.Agrees`** — the files and remarks for an entry, and what toggling it comes to.
* **`Export.agrees_jobsOf`** — the jobs of an export for an entry agree with the session.
* **`Export.nodup_imageFiles`** — no two files have one name.
* **`Export.run_cases`** — what an export comes to: all jobs are done, or an operation on a file
  fails.
* **`Export.run_agrees`** — a whole export and the session. -/

namespace BorrowSketch

/-! ## Sketches of entries -/

/-- The decoration of a diagnostic is made of its sketch. -/
theorem illustrate_ofSketch {renderers : Registry Renderer}
    {sketch : LineView → Diagnostic → Outcome Sketch} {code : String} (scene : Scene)
    {d : Diagnostic} (hcode : d.codeName? = some code)
    (hrenderer : renderers.get? code = some (Renderer.ofSketch sketch)) :
    illustrate renderers scene d = (sketch scene.document d).map fun plan =>
      decorationOf (plan.picture scene.config .dark) (plan.picture scene.config .light) := by
  rw [illustrate_eq scene hcode hrenderer, Renderer.ofSketch, Renderer.ofSketch]
  cases sketch scene.document d <;> rfl

namespace Tracker

variable {editor : Editor} {scope : Scope}

/-- A tracker of nothing that is given diagnostics has their entries, and shows none of them. -/
theorem entriesOf_of_rebuild_empty {diagnostics : List Diagnostic} {state : Tracker × Editor}
    (h : Tracker.empty.rebuild editor scope diagnostics = .ok state) :
    entriesOf scope.handlers diagnostics = .ok state.1.entries := by
  cases hentries : entriesOf scope.handlers diagnostics with
  | error error => simp [rebuild, hentries] at h
  | ok entries =>
    have hasked : entries.keys.filter Tracker.empty.isDisplayed = [] := by
      refine List.filter_eq_nil_iff.2 fun key _ => ?_
      exact Bool.false_ne_true
    rw [rebuild_eq_ok _ _ hentries, reshown, hasked] at h
    obtain rfl := Except.ok.inj h
    rfl

end Tracker

namespace Session

variable {session : Session} {editor : Editor} {document : LineView} {key : Key} {entry : Entry}

/-- Toggling an entry whose sketch is hidden asks for its sketch. -/
theorem toggle_of_hidden (hget : session.tracker.get? key = some entry)
    (hdisplayed : entry.displayed = false) (editor : Editor) (document : LineView) :
    session.toggle editor document key =
      let shown := session.tracker.showEntry editor (session.scope document) key
      (shown.1, { session with tracker := (shown.2.1.showTriangles shown.2.2).1 },
        (shown.2.1.showTriangles shown.2.2).2) := by
  rw [toggle, Tracker.toggle, hget]
  dsimp only
  rw [hdisplayed, if_neg Bool.false_ne_true]
  rfl

/-- The entries of a session that has seen nothing but some diagnostics. None is shown, all have the
codes of their keys, and there is a sketch for those without hints. -/
theorem entry_of_start {config : Config} {diagnostics : List Diagnostic}
    (h : (start .standard config .standard).rebuild .empty document diagnostics =
      .ok (session, editor)) (hget : session.tracker.get? key = some entry) :
    entry.displayed = false ∧ entry.diagnostic.codeName? = some key.code ∧
      key.code ∈ Handlers.trackedCodes ∧
      (entry.hinted = false → ∃ sketch,
        Handlers.standard.renderers.get? key.code = some (Renderer.ofSketch sketch)) := by
  obtain ⟨tracker, made, htracker, hstate⟩ := rebuild_eq_ok_iff.1 h
  obtain rfl := (Prod.mk.inj hstate).1
  have hentries := Tracker.entriesOf_of_rebuild_empty htracker
  -- the entry is that of the last diagnostic at its key, which has the code of the key
  obtain ⟨hsupports, d, hlast, rfl⟩ := Tracker.exists_of_get?_entriesOf hentries hget
  obtain ⟨hkey, -⟩ := Tracker.lastAt?_eq_some_iff.1 hlast
  refine ⟨rfl, (Diagnostic.key?_eq_some_iff.1 hkey).2, Handlers.supports_standard_iff.1 hsupports,
    fun hhinted => ?_⟩
  -- a code without a hinter is supported by its renderer
  have hhinters : Handlers.standard.hinters.contains key.code = false := hhinted
  have hcontains : Handlers.standard.renderers.contains key.code = true := by
    have hsupports : Handlers.standard.supports key.code = true := hsupports
    rwa [Handlers.supports, hhinters, Bool.or_false] at hsupports
  obtain ⟨renderer, hrenderer⟩ := Option.isSome_iff_exists.1 hcontains
  obtain ⟨sketch, -, rfl⟩ := Handlers.exists_of_get?_standardRenderers hrenderer
  exact ⟨sketch, hrenderer⟩

end Session

namespace Export

open Drawing

variable {session : Session} {editor : Editor} {document : LineView} {key : Key} {entry : Entry}

/-! ## Agreement on an entry -/

/-- **How an export and a session agree on an entry.** The export writes the given files, with their
contents, and makes the given remarks; toggling the entry in the session comes to the same. -/
inductive Agrees (session : Session) (editor : Editor) (document : LineView) (key : Key)
    (entry : Entry) : List (String × String) → List (Key × String) → Prop where
  /-- The entry has hints, and there is nothing to write or to remark. -/
  | hinted (hhinted : entry.hinted = true)
      (htoggle : (session.toggle editor document key).1 = .hinted) :
    Agrees session editor document key entry [] []
  /-- The sketch is shown. What is in the two files is what the addresses contain that are attached
  on the layer of the entry, the dark one first. -/
  | drawn {dark light : String} {shown : Entry} {layer : LayerId} {decoration : Decoration}
      {images : ThemedAttachment} (hhinted : entry.hinted = false)
      (htoggle : (session.toggle editor document key).1 = .shown)
      (hentry : (session.toggle editor document key).2.1.tracker.get? key = some shown)
      (hlayer : shown.layer = some layer)
      (hdecorations :
        (session.toggle editor document key).2.2.decorations layer = [decoration])
      (himages : decoration.attachment = some images)
      (hdark : IsAddressOf images.dark.uri dark) (hlight : IsAddressOf images.light.uri light) :
    Agrees session editor document key entry
      [(imageFile key .dark, dark), (imageFile key .light, light)] []
  /-- The renderer does not understand the diagnostic, for the reason remarked. -/
  | inapplicable {context : Option String} (hhinted : entry.hinted = false)
      (htoggle : (session.toggle editor document key).1 = .inapplicable context) :
    Agrees session editor document key entry [] [(key, context.getD "not applicable")]
  /-- The renderer fails, for the reason remarked. -/
  | failed {context : String} (hhinted : entry.hinted = false)
      (htoggle : (session.toggle editor document key).1 = .failed context) :
    Agrees session editor document key entry [] [(key, context)]

/-- The files for an entry are some of those that it may have, in order. -/
theorem Agrees.sublist {files : List (String × String)} {remarks : List (Key × String)}
    (h : Agrees session editor document key entry files remarks) :
    (files.map Prod.fst).Sublist (Theme.all.map (imageFile key)) := by
  cases h with
  | drawn => exact .refl _
  | hinted => exact List.nil_sublist _
  | inapplicable => exact List.nil_sublist _
  | failed => exact List.nil_sublist _

/-- The jobs for an entry without hints are those for its sketch. -/
theorem jobsOf_ofSketch {sketch : LineView → Diagnostic → Outcome Sketch}
    (hhinted : entry.hinted = false)
    (hrenderer : session.handlers.renderers.get? key.code = some (Renderer.ofSketch sketch))
    (document : LineView) :
    jobsOf session document key entry =
      match sketch document entry.diagnostic with
      | .success plan => Theme.all.map fun theme =>
          .write (imageFile key theme) (plan.picture session.config theme).image.markup
      | .inapplicable context => [.skip key (context.getD "not applicable")]
      | .failed context => [.skip key context] := by
  rw [jobsOf, hhinted, if_neg Bool.false_ne_true, hrenderer]
  exact entryJobs_ofSketch sketch ⟨document, session.config⟩ entry.diagnostic key

/-- **The jobs for an entry agree with the session.** -/
theorem agrees_jobsOf (hkept : Session.Kept (session, editor) [])
    (hget : session.tracker.get? key = some entry) (hdisplayed : entry.displayed = false)
    (hcode : entry.diagnostic.codeName? = some key.code)
    (hrenderer : entry.hinted = false → ∃ sketch,
      session.handlers.renderers.get? key.code = some (Renderer.ofSketch sketch)) :
    Agrees session editor document key entry
      ((jobsOf session document key entry).filterMap Job.file?)
      ((jobsOf session document key entry).filterMap Job.skipped?) := by
  have htoggle := Session.toggle_of_hidden hget hdisplayed editor document
  have hshowing := session.tracker.showing editor (session.scope document) key
  have hanswer : (session.toggle editor document key).1 =
      Tracker.answerFor (session.scope document) entry := by
    rw [htoggle]
    exact hshowing.answer_eq hget
  unfold Tracker.answerFor at hanswer
  -- what is answered follows the same distinctions as the jobs: the hints, then the sketch
  cases hhinted : entry.hinted with
  | true =>
    rw [hhinted, if_pos rfl] at hanswer
    rw [jobsOf, if_pos hhinted]
    exact .hinted hhinted hanswer
  | false =>
    obtain ⟨sketch, hsketch⟩ := hrenderer hhinted
    have hpicture : Tracker.picture (session.scope document) entry =
        (sketch document entry.diagnostic).map fun plan =>
          decorationOf (plan.picture session.config .dark) (plan.picture session.config .light) :=
      illustrate_ofSketch ⟨document, session.config⟩ hcode hsketch
    rw [hhinted, if_neg Bool.false_ne_true, hpicture] at hanswer
    rw [jobsOf_ofSketch hhinted hsketch]
    cases hplan : sketch document entry.diagnostic with
    | inapplicable context =>
      rw [hplan] at hanswer
      exact .inapplicable hhinted hanswer
    | failed context =>
      rw [hplan] at hanswer
      exact .failed hhinted hanswer
    | success plan =>
      rw [hplan] at hanswer hpicture
      obtain ⟨layer, hshown⟩ := hshowing.exists_shown hget hhinted hpicture
      have hentry : (session.toggle editor document key).2.1.tracker.get? key =
          some (entry.shown layer (decorationOf (plan.picture session.config .dark)
            (plan.picture session.config .light))) := by
        rw [htoggle]
        exact hshown
      -- the session is right about the layer, so the decoration is there
      have hkept := hkept.toggle document key
      have hlayer := Tracker.Kept.layer?_eq hkept hentry rfl
      exact .drawn hhinted hanswer hentry rfl hlayer.2 rfl (Svg.isAddressOf_uri _)
        (Svg.isAddressOf_uri _)

/-! ## Files -/

/-- Files of different names have different paths in one directory. -/
theorem joinPath_injective (directory : String) : Function.Injective (joinPath directory) := by
  intro file other h
  unfold joinPath at h
  split at h
  · exact h
  · split at h
    · exact (String.append_right_inj _).1 h
    · exact (String.append_right_inj _).1 h

/-- The names that the files for several entries may have, by key and theme. -/
def imageFiles (keys : List Key) : List String :=
  keys.flatMap fun key => Theme.all.map (imageFile key)

/-- No name occurs twice among them. -/
theorem nodup_imageFiles {keys : List Key} (h : keys.Nodup) : (imageFiles keys).Nodup := by
  rw [imageFiles, List.nodup_flatMap]
  constructor
  · intro key _
    refine List.Nodup.map ?_ (by decide)
    exact fun theme other hsame => (imageFile_injective hsame).2
  · refine h.imp fun {key other} hne => ?_
    intro file hfile hother
    obtain ⟨theme, -, rfl⟩ := List.mem_map.1 hfile
    obtain ⟨otherTheme, -, hsame⟩ := List.mem_map.1 hother
    exact hne (imageFile_injective hsame).1.symm

/-- The codes of diagnostics that are kept track of are no paths. -/
theorem slash_notMem_of_mem {code : String} (h : code ∈ Handlers.trackedCodes) :
    '/' ∉ code.toList := by
  have hall : ∀ code ∈ Handlers.trackedCodes, '/' ∉ code.toList := by decide
  exact hall code h

/-! ## Agreement on all entries -/

/-- The files and the remarks for each entry. -/
def yields (session : Session) (document : LineView) :
    List (List (String × String) × List (Key × String)) :=
  session.tracker.entries.toList.map fun entry =>
    ((jobsOf session document entry.1 entry.2).filterMap Job.file?,
      (jobsOf session document entry.1 entry.2).filterMap Job.skipped?)

/-- The files for the entries are those of all jobs. -/
theorem flatMap_yields_fst (session : Session) (document : LineView) :
    (yields session document).flatMap Prod.fst =
      (jobs session document).filterMap Job.file? := by
  rw [yields, List.flatMap_map, jobs_eq, List.filterMap_flatMap]

/-- The remarks for the entries are those of all jobs. -/
theorem flatMap_yields_snd (session : Session) (document : LineView) :
    (yields session document).flatMap Prod.snd =
      (jobs session document).filterMap Job.skipped? := by
  rw [yields, List.flatMap_map, jobs_eq, List.filterMap_flatMap]

/-- What is reported as written are the paths of the files for the entries. -/
theorem written_afterJobs (session : Session) (document : LineView) (directory : String)
    (tracked : Nat) (hints : List Hint) :
    (Report.afterJobs directory ⟨tracked, [], [], hints⟩ (jobs session document)).written =
      ((yields session document).flatMap Prod.fst).map fun file => joinPath directory file.1 := by
  rw [flatMap_yields_fst]
  exact List.nil_append _

/-- What is reported as skipped are the remarks for the entries. -/
theorem skipped_afterJobs (session : Session) (document : LineView) (directory : String)
    (tracked : Nat) (hints : List Hint) :
    (Report.afterJobs directory ⟨tracked, [], [], hints⟩ (jobs session document)).skipped =
      (yields session document).flatMap Prod.snd := by
  rw [flatMap_yields_snd]
  exact List.nil_append _

/-- **Agreement on all entries** of a session that has seen nothing but some diagnostics. -/
theorem agrees_yields {config : Config} {diagnostics : List Diagnostic}
    (hrebuild : (Session.start .standard config .standard).rebuild .empty document diagnostics =
      .ok (session, editor)) :
    List.Forall₂ (fun entry yield =>
        Agrees session editor document entry.1 entry.2 yield.1 yield.2)
      session.tracker.entries.toList (yields session document) := by
  have hkept : Session.Kept (session, editor) [] :=
    (Session.kept_start .standard config .standard).rebuild hrebuild
  have hhandlers : session.handlers = .standard :=
    congrArg Prod.fst (Session.settings_rebuild hrebuild)
  rw [yields, List.forall₂_map_right_iff, List.forall₂_same]
  rintro ⟨key, entry⟩ hmem
  have hget : session.tracker.get? key = some entry := KeyMap.mem_toList_iff.1 hmem
  obtain ⟨hdisplayed, hcode, -, hsketch⟩ := Session.entry_of_start hrebuild hget
  rw [← hhandlers] at hsketch
  exact agrees_jobsOf hkept hget hdisplayed hcode hsketch

/-- The files on which there is agreement are some of those that the entries may have, in order. -/
theorem sublist_imageFiles {entries : List (Key × Entry)}
    {yields : List (List (String × String) × List (Key × String))}
    (h : List.Forall₂ (fun entry yield =>
      Agrees session editor document entry.1 entry.2 yield.1 yield.2) entries yields) :
    ((yields.flatMap Prod.fst).map Prod.fst).Sublist (imageFiles (entries.map Prod.fst)) := by
  induction h with
  | nil => exact .refl _
  | cons hagrees _ ih =>
    rw [List.flatMap_cons, List.map_append]
    exact hagrees.sublist.append ih

/-- Every file on which there is agreement has a name that is no path. -/
theorem isFileName_of_mem_yields {config : Config} {diagnostics : List Diagnostic}
    (hrebuild : (Session.start .standard config .standard).rebuild .empty document diagnostics =
      .ok (session, editor)) {file : String × String}
    (hfile : file ∈ (yields session document).flatMap Prod.fst) : IsFileName file.1 := by
  have hsublist := sublist_imageFiles (agrees_yields hrebuild)
  obtain ⟨key, hkey, hname⟩ := List.mem_flatMap.1 (hsublist.subset (List.mem_map_of_mem hfile))
  obtain ⟨theme, -, hname⟩ := List.mem_map.1 hname
  obtain ⟨entry, hget⟩ := KeyMap.mem_keys_iff.1 hkey
  obtain ⟨-, -, hcode, -⟩ := Session.entry_of_start hrebuild hget
  rw [← hname]
  exact isFileName_imageFile (slash_notMem_of_mem hcode) theme

/-! ## Running -/

/-- A file that holds a text is read as that text, and stays as it is. -/
theorem readText_eq {tree : FileTree} {path text : String}
    (h : tree.readBytes path = .ok text.toUTF8) :
    (readText path : StateM FileTree _) tree = (.ok text, tree) := by
  have htext : String.fromUTF8? text.toUTF8 = some text := dif_pos text.isValidUTF8
  rw [readText]
  simp only [bind, StateT.bind, FileAccess.readBytes, pure, h, htext]
  rfl

/-- An export whose files are read goes on with what they hold. -/
theorem run_eq_writeImages (arguments : Arguments) (config : Config) {tree : FileTree}
    {source text : String} {value : Json}
    (hsource : tree.readBytes arguments.source = .ok source.toUTF8)
    (htext : tree.readBytes arguments.diagnostics = .ok text.toUTF8)
    (hvalue : Json.read? text = some value) :
    (run arguments config : StateM FileTree _) tree =
      (writeImages arguments config ⟨source⟩ value : StateM FileTree _) tree := by
  rw [run]
  simp only [bind, StateT.bind, readText_eq hsource, readText_eq htext, hvalue]

/-- An export whose diagnostics are understood creates the directory and does its jobs. -/
theorem writeImages_eq (arguments : Arguments) {config : Config} {tree : FileTree}
    {document : Document} {value : Json} {diagnostics : List Diagnostic}
    (hdiagnostics : Published.diagnosticsOfJson? value document.view = some diagnostics)
    (hrebuild : (Session.start .standard config .standard).rebuild .empty document.view
      diagnostics = .ok (session, editor)) :
    (writeImages arguments config document value : StateM FileTree _) tree =
      match (createDirectories arguments.outDirectory : StateM FileTree _) tree with
      | (.error error, made) => (.error (.file arguments.outDirectory error), made)
      | (.ok (), made) =>
        (perform arguments.outDirectory
          ⟨session.tracker.entries.size, [], [], session.board.hints⟩
          (jobs session document.view) : StateM FileTree _) made := by
  rw [writeImages]
  simp only [hdiagnostics, hrebuild, bind, StateT.bind]
  generalize (createDirectories arguments.outDirectory : StateM FileTree _) tree = created
  obtain ⟨answer, made⟩ := created
  cases answer <;> rfl

/-- **What an export comes to** whose diagnostics are understood. The directory is created, all jobs
are done and reported; or some operation on a file fails. -/
theorem run_cases (arguments : Arguments) {config : Config} {tree : FileTree}
    {source text : String} {value : Json} {diagnostics : List Diagnostic}
    (hsource : tree.readBytes arguments.source = .ok source.toUTF8)
    (htext : tree.readBytes arguments.diagnostics = .ok text.toUTF8)
    (hvalue : Json.read? text = some value)
    (hdiagnostics :
      Published.diagnosticsOfJson? value (Document.view ⟨source⟩) = some diagnostics)
    (hrebuild : (Session.start .standard config .standard).rebuild .empty (Document.view ⟨source⟩)
      diagnostics = .ok (session, editor)) :
    (∃ made after,
      (createDirectories arguments.outDirectory : StateM FileTree _) tree = (.ok (), made) ∧
      made.Writes (((jobs session (Document.view ⟨source⟩)).filterMap Job.file?).map fun file =>
        (joinPath arguments.outDirectory file.1, file.2)) after ∧
      (run arguments config : StateM FileTree _) tree =
        (.ok (Report.afterJobs arguments.outDirectory
          ⟨session.tracker.entries.size, [], [], session.board.hints⟩
          (jobs session (Document.view ⟨source⟩))), after)) ∨
    ∃ path error after,
      (run arguments config : StateM FileTree _) tree = (.error (.file path error), after) := by
  have hrun := (run_eq_writeImages arguments config hsource htext hvalue).trans
    (writeImages_eq arguments hdiagnostics hrebuild)
  cases hcreated : (createDirectories arguments.outDirectory : StateM FileTree _) tree with
  | mk answer made =>
    rw [hcreated] at hrun
    cases answer with
    | error error => exact .inr ⟨arguments.outDirectory, error, made, hrun⟩
    | ok _ =>
      rcases perform_cases arguments.outDirectory
        ⟨session.tracker.entries.size, [], [], session.board.hints⟩
        (jobs session (Document.view ⟨source⟩)) made with
        ⟨after, hwrites, hperform⟩ | ⟨path, error, after, hperform⟩
      · exact .inl ⟨made, after, rfl, hwrites, hrun.trans hperform⟩
      · exact .inr ⟨path, error, after, hrun.trans hperform⟩

/-- **An export does what a session shows.** Take any program, any diagnostics that are understood,
any measures and any files, as long as no operation on a file fails. Then the export ends with a
report. Its count is that of the entries of a session that is given the document and the
diagnostics. For each of these entries, in the order of their keys, the export and the session
agree: there is nothing for an entry with hints; there are two files, the dark one first, with the
markup that the addresses contain which toggling the entry attaches; or there is no file and one
remark, with the reason for which toggling shows nothing. Nothing else is written; the paths are in
the order of keys and themes, no two of them the same; and what was written to a file is in it
afterwards. -/
theorem run_agrees (arguments : Arguments) (config : Config) (tree : FileTree)
    (source text : String) (value : Json) (diagnostics : List Diagnostic)
    (hsource : tree.readBytes arguments.source = .ok source.toUTF8)
    (htext : tree.readBytes arguments.diagnostics = .ok text.toUTF8)
    (hvalue : Json.read? text = some value)
    (hdiagnostics :
      Published.diagnosticsOfJson? value (Document.view ⟨source⟩) = some diagnostics)
    (hfiles : ∀ path error,
      ((run arguments config : StateM FileTree _) tree).1 ≠ .error (.file path error)) :
    let document := Document.view ⟨source⟩
    let path := joinPath arguments.outDirectory
    ∃ (report : Report) (made after : FileTree) (session : Session) (editor : Editor)
      (yields : List (List (String × String) × List (Key × String))),
      (run arguments config : StateM FileTree _) tree = (.ok report, after) ∧
      (createDirectories arguments.outDirectory : StateM FileTree _) tree = (.ok (), made) ∧
      (Session.start .standard config .standard).update .empty "rust" document diagnostics =
        (.ok true, session, editor) ∧
      report.tracked = session.tracker.entries.size ∧
      List.Forall₂ (fun entry yield =>
          Agrees session editor document entry.1 entry.2 yield.1 yield.2)
        session.tracker.entries.toList yields ∧
      report.written = (yields.flatMap Prod.fst).map (fun file => path file.1) ∧
      report.skipped = yields.flatMap Prod.snd ∧
      made.Writes ((yields.flatMap Prod.fst).map fun file => (path file.1, file.2)) after ∧
      (∀ file ∈ yields.flatMap Prod.fst, after.readBytes (path file.1) = .ok file.2.toUTF8) ∧
      report.written.Sublist ((imageFiles session.tracker.entries.keys).map path) ∧
      report.written.Nodup := by
  intro document path
  obtain ⟨⟨session, editor⟩, hrebuild⟩ :=
    (Session.start .standard config .standard).exists_rebuild_eq_ok .empty document diagnostics
  have hupdate : (Session.start .standard config .standard).update .empty "rust" document
      diagnostics = (.ok true, session, editor) := by
    have hlanguage : "rust" = (Session.start .standard config .standard).options.language := rfl
    rw [Session.update, if_pos hlanguage, hrebuild]
  have hagrees := agrees_yields hrebuild
  -- the names of the files are names, and no two of them are the same
  have hsublist := sublist_imageFiles hagrees
  have hnodup := hsublist.nodup (nodup_imageFiles session.tracker.entries.nodup_keys)
  have hnames : ∀ file ∈ (yields session document).flatMap Prod.fst, IsFileName file.1 :=
    fun file hfile => isFileName_of_mem_yields hrebuild hfile
  rcases run_cases arguments hsource htext hvalue hdiagnostics hrebuild with
    ⟨made, after, hcreated, hwrites, hrun⟩ | ⟨failed, error, after, hrun⟩
  · rw [← flatMap_yields_fst session document] at hwrites
    have hwritten := written_afterJobs session document arguments.outDirectory
      session.tracker.entries.size session.board.hints
    have hpaths := hwritten.trans (List.map_map (g := path) (f := Prod.fst)).symm
    refine ⟨_, made, after, session, editor, yields session document, hrun, hcreated, hupdate, rfl,
      hagrees, hwritten, ?_, hwrites, hwrites.readBytes_eq hnames hnodup, ?_, ?_⟩
    · exact skipped_afterJobs session document arguments.outDirectory
        session.tracker.entries.size session.board.hints
    · rw [hpaths]
      exact hsublist.map path
    · rw [hpaths]
      exact hnodup.map (joinPath_injective arguments.outDirectory)
  · exact absurd (congrArg Prod.fst hrun) (hfiles failed error)

set_option maxRecDepth 10000 in
/-- Of a closure that escapes there are two files, and the session agrees. -/
theorem run_agrees_closure :
    let d : Diagnostic := ⟨⟨⟨0, 0⟩, ⟨0, 1⟩⟩, some .error, some (.documented (.name "E0373") none),
      some "rustc", "closure may outlive the current function, but it borrows `x`,", []⟩
    let value : Json := .array [.object [("code", .object [("value", .string "E0373")]),
      ("message", .string "closure may outlive the current function, but it borrows `x`,"),
      ("range", .object [("end", .object [("character", .int 1), ("line", .int 0)]),
        ("start", .object [("character", .int 0), ("line", .int 0)])]),
      ("severity", .int 1), ("source", .string "rustc")]]
    let document := Document.view ⟨"|| x"⟩
    let arguments : Arguments := ⟨"main.rs", "errors.json", "out"⟩
    let tree : FileTree :=
      .ofFiles [("main.rs", "|| x".toUTF8), ("errors.json", value.text.toUTF8)]
    let written := ["out/0_E0373.dark.svg", "out/0_E0373.light.svg"]
    tree.readBytes arguments.source = .ok "|| x".toUTF8 ∧
    tree.readBytes arguments.diagnostics = .ok value.text.toUTF8 ∧
    Json.read? value.text = some value ∧
    Published.diagnosticsOfJson? value document = some [d] ∧
    ((run arguments .standard : StateM FileTree _) tree).1 = .ok ⟨1, written, [], []⟩ ∧
    ∃ (session : Session) (editor : Editor)
      (yields : List (List (String × String) × List (Key × String))),
      (Session.start .standard .standard .standard).update .empty "rust" document [d] =
        (.ok true, session, editor) ∧
      List.Forall₂ (fun entry yield =>
          Agrees session editor document entry.1 entry.2 yield.1 yield.2)
        session.tracker.entries.toList yields ∧
      (yields.flatMap Prod.fst).map (fun file => joinPath "out" file.1) = written := by
  intro d value document arguments tree written
  have hfilesOf : ∀ source text : ByteArray,
      FileTree.ofFiles [("main.rs", source), ("errors.json", text)] =
        ⟨[(["main.rs"], .file source), (["errors.json"], .file text)]⟩ := by
    intro source text
    refine FileTree.ofFiles_of_isFileName ?_ (by simp)
    simpa using ⟨⟨by decide, by decide⟩, ⟨by decide, by decide⟩⟩
  -- the files are read and written whatever is in them
  have hread : ∀ source text : ByteArray,
      let tree := FileTree.ofFiles [("main.rs", source), ("errors.json", text)]
      tree.readBytes "main.rs" = .ok source ∧ tree.readBytes "errors.json" = .ok text := by
    intro source text
    rw [hfilesOf]
    exact ⟨by with_unfolding_all rfl, by with_unfolding_all rfl⟩
  have hwrite : ∀ (source text : ByteArray) (dark light : String), ∃ made after,
      (createDirectories "out" : StateM FileTree _)
        (.ofFiles [("main.rs", source), ("errors.json", text)]) = (.ok (), made) ∧
      (perform "out" ⟨1, [], [], []⟩
        [.write "0_E0373.dark.svg" dark, .write "0_E0373.light.svg" light] :
          StateM FileTree _) made = (.ok ⟨1, written, [], []⟩, after) := by
    intro source text dark light
    rw [hfilesOf]
    exact ⟨_, _, by with_unfolding_all rfl, by with_unfolding_all rfl⟩
  obtain ⟨hsource, htext⟩ := hread "|| x".toUTF8 value.text.toUTF8
  have hvalue : Json.read? value.text = some value := by
    have hzero : (toString (0 : Int)).toList = ['0'] := by decide
    have hone : (toString (1 : Int)).toList = ['1'] := by decide
    -- the text is read as a list of characters, not decoded from its bytes
    rw [Json.read?]
    simp only [value, Json.text, Json.itemsText, Json.membersText, Json.quoted, hzero, hone,
      String.toList_append, String.toList_ofList, String.reduceToList, List.flatMap_cons,
      List.flatMap_nil, List.cons_append, List.nil_append, List.append_assoc]
    with_unfolding_all rfl
  have hdiagnostics : Published.diagnosticsOfJson? value document = some [d] := rfl
  obtain ⟨session, editor, hrebuild, dark, light, hjobs, hsize, hhints⟩ :
      ∃ session editor, (Session.start .standard .standard .standard).rebuild .empty document [d] =
        .ok (session, editor) ∧
      ∃ dark light, jobs session document =
          [.write "0_E0373.dark.svg" dark, .write "0_E0373.light.svg" light] ∧
        session.tracker.entries.size = 1 ∧ session.board.hints = [] := by
    -- a closed term is evaluated once, one with a local definition in it again and again
    dsimp only [d, document]
    exact ⟨_, _, rfl, _, _, by with_unfolding_all rfl, by with_unfolding_all rfl,
      by with_unfolding_all rfl⟩
  have hrun :
      ((run arguments .standard : StateM FileTree _) tree).1 = .ok ⟨1, written, [], []⟩ := by
    obtain ⟨made, after, hcreated, hperform⟩ :=
      hwrite "|| x".toUTF8 value.text.toUTF8 dark light
    rw [run_eq_writeImages arguments .standard hsource htext hvalue,
      writeImages_eq arguments hdiagnostics hrebuild, hcreated, hjobs, hsize, hhints]
    exact congrArg Prod.fst hperform
  have hfiles : ∀ path error,
      ((run arguments .standard : StateM FileTree _) tree).1 ≠ .error (.file path error) := by
    intro path error
    rw [hrun]
    nofun
  obtain ⟨report, made, after, session, editor, yields, hreport, -, hupdate, -, hagrees,
      hwritten, -⟩ :=
    run_agrees arguments .standard tree "|| x" value.text value [d] hsource htext hvalue
      hdiagnostics hfiles
  refine ⟨hsource, htext, hvalue, hdiagnostics, hrun, session, editor, yields, hupdate, hagrees,
    ?_⟩
  rw [hreport] at hrun
  exact hwritten.symm.trans (congrArg Report.written (Except.ok.inj hrun))

end Export
end BorrowSketch
