import BorrowSketch.Proofs.Diagnostic.Published
import BorrowSketch.Proofs.Session.Handling
import BorrowSketch.Proofs.Tracker.Showing

/-! # From a publication to what is tracked

A language server publishes a JSON array; the session keeps track of what the array reports. Reading
the array, counting positions in characters, picking the diagnostics that count and keeping the last
of each key each drop something; together they leave exactly the errors that the array reports.

* **`Session.diagnostic_of_rebuild`** — what stands under a key once the diagnostics are replaced.
* **`Published.counted?`** — the diagnostic that counts, of an item of a publication.
* **`Session.update_published`** — what is tracked after a publication takes effect. -/

namespace BorrowSketch

/-- **What stands under each key** once the diagnostics are replaced: the last diagnostic with the
key that counts. -/
theorem Session.diagnostic_of_rebuild {session : Session} {editor : Editor} {document : LineView}
    {diagnostics : List Diagnostic} {state : Session × Editor}
    (h : session.rebuild editor document diagnostics = .ok state) (key : Key) :
    (state.1.tracker.get? key).map Entry.diagnostic =
      Tracker.lastAt? key (session.accepted diagnostics) := by
  obtain ⟨tracker, made, hrebuild, rfl⟩ := Session.rebuild_eq_ok_iff.1 h
  obtain ⟨entries, hentries⟩ : ∃ entries, Tracker.entriesOf (session.scope document).handlers
      (session.accepted diagnostics) = .ok entries :=
    Tracker.exists_entriesOf_eq_ok fun d => Session.isSome_codeName?_of_mem_accepted
  rw [Tracker.rebuild_eq_ok session.tracker editor hentries] at hrebuild
  obtain ⟨rfl, -⟩ := Prod.mk.inj (Except.ok.inj hrebuild)
  refine (Tracker.diagnostic_reshown session.tracker editor (session.scope document) entries
    key).trans ?_
  rw [Tracker.get?_entriesOf hentries]
  -- what counts has a code with a handler, so nothing is dropped for the lack of one
  cases hlast : Tracker.lastAt? key (session.accepted diagnostics) with
  | none => simp
  | some d =>
    obtain ⟨hkey, before, after, hsplit, -⟩ := Tracker.lastAt?_eq_some_iff.1 hlast
    have haccepts : session.handlers.accepts d session.options.source = true := by
      have hmem : d ∈ session.accepted diagnostics := by simp [hsplit]
      exact (List.mem_filter.1 hmem).2
    have hsupports : (session.scope document).handlers.supports key.code = true := by
      rw [Handlers.accepts, (Diagnostic.key?_eq_some_iff.1 hkey).2, Option.any_some,
        Bool.and_eq_true] at haccepts
      exact haccepts.2
    rw [if_pos hsupports]
    rfl

/-! ## Publications -/

namespace Published

/-- The diagnostic of an item, with its positions counted in characters, if it is one that counts
unless other handlers and another source are chosen. -/
def counted? (uri : String) (document : LineView) (item : Json) : Option Diagnostic :=
  ((Diagnostic.ofJson? item).map (·.mapPositions uri (Position.toCharacters document))).filter
    fun d => Handlers.standard.accepts d "rustc"

/-- What counts of a publication is what counts of its items. -/
theorem filter_accepts_toCharacters (uri : String) (version : Option Int) (items : List Json)
    (document : LineView) :
    ((toCharacters ⟨uri, version, Diagnostic.listOfJson (.array items)⟩ document).diagnostics.filter
        fun d => Handlers.standard.accepts d "rustc") =
      items.filterMap (counted? uri document) := by
  simp only [toCharacters, mapPositions, Diagnostic.listOfJson, Json.asArray?, Option.getD_some,
    List.map_filterMap, List.filter_filterMap]
  rfl

/-- **An item counts under a key** exactly if it reports an error under it. -/
theorem exists_counted?_iff (uri : String) (document : LineView) {item : Json} {key : Key} :
    (∃ d, counted? uri document item = some d ∧ d.key? = some key) ↔ item.Reports key := by
  rw [Json.reports_iff]
  simp only [counted?, Option.filter_eq_some_iff, Option.map_eq_some_iff]
  constructor
  · rintro ⟨_, ⟨⟨d, hread, rfl⟩, haccepts⟩, hkey⟩
    obtain ⟨hsame, -, hcounts⟩ := d.tracked_mapPositions uri document
    exact ⟨d, hread, hsame ▸ hkey, hcounts _ _ ▸ haccepts⟩
  · rintro ⟨d, hread, hkey, haccepts⟩
    obtain ⟨hsame, -, hcounts⟩ := d.tracked_mapPositions uri document
    exact ⟨_, ⟨⟨d, hread, rfl⟩, (hcounts _ _).trans haccepts⟩, hsame.trans hkey⟩

/-- The diagnostic that counts has the message of its item. -/
theorem message_of_counted? {uri : String} {document : LineView} {item : Json} {d : Diagnostic}
    (h : counted? uri document item = some d) : d.message = item.messageText := by
  obtain ⟨hmade, -⟩ := Option.filter_eq_some_iff.1 h
  obtain ⟨read, hread, rfl⟩ := Option.map_eq_some_iff.1 hmade
  obtain ⟨-, hmessage, -⟩ := read.tracked_mapPositions uri document
  exact hmessage.trans (Diagnostic.message_of_ofJson? hread)

/-- Something counts under a key exactly if an item reports an error under it. -/
theorem exists_lastAt?_counted?_iff (uri : String) (document : LineView) {items : List Json}
    {key : Key} :
    (∃ d, Tracker.lastAt? key (items.filterMap (counted? uri document)) = some d) ↔
      ∃ item ∈ items, item.Reports key := by
  rw [Tracker.exists_lastAt?_iff]
  simp only [← exists_counted?_iff uri document, List.mem_filterMap]
  constructor
  · rintro ⟨d, ⟨item, hitem, hcounted⟩, hkey⟩
    exact ⟨item, hitem, d, hcounted, hkey⟩
  · rintro ⟨item, hitem, d, hcounted, hkey⟩
    exact ⟨d, ⟨item, hitem, hcounted⟩, hkey⟩

/-- The last diagnostic that counts under a key has the message of the last item that reports an
error under it. -/
theorem last_of_lastAt?_counted? {uri : String} {document : LineView} {items : List Json}
    {key : Key} {d : Diagnostic}
    (h : Tracker.lastAt? key (items.filterMap (counted? uri document)) = some d) :
    ∃ before item rest, items = before ++ item :: rest ∧ item.Reports key ∧
      (∀ other ∈ rest, ¬ other.Reports key) ∧ d.message = item.messageText := by
  obtain ⟨before, item, rest, hsplit, hcounted, hkey, hrest⟩ :=
    Tracker.lastAt?_filterMap_eq_some_iff.1 h
  have hreports : item.Reports key := (exists_counted?_iff uri document).1 ⟨d, hcounted, hkey⟩
  refine ⟨before, item, rest, hsplit, hreports, fun other hother hlater => ?_,
    message_of_counted? hcounted⟩
  -- an item behind that reported something would count as well
  obtain ⟨later, hcountedLater, hkeyLater⟩ := (exists_counted?_iff uri document).2 hlater
  exact hrest other hother later hcountedLater hkeyLater

end Published

/-- **From a publication to what is tracked.** Whatever a session with the standard handlers and
options has tracked so far, and whatever the document, the diagnostics of a JSON array take effect
when they are published for a document of the language. Afterwards the keys are exactly those under
which an item of the array reports an error, and the message under a key is that of the last such
item. What other items look like does not matter. -/
theorem Session.update_published (config : Config) (tracker : Tracker) (board : HintBoard)
    (due : Option Nat) (editor : Editor) (document : LineView) (uri : String)
    (version : Option Int) (items : List Json) :
    let session : Session := { Session.start .standard config .standard with
      tracker := tracker, board := board, due := due }
    let published : Published := ⟨uri, version, Diagnostic.listOfJson (.array items)⟩
    ∃ after made,
      session.update editor "rust" document (published.toCharacters document).diagnostics =
        (.ok true, after, made) ∧
      (∀ key, key ∈ after.tracker.entries.keys ↔ ∃ item ∈ items, item.Reports key) ∧
      ∀ key entry, after.tracker.get? key = some entry →
        ∃ before item rest, items = before ++ item :: rest ∧ item.Reports key ∧
          (∀ other ∈ rest, ¬ other.Reports key) ∧
          entry.diagnostic.message = item.messageText := by
  intro session published
  obtain ⟨⟨after, made⟩, hrebuild⟩ := session.exists_rebuild_eq_ok editor document
    (published.toCharacters document).diagnostics
  have haccepted : session.accepted (published.toCharacters document).diagnostics =
      items.filterMap (Published.counted? uri document) :=
    Published.filter_accepts_toCharacters uri version items document
  have hlast : ∀ key, (after.tracker.get? key).map Entry.diagnostic =
      Tracker.lastAt? key (items.filterMap (Published.counted? uri document)) := by
    intro key
    rw [← haccepted]
    exact Session.diagnostic_of_rebuild hrebuild key
  refine ⟨after, made, ?_, fun key => ?_, fun key entry hget => ?_⟩
  · have hlanguage : "rust" = session.options.language := rfl
    rw [Session.update, if_pos hlanguage, hrebuild]
  · rw [← Published.exists_lastAt?_counted?_iff uri document, ← hlast key, KeyMap.mem_keys_iff]
    simp only [Option.map_eq_some_iff, exists_eq_right', exists_comm (α := Diagnostic)]
    rfl
  · have hentry : Tracker.lastAt? key (items.filterMap (Published.counted? uri document)) =
        some entry.diagnostic := by
      rw [← hlast key, hget]
      rfl
    exact Published.last_of_lastAt?_counted? hentry

end BorrowSketch
