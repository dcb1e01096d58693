import BorrowSketch.Proofs.KeyMap.Lookup
import BorrowSketch.Tracker.Operation
import Mathlib.Data.List.Induction

/-! # The entries made of diagnostics

A list of diagnostics makes one entry for every key that occurs in it and whose code has a handler;
of several diagnostics with one key the last is kept.

* **`Diagnostic.key?`** — where a diagnostic is tracked.
* **`Tracker.lastAt?`** — the last diagnostic of a list under a key.
* **`Tracker.get?_entriesOf`** — the entries of a list of diagnostics, by key.
* **`Tracker.rebuild_eq_ok`** — what becomes of a tracker when they replace its entries. -/

namespace BorrowSketch

/-- Keys are told apart by their order. -/
instance : Std.LawfulEqOrd Key where
  compare_self := Std.ReflOrd.compare_self
  eq_of_compare {a b} h := by
    obtain ⟨hline, hcode⟩ := compareLex_eq_eq.1 h
    obtain ⟨line, code⟩ := a
    simp only [compareOn, Std.LawfulEqOrd.compare_eq_iff_eq] at hline hcode
    rw [hline, hcode]

/-- The key under which a diagnostic with a documented code is tracked. -/
def Diagnostic.key? (d : Diagnostic) : Option Key :=
  d.codeName?.map fun code => ⟨d.line, code⟩

@[simp] theorem Diagnostic.key?_eq_some_iff {d : Diagnostic} {key : Key} :
    d.key? = some key ↔ d.line = key.line ∧ d.codeName? = some key.code := by
  obtain ⟨line, code⟩ := key
  simp only [key?, Option.map_eq_some_iff, Key.mk.injEq]
  constructor
  · rintro ⟨name, hname, rfl, rfl⟩
    exact ⟨rfl, hname⟩
  · rintro ⟨hline, hname⟩
    exact ⟨code, hname, hline, rfl⟩

/-- Under a key, a hinter is one for the code of the key. -/
theorem Handlers.hasHinter_eq {handlers : Handlers} {d : Diagnostic} {code : String}
    (h : d.codeName? = some code) : handlers.hasHinter d = handlers.hinters.contains code := by
  simp [hasHinter, h]

namespace Tracker

variable {handlers : Handlers} {diagnostics : List Diagnostic} {entries : KeyMap Key Entry}

/-- The last diagnostic of a list under a key. -/
def lastAt? (key : Key) (diagnostics : List Diagnostic) : Option Diagnostic :=
  diagnostics.reverse.find? fun d => d.key? = some key

@[simp] theorem lastAt?_nil (key : Key) : lastAt? key [] = none := rfl

@[simp] theorem lastAt?_append_singleton (key : Key) (diagnostics : List Diagnostic)
    (d : Diagnostic) :
    lastAt? key (diagnostics ++ [d]) =
      if d.key? = some key then some d else lastAt? key diagnostics := by
  rw [lastAt?, List.reverse_append, List.reverse_singleton, List.singleton_append,
    List.find?_cons]
  by_cases h : d.key? = some key <;> simp [h, lastAt?]

/-- **The last under a key.** It is on the list with none of its key behind it. -/
theorem lastAt?_eq_some_iff {key : Key} {d : Diagnostic} :
    lastAt? key diagnostics = some d ↔
      d.key? = some key ∧ ∃ before after, diagnostics = before ++ d :: after ∧
        ∀ other ∈ after, other.key? ≠ some key := by
  rw [lastAt?, List.find?_eq_some_iff_append]
  simp only [decide_eq_true_eq, Bool.not_eq_true', decide_eq_false_iff_not, and_congr_right_iff]
  intro _
  constructor
  · rintro ⟨after, before, hsplit, hafter⟩
    refine ⟨before.reverse, after.reverse, ?_, fun other hother => ?_⟩
    · rw [← List.reverse_reverse diagnostics, hsplit]
      simp
    · exact hafter other (List.mem_reverse.1 hother)
  · rintro ⟨before, after, rfl, hafter⟩
    exact ⟨after.reverse, before.reverse, by simp, fun other hother =>
      hafter other (List.mem_reverse.1 hother)⟩

/-- There is a last diagnostic under a key exactly if there is one at all. -/
theorem lastAt?_eq_none_iff {key : Key} :
    lastAt? key diagnostics = none ↔ ∀ d ∈ diagnostics, d.key? ≠ some key := by
  simp [lastAt?]

/-- Under a key there is a last diagnostic exactly if there is any. -/
theorem exists_lastAt?_iff {key : Key} :
    (∃ d, lastAt? key diagnostics = some d) ↔ ∃ d ∈ diagnostics, d.key? = some key := by
  rw [← Option.isSome_iff_exists, lastAt?, List.find?_isSome]
  simp

/-- **The last under a key, of what is made of a list.** It is made of the last item that anything
with the key is made of. -/
theorem lastAt?_filterMap_eq_some_iff {α : Type} {make : α → Option Diagnostic} {items : List α}
    {key : Key} {d : Diagnostic} :
    lastAt? key (items.filterMap make) = some d ↔
      ∃ before item after, items = before ++ item :: after ∧ make item = some d ∧
        d.key? = some key ∧
        ∀ other ∈ after, ∀ otherMade, make other = some otherMade → otherMade.key? ≠ some key := by
  rw [lastAt?_eq_some_iff]
  constructor
  · rintro ⟨hkey, first, rest, hsplit, hrest⟩
    obtain ⟨_, after, rfl, -, hafter⟩ := List.filterMap_eq_append_iff.1 hsplit
    obtain ⟨skipped, item, after, rfl, -, hitem, rfl⟩ := List.filterMap_eq_cons_iff.1 hafter
    refine ⟨_ ++ skipped, item, after, (List.append_assoc ..).symm, hitem, hkey, ?_⟩
    intro other hother made hmade
    exact hrest made (List.mem_filterMap.2 ⟨other, hother, hmade⟩)
  · rintro ⟨before, item, after, rfl, hitem, hkey, hafter⟩
    refine ⟨hkey, before.filterMap make, after.filterMap make, ?_, fun made hmade => ?_⟩
    · rw [List.filterMap_append, List.filterMap_cons_some hitem]
    · obtain ⟨other, hother, hmade⟩ := List.mem_filterMap.1 hmade
      exact hafter other hother made hmade

/-! ## Entries -/

/-- A diagnostic whose code is a documented name can be tracked. -/
theorem track_eq_ok {d : Diagnostic} {code : String} (h : d.codeName? = some code) :
    track handlers entries d = .ok (if handlers.supports code then
      entries.insert ⟨d.line, code⟩ (.ofDiagnostic d (handlers.hinters.contains code))
      else entries) := by
  simp only [track, h, Handlers.hasHinter_eq h]
  split <;> rfl

/-- The entries of a longer list. -/
theorem entriesOf_append_singleton (d : Diagnostic) :
    entriesOf handlers (diagnostics ++ [d]) =
      (entriesOf handlers diagnostics).bind fun entries => track handlers entries d := by
  rw [entriesOf, List.foldlM_append]
  simp only [List.foldlM_cons, List.foldlM_nil, bind_pure]
  rfl

/-- **Documented codes are enough.** A list has entries if every code on it is a documented name. -/
theorem exists_entriesOf_eq_ok (h : ∀ d ∈ diagnostics, d.codeName?.isSome) :
    ∃ entries, entriesOf handlers diagnostics = .ok entries := by
  induction diagnostics using List.reverseRecOn with
  | nil => exact ⟨∅, rfl⟩
  | append_singleton diagnostics d ih =>
    obtain ⟨entries, hentries⟩ := ih fun d hd => h d (List.mem_append_left _ hd)
    obtain ⟨code, hcode⟩ := Option.isSome_iff_exists.1 (h d (by simp))
    exact ⟨_, by rw [entriesOf_append_singleton, hentries, Except.bind, track_eq_ok hcode]⟩

/-- **The entries of a list of diagnostics.** Under a supported key stands the last diagnostic with
that key, not shown yet. -/
theorem get?_entriesOf (h : entriesOf handlers diagnostics = .ok entries) (key : Key) :
    entries.get? key = if handlers.supports key.code then
      (lastAt? key diagnostics).map fun d =>
        .ofDiagnostic d (handlers.hinters.contains key.code)
      else none := by
  -- the last diagnostic of a key decides, so the induction takes them off the end
  induction diagnostics using List.reverseRecOn generalizing entries with
  | nil =>
    obtain rfl : ∅ = entries := by simpa [entriesOf, pure, Except.pure] using h
    simp
  | append_singleton diagnostics d ih =>
    rw [entriesOf_append_singleton] at h
    cases hentries : entriesOf handlers diagnostics with
    | error error => simp [hentries, Except.bind] at h
    | ok earlier =>
      rw [hentries, Except.bind] at h
      cases hcode : d.codeName? with
      | none => simp [track, hcode] at h
      | some code =>
        rw [track_eq_ok hcode] at h
        obtain rfl := Except.ok.inj h
        rw [lastAt?_append_singleton]
        by_cases hkey : d.key? = some key
        · -- the new diagnostic is the last under this key
          obtain ⟨hline, hname⟩ := Diagnostic.key?_eq_some_iff.1 hkey
          obtain rfl : code = key.code := by simpa [hcode] using hname
          rw [if_pos hkey]
          split
          · rw [hline]
            simp
          · next hsupports => rw [ih hentries, if_neg hsupports]
        · rw [if_neg hkey, ← ih hentries]
          split
          · refine KeyMap.get?_insert_of_ne _ _ fun heq => hkey ?_
            rw [Diagnostic.key?_eq_some_iff, heq]
            exact ⟨rfl, hcode⟩
          · rfl

/-- Every entry is that of a diagnostic on the list, not shown yet. -/
theorem exists_of_get?_entriesOf (h : entriesOf handlers diagnostics = .ok entries) {key : Key}
    {entry : Entry} (hget : entries.get? key = some entry) :
    handlers.supports key.code = true ∧ ∃ d, lastAt? key diagnostics = some d ∧
      entry = .ofDiagnostic d (handlers.hinters.contains key.code) := by
  rw [get?_entriesOf h] at hget
  split at hget
  · next hsupports =>
    obtain ⟨d, hlast, rfl⟩ := Option.map_eq_some_iff.1 hget
    exact ⟨hsupports, d, hlast, rfl⟩
  · cases hget

/-- **The keys of the entries** are those of the diagnostics whose codes have a handler. -/
theorem mem_keys_entriesOf (h : entriesOf handlers diagnostics = .ok entries) {key : Key} :
    key ∈ entries.keys ↔
      (∃ d ∈ diagnostics, d.key? = some key) ∧ handlers.supports key.code = true := by
  rw [KeyMap.mem_keys_iff]
  constructor
  · rintro ⟨entry, hget⟩
    obtain ⟨hsupports, d, hlast, -⟩ := exists_of_get?_entriesOf h hget
    obtain ⟨hkey, before, after, hsplit, -⟩ := lastAt?_eq_some_iff.1 hlast
    exact ⟨⟨d, by rw [hsplit]; simp, hkey⟩, hsupports⟩
  · rintro ⟨⟨d, hmem, hkey⟩, hsupports⟩
    rw [get?_entriesOf h, if_pos hsupports]
    cases hlast : lastAt? key diagnostics with
    | none => exact absurd hkey (lastAt?_eq_none_iff.1 hlast d hmem)
    | some last => exact ⟨_, rfl⟩

/-! ## Rebuilding -/

/-- The tracker and the editor once the entries are replaced and those shown before are shown
again. -/
def reshown (tracker : Tracker) (editor : Editor) (scope : Scope) (entries : KeyMap Key Entry) :
    Tracker × Editor :=
  showEntries { tracker with entries := entries } (editor.releaseAll tracker.layers) scope
    (entries.keys.filter tracker.isDisplayed)

/-- **A list that has entries replaces those before.** -/
theorem rebuild_eq_ok (tracker : Tracker) (editor : Editor) {scope : Scope}
    (h : entriesOf scope.handlers diagnostics = .ok entries) :
    tracker.rebuild editor scope diagnostics =
      .ok ((tracker.reshown editor scope entries).1.showTriangles
        (tracker.reshown editor scope entries).2) := by
  rw [rebuild, h]
  rfl

end Tracker
end BorrowSketch
