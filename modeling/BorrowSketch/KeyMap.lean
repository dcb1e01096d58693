/-! # Ordered maps

A finite map as a list of keys and values in ascending order of the keys.

* **`KeyMap`** — the map; that the keys ascend is part of the type.
* **`KeyMap.get?`**, **`KeyMap.insert`**, **`KeyMap.modify`**, **`KeyMap.mapValues`** — look-up and
  change.
* **`KeyMap.keys`**, **`KeyMap.toList`** — what the map holds, in order. -/

namespace BorrowSketch

variable {κ α : Type} [Ord κ]

/-- Whether the keys of a list ascend. -/
def Ascending (entries : List (κ × α)) : Prop :=
  entries.Pairwise fun a b => compare a.1 b.1 = .lt

/-- A finite map, its entries in ascending order of their keys. -/
structure KeyMap (κ α : Type) [Ord κ] where
  /-- The entries in order. -/
  toList : List (κ × α)
  /-- The keys ascend, so that no key occurs twice. -/
  ascending : Ascending toList

namespace KeyMap

/-- The map without entries. -/
def empty : KeyMap κ α := ⟨[], .nil⟩

instance : EmptyCollection (KeyMap κ α) := ⟨empty⟩

/-- The keys in order. -/
def keys (m : KeyMap κ α) : List κ :=
  m.toList.map Prod.fst

/-- The number of entries. -/
def size (m : KeyMap κ α) : Nat :=
  m.toList.length

/-- The value of a key. -/
def get? (m : KeyMap κ α) (key : κ) : Option α :=
  (m.toList.find? fun entry => compare key entry.1 = .eq).map Prod.snd

/-- Whether a key has a value. -/
def contains (m : KeyMap κ α) (key : κ) : Bool :=
  (m.get? key).isSome

@[ext] theorem ext {m n : KeyMap κ α} (h : m.toList = n.toList) : m = n := by
  cases m; cases n; cases h; rfl

@[simp] theorem get?_empty (key : κ) : (∅ : KeyMap κ α).get? key = none := rfl

/-! ## Insertion -/

/-- Put an entry at its place in a list with ascending keys, or replace the value there. -/
def insertEntry (key : κ) (value : α) : List (κ × α) → List (κ × α)
  | [] => [(key, value)]
  | entry :: rest =>
    match compare key entry.1 with
    | .lt => (key, value) :: entry :: rest
    | .eq => (entry.1, value) :: rest
    | .gt => entry :: insertEntry key value rest

theorem mem_insertEntry {key : κ} {value : α} {entries : List (κ × α)} {entry : κ × α}
    (h : entry ∈ insertEntry key value entries) :
    entry.1 = key ∨ ∃ old ∈ entries, old.1 = entry.1 := by
  induction entries with
  | nil => simp_all [insertEntry]
  | cons first rest ih =>
    simp only [insertEntry] at h
    split at h
    · simp only [List.mem_cons] at h
      rcases h with rfl | rfl | h
      · exact .inl rfl
      · exact .inr ⟨entry, by simp⟩
      · exact .inr ⟨entry, by simp [h]⟩
    · simp only [List.mem_cons] at h
      rcases h with rfl | h
      · exact .inr ⟨first, by simp⟩
      · exact .inr ⟨entry, by simp [h]⟩
    · simp only [List.mem_cons] at h
      rcases h with rfl | h
      · exact .inr ⟨entry, by simp⟩
      · rcases ih h with h | ⟨old, hold, h⟩
        · exact .inl h
        · exact .inr ⟨old, by simp [hold], h⟩

theorem ascending_insertEntry [Std.TransOrd κ] (key : κ) (value : α) {entries : List (κ × α)}
    (h : Ascending entries) : Ascending (insertEntry key value entries) := by
  induction entries with
  | nil => simp [insertEntry, Ascending]
  | cons first rest ih =>
    obtain ⟨hfirst, hrest⟩ := List.pairwise_cons.1 h
    unfold insertEntry
    split
    · next hlt =>
      refine List.pairwise_cons.2 ⟨fun other hother => ?_, h⟩
      rcases List.mem_cons.1 hother with rfl | hother
      · exact hlt
      · exact Std.TransCmp.lt_trans hlt (hfirst other hother)
    · exact List.pairwise_cons.2 ⟨hfirst, hrest⟩
    · next hgt =>
      refine List.pairwise_cons.2 ⟨fun other hother => ?_, ih hrest⟩
      rcases mem_insertEntry hother with hkey | ⟨old, hold, hkey⟩
      · rw [hkey]
        exact Std.OrientedCmp.lt_of_gt hgt
      · rw [← hkey]
        exact hfirst old hold

/-- Give a key a value, in place of the one it may have. -/
def insert [Std.TransOrd κ] (m : KeyMap κ α) (key : κ) (value : α) : KeyMap κ α :=
  ⟨insertEntry key value m.toList, ascending_insertEntry key value m.ascending⟩

/-! ## Change of values -/

/-- Changing values under their keys keeps the order. -/
theorem ascending_map {β : Type} (f : κ × α → β) {entries : List (κ × α)}
    (h : Ascending entries) : Ascending (entries.map fun entry => (entry.1, f entry)) := by
  unfold Ascending at h ⊢
  rw [List.pairwise_map]
  exact h

/-- Apply a function to every value. -/
def mapValues {β : Type} (m : KeyMap κ α) (f : α → β) : KeyMap κ β :=
  ⟨m.toList.map fun entry => (entry.1, f entry.2),
    ascending_map (fun entry => f entry.2) m.ascending⟩

/-- Apply a function to the value of a key. -/
def modify (m : KeyMap κ α) (key : κ) (f : α → α) : KeyMap κ α :=
  ⟨m.toList.map fun entry => (entry.1, if compare key entry.1 = .eq then f entry.2 else entry.2),
    ascending_map (fun entry => if compare key entry.1 = .eq then f entry.2 else entry.2)
      m.ascending⟩

/-- The values in order of their keys. -/
def values (m : KeyMap κ α) : List α :=
  m.toList.map Prod.snd

@[simp] theorem keys_mapValues {β : Type} (m : KeyMap κ α) (f : α → β) :
    (m.mapValues f).keys = m.keys := by
  simp [keys, mapValues]

@[simp] theorem keys_modify (m : KeyMap κ α) (key : κ) (f : α → α) :
    (m.modify key f).keys = m.keys := by
  simp [keys, modify]

end KeyMap
end BorrowSketch
