import BorrowSketch.KeyMap
import Mathlib.Data.List.Nodup
import Mathlib.Data.List.Sort

/-! # Look-up in ordered maps

When the order of the keys tells them apart, a map is determined by what is found under each key.

* **`KeyMap.mem_toList_iff`** — the entries of a map are what look-up finds.
* **`KeyMap.get?_insert_self`**, **`KeyMap.get?_modify_self`**, **`KeyMap.get?_mapValues`** and
  their companions — look-up after a change.
* **`KeyMap.keys_eq_filter`** — the keys of one map among those of another.
* **`KeyMap.exists_split`** — an entry between those before and after it, and the same list once
  the entry is changed. -/

namespace BorrowSketch
namespace KeyMap

variable {κ α β : Type} [Ord κ]

theorem toList_modify (m : KeyMap κ α) (key : κ) (f : α → α) :
    (m.modify key f).toList =
      m.toList.map fun entry =>
        (entry.1, if compare key entry.1 = .eq then f entry.2 else entry.2) := rfl

@[simp] theorem toList_mapValues (m : KeyMap κ α) (f : α → β) :
    (m.mapValues f).toList = m.toList.map fun entry => (entry.1, f entry.2) := rfl

/-- Look-up after a change of all values. -/
@[simp] theorem get?_mapValues (m : KeyMap κ α) (f : α → β) (key : κ) :
    (m.mapValues f).get? key = (m.get? key).map f := by
  simp only [get?, toList_mapValues, List.find?_map, Function.comp_def, Option.map_map]

variable [Std.LawfulEqOrd κ]

/-- Look-up in a map is look-up in the list of its entries. -/
theorem get?_eq_lookup [BEq κ] [LawfulBEq κ] (m : KeyMap κ α) (key : κ) :
    m.get? key = m.toList.lookup key := by
  rw [get?]
  induction m.toList with
  | nil => rfl
  | cons first rest ih =>
    rw [List.find?_cons, List.lookup_cons]
    by_cases hkey : key = first.1
    · simp [hkey]
    · rw [beq_false_of_ne hkey, ← ih]
      simp [hkey]

/-! ## Look-up after insertion -/

/-- The value just inserted is found under its key. -/
@[simp] theorem get?_insert_self [Std.TransOrd κ] (m : KeyMap κ α) (key : κ) (value : α) :
    (m.insert key value).get? key = some value := by
  suffices h : ∀ entries : List (κ × α),
      ((insertEntry key value entries).find? fun entry => compare key entry.1 = .eq).map Prod.snd
        = some value from h m.toList
  -- an insertion walks along the list up to the place of the key, and so does the look-up
  intro entries
  induction entries with
  | nil => simp [insertEntry]
  | cons first rest ih =>
    unfold insertEntry
    split
    · simp
    · next heq => simp [heq]
    · next hgt => simpa [hgt] using ih

/-- An insertion does not change what is found under other keys. -/
theorem get?_insert_of_ne [Std.TransOrd κ] (m : KeyMap κ α) {key other : κ} (value : α)
    (h : other ≠ key) : (m.insert key value).get? other = m.get? other := by
  suffices hfind : ∀ entries : List (κ × α),
      (insertEntry key value entries).find? (fun entry => compare other entry.1 = .eq)
        = entries.find? (fun entry => compare other entry.1 = .eq) by
    simp only [get?, insert, hfind]
  have hother : ¬ compare other key = .eq := by simpa using h
  intro entries
  induction entries with
  | nil => simp [insertEntry, hother]
  | cons first rest ih =>
    unfold insertEntry
    split
    · simp [hother]
    · next heq =>
      -- the value in front is replaced, and its key is not the one looked for
      rw [Std.LawfulEqOrd.compare_eq_iff_eq.1 heq] at hother
      simp [hother]
    · simp only [List.find?_cons, ih]

/-! ## Look-up after a change under one key -/

/-- Look-up under the key whose value was changed. -/
@[simp] theorem get?_modify_self (m : KeyMap κ α) (key : κ) (f : α → α) :
    (m.modify key f).get? key = (m.get? key).map f := by
  simp only [get?, toList_modify, List.find?_map, Function.comp_def, Option.map_map]
  cases hfind : m.toList.find? fun entry => compare key entry.1 = .eq with
  | none => rfl
  | some entry =>
    have hkey : compare key entry.1 = .eq := by simpa using List.find?_some hfind
    simp [hkey]

/-- A change under one key does not show under others. -/
theorem get?_modify_of_ne (m : KeyMap κ α) {key other : κ} (f : α → α) (h : other ≠ key) :
    (m.modify key f).get? other = m.get? other := by
  simp only [get?, toList_modify, List.find?_map, Function.comp_def, Option.map_map]
  cases hfind : m.toList.find? fun entry => compare other entry.1 = .eq with
  | none => rfl
  | some entry =>
    have hentry : other = entry.1 := by simpa using List.find?_some hfind
    have hkey : ¬ compare key entry.1 = .eq := by
      rw [Std.LawfulEqOrd.compare_eq_iff_eq, ← hentry]
      exact fun hkey => h hkey.symm
    simp [hkey]

/-! ## Entries -/

variable [Std.TransOrd κ]

omit [Std.LawfulEqOrd κ] in
/-- **No key occurs twice.** -/
theorem nodup_keys (m : KeyMap κ α) : m.keys.Nodup := by
  refine List.pairwise_map.2 (m.ascending.imp fun {a b} hlt heq => ?_)
  have hself : compare b.1 b.1 = .eq := Std.ReflCmp.compare_self
  rw [heq, hself] at hlt
  cases hlt

/-- **The entries of a map are what look-up finds.** -/
theorem mem_toList_iff {m : KeyMap κ α} {key : κ} {value : α} :
    (key, value) ∈ m.toList ↔ m.get? key = some value := by
  constructor
  · intro hmem
    obtain ⟨entry, hfind⟩ : ∃ entry, m.toList.find? (fun e => compare key e.1 = .eq) = some entry :=
      Option.isSome_iff_exists.1 (List.find?_isSome.2 ⟨_, hmem, by simp⟩)
    have hkey : key = entry.1 := by simpa using List.find?_some hfind
    -- no other entry has the key of the one found
    have hentry : entry = (key, value) :=
      List.inj_on_of_nodup_map m.nodup_keys (List.mem_of_find?_eq_some hfind) hmem hkey.symm
    simp [get?, hfind, hentry]
  · intro hget
    obtain ⟨entry, hfind, rfl⟩ := Option.map_eq_some_iff.1 hget
    have hkey : key = entry.1 := by simpa using List.find?_some hfind
    rw [hkey]
    exact List.mem_of_find?_eq_some hfind

/-- The keys of a map are those under which something is found. -/
theorem mem_keys_iff {m : KeyMap κ α} {key : κ} :
    key ∈ m.keys ↔ ∃ value, m.get? key = some value := by
  simp only [keys, List.mem_map, Prod.exists, exists_and_right, exists_eq_right, mem_toList_iff]

/-- Nothing is found under what is no key. -/
theorem get?_eq_none_iff {m : KeyMap κ α} {key : κ} : m.get? key = none ↔ key ∉ m.keys := by
  rw [mem_keys_iff, ← Option.isSome_iff_exists, Option.not_isSome_iff_eq_none]

/-- The keys after an insertion are those before, and the one inserted. -/
theorem mem_keys_insert_iff {m : KeyMap κ α} {key other : κ} {value : α} :
    other ∈ (m.insert key value).keys ↔ other = key ∨ other ∈ m.keys := by
  rw [mem_keys_iff, mem_keys_iff]
  by_cases hother : other = key
  · rw [hother, get?_insert_self]
    exact iff_of_true ⟨value, rfl⟩ (.inl rfl)
  · rw [get?_insert_of_ne _ _ hother]
    exact (or_iff_right hother).symm

/-- **A map has the keys of another that pass a test** if it has no others, as the order of the keys
leaves only one way to list them. -/
theorem keys_eq_filter {m : KeyMap κ α} {n : KeyMap κ β} {test : κ → Bool}
    (h : ∀ key, key ∈ m.keys ↔ key ∈ n.keys ∧ test key = true) : m.keys = n.keys.filter test := by
  have hirrefl : Std.Irrefl fun a b : κ => compare a b = .lt := by
    refine ⟨fun a hlt => ?_⟩
    have hself : compare a a = .eq := Std.ReflCmp.compare_self
    rw [hself] at hlt
    cases hlt
  have hasymm : Std.Antisymm fun a b : κ => compare a b = .lt := by
    refine ⟨fun a b hab hba => ?_⟩
    exact absurd (Std.TransCmp.lt_trans hab hba) (hirrefl.irrefl a)
  have hfirst : m.keys.Pairwise fun a b => compare a b = .lt := List.pairwise_map.2 m.ascending
  have hsecond : n.keys.Pairwise fun a b => compare a b = .lt := List.pairwise_map.2 n.ascending
  apply List.Pairwise.eq_of_mem_iff hfirst (hsecond.filter test)
  intro key
  rw [List.mem_filter, h]

/-- **An entry in its place.** What stands before and after an entry stays as it is when the value
of the entry is changed. -/
theorem exists_split {m : KeyMap κ α} {key : κ} {value : α} (h : m.get? key = some value) :
    ∃ before after, m.toList = before ++ (key, value) :: after ∧
      ∀ f, (m.modify key f).toList = before ++ (key, f value) :: after := by
  obtain ⟨before, after, hsplit⟩ := List.append_of_mem (mem_toList_iff.2 h)
  refine ⟨before, after, hsplit, fun f => ?_⟩
  have hnodup := m.nodup_keys
  rw [keys, hsplit, List.map_append, List.map_cons, List.nodup_middle, List.nodup_cons,
    ← List.map_append] at hnodup
  -- the key stands nowhere else, so the change passes by all other entries
  have hkeep : ∀ entries : List (κ × α), entries ⊆ before ++ after →
      entries.map (fun entry =>
        (entry.1, if compare key entry.1 = .eq then f entry.2 else entry.2)) = entries := by
    intro entries hsub
    refine (List.map_congr_left fun entry hentry => ?_).trans (List.map_id entries)
    have hne : key ≠ entry.1 := fun heq =>
      hnodup.1 (List.mem_map.2 ⟨entry, hsub hentry, heq.symm⟩)
    simp [hne]
  rw [toList_modify, hsplit, List.map_append, List.map_cons,
    hkeep before (List.subset_append_left _ _), hkeep after (List.subset_append_right _ _)]
  simp

end KeyMap
end BorrowSketch
