import BorrowSketch.Proofs.Editor.Mirror
import Mathlib.Data.List.Nodup

/-! # Names of layers

The layers that one owner has in an editor get their names in the order in which they are created.
So a list of the names given so far tells the names of the layers that are there, and the numbers
that come next in the editor are the names of the layers to come.

* **`Editor.newLayers`** — the layers created between two states of an editor.
* **`nameOf`** — the name of a layer, by a list of the names given so far.
* **`nameOf_injective`**, **`nameOf_append`** — names tell layers apart, and once given they stay.
* **`Editor.naming`** — the names as an editor that mirrors another needs them. -/

namespace BorrowSketch

/-- The numbers of the layers created after the first `created`. -/
def layersAfter (created count : Nat) : List LayerId :=
  (List.range' (created + 1) count).map LayerId.mk

/-- The layers that are in an editor but were not in it before. -/
def Editor.newLayers (before after : Editor) : List LayerId :=
  layersAfter before.created (after.created - before.created)

/-- The name of a layer. The first layers have the given names, and those behind them the numbers
after `created`. -/
def nameOf (given : List LayerId) (created : Nat) (id : LayerId) : LayerId :=
  match id.number with
  | 0 => id
  | n + 1 => given.getD n ⟨created + (n - given.length) + 1⟩

variable {given : List LayerId} {created n count : Nat} {id : LayerId}

/-- A given name. -/
theorem nameOf_of_lt (h : n < given.length) : nameOf given created ⟨n + 1⟩ = given[n] := by
  show given.getD n _ = _
  rw [List.getD_eq_getElem?_getD, List.getElem?_eq_getElem h, Option.getD_some]

/-- A name still to be given. -/
theorem nameOf_of_le (h : given.length ≤ n) :
    nameOf given created ⟨n + 1⟩ = ⟨created + (n - given.length) + 1⟩ := by
  show given.getD n _ = _
  rw [List.getD_eq_getElem?_getD, List.getElem?_eq_none h, Option.getD_none]

/-- Of an owner's layers two have names, in an editor with six layers; the fourth is to be the
eighth there. -/
example : nameOf [⟨2⟩, ⟨5⟩] 6 ⟨4⟩ = ⟨8⟩ := rfl

@[simp] theorem length_layersAfter (created count : Nat) :
    (layersAfter created count).length = count := by
  rw [layersAfter, List.length_map, List.length_range']

theorem mem_layersAfter_iff :
    id ∈ layersAfter created count ↔ created < id.number ∧ id.number ≤ created + count := by
  obtain ⟨number⟩ := id
  simp only [layersAfter, List.mem_map, LayerId.mk.injEq, exists_eq_right, List.mem_range'_1]
  omega

/-- A layer that is there is not one of those to come. -/
theorem not_mem_layersAfter (h : id.number ≤ created) : id ∉ layersAfter created count :=
  fun hmem => absurd (mem_layersAfter_iff.1 hmem).1 (Nat.not_lt.2 h)

/-- The layers to come are those that come first and those behind them. -/
theorem layersAfter_append (created first rest : Nat) :
    layersAfter created first ++ layersAfter (created + first) rest =
      layersAfter created (first + rest) := by
  have hnext : created + first + 1 = created + 1 + 1 * first := by omega
  rw [layersAfter, layersAfter, layersAfter, ← List.map_append, hnext, List.range'_append]

theorem nodup_layersAfter (created count : Nat) : (layersAfter created count).Nodup :=
  List.Nodup.map (fun a b hab => by simpa using hab) List.nodup_range'

/-- The names given to the first layers are all names given. -/
theorem map_nameOf (given : List LayerId) (created : Nat) :
    (layersAfter 0 given.length).map (nameOf given created) = given := by
  refine List.ext_getElem (by simp) fun n _ hlength => ?_
  have hnumber : 0 + 1 + 1 * n = n + 1 := by omega
  simp only [layersAfter, List.map_map, List.getElem_map, List.getElem_range', Function.comp_apply,
    hnumber]
  exact nameOf_of_lt hlength

/-- **Names stay.** When the numbers that come next are given as names, no name changes. -/
theorem nameOf_append (given : List LayerId) (created count : Nat) :
    nameOf (given ++ layersAfter created count) (created + count) = nameOf given created := by
  funext id
  obtain ⟨_ | n⟩ := id
  · rfl
  · -- a layer has its name already, has it now, or will have it later
    rcases Nat.lt_or_ge n given.length with hlt | hge
    · rw [nameOf_of_lt hlt, nameOf_of_lt (by rw [List.length_append]; omega),
        List.getElem_append_left hlt]
    · rw [nameOf_of_le hge]
      rcases Nat.lt_or_ge n (given.length + count) with hnew | hnext
      · rw [nameOf_of_lt (by rw [List.length_append, length_layersAfter]; omega),
          List.getElem_append_right hge]
        simp only [layersAfter, List.getElem_map, List.getElem_range', LayerId.mk.injEq]
        omega
      · rw [nameOf_of_le (by rw [List.length_append, length_layersAfter]; omega),
          List.length_append, length_layersAfter, LayerId.mk.injEq]
        omega

/-- What is a name of a layer was given, or is still to be given. -/
theorem mem_range_nameOf (h : id ∈ Set.range (nameOf given created)) :
    id = ⟨0⟩ ∨ id ∈ given ∨ created < id.number := by
  obtain ⟨⟨_ | n⟩, rfl⟩ := h
  · exact .inl rfl
  · rcases Nat.lt_or_ge n given.length with hlt | hge
    · rw [nameOf_of_lt hlt]
      exact .inr (.inl (List.getElem_mem hlt))
    · rw [nameOf_of_le hge]
      refine .inr (.inr ?_)
      show created < created + (n - given.length) + 1
      omega

/-- The number that is still to be given as a name. -/
theorem number_nameOf_of_le (h : given.length ≤ n) :
    (nameOf given created ⟨n + 1⟩).number = created + (n - given.length) + 1 := by
  rw [nameOf_of_le h]

/-- **Names tell layers apart,** when no name is given twice and all those given are numbers of
layers that are there. -/
theorem nameOf_injective (hnodup : given.Nodup)
    (hgiven : ∀ id ∈ given, 0 < id.number ∧ id.number ≤ created) :
    Function.Injective (nameOf given created) := by
  have hlt : ∀ n, n < given.length → 0 < (nameOf given created ⟨n + 1⟩).number ∧
      (nameOf given created ⟨n + 1⟩).number ≤ created := by
    intro n h
    rw [nameOf_of_lt h]
    exact hgiven _ (List.getElem_mem h)
  have hpos : ∀ n, 0 < (nameOf given created ⟨n + 1⟩).number := by
    intro n
    rcases Nat.lt_or_ge n given.length with h | h
    · exact (hlt n h).1
    · rw [number_nameOf_of_le h]
      exact Nat.succ_pos _
  rintro ⟨_ | m⟩ ⟨_ | n⟩ heq
  · rfl
  · have hn := hpos n
    rw [← heq] at hn
    exact absurd hn (Nat.lt_irrefl 0)
  · have hm := hpos m
    rw [heq] at hm
    exact absurd hm (Nat.lt_irrefl 0)
  · -- the names given are numbers up to `created`, those to come are larger
    have hnumber := congrArg LayerId.number heq
    rcases Nat.lt_or_ge m given.length with hm | hm <;>
      rcases Nat.lt_or_ge n given.length with hn | hn
    · rw [nameOf_of_lt hm, nameOf_of_lt hn, hnodup.getElem_inj_iff] at heq
      rw [heq]
    · rw [number_nameOf_of_le hn] at hnumber
      have hle := (hlt m hm).2
      omega
    · rw [number_nameOf_of_le hm] at hnumber
      have hle := (hlt n hn).2
      omega
    · rw [number_nameOf_of_le hm, number_nameOf_of_le hn] at hnumber
      rw [LayerId.mk.injEq]
      omega

namespace Editor

/-- The layers that are new are those behind the ones that were there. -/
theorem newLayers_eq {before after : Editor} {count : Nat}
    (h : after.created = before.created + count) :
    before.newLayers after = layersAfter before.created count := by
  rw [newLayers, h, Nat.add_sub_cancel_left]

/-- A layer that is there has a number of one that was created. -/
theorem number_of_layer? {editor : Editor} {id : LayerId} {layer : Layer}
    (h : editor.layer? id = some layer) : 0 < id.number ∧ id.number ≤ editor.created := by
  obtain ⟨_ | n⟩ := id
  · simp at h
  · obtain ⟨hlt, -⟩ := List.getElem?_eq_some_iff.1 ((layer?_succ editor n).symm.trans h)
    exact ⟨Nat.succ_pos n, hlt⟩

/-- There is a layer for each number of one created. -/
theorem exists_layer?_iff {editor : Editor} {id : LayerId} :
    (∃ layer, editor.layer? id = some layer) ↔ 0 < id.number ∧ id.number ≤ editor.created := by
  constructor
  · rintro ⟨layer, hlayer⟩
    exact number_of_layer? hlayer
  · obtain ⟨_ | n⟩ := id
    · rintro ⟨hpos, -⟩
      exact absurd hpos (Nat.lt_irrefl 0)
    · rintro ⟨-, hle⟩
      exact ⟨_, List.getElem?_eq_getElem hle⟩

/-- A number behind those created has no layer yet. -/
theorem layer?_eq_none_of_lt {editor : Editor} {id : LayerId} (h : editor.created < id.number) :
    editor.layer? id = none := by
  cases hlayer : editor.layer? id with
  | none => rfl
  | some layer => exact absurd h (Nat.not_lt.2 (number_of_layer? hlayer).2)

/-- **The names of layers in a shared editor,** when as many were given as there are layers. -/
def naming (alone shared : Editor) (given : List LayerId) (hlength : given.length = alone.created)
    (hnodup : given.Nodup)
    (hgiven : ∀ id ∈ given, 0 < id.number ∧ id.number ≤ shared.created) : Naming alone shared where
  map := nameOf given shared.created
  injective := nameOf_injective hnodup hgiven
  map_next n := by
    rw [nameOf_of_le (by omega), LayerId.mk.injEq]
    omega

end Editor
end BorrowSketch
