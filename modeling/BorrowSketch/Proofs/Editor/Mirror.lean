import BorrowSketch.Proofs.Editor.Layers
import Mathlib.Data.Set.Operations

/-! # Editors that mirror each other

The same requests are served by an editor that is alone and by one that is shared with others. The
shared editor has other numbers for the layers, and layers of others among them; but a request
reaches the layers that it would reach in the other editor, and none besides.

* **`Editor.Naming`** — under which numbers one editor has the layers of the other.
* **`Editor.Mirrors`** — the shared editor shows under these numbers what the other shows.
* **`Editor.Mirrors.createLayer`**, **`Editor.Mirrors.decorate`**, **`Editor.Mirrors.dispose`**,
  **`Editor.Mirrors.notify`** — every request keeps it so. -/

namespace BorrowSketch
namespace Editor

/-- **Names for layers.** Different layers have different names, and those that the one editor
has yet to create go by the numbers that come next in the other. -/
structure Naming (alone shared : Editor) where
  /-- The name of a layer. -/
  map : LayerId → LayerId
  /-- No two layers have the same name. -/
  injective : Function.Injective map
  /-- The names of the layers to come. -/
  map_next : ∀ n, map ⟨alone.created + n + 1⟩ = ⟨shared.created + n + 1⟩

variable {alone₀ shared₀ alone shared : Editor} {naming : Naming alone₀ shared₀}

/-- **The shared editor mirrors the other.** Since the names were given, both created as many
layers and showed the same messages; the layers with names are alike, and all others are as they
were. -/
structure Mirrors (naming : Naming alone₀ shared₀) (alone shared : Editor) : Prop where
  /-- As many layers were created in both editors. -/
  grown : ∃ n, alone.created = alone₀.created + n ∧ shared.created = shared₀.created + n
  /-- The layers with names are alike. -/
  layer?_map : ∀ id, shared.layer? (naming.map id) = alone.layer? id
  /-- All other layers are as they were. -/
  layer?_other : ∀ id, id ∉ Set.range naming.map → shared.layer? id = shared₀.layer? id
  /-- The same messages were shown. -/
  said : ∃ said, alone.messages = alone₀.messages ++ said ∧
    shared.messages = shared₀.messages ++ said

namespace Mirrors

/-- The next layer has the same name in both editors. -/
theorem map_new (h : Mirrors naming alone shared) :
    naming.map ⟨alone.created + 1⟩ = ⟨shared.created + 1⟩ := by
  obtain ⟨n, halone, hshared⟩ := h.grown
  rw [halone, hshared]
  exact naming.map_next n

/-! ## Requests -/

/-- The same message is shown in both editors. -/
theorem notify (h : Mirrors naming alone shared) (message : String) :
    Mirrors naming (alone.notify message) (shared.notify message) where
  grown := h.grown
  layer?_map := h.layer?_map
  layer?_other := h.layer?_other
  said := by
    obtain ⟨said, halone, hshared⟩ := h.said
    refine ⟨said ++ [message], ?_, ?_⟩
    · rw [messages_notify, halone, List.append_assoc]
    · rw [messages_notify, hshared, List.append_assoc]

/-- A new layer of the same style goes by the next name. -/
theorem createLayer (h : Mirrors naming alone shared) (style : LayerStyle) :
    (shared.createLayer style).1 = naming.map (alone.createLayer style).1 ∧
      Mirrors naming (alone.createLayer style).2 (shared.createLayer style).2 := by
  refine ⟨h.map_new.symm, ?_, fun id => ?_, fun id hid => ?_, h.said⟩
  · obtain ⟨n, halone, hshared⟩ := h.grown
    refine ⟨n + 1, ?_, ?_⟩
    · rw [created_createLayer, halone, Nat.add_assoc]
    · rw [created_createLayer, hshared, Nat.add_assoc]
  · rw [layer?_createLayer, layer?_createLayer, ← h.map_new, h.layer?_map]
    simp only [naming.injective.eq_iff]
  · -- the number of the new layer is a name, and this one is not
    have hnew : id ≠ ⟨shared.created + 1⟩ := fun heq => hid ⟨_, h.map_new.trans heq.symm⟩
    rw [layer?_createLayer, if_neg hnew]
    exact h.layer?_other id hid

/-- A layer is changed under its name. -/
theorem modifyLayer (h : Mirrors naming alone shared) (id : LayerId) (f : Layer → Layer) :
    Mirrors naming (alone.modifyLayer id f) (shared.modifyLayer (naming.map id) f) := by
  refine ⟨?_, fun other => ?_, fun other hother => ?_, ?_⟩
  · simpa only [created_modifyLayer] using h.grown
  · rw [layer?_modifyLayer, layer?_modifyLayer, h.layer?_map, h.layer?_map]
    simp only [naming.injective.eq_iff]
  · have hne : other ≠ naming.map id := fun heq => hother ⟨id, heq.symm⟩
    rw [layer?_modifyLayer, if_neg hne]
    exact h.layer?_other other hother
  · simpa only [messages_modifyLayer] using h.said

/-- The decorations of a layer are replaced under its name. -/
theorem decorate (h : Mirrors naming alone shared) (id : LayerId)
    (decorations : List Decoration) :
    Mirrors naming (alone.decorate id decorations)
      (shared.decorate (naming.map id) decorations) := by
  have hmodified := h.modifyLayer id fun layer =>
    if layer.disposed then layer else { layer with decorations := decorations }
  exact ⟨hmodified.grown, hmodified.layer?_map, hmodified.layer?_other, hmodified.said⟩

/-- A layer is disposed of under its name. -/
theorem dispose (h : Mirrors naming alone shared) (id : LayerId) :
    Mirrors naming (alone.dispose id) (shared.dispose (naming.map id)) :=
  h.modifyLayer id _

/-! ## Several requests -/

/-- Several layers are cleared under their names. -/
theorem clearAll (h : Mirrors naming alone shared) (ids : List LayerId) :
    Mirrors naming (alone.clearAll ids) (shared.clearAll (ids.map naming.map)) := by
  induction ids generalizing alone shared with
  | nil => exact h
  | cons id ids ih => exact ih (h.decorate id [])

/-- Several layers are released under their names. -/
theorem releaseAll (h : Mirrors naming alone shared) (ids : List LayerId) :
    Mirrors naming (alone.releaseAll ids) (shared.releaseAll (ids.map naming.map)) := by
  induction ids generalizing alone shared with
  | nil => exact h
  | cons id ids ih => exact ih ((h.decorate id []).dispose id)

end Mirrors
end Editor
end BorrowSketch
