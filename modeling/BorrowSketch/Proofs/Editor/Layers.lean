import BorrowSketch.Editor.Basic
import Mathlib.Data.List.Nodup

/-! # The layers of an editor

What each request does to each layer, as an equation for the layer found under a number. Requests
for one layer leave all others alone, and a new layer has a number that nothing had before.

* **`Editor.layer?_createLayer`**, **`Editor.layer?_decorate`**, **`Editor.layer?_dispose`**,
  **`Editor.layer?_notify`** — the layers after a request.
* **`Editor.decorations_createLayer`**, **`Editor.decorations_decorate_self`**,
  **`Editor.decorations_dispose`** — what is shown after a request.
* **`Editor.mem_numbered_iff`** — the numbered layers are what look-up finds.
* **`Editor.mem_live_iff`**, **`Editor.mem_visible_iff`** — the layers in each view. -/

namespace BorrowSketch
namespace Editor

variable (editor : Editor) (id other : LayerId)

@[simp] theorem layer?_zero : editor.layer? ⟨0⟩ = none := rfl

theorem layer?_succ (n : Nat) : editor.layer? ⟨n + 1⟩ = editor.layers[n]? := rfl

@[simp] theorem layer?_empty : Editor.empty.layer? id = none := by
  obtain ⟨_ | n⟩ := id <;> simp [empty, layer?_succ]

/-! ## After a request -/

/-- The number of a new layer. -/
@[simp] theorem createLayer_fst (style : LayerStyle) :
    (editor.createLayer style).1 = ⟨editor.created + 1⟩ := rfl

/-- The number of a new layer had no layer before. -/
theorem layer?_new : editor.layer? ⟨editor.created + 1⟩ = none := by
  simp [created, layer?_succ]

/-- A new layer is empty, and all others are as before. -/
theorem layer?_createLayer (style : LayerStyle) :
    (editor.createLayer style).2.layer? id =
      if id = ⟨editor.created + 1⟩ then some ⟨style, [], false⟩ else editor.layer? id := by
  obtain ⟨_ | n⟩ := id
  · simp
  · simp only [createLayer, layer?_succ, created, LayerId.mk.injEq, Nat.add_right_cancel_iff]
    -- the new layer stands behind all that were there
    rcases Nat.lt_trichotomy n editor.layers.length with hlt | heq | hgt
    · rw [List.getElem?_append_left hlt, if_neg (Nat.ne_of_lt hlt)]
    · simp [heq]
    · rw [if_neg (Nat.ne_of_gt hgt), List.getElem?_eq_none (Nat.le_of_lt hgt)]
      exact List.getElem?_eq_none (by rw [List.length_append, List.length_singleton]; omega)

/-- A change of one layer leaves the others alone. -/
theorem layer?_modifyLayer (f : Layer → Layer) :
    (editor.modifyLayer id f).layer? other =
      if other = id then (editor.layer? id).map f else editor.layer? other := by
  obtain ⟨_ | n⟩ := id
  · by_cases h : other = ⟨0⟩
    · simp [h]
    · simp [h, modifyLayer]
  · obtain ⟨_ | m⟩ := other
    · simp
    · simp only [modifyLayer, layer?_succ, List.getElem?_modify, LayerId.mk.injEq,
        Nat.add_right_cancel_iff]
      by_cases h : m = n
      · simp [h]
      · simp [h, Ne.symm h]

/-- Only the decorations of the one layer are replaced, and only if it is not disposed of. -/
theorem layer?_decorate (decorations : List Decoration) :
    (editor.decorate id decorations).layer? other =
      if other = id then (editor.layer? id).map fun layer =>
        if layer.disposed then layer else { layer with decorations := decorations }
      else editor.layer? other := by
  rw [← layer?_modifyLayer]
  rfl

/-- Only the one layer is disposed of, and it loses its decorations. -/
theorem layer?_dispose :
    (editor.dispose id).layer? other =
      if other = id then (editor.layer? id).map fun layer =>
        { layer with decorations := [], disposed := true }
      else editor.layer? other := by
  rw [← layer?_modifyLayer]
  rfl

@[simp] theorem layer?_notify (message : String) :
    (editor.notify message).layer? id = editor.layer? id := rfl

/-! ## How many layers there are -/

@[simp] theorem created_createLayer (style : LayerStyle) :
    (editor.createLayer style).2.created = editor.created + 1 := by
  simp [createLayer, created]

@[simp] theorem created_modifyLayer (f : Layer → Layer) :
    (editor.modifyLayer id f).created = editor.created := by
  obtain ⟨_ | n⟩ := id <;> simp [modifyLayer, created]

@[simp] theorem created_decorate (decorations : List Decoration) :
    (editor.decorate id decorations).created = editor.created := by
  exact created_modifyLayer editor id _

@[simp] theorem created_notify (message : String) :
    (editor.notify message).created = editor.created := rfl

@[simp] theorem created_clearAll (ids : List LayerId) :
    (editor.clearAll ids).created = editor.created := by
  induction ids generalizing editor with
  | nil => rfl
  | cons id ids ih => exact (ih _).trans (created_decorate editor id [])

/-! ## Messages -/

@[simp] theorem messages_createLayer (style : LayerStyle) :
    (editor.createLayer style).2.messages = editor.messages := rfl

@[simp] theorem messages_modifyLayer (f : Layer → Layer) :
    (editor.modifyLayer id f).messages = editor.messages := by
  obtain ⟨_ | n⟩ := id <;> rfl

@[simp] theorem messages_decorate (decorations : List Decoration) :
    (editor.decorate id decorations).messages = editor.messages := by
  exact messages_modifyLayer editor id _

@[simp] theorem messages_dispose : (editor.dispose id).messages = editor.messages := by
  exact messages_modifyLayer editor id _

@[simp] theorem messages_notify (message : String) :
    (editor.notify message).messages = editor.messages ++ [message] := rfl

@[simp] theorem messages_clearAll (ids : List LayerId) :
    (editor.clearAll ids).messages = editor.messages := by
  induction ids generalizing editor with
  | nil => rfl
  | cons id ids ih => exact (ih _).trans (messages_decorate editor id [])

@[simp] theorem messages_releaseAll (ids : List LayerId) :
    (editor.releaseAll ids).messages = editor.messages := by
  induction ids generalizing editor with
  | nil => rfl
  | cons id ids ih =>
    have hfirst : ((editor.decorate id []).dispose id).messages = editor.messages := by
      rw [messages_dispose, messages_decorate]
    exact (ih _).trans hfirst

variable {editor id other} {layer : Layer}

/-! ## What is shown -/

/-- A layer in use shows its decorations. -/
theorem decorations_of_layer? (h : editor.layer? id = some layer) (hlive : layer.disposed = false) :
    editor.decorations id = layer.decorations := by
  simp [decorations, h, hlive]

/-- A new layer shows nothing, as nothing was shown under its number before. -/
theorem decorations_createLayer (editor : Editor) (style : LayerStyle) (id : LayerId) :
    (editor.createLayer style).2.decorations id = editor.decorations id := by
  rw [decorations, decorations, layer?_createLayer]
  by_cases hid : id = ⟨editor.created + 1⟩
  · subst hid
    simp [layer?_new]
  · rw [if_neg hid]

/-- New decorations show if their layer is in use. -/
theorem decorations_decorate_self (h : editor.layer? id = some layer)
    (hlive : layer.disposed = false) (decorations : List Decoration) :
    (editor.decorate id decorations).decorations id = decorations := by
  have hlayer : (editor.decorate id decorations).layer? id =
      some { layer with decorations := decorations } := by
    rw [layer?_decorate, if_pos rfl, h, Option.map_some, hlive]
    rfl
  exact decorations_of_layer? hlayer hlive

/-- New decorations show nowhere else, and not on a layer that is not in use. -/
theorem decorations_decorate_of_disposed
    (h : id = other → ∀ layer, editor.layer? id = some layer → layer.disposed = true)
    (decorations : List Decoration) :
    (editor.decorate other decorations).decorations id = editor.decorations id := by
  rw [Editor.decorations, Editor.decorations, layer?_decorate]
  by_cases hid : id = other
  · subst hid
    rw [if_pos rfl]
    cases hlayer : editor.layer? id with
    | none => rfl
    | some layer => simp [h rfl layer hlayer]
  · rw [if_neg hid]

/-- A layer that is disposed of shows nothing, and the others what they showed. -/
theorem decorations_dispose (editor : Editor) (id other : LayerId) :
    (editor.dispose other).decorations id =
      if id = other then [] else editor.decorations id := by
  rw [decorations, decorations, layer?_dispose]
  by_cases hid : id = other
  · subst hid
    rw [if_pos rfl, if_pos rfl]
    cases editor.layer? id <;> rfl
  · rw [if_neg hid, if_neg hid]

/-! ## All layers -/

/-- **The numbered layers are what look-up finds.** -/
theorem mem_numbered_iff :
    (id, layer) ∈ editor.numbered ↔ editor.layer? id = some layer := by
  obtain ⟨_ | n⟩ := id
  · simp [numbered]
  · simp only [numbered, List.mem_map, Prod.exists, Prod.mk.injEq, LayerId.mk.injEq,
      Nat.add_right_cancel_iff, layer?_succ, ← List.mk_mem_zipIdx_iff_getElem?]
    constructor
    · rintro ⟨found, index, hmem, rfl, rfl⟩
      exact hmem
    · intro hmem
      exact ⟨layer, n, hmem, rfl, rfl⟩

/-- The numbers are the positions in the list, counted from one. -/
theorem map_fst_numbered (editor : Editor) :
    editor.numbered.map Prod.fst = (List.range' 0 editor.created).map fun index => ⟨index + 1⟩ := by
  rw [created, ← List.zipIdx_map_snd, numbered, List.map_map, List.map_map]
  rfl

/-- The numbered layers come in the order of their numbers. -/
theorem ascending_numbered (editor : Editor) :
    (editor.numbered.map Prod.fst).Pairwise (fun id other => id.number < other.number) := by
  rw [map_fst_numbered]
  exact (List.pairwise_lt_range' 1).map _ fun _ _ h => Nat.succ_lt_succ h

/-- No number occurs twice among the numbered layers. -/
theorem nodup_numbered (editor : Editor) : (editor.numbered.map Prod.fst).Nodup :=
  editor.ascending_numbered.imp fun h heq => absurd (congrArg LayerId.number heq) (Nat.ne_of_lt h)

/-! ## The views -/

/-- The live layers are those that are there and not disposed of. -/
theorem mem_live_iff :
    id ∈ editor.live ↔ ∃ layer, editor.layer? id = some layer ∧ layer.disposed = false := by
  simp [live, mem_numbered_iff]

/-- The visible layers are the live ones for whole lines that show something. -/
theorem mem_visible_iff :
    id ∈ editor.visible ↔ id ∈ editor.live ∧
      (editor.layer? id).map Layer.style = some .wholeLine ∧ editor.decorations id ≠ [] := by
  rw [mem_live_iff]
  simp only [visible, List.mem_map, List.mem_filter, Prod.exists, exists_and_right, exists_eq_right,
    mem_numbered_iff]
  cases hlayer : editor.layer? id with
  | none => simp
  | some layer =>
    cases hdisposed : layer.disposed with
    | false => simp [decorations, hlayer, hdisposed]
    | true => simp [hdisposed]

/-- The live layers come in the order of their numbers. -/
theorem ascending_live (editor : Editor) :
    editor.live.Pairwise fun id other => id.number < other.number :=
  editor.ascending_numbered.sublist (List.filter_sublist.map Prod.fst)

/-- The visible layers come in the order of their numbers. -/
theorem ascending_visible (editor : Editor) :
    editor.visible.Pairwise fun id other => id.number < other.number :=
  editor.ascending_numbered.sublist (List.filter_sublist.map Prod.fst)

end Editor
end BorrowSketch
