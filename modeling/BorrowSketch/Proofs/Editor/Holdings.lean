import BorrowSketch.Proofs.Editor.Layers
import Mathlib.Data.List.Perm.Basic
import Mathlib.Data.Set.Insert

/-! # Holdings

Who owns which layers of an editor is told by a list of its live layers: the parts of the list
belong to the owners, and what is done to one part leaves the rest of the list as it is. The layers
that were disposed of are kept account of as well, so that none of them is lost.

* **`Editor.Holds`** — the live layers of an editor are those of a list, and the layers disposed of
  are those of a set.
* **`Editor.Holds.createLayer`**, **`Editor.Holds.decorate`**, **`Editor.Holds.dispose`** — how the
  list changes with a request, whatever else is on it.
* **`Editor.Holds.perm_live`**, **`Editor.Holds.perm_visible`** — the views of the editor read off
  the list. -/

namespace BorrowSketch
namespace Editor

/-- **The account of all layers.** The live layers of the editor are those of the list `live`, each
once and as it stands there; the layers disposed of are those of the set `gone`, and they carry
nothing. -/
structure Holds (editor : Editor) (live : List (LayerId × Layer)) (gone : Set LayerId) : Prop where
  /-- No live layer is on the list twice. -/
  nodup : (live.map Prod.fst).Nodup
  /-- The list has the live layers, and nothing else. -/
  mem_live_iff : ∀ {id layer},
    (id, layer) ∈ live ↔ editor.layer? id = some layer ∧ layer.disposed = false
  /-- The set has the layers disposed of, and nothing else. -/
  mem_gone_iff : ∀ {id},
    id ∈ gone ↔ ∃ layer, editor.layer? id = some layer ∧ layer.disposed = true
  /-- A layer that was disposed of carries nothing. -/
  clean : ∀ {id layer},
    editor.layer? id = some layer → layer.disposed = true → layer.decorations = []

namespace Holds

variable {editor : Editor} {id : LayerId} {layer : Layer}
  {live before after cells : List (LayerId × Layer)} {gone : Set LayerId}

/-! ## What the account says of one layer -/

theorem layer?_eq (h : editor.Holds live gone) (hmem : (id, layer) ∈ live) :
    editor.layer? id = some layer :=
  (h.mem_live_iff.1 hmem).1

theorem disposed_eq (h : editor.Holds live gone) (hmem : (id, layer) ∈ live) :
    layer.disposed = false :=
  (h.mem_live_iff.1 hmem).2

/-- The decorations shown are those on the list. -/
theorem decorations_eq (h : editor.Holds live gone) (hmem : (id, layer) ∈ live) :
    editor.decorations id = layer.decorations :=
  decorations_of_layer? (h.layer?_eq hmem) (h.disposed_eq hmem)

/-- A layer is on the list or disposed of. -/
theorem live_or_gone (h : editor.Holds live gone) (hlayer : editor.layer? id = some layer) :
    (id, layer) ∈ live ∨ id ∈ gone := by
  cases hdisposed : layer.disposed with
  | false => exact .inl (h.mem_live_iff.2 ⟨hlayer, hdisposed⟩)
  | true => exact .inr (h.mem_gone_iff.2 ⟨layer, hlayer, hdisposed⟩)

/-- The order of the list does not matter. -/
theorem perm (h : editor.Holds live gone) {live' : List (LayerId × Layer)}
    (hperm : live.Perm live') : editor.Holds live' gone where
  nodup := (hperm.map Prod.fst).nodup_iff.1 h.nodup
  mem_live_iff := hperm.mem_iff.symm.trans h.mem_live_iff
  mem_gone_iff := h.mem_gone_iff
  clean := h.clean

/-! ## The account after a request -/

/-- An empty editor has no layers to account for. -/
theorem empty : Editor.empty.Holds [] ∅ where
  nodup := .nil
  mem_live_iff := by simp
  mem_gone_iff := by simp
  clean := by simp

/-- A message does not change the account. -/
theorem notify (h : editor.Holds live gone) (message : String) :
    (editor.notify message).Holds live gone where
  nodup := h.nodup
  mem_live_iff := h.mem_live_iff
  mem_gone_iff := h.mem_gone_iff
  clean := h.clean

/-- A new layer is added to the list. -/
theorem createLayer (h : editor.Holds live gone) (style : LayerStyle) :
    (editor.createLayer style).2.Holds
      (((editor.createLayer style).1, ⟨style, [], false⟩) :: live) gone := by
  -- the list has no layer under a number that is still to be given
  have hfresh : ∀ layer, (⟨editor.created + 1⟩, layer) ∉ live := fun layer hmem => by
    have hlayer := h.layer?_eq hmem
    rw [layer?_new] at hlayer
    cases hlayer
  refine ⟨?_, ?_, ?_, ?_⟩
  · rw [List.map_cons, List.nodup_cons]
    refine ⟨fun hmem => ?_, h.nodup⟩
    obtain ⟨⟨id, layer⟩, hlive, rfl⟩ := List.mem_map.1 hmem
    exact hfresh layer hlive
  · intro id layer
    rw [layer?_createLayer, createLayer_fst, List.mem_cons, Prod.mk.injEq]
    by_cases hid : id = ⟨editor.created + 1⟩
    · subst hid
      simp only [hfresh layer, or_false, true_and, if_true, Option.some.injEq]
      exact ⟨fun heq => ⟨heq.symm, heq ▸ rfl⟩, fun heq => heq.1.symm⟩
    · simp [hid, h.mem_live_iff]
  · intro id
    rw [layer?_createLayer, h.mem_gone_iff]
    by_cases hid : id = ⟨editor.created + 1⟩
    · subst hid
      simp [layer?_new]
    · simp [hid]
  · intro id layer
    rw [layer?_createLayer]
    by_cases hid : id = ⟨editor.created + 1⟩
    · rw [if_pos hid]
      rintro ⟨⟩ -
      rfl
    · rw [if_neg hid]
      exact h.clean

/-- A layer on the list is there under its number alone, and the rest of the list has no layer
twice. -/
theorem nodup_middle (h : editor.Holds (before ++ (id, layer) :: after) gone) :
    (∀ other, (id, other) ∉ before ++ after) ∧ ((before ++ after).map Prod.fst).Nodup := by
  have hnodup := h.nodup
  rw [List.map_append, List.map_cons, List.nodup_middle, List.nodup_cons, ← List.map_append]
    at hnodup
  exact ⟨fun other hmem => hnodup.1 (List.mem_map.2 ⟨(id, other), hmem, rfl⟩), hnodup.2⟩

section Change

variable {changed : Editor} {new : Layer}

/-- **A layer that is changed** and still live takes its place on the list. -/
theorem replace (h : editor.Holds (before ++ (id, layer) :: after) gone)
    (hchange : ∀ other, changed.layer? other =
      if other = id then some new else editor.layer? other)
    (hnew : new.disposed = false) : changed.Holds (before ++ (id, new) :: after) gone := by
  have hlayer := h.layer?_eq (List.mem_append_right before List.mem_cons_self)
  have hlive := h.disposed_eq (List.mem_append_right before List.mem_cons_self)
  refine ⟨?_, ?_, ?_, ?_⟩
  · simpa using h.nodup
  · intro other found
    rw [hchange, List.perm_middle.mem_iff, List.mem_cons, Prod.mk.injEq]
    by_cases hother : other = id
    · -- the layer itself: on the list there is what it was changed to, and nothing else
      subst hother
      simp only [h.nodup_middle.1, or_false, true_and, if_true, Option.some.injEq]
      exact ⟨fun heq => ⟨heq.symm, heq ▸ hnew⟩, fun heq => heq.1.symm⟩
    · simp only [hother, false_and, false_or, if_false, ← h.mem_live_iff]
      rw [List.perm_middle.mem_iff, List.mem_cons, Prod.mk.injEq]
      simp [hother]
  · intro other
    rw [hchange, h.mem_gone_iff]
    by_cases hother : other = id
    · subst hother
      simp [hlayer, hlive, hnew]
    · simp [hother]
  · intro other found
    rw [hchange]
    by_cases hother : other = id
    · rw [if_pos hother]
      rintro ⟨⟩ hdisposed
      simp [hnew] at hdisposed
    · rw [if_neg hother]
      exact h.clean

/-- **A layer that is changed** to one disposed of leaves the list, and goes to those disposed
of. -/
theorem remove (h : editor.Holds (before ++ (id, layer) :: after) gone)
    (hchange : ∀ other, changed.layer? other =
      if other = id then some new else editor.layer? other)
    (hnew : new.disposed = true) (hclean : new.decorations = []) :
    changed.Holds (before ++ after) (insert id gone) := by
  refine ⟨h.nodup_middle.2, ?_, ?_, ?_⟩
  · intro other found
    rw [hchange]
    by_cases hother : other = id
    · subst hother
      simp only [h.nodup_middle.1, if_true, Option.some.injEq, false_iff, not_and]
      rintro rfl
      simp [hnew]
    · rw [if_neg hother, ← h.mem_live_iff, List.perm_middle.mem_iff, List.mem_cons, Prod.mk.injEq]
      simp [hother]
  · intro other
    rw [hchange, Set.mem_insert_iff, h.mem_gone_iff]
    by_cases hother : other = id
    · simp [hother, hnew]
    · simp [hother]
  · intro other found
    rw [hchange]
    by_cases hother : other = id
    · rw [if_pos hother]
      rintro ⟨⟩ -
      exact hclean
    · rw [if_neg hother]
      exact h.clean

end Change

/-- **New decorations show on their layer only.** -/
theorem decorate (h : editor.Holds (before ++ (id, layer) :: after) gone)
    (decorations : List Decoration) :
    (editor.decorate id decorations).Holds
      (before ++ (id, { layer with decorations := decorations }) :: after) gone := by
  have hlayer := h.layer?_eq (List.mem_append_right before List.mem_cons_self)
  have hlive := h.disposed_eq (List.mem_append_right before List.mem_cons_self)
  refine h.replace (fun other => ?_) hlive
  rw [layer?_decorate, hlayer, Option.map_some, hlive]
  rfl

/-- **A layer disposed of leaves the list, and no other does.** -/
theorem dispose (h : editor.Holds (before ++ (id, layer) :: after) gone) :
    (editor.dispose id).Holds (before ++ after) (insert id gone) := by
  have hlayer := h.layer?_eq (List.mem_append_right before List.mem_cons_self)
  have hchange : ∀ other, (editor.dispose id).layer? other =
      if other = id then some { layer with decorations := [], disposed := true }
      else editor.layer? other := by
    intro other
    rw [layer?_dispose, hlayer, Option.map_some]
  exact h.remove hchange rfl rfl

/-! ## Several layers at once -/

/-- A numbered layer without its decorations. -/
def cleared (cell : LayerId × Layer) : LayerId × Layer :=
  (cell.1, { cell.2 with decorations := [] })

/-- Clearing the first layers on the list leaves the rest of it as it is. -/
theorem clearAll (h : editor.Holds (cells ++ live) gone) :
    (editor.clearAll (cells.map Prod.fst)).Holds (cells.map cleared ++ live) gone := by
  induction cells generalizing editor live with
  | nil => exact h
  | cons cell cells ih =>
    obtain ⟨id, layer⟩ := cell
    have hhead : editor.Holds ([] ++ (id, layer) :: (cells ++ live)) gone := h
    -- once cleared, the first layer goes behind those that are still to be cleared
    have hfirst : (editor.decorate id []).Holds (cells ++ cleared (id, layer) :: live) gone :=
      (hhead.decorate []).perm List.perm_middle.symm
    exact (ih hfirst).perm List.perm_middle

/-- Releasing the first layers on the list takes them off it. -/
theorem releaseAll (h : editor.Holds (cells ++ live) gone) :
    (editor.releaseAll (cells.map Prod.fst)).Holds live
      ({id | id ∈ cells.map Prod.fst} ∪ gone) := by
  induction cells generalizing editor gone with
  | nil => simpa [Editor.releaseAll] using h
  | cons cell cells ih =>
    obtain ⟨id, layer⟩ := cell
    have hhead : editor.Holds ([] ++ (id, layer) :: (cells ++ live)) gone := h
    have hrest := ih (hhead.decorate []).dispose
    have hgone : {other | other ∈ cells.map Prod.fst} ∪ insert id gone =
        {other | other ∈ ((id, layer) :: cells).map Prod.fst} ∪ gone := by
      ext other
      simp only [Set.mem_union, Set.mem_ofPred_eq, Set.mem_insert_iff, List.map_cons, List.mem_cons]
      tauto
    rwa [hgone] at hrest

/-! ## The views of the editor -/

/-- The list is the list of live layers in another order. -/
theorem perm_numbered (h : editor.Holds live gone) :
    (editor.numbered.filter fun entry => !entry.2.disposed).Perm live := by
  have hnumbered : editor.numbered.Nodup := .of_map Prod.fst editor.nodup_numbered
  refine (List.perm_ext_iff_of_nodup (hnumbered.filter _) (.of_map Prod.fst h.nodup)).2 ?_
  rintro ⟨id, layer⟩
  rw [List.mem_filter, mem_numbered_iff, h.mem_live_iff]
  simp

/-- The numbers on the list are those of the live layers. -/
theorem perm_live (h : editor.Holds live gone) : editor.live.Perm (live.map Prod.fst) :=
  h.perm_numbered.map Prod.fst

/-- The layers that show something over whole lines are those on the list that do. -/
theorem perm_visible (h : editor.Holds live gone) :
    editor.visible.Perm ((live.filter fun cell =>
      decide (cell.2.style = .wholeLine) && !cell.2.decorations.isEmpty).map Prod.fst) := by
  have hperm := (h.perm_numbered.filter fun cell =>
    decide (cell.2.style = .wholeLine) && !cell.2.decorations.isEmpty).map Prod.fst
  -- the editor asks for the same things in another order
  rw [List.filter_filter] at hperm
  refine .trans (.of_eq ?_) hperm
  unfold visible
  congr 2
  funext entry
  rw [Bool.and_assoc, Bool.and_comm]

end Holds
end Editor
end BorrowSketch
