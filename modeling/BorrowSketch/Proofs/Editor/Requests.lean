import BorrowSketch.Proofs.Editor.Holdings
import Mathlib.Data.List.Induction

/-! # What is asked of an editor

Whoever uses an editor reaches it by requests alone, and has layers created only of the styles that
he has a use for. Layers are never taken back, so it can be told how many of a style there ever
were.

* **`Editor.Reaches`** — one state of an editor comes of another by requests that create layers of
  certain styles only.
* **`Editor.map_style_serve`** — the styles of the layers stay, and a new layer brings its own.
* **`Editor.createdWith`** — how many layers were ever created with a style.
* **`Editor.Reaches.createdWith_eq`** — there are no more of a style that nobody asked for.
* **`Editor.exists_holds_run`** — the layers of every editor can be accounted for. -/

namespace BorrowSketch
namespace Editor

variable {editor made after : Editor} {allowed : LayerStyle → Prop} {style : LayerStyle}

/-! ## Requests for layers of certain styles -/

/-- **By requests alone,** none of which creates a layer of a style that is not allowed. -/
inductive Reaches (allowed : LayerStyle → Prop) (editor : Editor) : Editor → Prop where
  /-- Nothing was asked. -/
  | refl : Reaches allowed editor editor
  /-- One more request. -/
  | step {made : Editor} (h : Reaches allowed editor made) (request : Request)
      (hstyle : ∀ style, request = .createLayer style → allowed style) :
    Reaches allowed editor (made.serve request)

namespace Reaches

/-- First some requests, then others. -/
theorem trans (h : Reaches allowed editor made) (hafter : Reaches allowed made after) :
    Reaches allowed editor after := by
  induction hafter with
  | refl => exact h
  | step _ request hstyle ih => exact ih.step request hstyle

/-- Then a layer is created. -/
theorem createLayer (h : Reaches allowed editor made) (hstyle : allowed style) :
    Reaches allowed editor (made.createLayer style).2 := by
  apply h.step (.createLayer style)
  rintro _ ⟨⟩
  exact hstyle

/-- Then decorations are replaced. -/
theorem decorate (h : Reaches allowed editor made) (id : LayerId) (decorations : List Decoration) :
    Reaches allowed editor (made.decorate id decorations) := by
  apply h.step (.decorate id decorations)
  intro style heq
  cases heq

/-- Then a layer is disposed of. -/
theorem dispose (h : Reaches allowed editor made) (id : LayerId) :
    Reaches allowed editor (made.dispose id) := by
  apply h.step (.dispose id)
  intro style heq
  cases heq

/-- Then a message is shown. -/
theorem notify (h : Reaches allowed editor made) (message : String) :
    Reaches allowed editor (made.notify message) := by
  apply h.step (.notify message)
  intro style heq
  cases heq

/-- Then several layers are cleared. -/
theorem clearAll (h : Reaches allowed editor made) (ids : List LayerId) :
    Reaches allowed editor (made.clearAll ids) := by
  induction ids generalizing made with
  | nil => exact h
  | cons id ids ih => exact ih (h.decorate id [])

/-- Then several layers are cleared and disposed of. -/
theorem releaseAll (h : Reaches allowed editor made) (ids : List LayerId) :
    Reaches allowed editor (made.releaseAll ids) := by
  induction ids generalizing made with
  | nil => exact h
  | cons id ids ih => exact ih ((h.decorate id []).dispose id)

end Reaches

/-! ## How many layers of a style there ever were -/

/-- How many layers were ever created with a style. -/
def createdWith (editor : Editor) (style : LayerStyle) : Nat :=
  editor.layers.countP fun layer => layer.style = style

/-- The style of the layer that a request creates. -/
def Request.style? : Request → Option LayerStyle
  | .createLayer style => some style
  | _ => none

/-- A change of one layer that keeps its style keeps all styles. -/
theorem map_style_modifyLayer {change : Layer → Layer}
    (hchange : ∀ layer, (change layer).style = layer.style) (editor : Editor) (id : LayerId) :
    (editor.modifyLayer id change).layers.map Layer.style = editor.layers.map Layer.style := by
  obtain ⟨_ | n⟩ := id
  · rfl
  · show (editor.layers.modify n change).map Layer.style = _
    apply List.ext_getElem?
    intro i
    rw [List.getElem?_map, List.getElem?_map, List.getElem?_modify, Option.map_eq_map,
      Option.map_map]
    apply Option.map_congr
    intro layer _
    by_cases hi : n = i
    · rw [Function.comp_apply, if_pos hi, hchange]
    · rw [Function.comp_apply, if_neg hi]

/-- **Styles stay,** and the one of a new layer comes behind them. -/
theorem map_style_serve (editor : Editor) (request : Request) :
    (editor.serve request).layers.map Layer.style =
      editor.layers.map Layer.style ++ request.style?.toList := by
  cases request with
  | createLayer style => simp [serve, createLayer, Request.style?]
  | decorate id decorations =>
    simp only [Request.style?, Option.toList_none, List.append_nil]
    apply map_style_modifyLayer
    intro layer
    split <;> rfl
  | dispose id =>
    simp only [Request.style?, Option.toList_none, List.append_nil]
    apply map_style_modifyLayer
    intro layer
    rfl
  | notify message => exact (List.append_nil _).symm

/-- The layers of a style are counted by the styles. -/
theorem createdWith_eq_count (editor : Editor) (style : LayerStyle) :
    editor.createdWith style = (editor.layers.map Layer.style).count style := by
  rw [createdWith, List.count, List.countP_map]
  apply List.countP_congr
  intro layer _
  simp

/-- **A request creates a layer of a style** exactly if that is what it asks for. -/
theorem createdWith_serve (editor : Editor) (request : Request) (style : LayerStyle) :
    (editor.serve request).createdWith style =
      editor.createdWith style + if request = .createLayer style then 1 else 0 := by
  rw [createdWith_eq_count, map_style_serve, List.count_append, ← createdWith_eq_count]
  cases request with
  | createLayer other => simp [Request.style?, List.count_singleton]
  | decorate id decorations => simp [Request.style?]
  | dispose id => simp [Request.style?]
  | notify message => simp [Request.style?]

/-- **There are no more layers of a style** that is not allowed. -/
theorem Reaches.createdWith_eq (h : Reaches allowed editor made) (hstyle : ¬ allowed style) :
    made.createdWith style = editor.createdWith style := by
  induction h with
  | refl => rfl
  | @step made h request hallowed ih =>
    have hother : ¬ request = .createLayer style := fun heq => hstyle (hallowed style heq)
    rw [createdWith_serve, if_neg hother, Nat.add_zero, ih]

/-! ## Editors in use -/

@[simp] theorem run_nil : run [] = empty := rfl

/-- The last request is served by the editor that the others led to. -/
@[simp] theorem run_concat (requests : List Request) (request : Request) :
    run (requests ++ [request]) = (run requests).serve request := by
  rw [run, List.foldl_append]
  rfl

/-- A layer that was disposed of carries nothing, whatever is asked next. -/
theorem clean_serve
    (h : ∀ {id layer}, editor.layer? id = some layer → layer.disposed = true →
      layer.decorations = []) (request : Request) {id : LayerId} {layer : Layer}
    (hlayer : (editor.serve request).layer? id = some layer) (hdisposed : layer.disposed = true) :
    layer.decorations = [] := by
  cases request with
  | createLayer style =>
    rw [serve, layer?_createLayer] at hlayer
    by_cases hid : id = ⟨editor.created + 1⟩
    · rw [if_pos hid] at hlayer
      obtain rfl := Option.some.inj hlayer
      rfl
    · rw [if_neg hid] at hlayer
      exact h hlayer hdisposed
  | decorate other decorations =>
    rw [serve, layer?_decorate] at hlayer
    by_cases hid : id = other
    · rw [if_pos hid] at hlayer
      obtain ⟨before, hbefore, rfl⟩ := Option.map_eq_some_iff.1 hlayer
      by_cases hgone : before.disposed = true
      · rw [if_pos hgone]
        exact h hbefore hgone
      · rw [if_neg hgone] at hdisposed
        exact absurd hdisposed hgone
    · rw [if_neg hid] at hlayer
      exact h hlayer hdisposed
  | dispose other =>
    rw [serve, layer?_dispose] at hlayer
    by_cases hid : id = other
    · rw [if_pos hid] at hlayer
      obtain ⟨before, -, rfl⟩ := Option.map_eq_some_iff.1 hlayer
      rfl
    · rw [if_neg hid] at hlayer
      exact h hlayer hdisposed
  | notify message => exact h hlayer hdisposed

/-- **The layers of every editor can be accounted for,** whatever was asked of it. -/
theorem exists_holds_run (requests : List Request) :
    ∃ live gone, (Editor.run requests).Holds live gone := by
  have hclean : ∀ {id layer}, (Editor.run requests).layer? id = some layer →
      layer.disposed = true → layer.decorations = [] := by
    induction requests using List.reverseRecOn with
    | nil =>
      intro id layer hlayer
      rw [run_nil, layer?_empty] at hlayer
      cases hlayer
    | append_singleton requests request ih =>
      intro id layer hlayer hdisposed
      rw [run_concat] at hlayer
      exact clean_serve ih request hlayer hdisposed
  refine ⟨(Editor.run requests).numbered.filter fun cell => !cell.2.disposed,
    {id | ∃ layer, (Editor.run requests).layer? id = some layer ∧ layer.disposed = true},
    ?_, ?_, Iff.rfl, hclean⟩
  · exact (Editor.run requests).nodup_numbered.sublist (List.filter_sublist.map Prod.fst)
  · intro id layer
    rw [List.mem_filter, mem_numbered_iff]
    simp only [Bool.not_eq_true']

end Editor
end BorrowSketch
