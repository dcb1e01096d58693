import BorrowSketch.Proofs.Editor.Names
import BorrowSketch.Proofs.Editor.Requests

/-! # An editor told by its log

What an editor shows is told by the requests that were made, in their order and without following
its state: which layers there are, which of them are still in use, and what was last asked to be
shown on each of them while it was in use. Requests that come too early or too late, or name a layer
that there never was, come to nothing.

* **`Editor.AskedWhen`** — a request in the log, given what was asked before it.
* **`Editor.Created`**, **`Editor.DisposedOf`**, **`Editor.InUse`** — the layers, by the log.
* **`Editor.SetAt`**, **`Editor.Shows`** — what is shown on a layer, by the log.
* **`Editor.answers_eq`** — the numbers returned are those that come next.
* **`Editor.decorations_run_iff`** — what is shown is what the log tells.
* **`Editor.run_of_log`** — all that the editor tells, by the log. -/

namespace BorrowSketch
namespace Editor

variable {editor : Editor} {log : List Request} {request : Request} {id other : LayerId}
  {layer : Layer} {decorations : List Decoration} {time : Nat}

/-! ## What the log tells -/

/-- The message that a request shows. -/
def Request.message? : Request → Option String
  | .notify message => some message
  | _ => none

/-- Whether a request replaces decorations. -/
def Request.replaces : Request → Bool
  | .decorate _ _ => true
  | _ => false

/-- The number that a request returns: that of the layer that it creates. -/
def answer? (editor : Editor) : Request → Option LayerId
  | .createLayer style => some (editor.createLayer style).1
  | _ => none

/-- The numbers that requests return, one after the other. -/
def answers (editor : Editor) : List Request → List LayerId
  | [] => []
  | request :: log => (editor.answer? request).toList ++ (editor.serve request).answers log

/-- The styles of the layers created, in order. -/
def stylesAsked (log : List Request) : List LayerStyle :=
  log.filterMap Request.style?

/-- The style of the layer that was created as the one with a number, the first having number 1. -/
def styleAsked? (log : List Request) (id : LayerId) : Option LayerStyle :=
  match id.number with
  | 0 => none
  | n + 1 => (stylesAsked log)[n]?

/-- The request was made at a time, when what had been asked before had a property. -/
def AskedWhen (log : List Request) (time : Nat) (request : Request)
    (property : List Request → Prop) : Prop :=
  log[time]? = some request ∧ property (log.take time)

/-- The layer was created: the layers created have the numbers from 1 on. -/
def Created (log : List Request) (id : LayerId) : Prop :=
  0 < id.number ∧ id.number ≤ (stylesAsked log).length

/-- The layer was disposed of, after it was created. -/
def DisposedOf (log : List Request) (id : LayerId) : Prop :=
  ∃ time, AskedWhen log time (.dispose id) (Created · id)

/-- The layer was created and not disposed of since. -/
def InUse (log : List Request) (id : LayerId) : Prop :=
  Created log id ∧ ¬ DisposedOf log id

/-- The decorations of the layer were replaced while it was in use. -/
def SetAt (log : List Request) (id : LayerId) (time : Nat) (decorations : List Decoration) : Prop :=
  AskedWhen log time (.decorate id decorations) (InUse · id)

/-- **What is shown on a layer,** by the log. -/
inductive Shows (log : List Request) (id : LayerId) : List Decoration → Prop where
  /-- The decorations that were set last while the layer was in use, if it still is. -/
  | last {time : Nat} {decorations : List Decoration} (hset : SetAt log id time decorations)
      (hlast : ∀ later others, SetAt log id later others → later ≤ time)
      (huse : ¬ DisposedOf log id) : Shows log id decorations
  /-- Nothing, if none were ever set while it was in use. -/
  | unset (hunset : ∀ time decorations, ¬ SetAt log id time decorations) : Shows log id []
  /-- Nothing, if it was never created. -/
  | unknown (hunknown : ¬ Created log id) : Shows log id []
  /-- Nothing, if it was disposed of. -/
  | disposed (hdisposed : DisposedOf log id) : Shows log id []

/-! ## One more request in the log -/

/-- What the last request brings comes last. -/
theorem filterMap_concat {α : Type} (read : Request → Option α) (log : List Request)
    (request : Request) :
    (log ++ [request]).filterMap read = log.filterMap read ++ (read request).toList := by
  rw [List.filterMap_append, List.filterMap_cons, List.filterMap_nil]
  cases read request <;> rfl

/-- A request of the longer log was made before, or is the last one. -/
theorem askedWhen_concat_iff {asked : Request} {property : List Request → Prop} :
    AskedWhen (log ++ [request]) time asked property ↔
      AskedWhen log time asked property ∨
        time = log.length ∧ request = asked ∧ property log := by
  unfold AskedWhen
  rcases Nat.lt_trichotomy time log.length with hlt | rfl | hgt
  · rw [List.getElem?_append_left hlt, List.take_append_of_le_length (Nat.le_of_lt hlt)]
    simp [Nat.ne_of_lt hlt]
  · simp
  · rw [List.getElem?_eq_none (by simp; omega), List.getElem?_eq_none (by omega)]
    simp [Nat.ne_of_gt hgt]

/-- A layer that was created stays so. -/
theorem Created.append (h : Created log id) (more : List Request) : Created (log ++ more) id := by
  refine ⟨h.1, h.2.trans ?_⟩
  rw [stylesAsked, stylesAsked, List.filterMap_append, List.length_append]
  exact Nat.le_add_right _ _

theorem disposedOf_concat_iff :
    DisposedOf (log ++ [request]) id ↔
      DisposedOf log id ∨ request = .dispose id ∧ Created log id := by
  simp only [DisposedOf, askedWhen_concat_iff, exists_or, exists_eq_left]

/-- A layer that was disposed of stays so. -/
theorem DisposedOf.append (h : DisposedOf log id) (more : List Request) :
    DisposedOf (log ++ more) id := by
  induction more using List.reverseRecOn with
  | nil => rwa [List.append_nil]
  | append_singleton more request ih =>
    rw [← List.append_assoc, disposedOf_concat_iff]
    exact .inl ih

theorem setAt_concat_iff :
    SetAt (log ++ [request]) id time decorations ↔
      SetAt log id time decorations ∨
        time = log.length ∧ request = .decorate id decorations ∧ InUse log id :=
  askedWhen_concat_iff

/-- What is set was asked for in the log. -/
theorem SetAt.lt_length (h : SetAt log id time decorations) : time < log.length :=
  (List.getElem?_eq_some_iff.1 h.1).1

/-- Only on layers that were created are decorations set. -/
theorem SetAt.created (h : SetAt log id time decorations) : Created log id := by
  have hcreated := h.2.1.append (log.drop time)
  rwa [List.take_append_drop] at hcreated

/-! ## What is shown after one more request -/

namespace Shows

/-- **The log tells one thing only.** -/
theorem unique {others : List Decoration} (h : Shows log id decorations)
    (hothers : Shows log id others) : decorations = others := by
  -- what was set last rules out all other cases, and there is one request at its time
  cases h with
  | last hset hlast huse =>
    cases hothers with
    | last hset' hlast' _ =>
      obtain rfl := Nat.le_antisymm (hlast' _ _ hset) (hlast _ _ hset')
      have hsame := Option.some.inj (hset.1.symm.trans hset'.1)
      exact (Request.decorate.inj hsame).2
    | unset hunset => exact absurd hset (hunset _ _)
    | unknown hunknown => exact absurd hset.created hunknown
    | disposed hdisposed => exact absurd hdisposed huse
  | unset hunset =>
    cases hothers with
    | last hset' _ _ => exact absurd hset' (hunset _ _)
    | unset | unknown | disposed => rfl
  | unknown hunknown =>
    cases hothers with
    | last hset' _ _ => exact absurd hset'.created hunknown
    | unset | unknown | disposed => rfl
  | disposed hdisposed =>
    cases hothers with
    | last _ _ huse' => exact absurd hdisposed huse'
    | unset | unknown | disposed => rfl

/-- **Other requests change nothing:** those that neither replace the decorations of the layer while
it is in use nor dispose of it. -/
theorem idle (h : Shows log id decorations)
    (hset : ∀ asked, request = .decorate id asked → ¬ InUse log id)
    (hdispose : request = .dispose id → ¬ Created log id) :
    Shows (log ++ [request]) id decorations := by
  have hsetAt : ∀ time asked,
      SetAt (log ++ [request]) id time asked ↔ SetAt log id time asked := by
    intro time asked
    rw [setAt_concat_iff, or_iff_left]
    rintro ⟨-, hasked, huse⟩
    exact hset asked hasked huse
  have hdisposedOf : DisposedOf (log ++ [request]) id ↔ DisposedOf log id := by
    rw [disposedOf_concat_iff, or_iff_left]
    rintro ⟨hasked, hcreated⟩
    exact hdispose hasked hcreated
  cases h with
  | last hset hlast huse =>
    refine .last ((hsetAt _ _).2 hset) ?_ (mt hdisposedOf.1 huse)
    intro later others hlater
    exact hlast later others ((hsetAt _ _).1 hlater)
  | unset hunset => exact .unset fun time asked hasked => hunset _ _ ((hsetAt _ _).1 hasked)
  | unknown hunknown =>
    -- the request may have created the layer, but nothing was set on it before
    exact .unset fun time asked hasked => hunknown ((hsetAt _ _).1 hasked).created
  | disposed hdisposed => exact .disposed (hdisposedOf.2 hdisposed)

/-- What was set just now is shown. -/
theorem set (huse : InUse log id) (decorations : List Decoration) :
    Shows (log ++ [.decorate id decorations]) id decorations := by
  refine .last (setAt_concat_iff.2 (.inr ⟨rfl, rfl, huse⟩)) ?_ ?_
  · intro later others hlater
    have hlt := hlater.lt_length
    rw [List.length_append, List.length_singleton] at hlt
    exact Nat.le_of_lt_succ hlt
  · rw [disposedOf_concat_iff]
    rintro (hdisposed | ⟨hasked, -⟩)
    · exact huse.2 hdisposed
    · cases hasked

end Shows

/-! ## The layers of the editor -/

/-- The styles of the layers are those asked for. -/
theorem map_style_run (log : List Request) :
    (run log).layers.map Layer.style = stylesAsked log := by
  induction log using List.reverseRecOn with
  | nil => rfl
  | append_singleton log request ih =>
    rw [run_concat, map_style_serve, ih, stylesAsked, stylesAsked, filterMap_concat]

theorem created_run (log : List Request) : (run log).created = (stylesAsked log).length := by
  rw [← map_style_run, List.length_map]
  rfl

/-- A layer has the style that it was created with. -/
theorem style_run (log : List Request) (id : LayerId) :
    ((run log).layer? id).map Layer.style = styleAsked? log id := by
  obtain ⟨_ | n⟩ := id
  · rfl
  · rw [layer?_succ, ← List.getElem?_map, map_style_run]
    rfl

/-- The layers created are those that there are. -/
theorem created_iff : Created log id ↔ ∃ layer, (run log).layer? id = some layer := by
  rw [exists_layer?_iff, created_run]
  rfl

/-- The layer is there and was disposed of. -/
def IsGone (editor : Editor) (id : LayerId) : Prop :=
  ∃ layer, editor.layer? id = some layer ∧ layer.disposed = true

/-- **Only a request to dispose of a layer** disposes of it, and only if it is there. -/
theorem isGone_serve_iff :
    (editor.serve request).IsGone id ↔
      editor.IsGone id ∨ request = .dispose id ∧ ∃ layer, editor.layer? id = some layer := by
  unfold IsGone
  cases request with
  | createLayer style =>
    -- the number of a new layer had no layer before, and the new one is not disposed of
    rw [serve, layer?_createLayer]
    by_cases hid : id = ⟨editor.created + 1⟩
    · subst hid
      simp [layer?_new]
    · simp [hid]
  | decorate other decorations =>
    -- what a layer shows may change, but not whether it is disposed of
    rw [serve, layer?_decorate]
    by_cases hid : id = other
    · subst hid
      simp only [if_true, Option.map_eq_some_iff]
      constructor
      · rintro ⟨_, ⟨layer, hlayer, rfl⟩, hdisposed⟩
        refine .inl ⟨layer, hlayer, ?_⟩
        by_contra hlive
        rw [if_neg hlive] at hdisposed
        exact hlive hdisposed
      · rintro (⟨layer, hlayer, hdisposed⟩ | ⟨hasked, -⟩)
        · exact ⟨layer, ⟨layer, hlayer, if_pos hdisposed⟩, hdisposed⟩
        · cases hasked
    · simp [hid]
  | dispose other =>
    rw [serve, layer?_dispose]
    by_cases hid : id = other
    · subst hid
      simp only [if_true, Option.map_eq_some_iff, true_and]
      constructor
      · rintro ⟨_, ⟨layer, hlayer, -⟩, -⟩
        exact .inr ⟨layer, hlayer⟩
      · rintro (⟨layer, hlayer, -⟩ | ⟨layer, hlayer⟩) <;>
          exact ⟨_, ⟨layer, hlayer, rfl⟩, rfl⟩
    · simp [hid, Ne.symm hid]
  | notify message => simp [serve]

/-- The layers disposed of are those that are gone. -/
theorem disposedOf_iff : DisposedOf log id ↔ (run log).IsGone id := by
  induction log using List.reverseRecOn with
  | nil =>
    refine iff_of_false ?_ ?_
    · rintro ⟨time, hasked, -⟩
      cases hasked
    · rintro ⟨layer, hlayer, -⟩
      rw [run_nil, layer?_empty] at hlayer
      cases hlayer
  | append_singleton log request ih =>
    rw [disposedOf_concat_iff, run_concat, isGone_serve_iff, ih, created_iff]

/-- The layers in use are those that are there and not disposed of. -/
theorem inUse_iff :
    InUse log id ↔ ∃ layer, (run log).layer? id = some layer ∧ layer.disposed = false := by
  rw [InUse, created_iff, disposedOf_iff]
  constructor
  · rintro ⟨⟨layer, hlayer⟩, hgone⟩
    exact ⟨layer, hlayer, Bool.eq_false_iff.2 fun hdisposed => hgone ⟨layer, hlayer, hdisposed⟩⟩
  · rintro ⟨layer, hlayer, hlive⟩
    refine ⟨⟨layer, hlayer⟩, ?_⟩
    rintro ⟨found, hfound, hdisposed⟩
    obtain rfl := Option.some.inj (hlayer.symm.trans hfound)
    rw [hlive] at hdisposed
    cases hdisposed

/-! ## What the editor shows -/

/-- Nothing is shown on a layer that is not there. -/
theorem decorations_of_unknown (h : ¬ Created log id) : (run log).decorations id = [] := by
  have hnone : (run log).layer? id = none := by
    by_contra hsome
    exact h (created_iff.2 (Option.ne_none_iff_exists'.1 hsome))
  rw [decorations, hnone]

/-- **What the editor shows is what the log tells.** -/
theorem shows_decorations (log : List Request) (id : LayerId) :
    Shows log id ((run log).decorations id) := by
  induction log using List.reverseRecOn with
  | nil =>
    -- an editor without layers shows nothing
    have hunknown : ¬ Created [] id := fun hcreated => absurd hcreated.1 (Nat.not_lt.2 hcreated.2)
    rw [decorations_of_unknown hunknown]
    exact .unknown hunknown
  | append_singleton log request ih =>
    rw [run_concat]
    cases request with
    | createLayer style =>
      rw [serve, decorations_createLayer]
      exact ih.idle (fun _ hasked => by cases hasked) (fun hasked => by cases hasked)
    | decorate other decorations =>
      -- the decorations are set on a layer in use, and on no other
      by_cases hset : id = other ∧ InUse log id
      · obtain ⟨rfl, huse⟩ := hset
        obtain ⟨layer, hlayer, hlive⟩ := inUse_iff.1 huse
        rw [serve, decorations_decorate_self hlayer hlive]
        exact .set huse decorations
      · rw [serve, decorations_decorate_of_disposed]
        · exact ih.idle (fun _ hasked huse => hset ⟨(Request.decorate.inj hasked).1.symm, huse⟩)
            (fun hasked => by cases hasked)
        · intro hid layer hlayer
          by_contra hlive
          exact hset ⟨hid, inUse_iff.2 ⟨layer, hlayer, Bool.eq_false_iff.2 hlive⟩⟩
    | dispose other =>
      rw [serve, decorations_dispose]
      by_cases hid : id = other
      · subst hid
        rw [if_pos rfl]
        -- a layer that is still to be created is not disposed of, but shows nothing either
        by_cases hcreated : Created log id
        · exact .disposed (disposedOf_concat_iff.2 (.inr ⟨rfl, hcreated⟩))
        · rw [decorations_of_unknown hcreated] at ih
          exact ih.idle (fun _ hasked => by cases hasked) (fun _ => hcreated)
      · rw [if_neg hid]
        exact ih.idle (fun _ hasked => by cases hasked)
          (fun hasked => absurd (Request.dispose.inj hasked).symm hid)
    | notify message =>
      exact ih.idle (fun _ hasked => by cases hasked) (fun hasked => by cases hasked)

/-- What is shown is what the log tells, and nothing else. -/
theorem decorations_run_iff :
    (run log).decorations id = decorations ↔ Shows log id decorations := by
  constructor
  · rintro rfl
    exact shows_decorations log id
  · exact (shows_decorations log id).unique

/-! ## The views of the editor -/

/-- The layers in use, by the log, are the live ones. -/
theorem mem_live_run_iff : id ∈ (run log).live ↔ InUse log id := by
  rw [mem_live_iff, inUse_iff]

/-! ## Numbers, messages and counts -/

/-- There is one layer more for each request to create one. -/
theorem created_serve (editor : Editor) (request : Request) :
    (editor.serve request).created = editor.created + request.style?.toList.length := by
  have hstyles := congrArg List.length (map_style_serve editor request)
  rwa [List.length_append, List.length_map, List.length_map] at hstyles

/-- **The numbers returned are those that come next.** -/
theorem answers_eq (editor : Editor) (log : List Request) :
    editor.answers log = layersAfter editor.created (stylesAsked log).length := by
  induction log generalizing editor with
  | nil => rfl
  | cons request log ih =>
    -- a request takes one number if it creates a layer, and none otherwise
    have hanswer : (editor.answer? request).toList =
        layersAfter editor.created request.style?.toList.length := by
      cases request <;> rfl
    have hstyles : stylesAsked (request :: log) = request.style?.toList ++ stylesAsked log := by
      cases request <;> rfl
    rw [answers, ih, hanswer, created_serve, layersAfter_append, hstyles, List.length_append]

theorem messages_serve (editor : Editor) (request : Request) :
    (editor.serve request).messages = editor.messages ++ request.message?.toList := by
  cases request with
  | createLayer style => exact (List.append_nil _).symm
  | decorate id decorations =>
    exact (messages_decorate editor id decorations).trans (List.append_nil _).symm
  | dispose id => exact (messages_dispose editor id).trans (List.append_nil _).symm
  | notify message => rfl

/-- The messages are those of the log. -/
theorem messages_run (log : List Request) :
    (run log).messages = log.filterMap Request.message? := by
  induction log using List.reverseRecOn with
  | nil => rfl
  | append_singleton log request ih => rw [run_concat, messages_serve, ih, filterMap_concat]

theorem replacements_modifyLayer (editor : Editor) (id : LayerId) (change : Layer → Layer) :
    (editor.modifyLayer id change).replacements = editor.replacements := by
  obtain ⟨_ | n⟩ := id <;> rfl

theorem replacements_serve (editor : Editor) (request : Request) :
    (editor.serve request).replacements =
      editor.replacements + if request.replaces then 1 else 0 := by
  cases request with
  | createLayer style => rfl
  | decorate id decorations =>
    exact congrArg (· + 1) (replacements_modifyLayer editor id _)
  | dispose id => exact replacements_modifyLayer editor id _
  | notify message => rfl

/-- The replacements are counted by the log, those that came to nothing included. -/
theorem replacements_run (log : List Request) :
    (run log).replacements = log.countP Request.replaces := by
  induction log using List.reverseRecOn with
  | nil => rfl
  | append_singleton log request ih =>
    rw [run_concat, replacements_serve, ih, List.countP_append, List.countP_singleton]

/-! ## All that the editor tells -/

/-- **A layer that was disposed of never comes back,** whatever is asked next. -/
theorem DisposedOf.run_append (h : DisposedOf log id) (more : List Request) :
    id ∉ (run (log ++ more)).live ∧ id ∉ (run (log ++ more)).visible ∧
      (run (log ++ more)).decorations id = [] := by
  have hgone := h.append more
  have hlive : id ∉ (run (log ++ more)).live := fun hmem => (mem_live_run_iff.1 hmem).2 hgone
  exact ⟨hlive, fun hmem => hlive (mem_visible_iff.1 hmem).1,
    decorations_run_iff.2 (.disposed hgone)⟩

/-- **An editor is told by its log.** The layers created are numbered from 1 on, in order, and no
number is returned twice. A layer shows the decorations that were last set on it after it was
created and before it was disposed of, and nothing if there are none, if it was never created or if
it was disposed of; and once it was, it never comes back. The live layers are those created and not
disposed of, and the visible ones those among them that are for whole lines and show something,
both in the order of their numbers. The messages are those of the log, and the replacements are
counted by it. -/
theorem run_of_log (log : List Request) :
    empty.answers log = (List.range' 1 (stylesAsked log).length).map LayerId.mk ∧
      (empty.answers log).Nodup ∧
      (∀ id decorations, (run log).decorations id = decorations ↔ Shows log id decorations) ∧
      (∀ id, DisposedOf log id → ∀ more, id ∉ (run (log ++ more)).live ∧
        id ∉ (run (log ++ more)).visible ∧ (run (log ++ more)).decorations id = []) ∧
      ((run log).live.Pairwise fun id other => id.number < other.number) ∧
      (∀ id, id ∈ (run log).live ↔ InUse log id) ∧
      ((run log).visible.Pairwise fun id other => id.number < other.number) ∧
      (∀ id, id ∈ (run log).visible ↔ InUse log id ∧
        styleAsked? log id = some .wholeLine ∧ ∃ decorations, Shows log id decorations ∧
          decorations ≠ []) ∧
      (run log).messages = log.filterMap Request.message? ∧
      (run log).replacements = log.countP Request.replaces := by
  have hanswers : empty.answers log = layersAfter 0 (stylesAsked log).length := answers_eq empty log
  refine ⟨hanswers, ?_, fun id decorations => decorations_run_iff,
    fun id hdisposed more => hdisposed.run_append more, ascending_live _,
    fun id => mem_live_run_iff, ascending_visible _, fun id => ?_, messages_run log,
    replacements_run log⟩
  · rw [hanswers]
    exact nodup_layersAfter 0 _
  · simp only [mem_visible_iff, mem_live_run_iff, style_run, ← decorations_run_iff, exists_eq_left']

/-- Decorations asked for before the layer is created, or after it is disposed of, never show. -/
example : (run [.decorate ⟨1⟩ [.plain (.lineStart 2)], .createLayer .wholeLine, .dispose ⟨1⟩,
    .decorate ⟨1⟩ [.plain (.lineStart 2)]]).decorations ⟨1⟩ = [] := rfl

end Editor
end BorrowSketch
