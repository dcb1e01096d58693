import BorrowSketch.Proofs.KeyMap.Lookup
import BorrowSketch.Proofs.Sketch.Rendering
import Mathlib.Data.List.Induction
import Mathlib.Data.List.Nodup

/-! # What registries hold

A registry is made of a list of codes and handlers, and of two handlers for one code it keeps the
later.

* **`Registry.get?_ofList`** — what is found under a code.
* **`Handlers.contains_standardRenderers_iff`**, **`Handlers.supports_standard_iff`** — the codes
  with a renderer, and those with any handler, unless others are chosen.
* **`Handlers.exists_of_get?_renderersBy`**, **`Handlers.get?_standardRenderers`** — the programs of
  these renderers, and what they draw. -/

namespace BorrowSketch
namespace Registry

variable {α : Type} {handlers : List (String × α)} {code : String} {handler : α}

/-- **Look-up.** Under a code stands the last handler given for it. -/
theorem get?_ofList (handlers : List (String × α)) (code : String) :
    (ofList handlers).get? code = handlers.reverse.lookup code := by
  induction handlers using List.reverseRecOn with
  | nil => rfl
  | append_singleton handlers entry ih =>
    obtain ⟨other, handler⟩ := entry
    have hlast : ofList (handlers ++ [(other, handler)]) =
        (ofList handlers).insert other handler := List.foldl_concat ..
    rw [hlast, List.reverse_concat, List.lookup_cons]
    by_cases hcode : code = other
    · rw [hcode, KeyMap.get?_insert_self, beq_self_eq_true]
    · rw [KeyMap.get?_insert_of_ne _ _ hcode, ih, beq_false_of_ne hcode]

/-- What is found was given for the code. -/
theorem mem_of_get?_ofList (h : (ofList handlers).get? code = some handler) :
    (code, handler) ∈ handlers := by
  rw [get?_ofList, List.lookup_eq_some_iff] at h
  obtain ⟨before, after, hsplit, -⟩ := h
  rw [← List.mem_reverse, hsplit]
  exact List.mem_append_right before List.mem_cons_self

/-- Something is found under the codes of the list, and under no others. -/
theorem contains_ofList_iff :
    (ofList handlers).contains code = true ↔ code ∈ handlers.map Prod.fst := by
  rw [KeyMap.contains, get?_ofList, List.lookup_isSome_iff, List.mem_map]
  simp only [List.mem_reverse, beq_iff_eq]
  exact exists_congr fun entry => and_congr_right fun _ => eq_comm

end Registry

namespace Handlers

variable {code : String}

/-- The codes of the errors about borrows. -/
def borrowCodes : List String :=
  ["E0373", "E0382", "E0499", "E0502", "E0503", "E0505", "E0506", "E0597"]

/-- The codes of diagnostics that are kept track of unless other handlers are chosen. -/
def trackedCodes : List String :=
  "E0308" :: borrowCodes

/-- However lines are counted, there is a renderer for every error about borrows, and for no other
code. -/
theorem contains_renderersBy_iff {counting : Counting} {h : counting ≠ .checked} :
    (renderersBy counting h).contains code = true ↔ code ∈ borrowCodes := by
  rw [renderersBy, Registry.contains_ofList_iff, List.map_map]
  rfl

/-- There is a renderer for every error about borrows, and for no other code. -/
theorem contains_standardRenderers_iff :
    standardRenderers.contains code = true ↔ code ∈ borrowCodes :=
  contains_renderersBy_iff

/-- There is a handler for every error about borrows and for mismatched types, and for no other
code. -/
theorem supports_standard_iff : standard.supports code = true ↔ code ∈ trackedCodes := by
  have hhinters : standardHinters.contains code = true ↔ code = "E0308" := by
    rw [standardHinters, Registry.contains_ofList_iff]
    exact List.mem_singleton
  rw [supports, Bool.or_eq_true, standard, contains_standardRenderers_iff, hhinters, trackedCodes,
    List.mem_cons, or_comm]

/-- A renderer in use is that of a program for its code. -/
theorem exists_of_get?_renderersBy {counting : Counting} {hcounting : counting ≠ .checked}
    {renderer : Renderer} (h : (renderersBy counting hcounting).get? code = some renderer) :
    ∃ rendering, (code, rendering) ∈ standardRenderings ∧
      renderer = rendering.renderer counting hcounting := by
  obtain ⟨⟨_, rendering⟩, hmem, hentry⟩ := List.mem_map.1 (Registry.mem_of_get?_ofList h)
  obtain ⟨rfl, rfl⟩ := Prod.mk.inj hentry
  exact ⟨rendering, hmem, rfl⟩

/-- A renderer in use draws the sketch of its code. -/
theorem exists_of_get?_standardRenderers {renderer : Renderer}
    (h : standardRenderers.get? code = some renderer) :
    ∃ sketch, (code, sketch) ∈ standardSketches ∧ renderer = Renderer.ofSketch sketch := by
  obtain ⟨rendering, hmem, rfl⟩ := exists_of_get?_renderersBy h
  obtain ⟨sketch, hsketch, hdraws⟩ := exists_draws_of_mem hmem
  exact ⟨sketch, hsketch, hdraws.renderer_exact _⟩

/-- The renderer of a program in use is found under its code. -/
theorem get?_renderersBy {counting : Counting} (hcounting : counting ≠ .checked)
    {rendering : Rendering} (h : (code, rendering) ∈ standardRenderings) :
    (renderersBy counting hcounting).get? code = some (rendering.renderer counting hcounting) := by
  have hcode : code ∈ borrowCodes := List.mem_map_of_mem (f := Prod.fst) h
  obtain ⟨renderer, hget⟩ := Option.isSome_iff_exists.1
    (contains_renderersBy_iff (h := hcounting).2 hcode)
  obtain ⟨other, hother, rfl⟩ := exists_of_get?_renderersBy hget
  -- there is one program for each code
  have hnodup : (standardRenderings.map Prod.fst).Nodup := by decide
  obtain rfl : rendering = other :=
    (Prod.mk.inj (List.inj_on_of_nodup_map hnodup h hother rfl)).2
  exact hget

/-- **The program of each code** draws the sketch of the code. -/
theorem exists_draws (h : code ∈ borrowCodes) :
    ∃ rendering sketch, (code, rendering) ∈ standardRenderings ∧
      (code, sketch) ∈ standardSketches ∧ rendering.Draws sketch := by
  have hcode : code ∈ standardRenderings.map Prod.fst := h
  obtain ⟨⟨_, rendering⟩, hmem, rfl⟩ := List.mem_map.1 hcode
  obtain ⟨sketch, hsketch, hdraws⟩ := exists_draws_of_mem hmem
  exact ⟨rendering, sketch, hmem, hsketch, hdraws⟩

/-- The program of a sketch in use draws it. -/
theorem exists_rendering_of_mem {sketch : LineView → Diagnostic → Outcome Sketch}
    (h : (code, sketch) ∈ standardSketches) :
    ∃ rendering, (code, rendering) ∈ standardRenderings ∧ rendering.Draws sketch := by
  have hcode : code ∈ borrowCodes := List.mem_map_of_mem (f := Prod.fst) h
  obtain ⟨rendering, other, hmem, hother, hdraws⟩ := exists_draws hcode
  -- there is one sketch for each code
  have hnodup : (standardSketches.map Prod.fst).Nodup := by decide
  obtain rfl : sketch = other := (Prod.mk.inj (List.inj_on_of_nodup_map hnodup h hother rfl)).2
  exact ⟨rendering, hmem, hdraws⟩

/-- **The renderer of a sketch in use** is found under its code. -/
theorem get?_standardRenderers {sketch : LineView → Diagnostic → Outcome Sketch}
    (h : (code, sketch) ∈ standardSketches) :
    standardRenderers.get? code = some (Renderer.ofSketch sketch) := by
  obtain ⟨rendering, hmem, hdraws⟩ := exists_rendering_of_mem h
  rw [standardRenderers, get?_renderersBy _ hmem, hdraws.renderer_exact]

end Handlers
end BorrowSketch
