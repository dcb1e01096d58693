import BorrowSketch.Proofs.Diagnostic.Published
import BorrowSketch.Proofs.Document.Insertion
import BorrowSketch.Proofs.Text.Units

/-! # Positions counted in characters

The positions of a publication are counted anew: those of its own document, on lines that the
document has. All else of the publication stays.

* **`Published.Counted`** — what becomes of a publication, told part by part.
* **`Published.ownPositions`** — the positions of a publication in its own document.
* **`Position.toCharacters_le`** — a position not later than another stays so.
* **`Published.mapPositions_eq_self_iff`** — when a change of positions changes nothing.
* **`Published.counted_of_toCharacters`** — the publication counted in characters. -/

namespace BorrowSketch

variable {view : LineView} {uri : String}

/-! ## One position -/

namespace Position

/-- A position and what becomes of it. On a line that the document does not have it stays; elsewhere
the characters before it are those that start before the unit offset. -/
structure Counted (view : LineView) (before after : Position) : Prop where
  /-- It stays on its line. -/
  line : after.line = before.line
  /-- On a missing line it stays as it is. -/
  missing : view.text? before.line = none → after = before
  /-- A character stands before it exactly if it starts before the unit offset. -/
  character : ∀ text, view.text? before.line = some text → ∀ i,
    i < after.character ↔ i < text.length ∧ Text.unitsBefore text.toList i < before.character

variable {position other : Position}

theorem le_iff : position ≤ other ↔
    position.line < other.line ∨
      position.line = other.line ∧ position.character ≤ other.character :=
  Iff.rfl

theorem toCharacters_of_none (h : view.text? position.line = none) :
    position.toCharacters view = position := by
  simp only [toCharacters, h]

theorem toCharacters_of_some {text : String} (h : view.text? position.line = some text) :
    position.toCharacters view =
      ⟨position.line, Text.charsBefore text.toList position.character⟩ := by
  simp only [toCharacters, h]

/-- Counting a position in characters. -/
theorem counted_toCharacters (view : LineView) (position : Position) :
    position.Counted view (position.toCharacters view) where
  line := line_toCharacters view position
  missing h := toCharacters_of_none h
  character text h i := by
    rw [toCharacters_of_some h, Text.lt_charsBefore_iff, String.length_toList]

/-- **The order of positions** stays. -/
theorem toCharacters_le (h : position ≤ other) :
    position.toCharacters view ≤ other.toCharacters view := by
  rw [le_iff, line_toCharacters, line_toCharacters]
  rcases le_iff.1 h with hlt | ⟨hline, hcharacter⟩
  · exact .inl hlt
  · refine .inr ⟨hline, ?_⟩
    cases htext : view.text? position.line with
    | none => rwa [toCharacters_of_none htext, toCharacters_of_none (hline ▸ htext)]
    | some text =>
      rw [toCharacters_of_some htext, toCharacters_of_some (hline ▸ htext)]
      exact Text.charsBefore_mono text.toList hcharacter

/-- **Within the line:** a position has no more characters before it than its line has. -/
def Within (view : LineView) (position : Position) : Prop :=
  ∀ text, view.text? position.line = some text → position.character ≤ text.length

/-- Counted in characters, a position is within its line. -/
theorem within_toCharacters (view : LineView) (position : Position) :
    (position.toCharacters view).Within view := by
  intro text htext
  rw [line_toCharacters] at htext
  rw [toCharacters_of_some htext, ← String.length_toList]
  exact Text.charsBefore_le_length text.toList position.character

/-- **Counted in units and back,** a position is as it was exactly if it is within its line. -/
theorem toCharacters_toUnits_eq_self_iff :
    (position.toUnits view).toCharacters view = position ↔ position.Within view := by
  obtain ⟨line, character⟩ := position
  cases htext : view.text? line with
  | none => simp [toUnits, toCharacters, Within, htext]
  | some text =>
    simp [toUnits, toCharacters, Within, htext, Text.charsBefore_unitsBefore,
      String.length_toList]

end Position

/-! ## Spans -/

namespace Span

/-- A span and what becomes of it. -/
structure Counted (view : LineView) (before after : Span) : Prop where
  /-- Its start is counted anew. -/
  start : before.start.Counted view after.start
  /-- Its end is counted anew. -/
  stop : before.stop.Counted view after.stop
  /-- It does not end before its start if it did not before. -/
  ordered : before.start ≤ before.stop → after.start ≤ after.stop

/-- Counting a span in characters. -/
theorem counted_toCharacters (view : LineView) (span : Span) :
    span.Counted view (span.map (Position.toCharacters view)) where
  start := span.start.counted_toCharacters view
  stop := span.stop.counted_toCharacters view
  ordered := Position.toCharacters_le

/-- Both ends of a span. -/
def positions (span : Span) : List Position :=
  [span.start, span.stop]

variable {span : Span} {f : Position → Position}

/-- A change of the ends of a span changes nothing exactly if it leaves both ends. -/
theorem map_eq_self_iff :
    span.map f = span ↔ ∀ position ∈ span.positions, f position = position := by
  obtain ⟨start, stop⟩ := span
  simp [map, positions]

end Span

/-! ## Related places -/

namespace Related

/-- A related place is in a document if it names it, or names none. -/
def IsIn (place : Related) (uri : String) : Prop :=
  place.uri = none ∨ place.uri = some uri

instance (place : Related) (uri : String) : Decidable (place.IsIn uri) := by
  unfold IsIn; infer_instance

/-- A related place and what becomes of it. In another document it stays as it is. -/
structure Counted (view : LineView) (uri : String) (before after : Related) : Prop where
  /-- Its message stays. -/
  message : after.message = before.message
  /-- The document it names stays. -/
  named : after.uri = before.uri
  /-- In the document it is counted anew. -/
  own : before.IsIn uri → before.span.Counted view after.span
  /-- In another document it stays where it is. -/
  foreign : ¬ before.IsIn uri → after.span = before.span

variable {place : Related} {f g : Position → Position}

theorem mapPositions_of_isIn (h : place.IsIn uri) (f : Position → Position) :
    place.mapPositions uri f = { place with span := place.span.map f } := by
  rcases h with h | h <;> simp [mapPositions, h]

theorem mapPositions_of_not_isIn (h : ¬ place.IsIn uri) (f : Position → Position) :
    place.mapPositions uri f = place := by
  obtain ⟨hnone, hother⟩ := not_or.1 h
  obtain ⟨name, hname⟩ := Option.ne_none_iff_exists'.1 hnone
  refine if_neg ?_
  simpa [hname] using hother

/-- Counting a related place in characters. -/
theorem counted_mapPositions (view : LineView) (uri : String) (place : Related) :
    place.Counted view uri (place.mapPositions uri (Position.toCharacters view)) := by
  by_cases h : place.IsIn uri
  · rw [mapPositions_of_isIn h]
    exact ⟨rfl, rfl, fun _ => place.span.counted_toCharacters view, fun hnot => absurd h hnot⟩
  · rw [mapPositions_of_not_isIn h]
    exact ⟨rfl, rfl, fun hin => absurd hin h, fun _ => rfl⟩

/-- The positions of a related place that are in a document. -/
def ownPositions (uri : String) (place : Related) : List Position :=
  if place.IsIn uri then place.span.positions else []

/-- The positions after a change. -/
theorem ownPositions_mapPositions :
    (place.mapPositions uri f).ownPositions uri = (place.ownPositions uri).map f := by
  by_cases h : place.IsIn uri
  · have hchanged : Related.IsIn { place with span := place.span.map f } uri := h
    rw [mapPositions_of_isIn h, ownPositions, if_pos hchanged, ownPositions, if_pos h]
    rfl
  · rw [mapPositions_of_not_isIn h, ownPositions, if_neg h, List.map_nil]

/-- One change after another is a change by both. -/
theorem mapPositions_mapPositions :
    (place.mapPositions uri f).mapPositions uri g = place.mapPositions uri (g ∘ f) := by
  by_cases h : place.IsIn uri
  · have hchanged : Related.IsIn { place with span := place.span.map f } uri := h
    rw [mapPositions_of_isIn h, mapPositions_of_isIn hchanged, mapPositions_of_isIn h]
    rfl
  · rw [mapPositions_of_not_isIn h, mapPositions_of_not_isIn h, mapPositions_of_not_isIn h]

/-- A change changes nothing exactly if it leaves all positions in the document. -/
theorem mapPositions_eq_self_iff :
    place.mapPositions uri f = place ↔
      ∀ position ∈ place.ownPositions uri, f position = position := by
  by_cases h : place.IsIn uri
  · rw [mapPositions_of_isIn h, ownPositions, if_pos h, ← Span.map_eq_self_iff]
    exact ⟨congrArg Related.span, fun hspan => by rw [hspan]⟩
  · rw [mapPositions_of_not_isIn h, ownPositions, if_neg h]
    exact iff_of_true rfl (List.forall_mem_nil _)

end Related

/-! ## Diagnostics -/

namespace Diagnostic

/-- A diagnostic and what becomes of it. -/
structure Counted (view : LineView) (uri : String) (before after : Diagnostic) : Prop where
  /-- Its place is counted anew. -/
  span : before.span.Counted view after.span
  /-- Its severity stays. -/
  severity : after.severity = before.severity
  /-- Its code stays. -/
  code : after.code = before.code
  /-- Its source stays. -/
  source : after.source = before.source
  /-- Its message stays. -/
  message : after.message = before.message
  /-- Its related places stay in order, each counted anew. -/
  related : List.Forall₂ (Related.Counted view uri) before.related after.related

variable {d : Diagnostic} {f g : Position → Position}

/-- Counting a diagnostic in characters. -/
theorem counted_mapPositions (view : LineView) (uri : String) (d : Diagnostic) :
    d.Counted view uri (d.mapPositions uri (Position.toCharacters view)) where
  span := d.span.counted_toCharacters view
  severity := rfl
  code := rfl
  source := rfl
  message := rfl
  related := List.forall₂_map_right_iff.2
    (List.forall₂_same.2 fun place _ => place.counted_mapPositions view uri)

/-- The positions of a diagnostic that are in its document. -/
def ownPositions (uri : String) (d : Diagnostic) : List Position :=
  d.span.positions ++ d.related.flatMap (Related.ownPositions uri)

/-- The positions after a change. -/
theorem ownPositions_mapPositions :
    (d.mapPositions uri f).ownPositions uri = (d.ownPositions uri).map f := by
  simp only [ownPositions, mapPositions, List.flatMap_map, Related.ownPositions_mapPositions,
    List.map_append, List.map_flatMap]
  rfl

/-- One change after another is a change by both. -/
theorem mapPositions_mapPositions :
    (d.mapPositions uri f).mapPositions uri g = d.mapPositions uri (g ∘ f) := by
  simp only [mapPositions, List.map_map, Function.comp_def, Related.mapPositions_mapPositions]
  rfl

/-- A change changes nothing exactly if it leaves all positions in the document. -/
theorem mapPositions_eq_self_iff :
    d.mapPositions uri f = d ↔ ∀ position ∈ d.ownPositions uri, f position = position := by
  have hparts : d.mapPositions uri f = d ↔
      d.span.map f = d.span ∧ d.related.map (·.mapPositions uri f) = d.related.map id := by
    obtain ⟨span, severity, code, source, message, related⟩ := d
    simp [mapPositions]
  rw [hparts, Span.map_eq_self_iff, List.map_inj_left]
  simp only [id_eq, Related.mapPositions_eq_self_iff, ownPositions, List.forall_mem_append,
    List.forall_mem_flatMap]

end Diagnostic

/-! ## Publications -/

namespace Published

/-- A publication and what becomes of it. -/
structure Counted (view : LineView) (before after : Published) : Prop where
  /-- Its document stays. -/
  uri : after.uri = before.uri
  /-- Its version stays. -/
  version : after.version = before.version
  /-- Its diagnostics stay in order, each counted anew. -/
  diagnostics :
    List.Forall₂ (Diagnostic.Counted view before.uri) before.diagnostics after.diagnostics

/-- The positions of a publication that are in its document. -/
def ownPositions (published : Published) : List Position :=
  published.diagnostics.flatMap (Diagnostic.ownPositions published.uri)

variable {published : Published} {f g : Position → Position}

/-- The positions after a change. -/
theorem ownPositions_mapPositions :
    (published.mapPositions f).ownPositions = published.ownPositions.map f := by
  simp only [ownPositions, mapPositions, List.flatMap_map, Diagnostic.ownPositions_mapPositions,
    List.map_flatMap]

/-- One change after another is a change by both. -/
theorem mapPositions_mapPositions :
    (published.mapPositions f).mapPositions g = published.mapPositions (g ∘ f) := by
  simp only [mapPositions, List.map_map, Function.comp_def, Diagnostic.mapPositions_mapPositions]

/-- **A change of positions changes nothing** exactly if it leaves all those in the document. -/
theorem mapPositions_eq_self_iff :
    published.mapPositions f = published ↔
      ∀ position ∈ published.ownPositions, f position = position := by
  have hparts : published.mapPositions f = published ↔
      published.diagnostics.map (·.mapPositions published.uri f) =
        published.diagnostics.map id := by
    obtain ⟨uri, version, diagnostics⟩ := published
    simp [mapPositions]
  rw [hparts, List.map_inj_left]
  simp only [id_eq, Diagnostic.mapPositions_eq_self_iff, ownPositions, List.forall_mem_flatMap]

/-- **Counting in characters.** A publication keeps its document, its version, and its diagnostics
and related places with their order and all that they say; positions change in nothing but the
character, and only those in the document, on lines that the document has; no span comes to end
before its start. Every position in the document is then within its line, so that text can be
inserted there. Counted in units and back, the publication is as it was exactly if all of its
positions in the document were within their lines. -/
theorem counted_of_toCharacters (published : Published) (view : LineView) :
    published.Counted view (published.toCharacters view) ∧
    (∀ position ∈ (published.toCharacters view).ownPositions, position.Within view) ∧
    (∀ document : Document, document.view = view →
      ∀ position ∈ (published.toCharacters view).ownPositions,
        (view.text? position.line).isSome → ∀ inserted,
          (document.insert? position inserted).isSome) ∧
    ((published.toUnits view).toCharacters view = published ↔
      ∀ position ∈ published.ownPositions, position.Within view) := by
  have hwithin : ∀ position ∈ (published.toCharacters view).ownPositions,
      position.Within view := by
    intro position hposition
    rw [toCharacters, ownPositions_mapPositions] at hposition
    obtain ⟨before, -, rfl⟩ := List.mem_map.1 hposition
    exact before.within_toCharacters view
  refine ⟨⟨rfl, rfl, ?_⟩, hwithin, ?_, ?_⟩
  · exact List.forall₂_map_right_iff.2
      (List.forall₂_same.2 fun d _ => d.counted_mapPositions view published.uri)
  · rintro document rfl position hposition hline inserted
    obtain ⟨text, htext⟩ := Option.isSome_iff_exists.1 hline
    exact Document.isSome_insert?_iff.2 ⟨text, htext, hwithin position hposition text htext⟩
  · rw [toUnits, toCharacters, mapPositions_mapPositions, mapPositions_eq_self_iff]
    simp only [Function.comp_apply, Position.toCharacters_toUnits_eq_self_iff]

end Published
end BorrowSketch
