import BorrowSketch.Document.Basic
import BorrowSketch.Proofs.Diagnostic.Published

/-! # The shapes that diagnostics are read from

Diagnostics are read from a publication, from a message that has one as its parameters, and from an
array alone. An array has no address, so that a related place in it that names a document is taken
to be in another one, also if it is in the document that the array is about.

* **`Json.get?_ofMembers`** — the members of an object.
* **`Json.Names`** — the related places of an item name no document but one.
* **`Diagnostic.inCharacters`** — a diagnostic with all of its positions counted in characters.
* **`Published.diagnosticsOfJson?_of_members`** — what is read of a publication.
* **`Published.diagnosticsOfJson?_of_names`** — the three shapes compared. -/

namespace BorrowSketch

/-- **The members of an object.** Of two with one name the later counts. -/
theorem Json.get?_ofMembers (members : List (String × Json)) (name : String) :
    (ofMembers members).get? name = members.reverse.lookup name := by
  have hentries : ∀ object : KeyMap String Json,
      members.foldl (fun object member => KeyMap.insertEntry member.1 member.2 object)
          object.toList =
        (members.foldl (fun object member => object.insert member.1 member.2) object).toList := by
    induction members with
    | nil => exact fun _ => rfl
    | cons member members ih => exact fun object => ih (object.insert member.1 member.2)
  rw [← Registry.get?_ofList, KeyMap.get?_eq_lookup]
  exact congrArg (List.lookup name) (hentries ∅)

/-! ## Names of documents -/

/-- The related places of an item name no document but one, if they name any. -/
def Json.Names (item : Json) (uri : String) : Prop :=
  ∀ places, item.get? "relatedInformation" = some (.array places) → ∀ place ∈ places,
    ∀ location name, place.get? "location" = some location →
      location.get? "uri" = some (.string name) → name = uri

/-- A related place that is read of an item names what the item names. -/
theorem Json.Names.uri_eq {item : Json} {uri : String} (h : item.Names uri) {d : Diagnostic}
    (hd : Diagnostic.ofJson? item = some d) {place : Related} (hplace : place ∈ d.related)
    {name : String} (hname : place.uri = some name) : name = uri := by
  obtain ⟨span, -, rfl⟩ := Option.map_eq_some_iff.1 hd
  obtain ⟨value, hvalue, hread⟩ := List.mem_filterMap.1 hplace
  -- the place was read of a value among those of the item
  obtain ⟨places, hplaces, hmem⟩ :
      ∃ places, item.get? "relatedInformation" = some (.array places) ∧ value ∈ places := by
    cases hrelated : item.get? "relatedInformation" with
    | none => simp [hrelated] at hvalue
    | some related => cases related <;> simp_all [asArray?]
  obtain ⟨location, hlocation, hread⟩ := Option.bind_eq_some_iff.1 hread
  obtain ⟨span, -, hread⟩ := Option.bind_eq_some_iff.1 hread
  obtain ⟨message, -, rfl⟩ := Option.map_eq_some_iff.1 hread
  obtain ⟨text, htext, hstring⟩ := Option.bind_eq_some_iff.1 hname
  rw [asString?_eq_some_iff.1 hstring] at htext
  exact h places hplaces value hmem location name hlocation htext

/-! ## All positions in characters -/

section Characters

variable {document : LineView} {uri : String}

/-- A related place with its positions counted in characters of a document, whatever document it
names. -/
def Related.inCharacters (document : LineView) (place : Related) : Related :=
  { place with span := place.span.map (Position.toCharacters document) }

/-- A diagnostic with all of its positions counted in characters of a document. -/
def Diagnostic.inCharacters (document : LineView) (d : Diagnostic) : Diagnostic :=
  { d with
    span := d.span.map (Position.toCharacters document)
    related := d.related.map (Related.inCharacters document) }

/-- The positions of a diagnostic are counted in characters if its related places name no document
but its own. -/
theorem Diagnostic.mapPositions_eq_inCharacters {d : Diagnostic}
    (h : ∀ place ∈ d.related, ∀ name, place.uri = some name → name = uri) :
    d.mapPositions uri (Position.toCharacters document) = d.inCharacters document := by
  have hrelated : d.related.map (·.mapPositions uri (Position.toCharacters document)) =
      d.related.map (Related.inCharacters document) := by
    refine List.map_congr_left fun place hplace => if_pos ?_
    rw [Option.all_eq_true]
    exact fun name hname => decide_eq_true (h place hplace name hname)
  rw [mapPositions, hrelated]
  rfl

/-- A diagnostic with its positions counted in characters of a document, apart from those of related
places that name one address. -/
def Diagnostic.inCharactersExcept (document : LineView) (uri : String) (d : Diagnostic) :
    Diagnostic :=
  { d with
    span := d.span.map (Position.toCharacters document)
    related := d.related.map fun place =>
      if place.uri = some uri then place else place.inCharacters document }

/-- It makes no difference exactly if the related places that name the address have the same
positions either way. -/
theorem Diagnostic.inCharactersExcept_eq_iff {d : Diagnostic} :
    d.inCharactersExcept document uri = d.inCharacters document ↔
      ∀ place ∈ d.related, place.uri = some uri → place.inCharacters document = place := by
  rw [inCharactersExcept, inCharacters, Diagnostic.mk.injEq]
  simp only [true_and, List.map_inj_left]
  refine forall₂_congr fun place _ => ?_
  by_cases hname : place.uri = some uri
  · simp [hname, eq_comm]
  · simp [hname]

/-- Without an address, only related places that name no document have their positions counted in
characters. -/
theorem Diagnostic.mapPositions_empty_eq {d : Diagnostic} (hempty : uri ≠ "")
    (h : ∀ place ∈ d.related, ∀ name, place.uri = some name → name = uri) :
    d.mapPositions "" (Position.toCharacters document) = d.inCharactersExcept document uri := by
  have hrelated : d.related.map (·.mapPositions "" (Position.toCharacters document)) =
      d.related.map fun place =>
        if place.uri = some uri then place else place.inCharacters document := by
    refine List.map_congr_left fun place hplace => ?_
    -- a place names nothing, or the one address, which is not the empty one
    cases hname : place.uri with
    | none => simp [Related.mapPositions, hname, Related.inCharacters]
    | some name =>
      obtain rfl := h place hplace name hname
      simp [Related.mapPositions, hname, hempty]
  rw [mapPositions, hrelated]
  rfl

end Characters

namespace Published

variable {items : List Json} {uri : String} {value params : Json}

/-! ## What is read of each shape -/

/-- **A publication,** or a message that has it as its parameters, in which related places name no
document but its own. -/
theorem diagnosticsOfJson?_of_members (h : ∀ item ∈ items, item.Names uri)
    (hvalue : value.isArray = false) (hparams : (value.get? "params").getD value = params)
    (huri : params.get? "uri" = some (.string uri))
    (hitems : params.get? "diagnostics" = some (.array items)) (document : LineView) :
    diagnosticsOfJson? value document =
      some ((Diagnostic.listOfJson (.array items)).map (Diagnostic.inCharacters document)) := by
  have hread : ofJson? params = some
      ⟨uri, (params.get? "version").bind version?, Diagnostic.listOfJson (.array items)⟩ := by
    rw [ofJson?, huri, hitems]
    rfl
  rw [diagnosticsOfJson?, if_neg (by simp [hvalue]), hparams, hread, Option.map_some]
  refine congrArg some (List.map_congr_left fun d hd => ?_)
  obtain ⟨item, hitem, hread⟩ := List.mem_filterMap.1 hd
  exact Diagnostic.mapPositions_eq_inCharacters fun place hplace name hname =>
    (h item hitem).uri_eq hread hplace hname

/-- **An array** in which related places name no document but one. Those that name it are left as
they are, unless its name is empty. -/
theorem diagnosticsOfJson?_array (h : ∀ item ∈ items, item.Names uri) (document : LineView) :
    diagnosticsOfJson? (.array items) document =
      some ((Diagnostic.listOfJson (.array items)).map
        (if uri = "" then Diagnostic.inCharacters document
          else Diagnostic.inCharactersExcept document uri)) := by
  refine congrArg some (List.map_congr_left fun d hd => ?_)
  obtain ⟨item, hitem, hread⟩ := List.mem_filterMap.1 hd
  have hnames : ∀ place ∈ d.related, ∀ name, place.uri = some name → name = uri :=
    fun place hplace name hname => (h item hitem).uri_eq hread hplace hname
  split
  · next hempty => exact Diagnostic.mapPositions_eq_inCharacters (hempty ▸ hnames)
  · next hempty => exact Diagnostic.mapPositions_empty_eq hempty hnames

/-- **The three shapes.** A publication with an address and items whose related places name no other
document, and a message with this publication as its parameters, are read as the same diagnostics,
with all of their positions counted in characters. Of the items alone the same is read exactly if
the address is empty, or the related places that name it have positions that are the same in units
and in characters; in general, these places keep their positions in units. -/
theorem diagnosticsOfJson?_of_names (items : List Json) (uri : String) (document : LineView)
    (h : ∀ item ∈ items, item.Names uri) :
    let diagnostics := Diagnostic.listOfJson (.array items)
    let params := Json.ofMembers [("uri", .string uri), ("diagnostics", .array items)]
    let converted := diagnostics.map (Diagnostic.inCharacters document)
    diagnosticsOfJson? params document = some converted ∧
    diagnosticsOfJson? (.ofMembers [("params", params)]) document = some converted ∧
    diagnosticsOfJson? (.array items) document = some (diagnostics.map
      (if uri = "" then Diagnostic.inCharacters document
        else Diagnostic.inCharactersExcept document uri)) ∧
    (diagnosticsOfJson? (.array items) document = some converted ↔
      uri = "" ∨ ∀ d ∈ diagnostics, ∀ place ∈ d.related, place.uri = some uri →
        place.inCharacters document = place) := by
  intro diagnostics params converted
  have huri : params.get? "uri" = some (.string uri) := by
    simp [params, Json.get?_ofMembers, List.lookup_cons]
  have hitems : params.get? "diagnostics" = some (.array items) := by
    simp [params, Json.get?_ofMembers]
  have hparams : (params.get? "params").getD params = params := by
    simp [params, Json.get?_ofMembers, List.lookup_cons]
  have hmessage : ((Json.ofMembers [("params", params)]).get? "params").getD
      (.ofMembers [("params", params)]) = params := by
    simp [Json.get?_ofMembers]
  have harray := diagnosticsOfJson?_array h document
  refine ⟨diagnosticsOfJson?_of_members h rfl hparams huri hitems document,
    diagnosticsOfJson?_of_members h rfl hmessage huri hitems document, harray, ?_⟩
  rw [harray, Option.some.injEq, List.map_inj_left]
  by_cases hempty : uri = ""
  · simp [hempty]
  · simp [hempty, Diagnostic.inCharactersExcept_eq_iff, diagnostics]

/-! ## A line with a surrogate pair -/

/-- The place from one unit of the first line up to another. -/
def firstLine (first stop : Nat) : Json :=
  .object [("end", .object [("character", .int stop), ("line", .int 0)]),
    ("start", .object [("character", .int first), ("line", .int 0)])]

/-- A use after a move, both in the first line of one document. -/
def useAfterMove : Json :=
  .object [("code", .string "E0382"), ("message", .string "use of moved value: `x`"),
    ("range", firstLine 15 16),
    ("relatedInformation", .array
      [.object [("location", .object [("range", firstLine 9 10),
          ("uri", .string "file:///main.rs")]),
        ("message", .string "value moved here")]]),
    ("severity", .int 1), ("source", .string "rustc")]

/-- The document of the use after a move. A character of two units stands before both places. -/
def moves : LineView :=
  (Document.mk "/*😀*/ f(x); g(x);").view

theorem names_useAfterMove : useAfterMove.Names "file:///main.rs" := by
  intro places hplaces place hplace location name hlocation hname
  obtain rfl : _ = places := Json.array.inj (Option.some.inj hplaces)
  obtain rfl := List.mem_singleton.1 hplace
  obtain rfl : _ = location := Option.some.inj hlocation
  exact (Json.string.inj (Option.some.inj hname)).symm

/-- The publication of the use after a move and the message around it agree, and the array keeps the
place of the move in units. -/
theorem diagnosticsOfJson?_of_names_useAfterMove :
    let params := Json.ofMembers
      [("uri", .string "file:///main.rs"), ("diagnostics", .array [useAfterMove])]
    (∀ item ∈ [useAfterMove], item.Names "file:///main.rs") ∧
    diagnosticsOfJson? params moves = diagnosticsOfJson? (.ofMembers [("params", params)]) moves ∧
    diagnosticsOfJson? (.array [useAfterMove]) moves =
      some ((Diagnostic.listOfJson (.array [useAfterMove])).map
        (Diagnostic.inCharactersExcept moves "file:///main.rs")) := by
  intro params
  have hnames : ∀ item ∈ [useAfterMove], item.Names "file:///main.rs" := fun item hitem =>
    List.mem_singleton.1 hitem ▸ names_useAfterMove
  obtain ⟨hparams, hmessage, harray, -⟩ :=
    diagnosticsOfJson?_of_names [useAfterMove] "file:///main.rs" moves hnames
  exact ⟨hnames, hparams.trans hmessage.symm, harray⟩

/-- Of an array not the same is read as of the publication with its items. -/
theorem diagnosticsOfJson?_array_ne :
    (∀ item ∈ [useAfterMove], item.Names "file:///main.rs") ∧
    diagnosticsOfJson? (.array [useAfterMove]) moves ≠
      diagnosticsOfJson? (.ofMembers
        [("uri", .string "file:///main.rs"), ("diagnostics", .array [useAfterMove])]) moves :=
  ⟨fun item hitem => List.mem_singleton.1 hitem ▸ names_useAfterMove, by decide +kernel⟩

end Published
end BorrowSketch
