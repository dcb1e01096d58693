import BorrowSketch.Proofs.Diagnostic.Shapes

/-! # Diagnostics written and read back

What a JSON value has to look like to be read as a given diagnostic, said of its members; that the
published form of a diagnostic looks like this; and that what else stands in a list beside such
values does not matter.

* **`Interspersed`** — a list of values for some things, with other values between them.
* **`Json.IsSpan`**, **`Json.IsCoded`**, **`Json.IsRelated`**, **`Json.IsDiagnostic`** — values for
  the parts of a diagnostic, and for a whole one.
* **`Diagnostic.ofJson?_eq_none_iff`**, **`Related.ofJson?_eq_none_iff`** — the values that are left
  out.
* **`Diagnostic.Writable`**, **`Diagnostic.isDiagnostic_toJson`** — the published form.
* **`Diagnostic.listOfJson_of_interspersed`** — reading back what was written. -/

namespace BorrowSketch

/-! ## Lists with other values in them -/

section Interspersed

variable {α : Type} {form : α → Json → Prop} {other : Json → Prop}

/-- **A list of values** that are forms of some things, in order, with other values before, between
and behind them. -/
inductive Interspersed (form : α → Json → Prop) (other : Json → Prop) :
    List α → List Json → Prop where
  /-- Nothing is left. -/
  | nil : Interspersed form other [] []
  /-- The next value is the form of the next thing. -/
  | next {thing : α} {value : Json} {things : List α} {values : List Json}
      (hform : form thing value) (hrest : Interspersed form other things values) :
      Interspersed form other (thing :: things) (value :: values)
  /-- The next value is one of the others. -/
  | skip {value : Json} {things : List α} {values : List Json} (hother : other value)
      (hrest : Interspersed form other things values) :
      Interspersed form other things (value :: values)

/-- If each thing is read of its forms and nothing of the other values, the things are read of the
list. -/
theorem Interspersed.filterMap_eq {read : Json → Option α} {things : List α} {values : List Json}
    (h : Interspersed form other things values)
    (hform : ∀ thing value, form thing value → read value = some thing)
    (hother : ∀ value, other value → read value = none) : values.filterMap read = things := by
  induction h with
  | nil => rfl
  | next hnext _ ih => rw [List.filterMap_cons_some (hform _ _ hnext), ih]
  | skip hskip _ ih => rw [List.filterMap_cons_none (hother _ hskip), ih]

/-- A list of forms alone. -/
theorem interspersed_map {write : α → Json} {things : List α}
    (h : ∀ thing ∈ things, form thing (write thing)) :
    Interspersed form other things (things.map write) := by
  induction things with
  | nil => exact .nil
  | cons thing things ih =>
    obtain ⟨hthing, hthings⟩ := List.forall_mem_cons.1 h
    exact .next hthing (ih hthings)

end Interspersed

/-! ## Values for parts of a diagnostic -/

namespace Json

variable {value item : Json}

/-- A value for a position. -/
def IsPosition (value : Json) (position : Position) : Prop :=
  value.HasMember "line" (·.IsUnsigned position.line) ∧
    value.HasMember "character" (·.IsUnsigned position.character)

/-- A value for a span. -/
def IsSpan (value : Json) (span : Span) : Prop :=
  value.HasMember "start" (·.IsPosition span.start) ∧
    value.HasMember "end" (·.IsPosition span.stop)

/-- A value has a valid range. -/
def HasRange (value : Json) : Prop :=
  value.HasMember "range" fun range => ∃ span, range.IsSpan span

/-- A value for a name, or for a number that 64 bits with a sign can hold. -/
def IsCodeValue (value : Json) : CodeValue → Prop
  | .name text => value = .string text
  | .number n => value = .int n ∧ -Nat.pow 2 63 ≤ n ∧ n < Nat.pow 2 63

/-- **An item has a code,** or none. -/
inductive IsCoded (item : Json) : Option Code → Prop where
  /-- There is no code. -/
  | absent (hcode : item.get? "code" = none) : IsCoded item none
  /-- A value alone, without a description. -/
  | bare {value : CodeValue} (hcode : item.HasMember "code" (·.IsCodeValue value))
      (hdescription : item.get? "codeDescription" = none) : IsCoded item (some (.bare value))
  /-- A value and its documentation in one object. -/
  | folded {value : CodeValue} {target : Option String}
      (hcode : item.HasMember "code" fun code => code.HasMember "value" (·.IsCodeValue value) ∧
        code.get? "target" = target.map .string) :
      IsCoded item (some (.documented value target))
  /-- A value, and the address of its description beside it. -/
  | described {value : CodeValue} {address : String}
      (hcode : item.HasMember "code" (·.IsCodeValue value))
      (hdescription : item.HasMember "codeDescription" (·.get? "href" = some (.string address))) :
      IsCoded item (some (.documented value (some address)))

/-- A value for a related place. -/
structure IsRelated (value : Json) (place : Related) : Prop where
  /-- Its location has the span, and names the document if the place does. -/
  location : value.HasMember "location" fun location =>
    location.HasMember "range" (·.IsSpan place.span) ∧
      location.get? "uri" = place.uri.map .string
  /-- Its message is that of the place. -/
  message : value.get? "message" = some (.string place.message)

/-- A value has a valid range in its location, and a message. -/
def HasPlace (value : Json) : Prop :=
  value.HasMember "location" HasRange ∧
    value.HasMember "message" fun message => ∃ text, message = .string text

/-- The related places in an item, none if they are not an array. -/
def relatedItems (item : Json) : List Json :=
  match item.get? "relatedInformation" with
  | some (.array places) => places
  | _ => []

/-- **A value for a diagnostic.** Among its related places there may be values that have no valid
range or no message. -/
structure IsDiagnostic (item : Json) (d : Diagnostic) : Prop where
  /-- It has the span. -/
  range : item.HasMember "range" (·.IsSpan d.span)
  /-- It has the number of the severity, if there is one. -/
  severity : item.get? "severity" = d.severity.map fun severity => .int severity.toNat
  /-- It has the code. -/
  code : item.IsCoded d.code
  /-- It has the source, if there is one. -/
  source : item.get? "source" = d.source.map .string
  /-- It has the message. -/
  message : item.get? "message" = some (.string d.message)
  /-- It has the related places in order. -/
  related : Interspersed (fun place value => value.IsRelated place) (fun value => ¬ value.HasPlace)
    d.related item.relatedItems

end Json

/-! ## Reading such values -/

section Reading

variable {value item : Json}

theorem Span.ofJson?_eq_some_iff {span : Span} :
    Span.ofJson? value = some span ↔ value.IsSpan span := by
  obtain ⟨start, stop⟩ := span
  have hposition : ∀ (member : Json) (position : Position),
      member.IsPosition position ↔ Position.ofJson? member = some position :=
    fun _ _ => Position.ofJson?_eq_some_iff.symm
  simp only [Span.ofJson?, Json.IsSpan, hposition, ← Json.bind_get?_eq_some_iff]
  cases (value.get? "start").bind Position.ofJson? with
  | none => simp
  | some first => cases (value.get? "end").bind Position.ofJson? <;> simp

theorem CodeValue.ofJson?_eq_some_iff {code : CodeValue} :
    CodeValue.ofJson? value = some code ↔ value.IsCodeValue code := by
  cases code with
  | name text => exact CodeValue.ofJson?_eq_name_iff
  | number n =>
    cases value with
    | int i =>
      simp only [ofJson?, Json.asInt?, Json.IsCodeValue, Option.map_eq_some_iff,
        Option.ite_none_right_eq_some, Option.some.injEq, CodeValue.number.injEq, Json.int.injEq]
      constructor
      · rintro ⟨_, ⟨hbounds, rfl⟩, rfl⟩
        exact ⟨rfl, hbounds⟩
      · rintro ⟨rfl, hbounds⟩
        exact ⟨_, ⟨hbounds, rfl⟩, rfl⟩
    | _ => simp [ofJson?, Json.IsCodeValue]

/-- What a related place is read of. -/
theorem Related.ofJson?_eq_some_iff {place : Related} :
    Related.ofJson? value = some place ↔
      (value.HasMember "location" fun location =>
        location.HasMember "range" (·.IsSpan place.span) ∧
          (location.get? "uri").bind Json.asString? = place.uri) ∧
      value.get? "message" = some (.string place.message) := by
  simp only [← Span.ofJson?_eq_some_iff, ← Json.bind_get?_eq_some_iff]
  constructor
  · intro h
    obtain ⟨location, hlocation, h⟩ := Option.bind_eq_some_iff.1 h
    obtain ⟨span, hspan, h⟩ := Option.bind_eq_some_iff.1 h
    obtain ⟨message, hmessage, rfl⟩ := Option.map_eq_some_iff.1 h
    obtain ⟨member, hmember, hstring⟩ := Option.bind_eq_some_iff.1 hmessage
    rw [Json.asString?_eq_some_iff.1 hstring] at hmember
    exact ⟨⟨location, hlocation, hspan, rfl⟩, hmember⟩
  · rintro ⟨⟨location, hlocation, hspan, huri⟩, hmessage⟩
    simp only [ofJson?, hlocation, Option.bind_some, hspan, hmessage, Json.asString?, huri,
      Option.map_some]

/-- Nothing is read of a related place exactly if it has no valid range in its location or no
message. -/
theorem Related.ofJson?_eq_none_iff : Related.ofJson? value = none ↔ ¬ value.HasPlace := by
  rw [Option.eq_none_iff_forall_ne_some, ← not_exists, not_iff_not]
  constructor
  · rintro ⟨place, hplace⟩
    obtain ⟨⟨location, hlocation, ⟨range, hrange, hspan⟩, -⟩, hmessage⟩ :=
      ofJson?_eq_some_iff.1 hplace
    exact ⟨⟨location, hlocation, range, hrange, place.span, hspan⟩, _, hmessage, _, rfl⟩
  · rintro ⟨⟨location, hlocation, range, hrange, span, hspan⟩, _, hmessage, text, rfl⟩
    exact ⟨⟨text, span, (location.get? "uri").bind Json.asString?⟩, ofJson?_eq_some_iff.2
      ⟨⟨location, hlocation, ⟨range, hrange, hspan⟩, rfl⟩, hmessage⟩⟩

/-- Nothing is read of an item exactly if it has no valid range. -/
theorem Diagnostic.ofJson?_eq_none_iff : Diagnostic.ofJson? item = none ↔ ¬ item.HasRange := by
  rw [ofJson?, Option.map_eq_none_iff, Option.eq_none_iff_forall_ne_some, ← not_exists, not_iff_not]
  simp only [Json.bind_get?_eq_some_iff, Span.ofJson?_eq_some_iff]
  constructor
  · rintro ⟨span, range, hrange, hspan⟩
    exact ⟨range, hrange, span, hspan⟩
  · rintro ⟨range, hrange, span, hspan⟩
    exact ⟨span, range, hrange, hspan⟩

/-- A text that may be missing, written and read. -/
theorem Json.bind_asString?_map_string (text : Option String) :
    (text.map Json.string).bind Json.asString? = text := by
  cases text <;> rfl

/-- A related place is read of its values. -/
theorem Json.IsRelated.ofJson?_eq {place : Related} (h : value.IsRelated place) :
    Related.ofJson? value = some place := by
  obtain ⟨location, hlocation, hrange, huri⟩ := h.location
  refine Related.ofJson?_eq_some_iff.2 ⟨⟨location, hlocation, hrange, ?_⟩, h.message⟩
  rw [huri, bind_asString?_map_string]

/-- A value alone is documented if the item has the address of a description. -/
theorem Code.ofJson?_of_value {code : CodeValue}
    (h : item.HasMember "code" (·.IsCodeValue code)) :
    Code.ofJson? item =
      some (((((item.get? "codeDescription").bind (·.get? "href")).bind Json.asString?).map
        fun address => .documented code (some address)).getD (.bare code)) := by
  obtain ⟨member, hmember, hcode⟩ := h
  have hread := CodeValue.ofJson?_eq_some_iff.2 hcode
  rw [ofJson?, hmember, Option.bind_some]
  cases member with
  | null => cases hread
  | _ =>
    simp only [ofMember?, hread]
    cases ((item.get? "codeDescription").bind (·.get? "href")).bind Json.asString? <;> rfl

/-- **The code of an item** is the one that it has. -/
theorem Json.IsCoded.ofJson?_eq {code : Option Code} (h : item.IsCoded code) :
    Code.ofJson? item = code := by
  cases h with
  | absent hcode => rw [Code.ofJson?, hcode, Option.bind_none]
  | bare hcode hdescription =>
    rw [Code.ofJson?_of_value hcode, hdescription]
    rfl
  | @folded value target hcode =>
    obtain ⟨member, hmember, hvalue, htarget⟩ := hcode
    have hread : (member.get? "value").bind CodeValue.ofJson? = some value := by
      simpa only [bind_get?_eq_some_iff, CodeValue.ofJson?_eq_some_iff] using hvalue
    rw [Code.ofJson?, hmember, Option.bind_some]
    -- only an object has members
    cases member with
    | object members =>
      simp only [Code.ofMember?, CodeValue.ofJson?, Code.ofFolded, hread, htarget,
        bind_asString?_map_string]
    | _ => simp [HasMember, Json.get?] at hvalue
  | described hcode hdescription =>
    obtain ⟨description, hdescription, haddress⟩ := hdescription
    rw [Code.ofJson?_of_value hcode, hdescription, Option.bind_some, haddress]
    rfl

/-- The number of a severity, read as a severity. -/
theorem Severity.bind_ofNat?_map_toNat (severity : Option Severity) :
    ((severity.map fun severity => Json.int severity.toNat).bind Json.asNat?).bind
      Severity.ofNat? = severity := by
  rcases severity with _ | severity
  · rfl
  · cases severity <;> rfl

/-- **A diagnostic is read of its values,** whatever else stands among the related places. -/
theorem Json.IsDiagnostic.ofJson?_eq {d : Diagnostic} (h : item.IsDiagnostic d) :
    Diagnostic.ofJson? item = some d := by
  have hspan : (item.get? "range").bind Span.ofJson? = some d.span := by
    simpa only [bind_get?_eq_some_iff, Span.ofJson?_eq_some_iff] using h.range
  have hitems : ((item.get? "relatedInformation").bind Json.asArray?).getD [] =
      item.relatedItems := by
    rw [relatedItems]
    cases item.get? "relatedInformation" with
    | none => rfl
    | some related => cases related <;> rfl
  have hrelated : item.relatedItems.filterMap Related.ofJson? = d.related :=
    h.related.filterMap_eq (fun place value hplace => hplace.ofJson?_eq)
      fun value hvalue => Related.ofJson?_eq_none_iff.2 hvalue
  rw [Diagnostic.ofJson?, hspan, Option.map_some, h.severity, h.code.ofJson?_eq, h.source,
    h.message, hitems, hrelated, Severity.bind_ofNat?_map_toNat, bind_asString?_map_string]
  rfl

end Reading

/-! ## Written diagnostics -/

/-- Both numbers of a position fit into 64 bits. -/
def Position.Writable (position : Position) : Prop :=
  position.line < UInt64.size ∧ position.character < UInt64.size

/-- All numbers of a span fit into 64 bits. -/
def Span.Writable (span : Span) : Prop :=
  span.start.Writable ∧ span.stop.Writable

/-- A number as a code fits into 64 bits with a sign. -/
def CodeValue.Writable : CodeValue → Prop
  | name _ => True
  | number n => -Nat.pow 2 63 ≤ n ∧ n < Nat.pow 2 63

/-- A code is a value, with or without documentation. -/
def Code.Writable : Code → Prop
  | bare value => value.Writable
  | documented value _ => value.Writable
  | unrecognized _ => False

/-- **A diagnostic that can be written:** its numbers fit, and if it has a code, this is a value,
with or without documentation. -/
structure Diagnostic.Writable (d : Diagnostic) : Prop where
  /-- The numbers of its span fit. -/
  span : d.span.Writable
  /-- Its code is a value, if there is one. -/
  code : ∀ code, d.code = some code → code.Writable
  /-- The numbers of its related places fit. -/
  related : ∀ place ∈ d.related, place.span.Writable

/-- The published form of a diagnostic with the address of the documentation beside its code. -/
def Diagnostic.toDescribedJson (d : Diagnostic) (value : CodeValue) (address : String) : Json :=
  .ofMembers (d.members ++ [("code", value.toJson),
    ("codeDescription", .ofMembers [("href", .string address)])])

section Writing

variable {d : Diagnostic}

theorem Position.isPosition_toJson {position : Position} (h : position.Writable) :
    position.toJson.IsPosition position :=
  ⟨⟨_, by simp [toJson, Json.get?_ofMembers, List.lookup_cons], rfl, h.1⟩,
    ⟨_, by simp [toJson, Json.get?_ofMembers], rfl, h.2⟩⟩

theorem Span.isSpan_toJson {span : Span} (h : span.Writable) : span.toJson.IsSpan span :=
  ⟨⟨_, by simp [toJson, Json.get?_ofMembers, List.lookup_cons], Position.isPosition_toJson h.1⟩,
    ⟨_, by simp [toJson, Json.get?_ofMembers], Position.isPosition_toJson h.2⟩⟩

theorem CodeValue.isCodeValue_toJson {value : CodeValue} (h : value.Writable) :
    value.toJson.IsCodeValue value := by
  cases value with
  | name text => rfl
  | number n => exact ⟨rfl, h⟩

/-- An object with one member, and another that may be missing. -/
theorem Json.get?_ofMembers_optional {name other : String} (h : name ≠ other) (value : Json)
    (option : Option Json) :
    (ofMembers ((name, value) :: optionalMember other option)).get? name = some value ∧
      (ofMembers ((name, value) :: optionalMember other option)).get? other = option := by
  have hname : (name == other) = false := beq_false_of_ne h
  have hother : (other == name) = false := beq_false_of_ne h.symm
  cases option <;> simp [get?_ofMembers, optionalMember, List.lookup_cons, hname, hother]

theorem Related.isRelated_toJson {place : Related} (h : place.span.Writable) :
    place.toJson.IsRelated place := by
  obtain ⟨hrange, huri⟩ := Json.get?_ofMembers_optional (show "range" ≠ "uri" by decide)
    place.span.toJson (place.uri.map .string)
  refine ⟨⟨_, ?_, ⟨_, hrange, Span.isSpan_toJson h⟩, huri⟩, ?_⟩
  · simp [toJson, Json.get?_ofMembers, List.lookup_cons]
  · simp [toJson, Json.get?_ofMembers]

/-- The members of the published form, but for those of the code. -/
theorem Diagnostic.lookup_members (d : Diagnostic) :
    d.members.reverse.lookup "range" = some d.span.toJson ∧
    d.members.reverse.lookup "severity" = d.severity.map (fun severity => .int severity.toNat) ∧
    d.members.reverse.lookup "source" = d.source.map .string ∧
    d.members.reverse.lookup "message" = some (.string d.message) ∧
    d.members.reverse.lookup "relatedInformation" = some (.array (d.related.map Related.toJson)) ∧
    d.members.reverse.lookup "code" = none ∧ d.members.reverse.lookup "codeDescription" = none := by
  cases hseverity : d.severity <;> cases hsource : d.source <;>
    simp [members, optionalMember, hseverity, hsource, List.lookup_cons]

/-- **The published form is a value for the diagnostic,** in whichever way its code is written. -/
theorem Diagnostic.isDiagnostic_ofMembers (h : d.Writable) {coded : List (String × Json)}
    (hnames : ∀ member ∈ coded, member.1 = "code" ∨ member.1 = "codeDescription")
    (hcode : (Json.ofMembers (d.members ++ coded)).IsCoded d.code) :
    (Json.ofMembers (d.members ++ coded)).IsDiagnostic d := by
  have hget : ∀ name, name ≠ "code" → name ≠ "codeDescription" →
      (Json.ofMembers (d.members ++ coded)).get? name = d.members.reverse.lookup name := by
    intro name hnot hnotDescription
    have hnone : coded.reverse.lookup name = none := by
      refine List.lookup_eq_none_iff.2 fun member hmember => ?_
      rcases hnames member (List.mem_reverse.1 hmember) with hname | hname
      · simpa [hname] using hnot
      · simpa [hname] using hnotDescription
    rw [Json.get?_ofMembers, List.reverse_append, List.lookup_append, hnone, Option.none_or]
  obtain ⟨hrange, hseverity, hsource, hmessage, hrelated, -⟩ := d.lookup_members
  have hitems : (Json.ofMembers (d.members ++ coded)).relatedItems =
      d.related.map Related.toJson := by
    rw [Json.relatedItems, hget _ (by decide) (by decide), hrelated]
  refine ⟨⟨_, (hget _ (by decide) (by decide)).trans hrange, Span.isSpan_toJson h.span⟩,
    (hget _ (by decide) (by decide)).trans hseverity, hcode,
    (hget _ (by decide) (by decide)).trans hsource,
    (hget _ (by decide) (by decide)).trans hmessage, ?_⟩
  rw [hitems]
  exact interspersed_map fun place hplace => Related.isRelated_toJson (h.related place hplace)

/-- The published form, with the documentation of the code folded into it. -/
theorem Diagnostic.isDiagnostic_toJson (h : d.Writable) : d.toJson.IsDiagnostic d := by
  obtain ⟨-, -, -, -, -, hcode, hdescription⟩ := d.lookup_members
  have hnames : ∀ member ∈ optionalMember "code" (d.code.map Code.toJson),
      member.1 = "code" ∨ member.1 = "codeDescription" := by
    intro member hmember
    cases hd : d.code <;> simp_all [optionalMember]
  refine Diagnostic.isDiagnostic_ofMembers h hnames ?_
  cases hd : d.code with
  | none => exact .absent (by simp [optionalMember, Json.get?_ofMembers, hcode])
  | some code =>
    have hget :
        (Json.ofMembers (d.members ++ optionalMember "code" (some code.toJson))).get? "code" =
          some code.toJson := by
      simp [optionalMember, Json.get?_ofMembers]
    have hwritable := h.code code hd
    cases code with
    | bare value =>
      refine .bare ⟨_, hget, CodeValue.isCodeValue_toJson hwritable⟩ ?_
      simp [optionalMember, Json.get?_ofMembers, List.lookup_cons, hdescription]
    | documented value target =>
      obtain ⟨hvalue, htarget⟩ := Json.get?_ofMembers_optional (show "value" ≠ "target" by decide)
        value.toJson (target.map .string)
      exact .folded ⟨_, hget, ⟨_, hvalue, CodeValue.isCodeValue_toJson hwritable⟩, htarget⟩
    | unrecognized raw => exact hwritable.elim

/-- The published form, with the address of the documentation beside the code. -/
theorem Diagnostic.isDiagnostic_toDescribedJson {value : CodeValue} {address : String}
    (h : d.Writable) (hcode : d.code = some (.documented value (some address))) :
    (d.toDescribedJson value address).IsDiagnostic d := by
  refine Diagnostic.isDiagnostic_ofMembers h (by simp) ?_
  rw [hcode]
  refine .described ⟨value.toJson, ?_, CodeValue.isCodeValue_toJson (h.code _ hcode)⟩
    ⟨.ofMembers [("href", .string address)], ?_, ?_⟩
  · simp [Json.get?_ofMembers, List.lookup_cons]
  · simp [Json.get?_ofMembers]
  · simp [Json.get?_ofMembers]

/-- **Diagnostics are read back as they were written.** A diagnostic whose numbers fit and whose
code is a value is read of its published form; if its code is documented at an address, it is so in
either form. In general a diagnostic is read of any item that has its parts, whatever values without
a range or a message stand among the related places; and of an array of such items with values
without a range among them exactly their diagnostics are read, in order. -/
theorem Diagnostic.listOfJson_of_interspersed :
    (∀ d : Diagnostic, d.Writable → d.toJson.IsDiagnostic d ∧ ofJson? d.toJson = some d) ∧
    (∀ (d : Diagnostic) value address, d.Writable →
      d.code = some (.documented value (some address)) →
      (d.toDescribedJson value address).IsDiagnostic d ∧
        ofJson? (d.toDescribedJson value address) = some d ∧
        Code.ofJson? (d.toDescribedJson value address) = Code.ofJson? d.toJson) ∧
    (∀ (d : Diagnostic) (item : Json), item.IsDiagnostic d → ofJson? item = some d) ∧
    ∀ (diagnostics : List Diagnostic) (items : List Json),
      Interspersed (fun d item => item.IsDiagnostic d) (fun item => ¬ item.HasRange)
        diagnostics items → listOfJson (.array items) = diagnostics := by
  refine ⟨fun d h => ?_, fun d value address h hcode => ?_, fun d item h => h.ofJson?_eq,
    fun diagnostics items h => ?_⟩
  · have hform := Diagnostic.isDiagnostic_toJson h
    exact ⟨hform, hform.ofJson?_eq⟩
  · have hform := Diagnostic.isDiagnostic_toDescribedJson h hcode
    exact ⟨hform, hform.ofJson?_eq,
      hform.code.ofJson?_eq.trans (Diagnostic.isDiagnostic_toJson h).code.ofJson?_eq.symm⟩
  · exact h.filterMap_eq (fun d item hform => hform.ofJson?_eq)
      fun item hitem => Diagnostic.ofJson?_eq_none_iff.2 hitem

end Writing

/-! ## A use after a move with other values in it -/

namespace Diagnostic

/-- A use after a move. -/
def useAfterMove : Diagnostic where
  span := .onLine 0 15 16
  severity := some .error
  code := some (.documented (.name "E0382")
    (some "https://doc.rust-lang.org/error-index.html#E0382"))
  source := some "rustc"
  message := "use of moved value: `x`"
  related := [⟨"value moved here", .onLine 0 9 10, some "file:///main.rs"⟩]

/-- Its published form, with two values more among the related places: one that is no object, and
one that has no location. -/
def sprinkledMove : Json :=
  .object [("code", .object [("target", .string "https://doc.rust-lang.org/error-index.html#E0382"),
      ("value", .string "E0382")]),
    ("message", .string "use of moved value: `x`"), ("range", Published.firstLine 15 16),
    ("relatedInformation", .array [.null,
      .object [("location", .object [("range", Published.firstLine 9 10),
          ("uri", .string "file:///main.rs")]),
        ("message", .string "value moved here")],
      .object [("message", .string "value used here")]]),
    ("severity", .int 1), ("source", .string "rustc")]

theorem isSpan_firstLine {first stop : Nat} (hfirst : first < UInt64.size)
    (hstop : stop < UInt64.size) :
    (Published.firstLine first stop).IsSpan (.onLine 0 first stop) := by
  have hline : 0 < UInt64.size := by decide
  exact ⟨⟨_, rfl, ⟨_, rfl, rfl, hline⟩, ⟨_, rfl, rfl, hfirst⟩⟩,
    ⟨_, rfl, ⟨_, rfl, rfl, hline⟩, ⟨_, rfl, rfl, hstop⟩⟩⟩

theorem isDiagnostic_sprinkledMove : sprinkledMove.IsDiagnostic useAfterMove where
  range := ⟨_, rfl, isSpan_firstLine (by decide) (by decide)⟩
  severity := rfl
  code := .folded ⟨_, rfl, ⟨_, rfl, rfl⟩, rfl⟩
  source := rfl
  message := rfl
  related := by
    have hnull : ¬ Json.HasPlace .null := by
      rintro ⟨⟨_, hlocation, -⟩, -⟩
      cases hlocation
    have hmessage : ¬ Json.HasPlace (.object [("message", .string "value used here")]) := by
      rintro ⟨⟨_, hlocation, -⟩, -⟩
      cases hlocation
    exact .skip hnull (.next
      ⟨⟨_, rfl, ⟨_, rfl, isSpan_firstLine (by decide) (by decide)⟩, rfl⟩, rfl⟩
      (.skip hmessage .nil))

/-- The use after a move is read twice of an array in which it stands with other values in it, in
its published form, and among values without a range. -/
theorem listOfJson_of_interspersed_move :
    useAfterMove.Writable ∧
    listOfJson (.array [.null, sprinkledMove, .object [("range", .null)], useAfterMove.toJson]) =
      [useAfterMove, useAfterMove] := by
  have hwritable : useAfterMove.Writable := by
    refine ⟨⟨⟨by decide, by decide⟩, by decide, by decide⟩, ?_, ?_⟩
    · rintro code hcode
      obtain rfl := Option.some.inj hcode
      trivial
    · intro place hplace
      obtain rfl := List.mem_singleton.1 hplace
      exact ⟨⟨by decide, by decide⟩, by decide, by decide⟩
  have hnull : ¬ Json.HasRange .null := by
    rintro ⟨_, hrange, -⟩
    cases hrange
  have hempty : ¬ Json.HasRange (.object [("range", .null)]) := by
    rintro ⟨range, hrange, span, ⟨_, hstart, -⟩, -⟩
    obtain rfl := Option.some.inj hrange
    cases hstart
  obtain ⟨hwritten, -, -, hread⟩ := listOfJson_of_interspersed
  exact ⟨hwritable, hread _ _ (.skip hnull (.next isDiagnostic_sprinkledMove
    (.skip hempty (.next (hwritten _ hwritable).1 .nil))))⟩

end Diagnostic
end BorrowSketch
