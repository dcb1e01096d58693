import BorrowSketch.Diagnostic.Published
import BorrowSketch.Proofs.Handlers.Registries
import BorrowSketch.Proofs.Tracker.Entries

/-! # What published diagnostics report

What a JSON value has to look like to report an error that is kept track of, said of its members and
not by reading it.

* **`Json.HasMember`**, **`Json.IsPlace`** — parts of a published diagnostic.
* **`Json.Reports`** — an item reports an error under a key.
* **`Span.exists_ofJson?_iff`**, **`Code.name?_ofJson?_iff`** — what reading asks of the place and
  the code of an item.
* **`Json.reports_iff`** — what is read of such items, and of no others. -/

namespace BorrowSketch

/-! ## Parts of a value -/

namespace Json

variable {value : Json}

/-- A value has a member with a name, of which something holds. -/
def HasMember (value : Json) (name : String) (holds : Json → Prop) : Prop :=
  ∃ member, value.get? name = some member ∧ holds member

/-- A value is an integer without sign that 64 bits can hold. -/
def IsUnsigned (value : Json) (n : Nat) : Prop :=
  value = .int n ∧ n < UInt64.size

/-- A value is a position on a line. -/
def IsPlace (value : Json) (line : Nat) : Prop :=
  value.HasMember "line" (·.IsUnsigned line) ∧
    value.HasMember "character" fun member => ∃ character, member.IsUnsigned character

/-- **An item of a publication reports an error under a key.** It has a valid place that starts on
the line of the key; its severity is that of errors and its source the compiler; and its code is
that of the key and documented, with its documentation beside it or folded into it. -/
structure Reports (item : Json) (key : Key) : Prop where
  /-- The start of the place is a position on the line of the key. -/
  start : item.HasMember "range" (·.HasMember "start" (·.IsPlace key.line))
  /-- The end of the place is a position. -/
  stop : item.HasMember "range" (·.HasMember "end" fun stop => ∃ line, stop.IsPlace line)
  /-- It is an error. -/
  severity : item.get? "severity" = some (.int 1)
  /-- The compiler reports it. -/
  source : item.get? "source" = some (.string "rustc")
  /-- Its code is documented in one of two ways. -/
  code : (item.get? "code" = some (.string key.code) ∧
      item.HasMember "codeDescription" (·.HasMember "href" fun href => ∃ address,
        href = .string address)) ∨
    item.HasMember "code" fun code => code.get? "value" = some (.string key.code)
  /-- The code is one that is kept track of. -/
  supported : key.code ∈ Handlers.trackedCodes

/-- The message of an item, empty where there is none. -/
def messageText (item : Json) : String :=
  match item.get? "message" with
  | some (.string text) => text
  | _ => ""

/-- What is read of a member is there exactly if the member is one that it can be read of. -/
theorem bind_get?_eq_some_iff {α : Type} {name : String} {read : Json → Option α} {a : α} :
    (value.get? name).bind read = some a ↔
      value.HasMember name fun member => read member = some a :=
  Option.bind_eq_some_iff

theorem asString?_eq_some_iff {text : String} :
    value.asString? = some text ↔ value = .string text := by
  cases value <;> simp [asString?]

theorem asNat?_eq_some_iff {n : Nat} : value.asNat? = some n ↔ value.IsUnsigned n := by
  cases value with
  | int i =>
    simp only [asNat?, IsUnsigned, UInt64.size, Json.int.injEq, Nat.pow_eq,
      Option.ite_none_right_eq_some, Option.some.injEq]
    omega
  | _ => simp [asNat?, IsUnsigned]

end Json

/-! ## Places -/

/-- A value is read as a position exactly if both of its numbers are there. -/
theorem Position.ofJson?_eq_some_iff {value : Json} {position : Position} :
    Position.ofJson? value = some position ↔
      value.HasMember "line" (·.IsUnsigned position.line) ∧
        value.HasMember "character" (·.IsUnsigned position.character) := by
  obtain ⟨line, character⟩ := position
  simp only [Position.ofJson?, ← Json.asNat?_eq_some_iff, ← Json.bind_get?_eq_some_iff]
  cases (value.get? "line").bind Json.asNat? with
  | none => simp
  | some n => cases (value.get? "character").bind Json.asNat? <;> simp

/-- A value is read as a position on a line exactly if it is one. -/
theorem Json.isPlace_iff {value : Json} {line : Nat} :
    value.IsPlace line ↔ ∃ position, Position.ofJson? value = some position ∧
      position.line = line := by
  simp only [Position.ofJson?_eq_some_iff, IsPlace]
  constructor
  · rintro ⟨hline, member, hmember, character, hcharacter⟩
    exact ⟨⟨line, character⟩, ⟨hline, member, hmember, hcharacter⟩, rfl⟩
  · rintro ⟨position, ⟨hline, member, hmember, hcharacter⟩, rfl⟩
    exact ⟨hline, member, hmember, _, hcharacter⟩

/-- A value is read as a span exactly if it has positions for both of its ends. -/
theorem Span.exists_ofJson?_iff {value : Json} {line : Nat} :
    (∃ span, Span.ofJson? value = some span ∧ span.start.line = line) ↔
      value.HasMember "start" (·.IsPlace line) ∧
        value.HasMember "end" fun stop => ∃ line, stop.IsPlace line := by
  simp only [Json.HasMember, Json.isPlace_iff]
  constructor
  · rintro ⟨span, hspan, rfl⟩
    obtain ⟨start, hstart, hrest⟩ := Option.bind_eq_some_iff.1 hspan
    obtain ⟨stop, hstop, rfl⟩ := Option.map_eq_some_iff.1 hrest
    obtain ⟨first, hfirst, hstart⟩ := Option.bind_eq_some_iff.1 hstart
    obtain ⟨last, hlast, hstop⟩ := Option.bind_eq_some_iff.1 hstop
    exact ⟨⟨first, hfirst, start, hstart, rfl⟩, last, hlast, _, stop, hstop, rfl⟩
  · rintro ⟨⟨first, hfirst, start, hstart, rfl⟩, last, hlast, _, stop, hstop, -⟩
    refine ⟨⟨start, stop⟩, ?_, rfl⟩
    simp [Span.ofJson?, hfirst, hlast, hstart, hstop]

/-! ## Severities and codes -/

/-- Only the number one stands for an error. -/
theorem Severity.ofNat?_eq_error_iff {n : Nat} : Severity.ofNat? n = some .error ↔ n = 1 := by
  unfold Severity.ofNat?
  split <;> simp_all

/-- A value is read as a name exactly if it is a text. -/
theorem CodeValue.ofJson?_eq_name_iff {value : Json} {name : String} :
    CodeValue.ofJson? value = some (.name name) ↔ value = .string name := by
  cases value <;> simp [CodeValue.ofJson?]

/-- A code that is not a value alone is a documented name exactly if it has a text as its value. -/
theorem Code.name?_ofFolded_iff {code : Json} {name : String} :
    (Code.ofFolded code).name? = some name ↔ code.get? "value" = some (.string name) := by
  have hvalue : code.get? "value" = some (.string name) ↔
      (code.get? "value").bind CodeValue.ofJson? = some (.name name) := by
    simp [Option.bind_eq_some_iff, CodeValue.ofJson?_eq_name_iff]
  rw [hvalue, Code.ofFolded]
  cases (code.get? "value").bind CodeValue.ofJson? with
  | none => simp [Code.name?]
  | some value => cases value <;> simp [Code.name?]

/-- **Documented codes.** The code of an item is a documented name exactly if it is a text and the
item has the address of a description, or it is an object with the text as its value. -/
theorem Code.name?_ofJson?_iff {item : Json} {name : String} :
    (Code.ofJson? item).bind Code.name? = some name ↔
      (item.get? "code" = some (.string name) ∧
        item.HasMember "codeDescription" (·.HasMember "href" fun href => ∃ address,
          href = .string address)) ∨
      item.HasMember "code" fun code => code.get? "value" = some (.string name) := by
  have hdescribed : (item.HasMember "codeDescription" (·.HasMember "href" fun href => ∃ address,
      href = .string address)) ↔
        ∃ address, ((item.get? "codeDescription").bind (·.get? "href")).bind Json.asString? =
          some address := by
    simp only [Json.HasMember, Option.bind_eq_some_iff, Json.asString?_eq_some_iff]
    constructor
    · rintro ⟨description, hdescription, href, hhref, address, rfl⟩
      exact ⟨address, _, ⟨description, hdescription, hhref⟩, rfl⟩
    · rintro ⟨address, href, ⟨description, hdescription, hhref⟩, rfl⟩
      exact ⟨description, hdescription, _, hhref, address, rfl⟩
  rw [hdescribed, Code.ofJson?, Json.HasMember]
  cases item.get? "code" with
  | none => simp
  | some code =>
    simp only [Option.bind_some, Code.ofMember?, Option.some.injEq, exists_eq_left']
    generalize ((item.get? "codeDescription").bind (·.get? "href")).bind Json.asString? = href
    -- a text alone needs the address, a number alone is no name, all else may have a value in it
    cases code with
    | null => simp [Json.get?]
    | string text => cases href <;> simp [CodeValue.ofJson?, Code.name?, Json.get?]
    | int i =>
      cases hint : (Json.int i).asInt? <;> cases href <;>
        simp [CodeValue.ofJson?, hint, Code.name?, Code.ofFolded, Json.get?]
    | bool b => simp [CodeValue.ofJson?, Code.name?_ofFolded_iff]
    | real x => simp [CodeValue.ofJson?, Code.name?_ofFolded_iff]
    | array items => simp [CodeValue.ofJson?, Code.name?_ofFolded_iff]
    | object members => simp [CodeValue.ofJson?, Code.name?_ofFolded_iff]

/-! ## Items -/

/-- Whether a diagnostic is kept track of unless other handlers are chosen: an error of the compiler
with a documented code that has a handler. -/
theorem Handlers.accepts_standard_iff {d : Diagnostic} :
    Handlers.standard.accepts d "rustc" = true ↔
      d.source = some "rustc" ∧ d.severity = some .error ∧
        ∃ code, d.codeName? = some code ∧ code ∈ trackedCodes := by
  rw [accepts, Bool.and_eq_true, Bool.and_eq_true, decide_eq_true_eq, decide_eq_true_eq, and_assoc]
  cases d.codeName? <;> simp [supports_standard_iff]

/-- **What is read of an item.** It reports an error under a key exactly if a diagnostic is read of
it that is kept track of under the key. -/
theorem Json.reports_iff {item : Json} {key : Key} :
    item.Reports key ↔ ∃ d, Diagnostic.ofJson? item = some d ∧ d.key? = some key ∧
      Handlers.standard.accepts d "rustc" = true := by
  have hseverity : ((item.get? "severity").bind Json.asNat?).bind Severity.ofNat? = some .error ↔
      item.get? "severity" = some (.int 1) := by
    simp only [Option.bind_eq_some_iff, asNat?_eq_some_iff, Severity.ofNat?_eq_error_iff,
      IsUnsigned]
    constructor
    · rintro ⟨_, ⟨member, hmember, rfl, -⟩, rfl⟩
      exact hmember
    · intro hmember
      exact ⟨1, ⟨_, hmember, rfl, by decide⟩, rfl⟩
  have hsource : (item.get? "source").bind Json.asString? = some "rustc" ↔
      item.get? "source" = some (.string "rustc") := by
    simp [Option.bind_eq_some_iff, asString?_eq_some_iff]
  have hplace : (∃ span, (item.get? "range").bind Span.ofJson? = some span ∧
        span.start.line = key.line) ↔
      item.HasMember "range" (·.HasMember "start" (·.IsPlace key.line)) ∧
        item.HasMember "range" (·.HasMember "end" fun stop => ∃ line, stop.IsPlace line) := by
    cases hrange : item.get? "range" with
    | none => simp [HasMember, hrange]
    | some range =>
      simp only [Option.bind_some, Span.exists_ofJson?_iff]
      simp [HasMember, hrange]
  simp only [Diagnostic.ofJson?, Option.map_eq_some_iff, Handlers.accepts_standard_iff,
    Diagnostic.key?_eq_some_iff]
  constructor
  · intro h
    obtain ⟨span, hspan, hline⟩ := hplace.2 ⟨h.start, h.stop⟩
    have hcode := Code.name?_ofJson?_iff.2 h.code
    exact ⟨_, ⟨span, hspan, rfl⟩, ⟨hline, hcode⟩, hsource.2 h.source, hseverity.2 h.severity,
      _, hcode, h.supported⟩
  · rintro ⟨_, ⟨span, hspan, rfl⟩, ⟨hline, hcode⟩, hrustc, herror, code, hname, hsupported⟩
    obtain ⟨hstart, hstop⟩ := hplace.1 ⟨span, hspan, hline⟩
    obtain rfl : code = key.code := Option.some.inj (hname.symm.trans hcode)
    exact ⟨hstart, hstop, hseverity.1 herror, hsource.1 hrustc, Code.name?_ofJson?_iff.1 hcode,
      hsupported⟩

/-- The message of a diagnostic is that of the item that it is read of. -/
theorem Diagnostic.message_of_ofJson? {item : Json} {d : Diagnostic}
    (h : Diagnostic.ofJson? item = some d) : d.message = item.messageText := by
  obtain ⟨span, -, rfl⟩ := Option.map_eq_some_iff.1 h
  simp only [Json.messageText]
  cases item.get? "message" with
  | none => rfl
  | some message => cases message <;> rfl

/-! ## Positions in characters -/

/-- Counting in characters does not move a position to another line. -/
@[simp] theorem Position.line_toCharacters (document : LineView) (position : Position) :
    (position.toCharacters document).line = position.line := by
  unfold Position.toCharacters
  split <;> rfl

/-- Counting in characters changes neither where a diagnostic is tracked nor whether it is. -/
theorem Diagnostic.tracked_mapPositions (d : Diagnostic) (uri : String) (document : LineView) :
    (d.mapPositions uri (Position.toCharacters document)).key? = d.key? ∧
      (d.mapPositions uri (Position.toCharacters document)).message = d.message ∧
      ∀ handlers source, Handlers.accepts handlers
        (d.mapPositions uri (Position.toCharacters document)) source =
          handlers.accepts d source := by
  refine ⟨?_, rfl, fun handlers source => rfl⟩
  simp only [Diagnostic.key?, Diagnostic.line, Diagnostic.mapPositions, Span.map,
    Position.line_toCharacters]
  rfl

end BorrowSketch
