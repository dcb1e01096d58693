import BorrowSketch.Proofs.Drawing.Escaping

/-! # Reading markup

A reader goes through markup character by character. It keeps the elements whose end is still to
come, and for each of them the trees that it has found inside. What does not nest is refused: an
end tag must name the element that it closes.

* **`Tree`** — text, or an element with its attributes in order and what stands inside it.
* **`Reader.step`**, **`read?`** — one character read, and markup as a whole.
* **`Reader.run_value`**, **`Reader.run_content`** — escaped text ends no attribute and opens no
  tag, whatever it looks like.
* **`Writes`** — markup in which a reader finds so many trees, whatever it is part of.
* **`Writes.leaf`**, **`Writes.element`** — elements are markup of this kind when their names are
  plain, whatever their attributes say and whatever text stands in them. -/

namespace BorrowSketch.Drawing.Markup

/-! ### Trees -/

/-- The name of an element, and its attributes in order. -/
structure Tag where
  /-- The name. -/
  name : String
  /-- Names and values, as the text that the values stand for. -/
  attributes : List (String × String)

/-- What markup says. -/
inductive Tree where
  /-- Text between tags. -/
  | text (content : String)
  /-- An element and what stands inside it. -/
  | element (tag : Tag) (inside : List Tree)

/-- The trees of a text. Where nothing is written there is none. -/
def textTrees (content : String) : List Tree :=
  if content = "" then [] else [.text content]

/-! ### The reader -/

/-- Whether a character can be part of a name. -/
def nameChar (c : Char) : Bool :=
  !c.isWhitespace && !(['\x22', '\x27', '=', '<', '>', '/'].contains c)

/-- Where in markup a reader is. -/
inductive Mode where
  /-- Between tags, behind so much markup of a text. -/
  | content (text : String)
  /-- Right behind the bracket that opens a tag. -/
  | opened
  /-- In a start tag, behind its name so far or behind an attribute. -/
  | tag (tag : Tag)
  /-- In the name of an attribute. -/
  | attrName (tag : Tag) (name : String)
  /-- Behind the equals sign of an attribute. -/
  | equals (tag : Tag) (name : String)
  /-- In the value of an attribute, which ends with the given quote. -/
  | value (tag : Tag) (name : String) (quote : Char) (value : String)
  /-- In a start tag, behind the slash that makes it an end tag as well. -/
  | slash (tag : Tag)
  /-- In the name of an end tag. -/
  | endTag (name : String)

/-- The trees found so far inside the innermost open element, and around it each open element with
the trees found before it. -/
structure Nest where
  /-- The trees inside the innermost open element. -/
  trees : List Tree
  /-- The open elements, the innermost first. -/
  outer : List (Tag × List Tree)

namespace Nest

/-- More trees inside the innermost open element. -/
def add (nest : Nest) (trees : List Tree) : Nest :=
  { nest with trees := nest.trees ++ trees }

/-- An element opens. -/
def enter (nest : Nest) (tag : Tag) : Nest :=
  ⟨[], (tag, nest.trees) :: nest.outer⟩

/-- The innermost open element ends, which must have the given name. -/
def leave? (nest : Nest) (name : String) : Option Nest :=
  match nest.outer with
  | [] => none
  | (tag, before) :: outer =>
    if tag.name = name then some ⟨before ++ [.element tag nest.trees], outer⟩ else none

@[simp] theorem add_nil (nest : Nest) : nest.add [] = nest := by simp [add]

@[simp] theorem add_add (nest : Nest) (first second : List Tree) :
    (nest.add first).add second = nest.add (first ++ second) := by
  simp [add]

@[simp] theorem leave?_enter_add (nest : Nest) (tag : Tag) (inside : List Tree) :
    ((nest.enter tag).add inside).leave? tag.name = some (nest.add [.element tag inside]) := by
  simp [enter, add, leave?]

end Nest

/-- A reader between two characters. -/
structure Reader where
  /-- Where it is. -/
  mode : Mode
  /-- What it has found. -/
  nest : Nest

/-- The text that markup without tags stands for. -/
def unescaped (markup : String) : String :=
  String.ofList (unescape markup.toList)

@[simp] theorem textTrees_unescaped_empty : textTrees (unescaped "") = [] := rfl

@[simp] theorem unescaped_escape (text : String) : unescaped (escape text) = text := by
  simp [unescaped, unescape_escape]

namespace Reader

/-- Read one character, where it can stand. -/
def step : Reader → Char → Option Reader
  | ⟨.content text, nest⟩, c =>
    if c = '<' then some ⟨.opened, nest.add (textTrees (unescaped text))⟩
    else some ⟨.content (text.push c), nest⟩
  | ⟨.opened, nest⟩, c =>
    if c = '/' then some ⟨.endTag "", nest⟩
    else if nameChar c then some ⟨.tag ⟨String.singleton c, []⟩, nest⟩
    else none
  | ⟨.tag tag, nest⟩, c =>
    if c = ' ' then some ⟨.attrName tag "", nest⟩
    else if c = '>' then some ⟨.content "", nest.enter tag⟩
    else if c = '/' then some ⟨.slash tag, nest⟩
    else if nameChar c ∧ tag.attributes = [] then some ⟨.tag ⟨tag.name.push c, []⟩, nest⟩
    else none
  | ⟨.attrName tag name, nest⟩, c =>
    if c = '=' then some ⟨.equals tag name, nest⟩
    else if nameChar c then some ⟨.attrName tag (name.push c), nest⟩
    else none
  | ⟨.equals tag name, nest⟩, c =>
    if c = '\x22' ∨ c = '\x27' then some ⟨.value tag name c "", nest⟩ else none
  | ⟨.value tag name quote value, nest⟩, c =>
    if c = quote then
      some ⟨.tag { tag with attributes := tag.attributes ++ [(name, unescaped value)] }, nest⟩
    else if c = '<' then none
    else some ⟨.value tag name quote (value.push c), nest⟩
  | ⟨.slash tag, nest⟩, c =>
    if c = '>' then some ⟨.content "", nest.add [.element tag []]⟩ else none
  | ⟨.endTag name, nest⟩, c =>
    if c = '>' then (nest.leave? name).map (⟨.content "", ·⟩)
    else if nameChar c then some ⟨.endTag (name.push c), nest⟩
    else none

/-- Read markup. -/
def run (reader : Reader) (markup : String) : Option Reader :=
  markup.toList.foldlM step reader

/-- What has been read, once nothing is open. -/
def trees? : Reader → Option (List Tree)
  | ⟨.content text, ⟨trees, []⟩⟩ => some (trees ++ textTrees (unescaped text))
  | _ => none

end Reader

/-- The trees that markup says. -/
def read? (markup : String) : Option (List Tree) :=
  (Reader.run ⟨.content "", ⟨[], []⟩⟩ markup).bind Reader.trees?

/-! ### Reading in parts -/

namespace Reader

@[simp] theorem run_empty (reader : Reader) : reader.run "" = some reader := rfl

theorem run_append (reader : Reader) (first second : String) :
    reader.run (first ++ second) = (reader.run first).bind (·.run second) := by
  simp only [run, String.toList_append, List.foldlM_append]
  rfl

/-- Text that a reader only gathers is gathered as a whole. -/
theorem run_gather (mode : String → Mode) (nest : Nest) {p : Char → Prop}
    (hgather : ∀ seen c, p c → step ⟨mode seen, nest⟩ c = some ⟨mode (seen.push c), nest⟩)
    (seen : String) {text : String} (h : ∀ c ∈ text.toList, p c) :
    run ⟨mode seen, nest⟩ text = some ⟨mode (seen ++ text), nest⟩ := by
  obtain ⟨chars, rfl⟩ : ∃ chars, text = String.ofList chars := ⟨text.toList, by simp⟩
  simp only [String.toList_ofList, run] at h ⊢
  -- what has been gathered moves with the text that is left, so it cannot be fixed
  induction chars generalizing seen with
  | nil => simp
  | cons c rest ih =>
    have hshift : seen.push c ++ String.ofList rest = seen ++ String.ofList (c :: rest) := by
      simp [← String.toList_inj]
    rw [List.foldlM_cons, hgather seen c (h c List.mem_cons_self), ← hshift]
    exact ih (seen.push c) fun d hmem => h d (List.mem_cons_of_mem c hmem)

end Reader

/-! ### Tags -/

/-- A name with none of the characters that tags are made of. -/
def Plain (name : String) : Prop :=
  ∀ c ∈ name.toList, nameChar c

instance (name : String) : Decidable (Plain name) :=
  decidable_of_iff (name.toList.all nameChar) List.all_eq_true

/-- A character that passes a test is none that fails it. -/
theorem ne_of_test {test : Char → Bool} {c d : Char} (h : test c) (hfails : test d = false) :
    c ≠ d := by
  rintro rfl
  rw [hfails] at h
  exact Bool.false_ne_true h

/-- A tag whose names are plain. Of its values nothing is asked. -/
structure Tag.Plain (tag : Tag) : Prop where
  /-- The element has a name. -/
  named : tag.name ≠ ""
  /-- Its name is plain. -/
  name : Markup.Plain tag.name
  /-- The names of its attributes are plain. -/
  attributes : ∀ entry ∈ tag.attributes, Markup.Plain entry.1

/-- Whether a tag is plain is a matter of its names. -/
theorem Tag.Plain.of_names {tag : Tag} (name : String) (names : List String)
    (hname : tag.name = name) (hnames : tag.attributes.map Prod.fst = names)
    (hplain : name ≠ "" ∧ Markup.Plain name ∧ ∀ other ∈ names, Markup.Plain other) : tag.Plain := by
  subst hname hnames
  obtain ⟨hnamed, hname, hnames⟩ := hplain
  exact ⟨hnamed, hname, fun entry hmem => hnames entry.1 (List.mem_map_of_mem hmem)⟩

/-- Attributes in a tag. -/
def attrs (attributes : List (String × String)) : String :=
  String.join (attributes.map fun (name, value) => attr name (escape value))

/-- A start tag up to its end. -/
def opening (tag : Tag) : String :=
  "<" ++ tag.name ++ attrs tag.attributes

/-- The end tag of an element. -/
def closing (tag : Tag) : String :=
  "</" ++ tag.name ++ ">"

/-- An element with nothing inside. -/
def leaf (tag : Tag) : String :=
  opening tag ++ "/>"

/-- An element and the markup inside it. -/
def element (tag : Tag) (inside : String) : String :=
  opening tag ++ ">" ++ inside ++ closing tag

/-- Neither an opening bracket nor a quote is left of a text. -/
theorem escape_safe (text : String) : ∀ c ∈ (escape text).toList, c ≠ '<' ∧ c ≠ '\x22' := by
  intro c hmem
  obtain ⟨hless, -, hquote, -⟩ := (isEscaped_escape text).bare c hmem
  exact ⟨hless, hquote⟩

namespace Reader

variable (nest : Nest)

/-- The plain name of an element is read as it is. -/
theorem run_name (seen : String) {name : String} (hplain : Plain name) :
    run ⟨.tag ⟨seen, []⟩, nest⟩ name = some ⟨.tag ⟨seen ++ name, []⟩, nest⟩ := by
  refine run_gather (fun name => .tag ⟨name, []⟩) nest (fun seen c hchar => ?_) seen hplain
  have hblank : c ≠ ' ' := ne_of_test hchar (by decide)
  have hbracket : c ≠ '>' := ne_of_test hchar (by decide)
  have hslash : c ≠ '/' := ne_of_test hchar (by decide)
  simp [step, hblank, hbracket, hslash, hchar]

/-- The plain name of an attribute is read as it is. -/
theorem run_attrName (tag : Tag) {name : String} (hplain : Plain name) :
    run ⟨.attrName tag "", nest⟩ name = some ⟨.attrName tag name, nest⟩ := by
  have hgathered := run_gather (.attrName tag) nest (fun seen c hchar => ?_) "" hplain
  · simpa using hgathered
  · have hequals : c ≠ '=' := ne_of_test hchar (by decide)
    simp [step, hequals, hchar]

/-- Escaped text does not end the value that it stands in. -/
theorem run_value (tag : Tag) (name value : String) :
    run ⟨.value tag name '\x22' "", nest⟩ (escape value)
      = some ⟨.value tag name '\x22' (escape value), nest⟩ := by
  have hgathered := run_gather (.value tag name '\x22') nest (fun seen c hsafe => ?_) ""
    (escape_safe value)
  · simpa using hgathered
  · simp [step, hsafe.1, hsafe.2]

/-- Escaped text opens no tag. -/
theorem run_content (seen text : String) :
    run ⟨.content seen, nest⟩ (escape text) = some ⟨.content (seen ++ escape text), nest⟩ := by
  refine run_gather .content nest (fun seen c hsafe => ?_) seen (escape_safe text)
  simp [step, hsafe.1]

/-- An attribute is read as its name and the text that was escaped. -/
theorem run_attr (tag : Tag) {name : String} (hplain : Plain name) (value : String) :
    run ⟨.tag tag, nest⟩ (attr name (escape value))
      = some ⟨.tag ⟨tag.name, tag.attributes ++ [(name, value)]⟩, nest⟩ := by
  have hblank : run ⟨.tag tag, nest⟩ " " = some ⟨.attrName tag "", nest⟩ := rfl
  have hequals : run ⟨.attrName tag name, nest⟩ "=\x22"
      = some ⟨.value tag name '\x22' "", nest⟩ := rfl
  have hquote : run ⟨.value tag name '\x22' (escape value), nest⟩ "\x22"
      = some ⟨.tag ⟨tag.name, tag.attributes ++ [(name, value)]⟩, nest⟩ := by
    simp [run, step]
  simp only [attr, run_append, hblank, run_attrName nest tag hplain, hequals,
    run_value nest tag name value, hquote, Option.bind_some]

/-- The attributes of a tag are read in order. -/
theorem run_attrs (name : String) (seen : List (String × String))
    {attributes : List (String × String)} (hplain : ∀ entry ∈ attributes, Plain entry.1) :
    run ⟨.tag ⟨name, seen⟩, nest⟩ (attrs attributes)
      = some ⟨.tag ⟨name, seen ++ attributes⟩, nest⟩ := by
  induction attributes generalizing seen with
  | nil => simp [attrs]
  | cons entry rest ih =>
    have hfirst := run_attr nest ⟨name, seen⟩ (hplain entry List.mem_cons_self) entry.2
    have hlater := ih (seen ++ [entry]) fun other hmem => hplain other (List.mem_cons_of_mem _ hmem)
    rw [attrs, List.map_cons, String.join_cons, run_append, hfirst, Option.bind_some]
    simpa [attrs] using hlater

/-- A bracket and a plain name begin a start tag. -/
theorem run_named (text : String) {name : String} (hnamed : name ≠ "") (hplain : Plain name) :
    run ⟨.content text, nest⟩ ("<" ++ name)
      = some ⟨.tag ⟨name, []⟩, nest.add (textTrees (unescaped text))⟩ := by
  obtain ⟨c, rest, hchars⟩ : ∃ c rest, name.toList = c :: rest :=
    List.exists_cons_of_ne_nil (by simpa using hnamed)
  obtain rfl : name = String.singleton c ++ String.ofList rest := by
    simp [← String.toList_inj, hchars]
  have hfirst : nameChar c := hplain c (by simp)
  have hlater : Plain (String.ofList rest) := fun d hmem => hplain d (by simp_all)
  have hbracket : run ⟨.content text, nest⟩ "<"
      = some ⟨.opened, nest.add (textTrees (unescaped text))⟩ := rfl
  -- the first letter decides that this is no end tag
  have hletter (nest : Nest) : run ⟨.opened, nest⟩ (String.singleton c)
      = some ⟨.tag ⟨String.singleton c, []⟩, nest⟩ := by
    have hslash : c ≠ '/' := ne_of_test hfirst (by decide)
    simp [run, step, hslash, hfirst]
  simp only [run_append, hbracket, hletter, run_name _ _ hlater, Option.bind_some]

/-- A start tag ends the text before it, and is read with its attributes. -/
theorem run_opening (text : String) {tag : Tag} (hplain : tag.Plain) :
    run ⟨.content text, nest⟩ (opening tag)
      = some ⟨.tag tag, nest.add (textTrees (unescaped text))⟩ := by
  rw [opening, run_append, run_named nest text hplain.named hplain.name, Option.bind_some,
    run_attrs _ tag.name [] hplain.attributes, List.nil_append]

/-- An end tag ends the text before it, and the element that it names. -/
theorem run_closing (text : String) {tag : Tag} (hplain : tag.Plain) (inside : List Tree) :
    run ⟨.content text, (nest.enter tag).add inside⟩ (closing tag)
      = some ⟨.content "",
          nest.add [.element tag (inside ++ textTrees (unescaped text))]⟩ := by
  have hbracket (nest : Nest) : run ⟨.content text, nest⟩ "</"
      = some ⟨.endTag "", nest.add (textTrees (unescaped text))⟩ := rfl
  have hname (nest : Nest) : run ⟨.endTag "", nest⟩ tag.name = some ⟨.endTag tag.name, nest⟩ := by
    have hgathered := run_gather .endTag nest (fun seen c hchar => ?_) "" hplain.name
    · simpa using hgathered
    · have hclose : c ≠ '>' := ne_of_test hchar (by decide)
      simp [step, hclose, hchar]
  have hclose : run ⟨.endTag tag.name, (nest.enter tag).add (inside ++ textTrees (unescaped text))⟩
      ">" = some ⟨.content "",
        nest.add [.element tag (inside ++ textTrees (unescaped text))]⟩ := by
    simp [run, step]
  simp only [closing, run_append, hbracket, hname, Nest.add_add, hclose, Option.bind_some]

end Reader

/-! ### What markup writes -/

/-- Markup in which a reader finds so many trees, whatever it is part of. The last of them may be
a text that is still open. -/
def Writes (markup : String) (trees : List Tree) : Prop :=
  ∀ nest, ∃ found text,
    Reader.run ⟨.content "", nest⟩ markup = some ⟨.content text, nest.add found⟩
      ∧ found ++ textTrees (unescaped text) = trees

/-- Markup as `Writes` has it, without an open text at its end. -/
def WritesClosed (markup : String) (trees : List Tree) : Prop :=
  ∀ nest, Reader.run ⟨.content "", nest⟩ markup = some ⟨.content "", nest.add trees⟩

theorem WritesClosed.writes {markup : String} {trees : List Tree} (h : WritesClosed markup trees) :
    Writes markup trees :=
  fun nest => ⟨trees, "", h nest, by simp⟩

namespace WritesClosed

theorem empty : WritesClosed "" [] := by
  intro nest
  simp

theorem append {first second : String} {trees others : List Tree} (h : WritesClosed first trees)
    (h' : WritesClosed second others) : WritesClosed (first ++ second) (trees ++ others) := by
  intro nest
  rw [Reader.run_append, h nest, Option.bind_some, h' (nest.add trees), Nest.add_add]

/-- What stands in a row is read in a row. -/
theorem join {α : Type} {markup : α → String} {tree : α → Tree}
    (h : ∀ x, WritesClosed (markup x) [tree x]) (xs : List α) :
    WritesClosed (String.join (xs.map markup)) (xs.map tree) := by
  induction xs with
  | nil => exact empty
  | cons x rest ih => simpa using (h x).append ih

/-- An element with nothing inside reads as its attributes. -/
theorem leaf {tag : Tag} (hplain : tag.Plain) : WritesClosed (leaf tag) [.element tag []] := by
  intro nest
  have hending : Reader.run ⟨.tag tag, nest⟩ "/>"
      = some ⟨.content "", nest.add [.element tag []]⟩ := rfl
  rw [Markup.leaf, Reader.run_append, Reader.run_opening nest "" hplain, Option.bind_some,
    textTrees_unescaped_empty, Nest.add_nil, hending]

/-- An element reads as its attributes and what its inside reads as. -/
theorem element {tag : Tag} (hplain : tag.Plain) {inside : String} {trees : List Tree}
    (h : Writes inside trees) : WritesClosed (element tag inside) [.element tag trees] := by
  intro nest
  obtain ⟨found, text, hreads, rfl⟩ := h (nest.enter tag)
  have hentering : Reader.run ⟨.tag tag, nest⟩ ">" = some ⟨.content "", nest.enter tag⟩ := rfl
  simp only [Markup.element, Reader.run_append, Reader.run_opening nest "" hplain,
    textTrees_unescaped_empty, Nest.add_nil, hentering, hreads, Reader.run_closing nest text hplain,
    Option.bind_some]

end WritesClosed

/-- Escaped text reads as the text. -/
theorem writes_escape (text : String) : Writes (escape text) (textTrees text) := by
  intro nest
  refine ⟨[], escape text, ?_, ?_⟩
  · simpa using Reader.run_content nest "" text
  · simp

/-- What markup writes is what it is read as. -/
theorem Writes.read?_eq {markup : String} {trees : List Tree} (h : Writes markup trees) :
    read? markup = some trees := by
  obtain ⟨found, text, hreads, rfl⟩ := h ⟨[], []⟩
  simp [read?, hreads, Nest.add, Reader.trees?]

end BorrowSketch.Drawing.Markup
