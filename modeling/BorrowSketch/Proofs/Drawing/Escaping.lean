import BorrowSketch.Drawing.Markup
import Mathlib.Data.List.Infix
import Mathlib.Logic.ExistsUnique

/-! # Escaped text

Text in markup is written character by character, and five of the characters as entities. No entity
begins like another, and none has an ampersand in it but the first, so what has been written can be
read back in one way only, also where the text itself spells an entity.

* **`Entity`** — the five characters and how they are written.
* **`IsEscaped`** — markup in which nothing ends a text or the value of an attribute, and in which
  ampersands only begin entities.
* **`Replaces`** — the text that is left when entities are replaced from left to right.
* **`replaces_iff`** — this is what `unescape` does.
* **`IsEscaped.escape_of_replaces`** — any such markup is its text, escaped.
* **`escape_reversible`** — what escaping keeps, and what it leaves out. -/

namespace BorrowSketch.Drawing.Markup

/-! ### Entities -/

/-- A character that has a meaning in markup, so that in a text it is written as an entity. -/
inductive Entity where
  | ampersand
  | less
  | greater
  | quote
  | apostrophe
deriving DecidableEq

namespace Entity

/-- The character that an entity stands for. -/
def char : Entity → Char
  | ampersand => '&'
  | less => '<'
  | greater => '>'
  | quote => '\x22'
  | apostrophe => '\x27'

/-- The characters that an entity is written with. -/
def spelling : Entity → List Char
  | ampersand => ['&', 'a', 'm', 'p', ';']
  | less => ['&', 'l', 't', ';']
  | greater => ['&', 'g', 't', ';']
  | quote => ['&', 'q', 'u', 'o', 't', ';']
  | apostrophe => ['&', '#', '3', '9', ';']

/-- Entities are written without brackets and quotes. -/
theorem bare_spelling (e : Entity) :
    ∀ c ∈ e.spelling, c ≠ '<' ∧ c ≠ '>' ∧ c ≠ '\x22' ∧ c ≠ '\x27' := by
  cases e <;> simp [spelling]

/-- No entity begins like another. -/
theorem spelling_prefix_iff (e f : Entity) : e.spelling <+: f.spelling ↔ e = f := by
  cases e <;> cases f <;> decide

/-- Not more than one entity stands at the beginning of markup. -/
theorem eq_of_prefix {e f : Entity} {markup : List Char} (hfirst : e.spelling <+: markup)
    (hsecond : f.spelling <+: markup) : e = f := by
  -- of two beginnings of the same markup the shorter one begins the other
  rcases List.prefix_or_prefix_of_prefix hfirst hsecond with hshort | hshort
  · exact (spelling_prefix_iff e f).mp hshort
  · exact ((spelling_prefix_iff f e).mp hshort).symm

end Entity

/-- Whether a character has no meaning in markup. -/
def Ordinary (c : Char) : Prop :=
  ∀ e : Entity, c ≠ e.char

@[simp] theorem escapeChar_char (e : Entity) : escapeChar e.char = e.spelling := by
  cases e <;> rfl

theorem escapeChar_of_ordinary {c : Char} (hordinary : Ordinary c) : escapeChar c = [c] := by
  have hampersand : c ≠ '&' := hordinary .ampersand
  have hless : c ≠ '<' := hordinary .less
  have hgreater : c ≠ '>' := hordinary .greater
  have hquote : c ≠ '\x22' := hordinary .quote
  have hapostrophe : c ≠ '\x27' := hordinary .apostrophe
  simp [escapeChar, hampersand, hless, hgreater, hquote, hapostrophe]

theorem ordinary_or_char (c : Char) : Ordinary c ∨ ∃ e : Entity, c = e.char := by
  by_cases hspecial : ∃ e : Entity, c = e.char
  · exact .inr hspecial
  · exact .inl fun e hsame => hspecial ⟨e, hsame⟩

/-! ### What is written -/

/-- Markup that has neither tags nor quotes in it, and no ampersand that is not part of an
entity. -/
structure IsEscaped (markup : List Char) : Prop where
  /-- There are no brackets and no quotes. -/
  bare : ∀ c ∈ markup, c ≠ '<' ∧ c ≠ '>' ∧ c ≠ '\x22' ∧ c ≠ '\x27'
  /-- Each ampersand begins exactly one entity. -/
  begins : ∀ behind, '&' :: behind <:+ markup → ∃! e : Entity, e.spelling <+: '&' :: behind

theorem isEscaped_nil : IsEscaped [] := by
  constructor <;> simp

namespace IsEscaped

variable {markup : List Char}

/-- The end of escaped text is escaped text. -/
theorem of_suffix {tail : List Char} (hescaped : IsEscaped markup) (hends : tail <:+ markup) :
    IsEscaped tail where
  bare c hmem := hescaped.bare c (hends.subset hmem)
  begins behind hinside := hescaped.begins behind (hinside.trans hends)

/-- One more entity in front. -/
theorem spelling_append (e : Entity) (hescaped : IsEscaped markup) :
    IsEscaped (e.spelling ++ markup) where
  bare c hmem := by
    rcases List.mem_append.mp hmem with hletter | hlater
    · exact e.bare_spelling c hletter
    · exact hescaped.bare c hlater
  begins behind hinside := by
    have hcut : '&' :: behind = e.spelling ++ markup ∨ '&' :: behind <:+ markup := by
      cases e <;> simpa [Entity.spelling, List.suffix_cons_iff] using hinside
    rcases hcut with hwhole | hlater
    · rw [hwhole]
      exact ⟨e, List.prefix_append _ _, fun f hfirst =>
        Entity.eq_of_prefix hfirst (List.prefix_append _ _)⟩
    · exact hescaped.begins behind hlater

/-- One more character in front that has no meaning. -/
theorem cons {c : Char} (hordinary : Ordinary c) (hescaped : IsEscaped markup) :
    IsEscaped (c :: markup) where
  bare d hmem := by
    rcases List.mem_cons.mp hmem with rfl | hlater
    · exact ⟨hordinary .less, hordinary .greater, hordinary .quote, hordinary .apostrophe⟩
    · exact hescaped.bare d hlater
  begins behind hinside := by
    rcases List.suffix_cons_iff.mp hinside with hwhole | hlater
    · exact absurd (List.cons.inj hwhole).1.symm (hordinary .ampersand)
    · exact hescaped.begins behind hlater

/-- A character that begins no entity in escaped text has no meaning. -/
theorem ordinary {c : Char} (hescaped : IsEscaped (c :: markup))
    (halone : ∀ e : Entity, ¬ e.spelling <+: c :: markup) : Ordinary c := by
  obtain ⟨hless, hgreater, hquote, hapostrophe⟩ := hescaped.bare c List.mem_cons_self
  intro e
  cases e with
  | ampersand =>
    rintro rfl
    obtain ⟨e, hfirst, -⟩ := hescaped.begins markup List.suffix_rfl
    exact halone e hfirst
  | less => exact hless
  | greater => exact hgreater
  | quote => exact hquote
  | apostrophe => exact hapostrophe

end IsEscaped

/-- **What escaping writes** is escaped text. -/
theorem isEscaped_escape (text : String) : IsEscaped (escape text).toList := by
  rw [toList_escape]
  induction text.toList with
  | nil => exact isEscaped_nil
  | cons c rest ih =>
    rw [List.flatMap_cons]
    rcases ordinary_or_char c with hordinary | ⟨e, rfl⟩
    · rw [escapeChar_of_ordinary hordinary]
      exact ih.cons hordinary
    · rw [escapeChar_char]
      exact ih.spelling_append e

/-! ### What is read -/

/-- The text that is left when the entities in markup are replaced from left to right. -/
inductive Replaces : List Char → List Char → Prop where
  /-- Nothing is left to be replaced. -/
  | nil : Replaces [] []
  /-- An entity is replaced by its character, which is not looked at again. -/
  | entity (e : Entity) {markup text : List Char} (hrest : Replaces markup text) :
    Replaces (e.spelling ++ markup) (e.char :: text)
  /-- Where no entity begins, a character is left as it is. -/
  | char (c : Char) {markup text : List Char}
    (halone : ∀ e : Entity, ¬ e.spelling <+: c :: markup) (hrest : Replaces markup text) :
    Replaces (c :: markup) (c :: text)

theorem unescape_spelling_append (e : Entity) (markup : List Char) :
    unescape (e.spelling ++ markup) = e.char :: unescape markup := by
  cases e <;> simp [Entity.spelling, Entity.char, unescape]

theorem unescape_cons_of_alone {c : Char} {markup : List Char}
    (halone : ∀ e : Entity, ¬ e.spelling <+: c :: markup) :
    unescape (c :: markup) = c :: unescape markup := by
  have hampersand := halone .ampersand
  have hless := halone .less
  have hgreater := halone .greater
  have hquote := halone .quote
  have hapostrophe := halone .apostrophe
  rw [unescape.eq_def]
  split <;> simp_all [Entity.spelling]

/-- In any markup entities can be replaced, and this is what is left. -/
theorem replaces_unescape (markup : List Char) : Replaces markup (unescape markup) := by
  induction h : markup.length using Nat.strong_induction_on generalizing markup with
  | _ n ih =>
    subst h
    cases markup with
    | nil => exact .nil
    | cons c rest =>
      by_cases hfirst : ∃ e : Entity, e.spelling <+: c :: rest
      · obtain ⟨e, tail, hcut⟩ := hfirst
        have hshorter : tail.length < (c :: rest).length := by
          rw [← hcut, List.length_append]
          cases e <;> simp [Entity.spelling]
        rw [← hcut, unescape_spelling_append]
        exact .entity e (ih _ hshorter tail rfl)
      · have halone : ∀ e : Entity, ¬ e.spelling <+: c :: rest := not_exists.mp hfirst
        rw [unescape_cons_of_alone halone]
        exact .char c halone (ih _ (Nat.lt_succ_self _) rest rfl)

/-- **Replacing entities** is what `unescape` does, and leaves nothing open. -/
theorem replaces_iff {markup text : List Char} : Replaces markup text ↔ unescape markup = text := by
  constructor
  · intro hreplaced
    induction hreplaced with
    | nil => rfl
    | entity e _ ih => rw [unescape_spelling_append, ih]
    | char c halone _ ih => rw [unescape_cons_of_alone halone, ih]
  · rintro rfl
    exact replaces_unescape markup

/-- **Escaped text is written** from the text that is read in it. -/
theorem IsEscaped.escape_of_replaces {markup text : List Char} (hescaped : IsEscaped markup)
    (hreplaced : Replaces markup text) : text.flatMap escapeChar = markup := by
  induction hreplaced with
  | nil => rfl
  | entity e _ ih =>
    rw [List.flatMap_cons, escapeChar_char, ih (hescaped.of_suffix (List.suffix_append _ _))]
  | char c halone _ ih =>
    rw [List.flatMap_cons, escapeChar_of_ordinary (hescaped.ordinary halone),
      ih (hescaped.of_suffix (List.suffix_cons c _)), List.singleton_append]

/-- **Escaping is reversible and safe.** Texts one behind the other are escaped one by one. What is
written is free of brackets and quotes, and its ampersands begin entities. Replacing these from left
to right leaves the text and nothing else, so that no two texts are written alike; and every markup
that is safe in this way is written for some text. -/
theorem escape_reversible :
    (∀ first second : String, escape (first ++ second) = escape first ++ escape second) ∧
    (∀ text : String, IsEscaped (escape text).toList) ∧
    (∀ (text : String) (read : List Char),
      Replaces (escape text).toList read ↔ read = text.toList) ∧
    Function.Injective escape ∧
    ∀ markup : String, IsEscaped markup.toList → ∃ text : String, escape text = markup := by
  have hreading (text : String) : unescape (escape text).toList = text.toList := by
    rw [toList_escape, unescape_escape]
  refine ⟨escape_append, isEscaped_escape, fun text read => ?_, fun text other hsame => ?_,
    fun markup hescaped => ?_⟩
  · rw [replaces_iff, hreading, eq_comm]
  · rw [← String.toList_inj, ← hreading text, ← hreading other, hsame]
  · refine ⟨String.ofList (unescape markup.toList), ?_⟩
    rw [← String.toList_inj, toList_escape, String.toList_ofList]
    exact hescaped.escape_of_replaces (replaces_unescape _)

/-- A text that spells an entity is not taken for the entity. -/
theorem escape_reversible_spelled :
    IsEscaped "&amp;amp;lt;".toList ∧ (∃ text : String, escape text = "&amp;amp;lt;") ∧
    ∀ read : List Char, Replaces "&amp;amp;lt;".toList read ↔ read = "&amp;lt;".toList := by
  have hwritten : escape "&amp;lt;" = "&amp;amp;lt;" := by decide
  obtain ⟨-, hsafe, hreading, -, hevery⟩ := escape_reversible
  rw [← hwritten]
  exact ⟨hsafe _, hevery _ (hsafe _), hreading _⟩

end BorrowSketch.Drawing.Markup
