/-! # Markup

Text inside markup, and the pieces that elements are written with. Five characters have a meaning
in markup and are written as entities.

* **`escape`** — text as markup content or attribute value.
* **`unescape`** — the text that such markup stands for.
* **`attr`** — a name and a quoted value. -/

namespace BorrowSketch.Drawing.Markup

/-- A character of text in markup. -/
def escapeChar (c : Char) : List Char :=
  if c = '&' then ['&', 'a', 'm', 'p', ';']
  else if c = '<' then ['&', 'l', 't', ';']
  else if c = '>' then ['&', 'g', 't', ';']
  else if c = '\x22' then ['&', 'q', 'u', 'o', 't', ';']
  else if c = '\x27' then ['&', '#', '3', '9', ';']
  else [c]

/-- Text in markup. -/
def escape (text : String) : String :=
  String.ofList (text.toList.flatMap escapeChar)

/-- The text that markup without elements stands for. An ampersand that begins none of the five
entities stands for itself. -/
def unescape : List Char → List Char
  | [] => []
  | '&' :: 'a' :: 'm' :: 'p' :: ';' :: rest => '&' :: unescape rest
  | '&' :: 'l' :: 't' :: ';' :: rest => '<' :: unescape rest
  | '&' :: 'g' :: 't' :: ';' :: rest => '>' :: unescape rest
  | '&' :: 'q' :: 'u' :: 'o' :: 't' :: ';' :: rest => '\x22' :: unescape rest
  | '&' :: '#' :: '3' :: '9' :: ';' :: rest => '\x27' :: unescape rest
  | c :: rest => c :: unescape rest

@[simp] theorem toList_escape (text : String) :
    (escape text).toList = text.toList.flatMap escapeChar := by
  simp [escape]

/-- Escaping works character by character. -/
theorem escape_append (s t : String) : escape (s ++ t) = escape s ++ escape t := by
  simp [escape, List.flatMap_append, String.ofList_append]

theorem unescape_cons {c : Char} (h : c ≠ '&') (rest : List Char) :
    unescape (c :: rest) = c :: unescape rest := by
  rw [unescape.eq_def]
  split <;> simp_all

/-- Reading undoes escaping, also where the text itself spells an entity. -/
theorem unescape_escape (chars : List Char) : unescape (chars.flatMap escapeChar) = chars := by
  induction chars with
  | nil => rfl
  | cons c rest ih =>
    rw [List.flatMap_cons]
    generalize rest.flatMap escapeChar = tail at ih
    -- one case for each entity, and one for a character that is written as it is
    unfold escapeChar
    split
    · next h => simp [unescape, ih, h]
    · next hand =>
      split
      · next h => simp [unescape, ih, h]
      · split
        · next h => simp [unescape, ih, h]
        · split
          · next h => simp [unescape, ih, h]
          · split
            · next h => simp [unescape, ih, h]
            · rw [List.singleton_append, unescape_cons hand, ih]

/-- An attribute inside a tag, with the blank before it. The value must be free of quotes. -/
def attr (name value : String) : String :=
  " " ++ name ++ "=\x22" ++ value ++ "\x22"

end BorrowSketch.Drawing.Markup
