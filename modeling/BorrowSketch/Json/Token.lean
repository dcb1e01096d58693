import BorrowSketch.Json.Number
import BorrowSketch.Text.Pattern

/-! # JSON tokens

* **`Token`** — brackets, separators, strings and other scalars.
* **`tokens?`** — the tokens of a text, blanks left out. -/

namespace BorrowSketch.Json

/-- A piece of JSON text. -/
inductive Token where
  | openArray
  | closeArray
  | openObject
  | closeObject
  | comma
  | colon
  /-- A string, which may also be the name of a member. -/
  | text (text : String)
  /-- A number or a word. -/
  | scalar (value : Json)

/-! ## Strings -/

/-- The value of a hexadecimal digit. -/
def hexValue? (c : Char) : Option Nat :=
  if '0' ≤ c ∧ c ≤ '9' then some (c.toNat - '0'.toNat)
  else if 'a' ≤ c ∧ c ≤ 'f' then some (c.toNat - 'a'.toNat + 10)
  else if 'A' ≤ c ∧ c ≤ 'F' then some (c.toNat - 'A'.toNat + 10)
  else none

/-- The value of the four hexadecimal digits at the start of a text, and what follows them. -/
def unit? : List Char → Option (Nat × List Char)
  | a :: b :: c :: d :: rest => do
    let a ← hexValue? a
    let b ← hexValue? b
    let c ← hexValue? c
    let d ← hexValue? d
    some (((a * 16 + b) * 16 + c) * 16 + d, rest)
  | _ => none

/-- The character that a letter behind a backslash stands for. -/
def escaped? (c : Char) : Option Char :=
  if c = '\x22' ∨ c = '\\' ∨ c = '/' then some c
  else if c = 'b' then some '\x08'
  else if c = 'f' then some '\x0c'
  else if c = 'n' then some '\n'
  else if c = 'r' then some '\r'
  else if c = 't' then some '\t'
  else none

/-- The character of an escape of four digits, and what follows it. Two such escapes make one
character where they are a surrogate pair; a surrogate alone is refused. -/
def numbered? (chars : List Char) : Option (Char × List Char) :=
  (unit? chars).bind fun (unit, rest) =>
    if unit < 0xD800 ∨ 0xE000 ≤ unit then some (Char.ofNat unit, rest)
    else if 0xDC00 ≤ unit then none
    else (Text.after? ['\\', 'u'] rest).bind fun rest =>
      (unit? rest).bind fun (low, rest) =>
        if 0xDC00 ≤ low ∧ low < 0xE000 then
          some (Char.ofNat (0x10000 + (unit - 0xD800) * 0x400 + (low - 0xDC00)), rest)
        else none

/-- The character at the start of a string's body, and what follows it. A control character that is
not escaped is refused. -/
def character? : List Char → Option (Char × List Char)
  | [] => none
  | ['\\'] => none
  | '\\' :: c :: rest =>
    if c = 'u' then numbered? rest else (escaped? c).map fun c => (c, rest)
  | c :: rest => if c.toNat < 0x20 then none else some (c, rest)

theorem unit?_length_lt {chars rest : List Char} {unit : Nat}
    (h : unit? chars = some (unit, rest)) : rest.length < chars.length := by
  unfold unit? at h
  split at h
  · simp only [Option.bind_eq_bind, Option.bind_eq_some_iff, Option.some.injEq,
      Prod.mk.injEq] at h
    obtain ⟨_, _, _, _, _, _, _, _, _, rfl⟩ := h
    simp only [List.length_cons]; omega
  · cases h

theorem numbered?_length_lt {chars rest : List Char} {c : Char}
    (h : numbered? chars = some (c, rest)) : rest.length < chars.length := by
  obtain ⟨⟨unit, middle⟩, hunit, h⟩ := Option.bind_eq_some_iff.1 h
  have hmiddle := unit?_length_lt hunit
  simp only at h
  split at h
  · simp only [Option.some.injEq, Prod.mk.injEq] at h
    exact h.2 ▸ hmiddle
  · split at h
    · cases h
    · obtain ⟨after, hafter, h⟩ := Option.bind_eq_some_iff.1 h
      rw [Text.after?_eq_some_iff] at hafter
      obtain ⟨⟨low, last⟩, hlow, h⟩ := Option.bind_eq_some_iff.1 h
      have hlast := unit?_length_lt hlow
      simp only at h
      split at h
      · simp only [Option.some.injEq, Prod.mk.injEq] at h
        rw [hafter] at hmiddle
        simp only [List.length_append, List.length_cons, List.length_nil] at hmiddle
        rw [← h.2]
        omega
      · cases h

theorem character?_length_lt {chars rest : List Char} {c : Char}
    (h : character? chars = some (c, rest)) : rest.length < chars.length := by
  unfold character? at h
  split at h
  · cases h
  · cases h
  · split at h
    · have := numbered?_length_lt h
      simp only [List.length_cons]; omega
    · obtain ⟨_, _, h⟩ := Option.map_eq_some_iff.1 h
      cases h; simp only [List.length_cons]; omega
  · split at h
    · cases h
    · cases h; simp

/-- The characters of a string up to its closing quote, and what follows the quote. -/
def stringBody? (chars : List Char) : Option (List Char × List Char) :=
  match chars with
  | '\x22' :: rest => some ([], rest)
  | chars =>
    match _h : character? chars with
    | none => none
    | some (c, rest) => (stringBody? rest).map fun (body, rest) => (c :: body, rest)
termination_by chars.length
decreasing_by exact character?_length_lt (by assumption)

theorem stringBody?_length_lt {chars body rest : List Char}
    (h : stringBody? chars = some (body, rest)) : rest.length < chars.length := by
  fun_induction stringBody? chars generalizing body with
  | case1 => cases h; simp
  | case2 => cases h
  | case3 _ _ c after heq ih =>
    obtain ⟨⟨body, _⟩, hbody, hrest⟩ := Option.map_eq_some_iff.1 h
    cases hrest
    exact Nat.lt_trans (ih hbody) (character?_length_lt heq)

/-! ## Numbers -/

/-- The digits before the point of a number: a zero alone, or digits that start with another. -/
def wholeDigits (chars : List Char) : List Char :=
  match chars with
  | '0' :: _ => ['0']
  | chars => chars.takeWhile Char.isDigit

/-- The digits behind the point, and what follows them; refused if there is a point without
digits. -/
def decimalDigits? : List Char → Option (Option (List Char) × List Char)
  | '.' :: rest =>
    if (rest.takeWhile Char.isDigit).isEmpty then none
    else some (some (rest.takeWhile Char.isDigit), rest.dropWhile Char.isDigit)
  | rest => some (none, rest)

/-- The sign of an exponent, negative or not, and what follows it. -/
def exponentSign : List Char → Bool × List Char
  | '-' :: rest => (true, rest)
  | '+' :: rest => (false, rest)
  | rest => (false, rest)

/-- The exponent, and what follows it; refused if there is a mark without digits. -/
def exponentDigits? : List Char → Option (Option (Bool × List Char) × List Char)
  | mark :: rest =>
    if mark = 'e' ∨ mark = 'E' then
      let sign := exponentSign rest
      if (sign.2.takeWhile Char.isDigit).isEmpty then none
      else
        some (some (sign.1, sign.2.takeWhile Char.isDigit), sign.2.dropWhile Char.isDigit)
    else some (none, mark :: rest)
  | [] => some (none, [])

/-- The number at the start of a text, without its sign, and what follows it. -/
def unsigned? (negative : Bool) (chars : List Char) : Option (Json × List Char) :=
  let whole := wholeDigits chars
  if whole.isEmpty then none
  else
    (decimalDigits? (chars.drop whole.length)).bind fun (decimals, rest) =>
      (exponentDigits? rest).bind fun (exponent, rest) =>
        (Literal.value? ⟨negative, whole, decimals, exponent⟩).map fun value => (value, rest)

theorem length_dropWhile_le (p : Char → Bool) (chars : List Char) :
    (chars.dropWhile p).length ≤ chars.length := by
  induction chars with
  | nil => simp
  | cons c rest ih =>
    simp only [List.dropWhile_cons, List.length_cons]
    split
    · exact Nat.le_succ_of_le ih
    · exact Nat.le_refl _

theorem exponentSign_length_le (chars : List Char) :
    (exponentSign chars).2.length ≤ chars.length := by
  unfold exponentSign
  split <;> simp

theorem decimalDigits?_length_le {chars rest : List Char} {decimals : Option (List Char)}
    (h : decimalDigits? chars = some (decimals, rest)) : rest.length ≤ chars.length := by
  unfold decimalDigits? at h
  split at h
  · split at h
    · cases h
    · cases h
      exact Nat.le_succ_of_le (length_dropWhile_le _ _)
  · cases h
    exact Nat.le_refl _

theorem exponentDigits?_length_le {chars rest : List Char} {exponent : Option (Bool × List Char)}
    (h : exponentDigits? chars = some (exponent, rest)) : rest.length ≤ chars.length := by
  unfold exponentDigits? at h
  split at h
  · next mark after =>
    split at h
    · simp only at h
      split at h
      · cases h
      · cases h
        exact Nat.le_trans (length_dropWhile_le _ _)
          (Nat.le_succ_of_le (exponentSign_length_le after))
    · cases h
      exact Nat.le_refl _
  · cases h
    exact Nat.le_refl _

theorem unsigned?_length_lt {negative : Bool} {chars rest : List Char} {value : Json}
    (h : unsigned? negative chars = some (value, rest)) : rest.length < chars.length := by
  unfold unsigned? at h
  simp only at h
  split at h
  · cases h
  · next hwhole =>
    obtain ⟨⟨decimals, middle⟩, hdecimals, h⟩ := Option.bind_eq_some_iff.1 h
    obtain ⟨⟨exponent, last⟩, hexponent, h⟩ := Option.bind_eq_some_iff.1 h
    obtain ⟨_, _, h⟩ := Option.map_eq_some_iff.1 h
    cases h
    have hne : 0 < (wholeDigits chars).length :=
      List.length_pos_iff.2 fun h => hwhole (by simp [h])
    have hchars : 0 < chars.length := by
      cases chars with
      | nil => simp [wholeDigits] at hne
      | cons => simp
    have h1 := decimalDigits?_length_le hdecimals
    have h2 := exponentDigits?_length_le hexponent
    simp only [List.length_drop] at h1 h2 ⊢
    omega

/-! ## All tokens -/

/-- Whether a character may stand between tokens. -/
def isSpace (c : Char) : Bool :=
  c = ' ' || c = '\t' || c = '\n' || c = '\r'

/-- The token of a bracket or separator. -/
def mark? (c : Char) : Option Token :=
  if c = '[' then some .openArray
  else if c = ']' then some .closeArray
  else if c = '\x7b' then some .openObject
  else if c = '\x7d' then some .closeObject
  else if c = ',' then some .comma
  else if c = ':' then some .colon
  else none

/-- The token at the start of a text without blanks there, and what follows it. -/
def token? : List Char → Option (Token × List Char)
  | [] => none
  | 'n' :: 'u' :: 'l' :: 'l' :: rest => some (.scalar .null, rest)
  | 't' :: 'r' :: 'u' :: 'e' :: rest => some (.scalar (.bool true), rest)
  | 'f' :: 'a' :: 'l' :: 's' :: 'e' :: rest => some (.scalar (.bool false), rest)
  | '\x22' :: rest => (stringBody? rest).map fun (body, rest) => (.text (String.ofList body), rest)
  | '-' :: rest => (unsigned? true rest).map fun (value, rest) => (.scalar value, rest)
  | c :: rest =>
    match mark? c with
    | some mark => some (mark, rest)
    | none => (unsigned? false (c :: rest)).map fun (value, rest) => (.scalar value, rest)

theorem token?_length_lt {chars rest : List Char} {token : Token}
    (h : token? chars = some (token, rest)) : rest.length < chars.length := by
  unfold token? at h
  split at h
  · cases h
  · cases h; simp only [List.length_cons]; omega
  · cases h; simp only [List.length_cons]; omega
  · cases h; simp only [List.length_cons]; omega
  · obtain ⟨⟨_, _⟩, hbody, h⟩ := Option.map_eq_some_iff.1 h
    cases h
    exact Nat.lt_succ_of_lt (stringBody?_length_lt hbody)
  · obtain ⟨⟨_, _⟩, hvalue, h⟩ := Option.map_eq_some_iff.1 h
    cases h
    exact Nat.lt_succ_of_lt (unsigned?_length_lt hvalue)
  · split at h
    · cases h; simp
    · obtain ⟨⟨_, _⟩, hvalue, h⟩ := Option.map_eq_some_iff.1 h
      cases h
      exact unsigned?_length_lt hvalue

/-- The tokens of a text, if it consists of nothing else than tokens and blanks. -/
def tokens? (chars : List Char) : Option (List Token) :=
  match chars with
  | [] => some []
  | c :: rest =>
    if isSpace c then tokens? rest
    else match _h : token? (c :: rest) with
      | none => none
      | some (token, after) => (tokens? after).map (token :: ·)
termination_by chars.length
decreasing_by
  · simp
  · exact token?_length_lt (by assumption)

end BorrowSketch.Json
