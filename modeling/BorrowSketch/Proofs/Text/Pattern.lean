import BorrowSketch.Text.Pattern
import Mathlib.Data.List.Basic

/-! # What pattern searches find

A search says which part of a text it takes among all that it could take. Told without the search,
the part is the longest that lies within one line and is followed as required, and a match is the
one that starts leftmost.

* **`IsStart`**, **`IsPart`** — the parts that could be taken.
* **`longestPartBefore?_eq_some_iff`** — the part taken is the longest.
* **`firstMatch?_eq_some_iff`** — the match taken is the leftmost.
* **`StartsWith`**, **`EndsWith`** — words at the ends of a text.
* **`IsNamed`**, **`IsLongest`**, **`IsLeftmost`** — a name behind fixed words, the longest of
  several, and the one at the leftmost place.
* **`map_partBehind?_eq_some_iff`**, **`firstMatch?_partBehind?_eq_some_iff`** — the name taken at
  the start of a text, and anywhere in it. -/

namespace BorrowSketch.Text

/-! ## The parts that could be taken -/

variable {accepts : List Char → Bool} {chars part rest other tail : List Char}

/-- A start of a line, possibly empty, behind which the rest is accepted. -/
structure IsStart (accepts : List Char → Bool) (chars part rest : List Char) : Prop where
  /-- The part and the rest are all there is. -/
  split : chars = part ++ rest
  /-- The part does not reach past the end of its line. -/
  line : '\n' ∉ part
  /-- The rest is as required. -/
  accepted : accepts rest = true

/-- Two starts of one length are one. -/
theorem IsStart.eq_of_length (h : IsStart accepts chars part rest)
    (hother : IsStart accepts chars other tail) (hlength : part.length = other.length) :
    part = other ∧ rest = tail :=
  List.append_inj (h.split.symm.trans hother.split) hlength

/-- The empty start. -/
theorem isStart_nil_iff :
    IsStart accepts chars [] rest ↔ chars = rest ∧ accepts rest = true := by
  constructor
  · intro h
    exact ⟨h.split, h.accepted⟩
  · rintro ⟨rfl, haccepted⟩
    exact ⟨rfl, List.not_mem_nil, haccepted⟩

/-- A start that has a character takes the first of the text, and that one ends no line. -/
theorem isStart_cons_iff {c d : Char} :
    IsStart accepts (c :: chars) (d :: part) rest ↔
      c = d ∧ c ≠ '\n' ∧ IsStart accepts chars part rest := by
  constructor
  · rintro ⟨hsplit, hline, haccepted⟩
    obtain ⟨rfl, htail⟩ := List.cons.inj hsplit
    rw [List.mem_cons, not_or] at hline
    exact ⟨rfl, Ne.symm hline.1, htail, hline.2, haccepted⟩
  · rintro ⟨rfl, hc, hsplit, hline, haccepted⟩
    refine ⟨congrArg (c :: ·) hsplit, ?_, haccepted⟩
    rw [List.mem_cons, not_or]
    exact ⟨Ne.symm hc, hline⟩

/-- A search for the longest start goes on behind the first character, if that ends no line, and
takes the empty start only if it finds nothing there. -/
theorem longestBefore?_cons (accepts : List Char → Bool) (c : Char) (chars : List Char) :
    longestBefore? accepts (c :: chars) =
      match if c = '\n' then none else longestBefore? accepts chars with
      | some (part, rest) => some (c :: part, rest)
      | none => if accepts (c :: chars) then some ([], c :: chars) else none := rfl

/-- **What a search for the longest start comes to.** Either it finds the longest of all starts, or
there is none. -/
theorem longestBefore?_cases (accepts : List Char → Bool) (chars : List Char) :
    (∃ part rest, longestBefore? accepts chars = some (part, rest) ∧
      IsStart accepts chars part rest ∧
      ∀ other tail, IsStart accepts chars other tail → other.length ≤ part.length) ∨
    (longestBefore? accepts chars = none ∧ ∀ part rest, ¬ IsStart accepts chars part rest) := by
  induction chars with
  | nil =>
    by_cases haccepted : accepts [] = true
    · refine .inl ⟨[], [], by rw [longestBefore?, if_pos haccepted],
        isStart_nil_iff.2 ⟨rfl, haccepted⟩, fun other tail hother => ?_⟩
      exact Nat.le_of_eq (congrArg List.length (List.append_eq_nil_iff.1 hother.split.symm).1)
    · refine .inr ⟨by rw [longestBefore?, if_neg haccepted], fun part rest hstart => ?_⟩
      rw [← (List.append_eq_nil_iff.1 hstart.split.symm).2] at haccepted
      exact haccepted hstart.accepted
  | cons c chars ih =>
    -- what is found behind the first character is longer than the empty start
    have hlonger : ∀ {found}, (if c = '\n' then none else longestBefore? accepts chars) =
        some found → c ≠ '\n' ∧ longestBefore? accepts chars = some found := by
      intro found hfound
      by_cases hc : c = '\n'
      · rw [if_pos hc] at hfound
        cases hfound
      · rw [if_neg hc] at hfound
        exact ⟨hc, hfound⟩
    rw [longestBefore?_cons]
    cases hfound : if c = '\n' then none else longestBefore? accepts chars with
    | some found =>
      obtain ⟨part, rest⟩ := found
      obtain ⟨hc, hfound⟩ := hlonger hfound
      rcases ih with ⟨_, _, hfirst, hstart, hlongest⟩ | ⟨hnone, -⟩
      · rw [hfound, Option.some.injEq, Prod.mk.injEq] at hfirst
        obtain ⟨rfl, rfl⟩ := hfirst
        refine .inl ⟨c :: part, rest, rfl, isStart_cons_iff.2 ⟨rfl, hc, hstart⟩, ?_⟩
        intro other tail hother
        match other with
        | [] => exact Nat.zero_le _
        | d :: other =>
          have hbehind := (isStart_cons_iff.1 hother).2.2
          exact Nat.succ_le_succ (hlongest other tail hbehind)
      · rw [hfound] at hnone
        cases hnone
    | none =>
      -- nothing is left but the empty start
      have hempty : ∀ other tail, IsStart accepts (c :: chars) other tail → other = [] := by
        intro other tail hother
        match other with
        | [] => rfl
        | d :: other =>
          obtain ⟨-, hc, hbehind⟩ := isStart_cons_iff.1 hother
          rw [if_neg hc] at hfound
          rcases ih with ⟨_, _, hfirst, -⟩ | ⟨-, hno⟩
          · rw [hfound] at hfirst
            cases hfirst
          · exact absurd hbehind (hno other tail)
      by_cases haccepted : accepts (c :: chars) = true
      · refine .inl ⟨[], c :: chars, if_pos haccepted, isStart_nil_iff.2 ⟨rfl, haccepted⟩, ?_⟩
        intro other tail hother
        exact Nat.le_of_eq (congrArg List.length (hempty other tail hother))
      · refine .inr ⟨if_neg haccepted, fun part rest hstart => ?_⟩
        rw [hempty part rest hstart, isStart_nil_iff] at hstart
        rw [hstart.1] at haccepted
        exact haccepted hstart.2

/-- A start that is not empty. -/
structure IsPart (accepts : List Char → Bool) (chars part rest : List Char) : Prop where
  /-- There is something in it. -/
  nonempty : part ≠ []
  /-- It is a start. -/
  start : IsStart accepts chars part rest

/-- A part is the first character of the text, which ends no line, and a start behind it. -/
theorem isPart_cons_iff {c : Char} :
    IsPart accepts (c :: chars) part rest ↔
      c ≠ '\n' ∧ ∃ behind, part = c :: behind ∧ IsStart accepts chars behind rest := by
  match part with
  | [] => exact iff_of_false (fun h => h.nonempty rfl) (by simp)
  | d :: behind =>
    constructor
    · intro h
      obtain ⟨rfl, hc, hstart⟩ := isStart_cons_iff.1 h.start
      exact ⟨hc, behind, rfl, hstart⟩
    · rintro ⟨hc, _, hpart, hstart⟩
      obtain ⟨rfl, rfl⟩ := List.cons.inj hpart
      exact ⟨List.cons_ne_nil _ _, isStart_cons_iff.2 ⟨rfl, hc, hstart⟩⟩

/-- An empty text has no part. -/
theorem not_isPart_nil : ¬ IsPart accepts [] part rest := fun h =>
  h.nonempty (List.append_eq_nil_iff.1 h.start.split.symm).1

/-- **What a search for the longest part comes to.** Either it finds the longest of all parts, or
there is none. -/
theorem longestPartBefore?_cases (accepts : List Char → Bool) (chars : List Char) :
    (∃ part rest, longestPartBefore? accepts chars = some (part, rest) ∧
      IsPart accepts chars part rest ∧
      ∀ other tail, IsPart accepts chars other tail → other.length ≤ part.length) ∨
    (longestPartBefore? accepts chars = none ∧ ∀ part rest, ¬ IsPart accepts chars part rest) := by
  match chars with
  | [] => exact .inr ⟨rfl, fun part rest => not_isPart_nil⟩
  | c :: chars =>
    simp only [longestPartBefore?, isPart_cons_iff]
    by_cases hc : c = '\n'
    · exact .inr ⟨if_pos hc, fun part rest h => h.1 hc⟩
    · rw [if_neg hc]
      rcases longestBefore?_cases accepts chars with ⟨part, rest, hfound, hstart, hlongest⟩ |
        ⟨hnone, hno⟩
      · refine .inl ⟨c :: part, rest, by rw [hfound]; rfl, ⟨hc, part, rfl, hstart⟩, ?_⟩
        rintro _ tail ⟨-, behind, rfl, hbehind⟩
        exact Nat.succ_le_succ (hlongest behind tail hbehind)
      · refine .inr ⟨by rw [hnone]; rfl, ?_⟩
        rintro _ rest ⟨-, behind, rfl, hbehind⟩
        exact hno behind rest hbehind

/-- **The part taken is the longest.** -/
theorem longestPartBefore?_eq_some_iff :
    longestPartBefore? accepts chars = some (part, rest) ↔
      IsPart accepts chars part rest ∧
      ∀ other tail, IsPart accepts chars other tail → other.length ≤ part.length := by
  rcases longestPartBefore?_cases accepts chars with ⟨found, behind, hfound, hpart, hlongest⟩ |
    ⟨hnone, hno⟩
  · rw [hfound, Option.some.injEq, Prod.mk.injEq]
    constructor
    · rintro ⟨rfl, rfl⟩
      exact ⟨hpart, hlongest⟩
    · -- of two parts that are longest, both are equally long
      rintro ⟨hother, hotherLongest⟩
      have hlength : found.length = part.length :=
        Nat.le_antisymm (hotherLongest found behind hpart) (hlongest part rest hother)
      exact hpart.start.eq_of_length hother.start hlength
  · exact iff_of_false (by rw [hnone]; simp) fun h => hno part rest h.1

/-- A part is taken exactly if there is one. -/
theorem isSome_longestPartBefore?_iff :
    (longestPartBefore? accepts chars).isSome = true ↔
      ∃ part rest, IsPart accepts chars part rest := by
  rcases longestPartBefore?_cases accepts chars with ⟨part, rest, hfound, hpart, -⟩ | ⟨hnone, hno⟩
  · exact iff_of_true (by rw [hfound]; rfl) ⟨part, rest, hpart⟩
  · exact iff_of_false (by rw [hnone]; simp) fun ⟨part, rest, hpart⟩ => hno part rest hpart

/-! ## The leftmost match -/

section Leftmost

variable {α : Type} {pattern : List Char → Option α} {found : α}

/-- **The match taken is the leftmost.** -/
theorem firstMatch?_eq_some_iff :
    firstMatch? pattern chars = some found ↔
      ∃ before rest, chars = before ++ rest ∧ pattern rest = some found ∧
        ∀ earlier later, chars = earlier ++ later → (pattern later).isSome = true →
          before.length ≤ earlier.length := by
  induction chars with
  | nil =>
    rw [firstMatch?]
    constructor
    · intro h
      exact ⟨[], [], rfl, h, fun earlier later _ _ => Nat.zero_le _⟩
    · rintro ⟨before, rest, hsplit, hfound, -⟩
      rwa [(List.append_eq_nil_iff.1 hsplit.symm).2] at hfound
  | cons c chars ih =>
    rw [firstMatch?]
    cases hhere : pattern (c :: chars) with
    | some here =>
      -- a match at the start is left of any other
      dsimp only
      constructor
      · intro h
        exact ⟨[], c :: chars, rfl, hhere.trans h, fun earlier later _ _ => Nat.zero_le _⟩
      · rintro ⟨before, rest, hsplit, hfound, hleftmost⟩
        have hlength := hleftmost [] (c :: chars) rfl (by rw [hhere]; rfl)
        rw [List.length_nil, Nat.le_zero, List.length_eq_zero_iff] at hlength
        rw [hlength, List.nil_append] at hsplit
        rw [← hfound, ← hsplit, hhere]
    | none =>
      dsimp only
      rw [ih]
      constructor
      · rintro ⟨before, rest, hsplit, hfound, hleftmost⟩
        refine ⟨c :: before, rest, congrArg (c :: ·) hsplit, hfound, ?_⟩
        intro earlier later hother hsome
        match earlier with
        | [] =>
          rw [List.nil_append] at hother
          rw [← hother, hhere] at hsome
          cases hsome
        | d :: earlier =>
          exact Nat.succ_le_succ (hleftmost earlier later (List.cons.inj hother).2 hsome)
      · rintro ⟨before, rest, hsplit, hfound, hleftmost⟩
        match before with
        | [] =>
          rw [List.nil_append] at hsplit
          rw [← hsplit, hhere] at hfound
          cases hfound
        | d :: before =>
          refine ⟨before, rest, (List.cons.inj hsplit).2, hfound,
            fun earlier later hother hsome => ?_⟩
          exact Nat.le_of_succ_le_succ
            (hleftmost (c :: earlier) later (congrArg (c :: ·) hother) hsome)

/-- A match is found exactly if there is one. -/
theorem isSome_firstMatch?_iff :
    (firstMatch? pattern chars).isSome = true ↔
      ∃ before rest, chars = before ++ rest ∧ (pattern rest).isSome = true := by
  induction chars with
  | nil =>
    rw [firstMatch?]
    constructor
    · intro h
      exact ⟨[], [], rfl, h⟩
    · rintro ⟨before, rest, hsplit, hsome⟩
      rwa [(List.append_eq_nil_iff.1 hsplit.symm).2] at hsome
  | cons c chars ih =>
    rw [firstMatch?]
    cases hhere : pattern (c :: chars) with
    | some here => exact iff_of_true rfl ⟨[], c :: chars, rfl, by rw [hhere]; rfl⟩
    | none =>
      dsimp only
      rw [ih]
      constructor
      · rintro ⟨before, rest, hsplit, hsome⟩
        exact ⟨c :: before, rest, congrArg (c :: ·) hsplit, hsome⟩
      · rintro ⟨before, rest, hsplit, hsome⟩
        match before with
        | [] =>
          rw [List.nil_append] at hsplit
          rw [← hsplit, hhere] at hsome
          cases hsome
        | d :: before => exact ⟨before, rest, (List.cons.inj hsplit).2, hsome⟩

end Leftmost

/-! ## Words at the ends of a text -/

/-- The text begins with the words. -/
def StartsWith (words text : String) : Prop :=
  ∃ rest, text = words ++ rest

/-- The text ends with the words. -/
def EndsWith (words text : String) : Prop :=
  ∃ before, text = before ++ words

theorem isPrefixOf_iff {words : String} {chars : List Char} :
    words.toList.isPrefixOf chars = true ↔ StartsWith words (String.ofList chars) := by
  rw [List.isPrefixOf_iff_prefix]
  constructor
  · rintro ⟨rest, rfl⟩
    exact ⟨String.ofList rest, by rw [String.ofList_append, String.ofList_toList]⟩
  · rintro ⟨rest, htext⟩
    have hchars := congrArg String.toList htext
    rw [String.toList_ofList, String.toList_append] at hchars
    exact ⟨rest.toList, hchars.symm⟩

theorem startsWith_iff {text words : String} :
    startsWith text words = true ↔ StartsWith words text := by
  rw [startsWith, isPrefixOf_iff, String.ofList_toList]

theorem endsWith_iff {text words : String} :
    endsWith text words = true ↔ EndsWith words text := by
  rw [endsWith, List.isSuffixOf_iff_suffix]
  constructor
  · rintro ⟨before, hchars⟩
    refine ⟨String.ofList before, String.toList_injective ?_⟩
    rw [← hchars, String.toList_append, String.toList_ofList]
  · rintro ⟨before, rfl⟩
    exact ⟨before.toList, String.toList_append.symm⟩

/-! ## Names in texts -/

/-- A name: not empty, and within one line. -/
structure IsName (name : String) : Prop where
  /-- There is something in it. -/
  nonempty : name ≠ ""
  /-- It does not reach past the end of its line. -/
  line : '\n' ∉ name.toList

/-- **A name behind fixed words** that begin the text, followed as required. -/
def IsNamed (opening : String) (closes : String → Prop) (text name : String) : Prop :=
  IsName name ∧ ∃ rest, text = opening ++ name ++ rest ∧ closes rest

/-- The longest text with a property. -/
structure IsLongest (p : String → Prop) (text : String) : Prop where
  /-- It has the property. -/
  holds : p text
  /-- No longer text has it. -/
  longest : ∀ other, p other → other.length ≤ text.length

/-- What is named at the leftmost place of a text, where `p before` is what can be named there
behind `before`: the longest name. -/
def IsLeftmost (p : String → String → Prop) (name : String) : Prop :=
  ∃ before, IsLongest (p before) name ∧
    ∀ earlier other, p earlier other → before.length ≤ earlier.length

/-- The longest part of the line behind fixed words, and the rest. -/
def partBehind? (opening : String) (accepts : List Char → Bool) (chars : List Char) :
    Option (List Char × List Char) :=
  (after? opening.toList chars).bind (longestPartBefore? accepts)

variable {opening text name : String} {closes : String → Prop}

/-- A part of the line behind fixed words is a name in the text. -/
theorem isNamed_iff (haccepts : ∀ chars, accepts chars = true ↔ closes (String.ofList chars)) :
    IsNamed opening closes text name ↔ ∃ behind rest,
      after? opening.toList text.toList = some behind ∧
      IsPart accepts behind name.toList rest := by
  simp only [after?_eq_some_iff]
  constructor
  · rintro ⟨⟨hnonempty, hline⟩, rest, htext, hcloses⟩
    refine ⟨name.toList ++ rest.toList, rest.toList, ?_, ?_, rfl, hline, ?_⟩
    · rw [htext, String.toList_append, String.toList_append, List.append_assoc]
    · rwa [Ne, String.toList_eq_nil_iff]
    · rwa [haccepts, String.ofList_toList]
  · rintro ⟨behind, rest, htext, hnonempty, hsplit, hline, haccepted⟩
    refine ⟨⟨?_, hline⟩, String.ofList rest, String.toList_injective ?_,
      (haccepts rest).1 haccepted⟩
    · rwa [Ne, ← String.toList_eq_nil_iff]
    · rw [htext, hsplit, String.toList_append, String.toList_append, String.toList_ofList,
        List.append_assoc]

/-- **The part taken behind fixed words** is the longest name there. -/
theorem partBehind?_eq_some_iff
    (haccepts : ∀ chars, accepts chars = true ↔ closes (String.ofList chars)) :
    partBehind? opening accepts text.toList = some (name.toList, rest) ↔
      IsLongest (IsNamed opening closes text) name ∧
        text = opening ++ name ++ String.ofList rest := by
  simp only [partBehind?, Option.bind_eq_some_iff, longestPartBefore?_eq_some_iff]
  constructor
  · rintro ⟨behind, hbehind, hpart, hlongest⟩
    refine ⟨⟨(isNamed_iff haccepts).2 ⟨behind, rest, hbehind, hpart⟩, fun other hother => ?_⟩, ?_⟩
    · obtain ⟨_, tail, hsame, hotherPart⟩ := (isNamed_iff haccepts).1 hother
      obtain rfl := Option.some.inj (hbehind.symm.trans hsame)
      rw [← String.length_toList, ← String.length_toList]
      exact hlongest other.toList tail hotherPart
    · refine String.toList_injective ?_
      rw [after?_eq_some_iff.1 hbehind, hpart.start.split, String.toList_append,
        String.toList_append, String.toList_ofList, List.append_assoc]
  · rintro ⟨⟨hnamed, hlongest⟩, htext⟩
    obtain ⟨behind, tail, hbehind, hpart⟩ := (isNamed_iff haccepts).1 hnamed
    -- what stands behind the name is determined by the text
    have hrest : rest = tail := by
      have hchars := congrArg String.toList htext
      rw [after?_eq_some_iff.1 hbehind, hpart.start.split, String.toList_append,
        String.toList_append, String.toList_ofList, List.append_assoc] at hchars
      exact (List.append_cancel_left (List.append_cancel_left hchars)).symm
    refine ⟨behind, hbehind, hrest ▸ hpart, fun other otherTail hother => ?_⟩
    have hotherNamed : IsNamed opening closes text (String.ofList other) := by
      rw [isNamed_iff haccepts, String.toList_ofList]
      exact ⟨behind, otherTail, hbehind, hother⟩
    have hlength := hlongest _ hotherNamed
    rwa [← String.length_toList, ← String.length_toList, String.toList_ofList] at hlength

/-- The name taken behind fixed words is the longest there. -/
theorem map_partBehind?_eq_some_iff
    (haccepts : ∀ chars, accepts chars = true ↔ closes (String.ofList chars)) :
    (partBehind? opening accepts text.toList).map (fun found => String.ofList found.1) = some name ↔
      IsLongest (IsNamed opening closes text) name := by
  rw [Option.map_eq_some_iff]
  constructor
  · rintro ⟨⟨part, rest⟩, hfound, rfl⟩
    rw [← String.toList_ofList (l := part), partBehind?_eq_some_iff haccepts] at hfound
    exact hfound.1
  · intro hlongest
    obtain ⟨-, rest, htext, -⟩ := hlongest.holds
    refine ⟨(name.toList, rest.toList), ?_, String.ofList_toList⟩
    rw [partBehind?_eq_some_iff haccepts, String.ofList_toList]
    exact ⟨hlongest, htext⟩

/-- A name is taken behind fixed words exactly if there is one. -/
theorem isSome_partBehind?_iff
    (haccepts : ∀ chars, accepts chars = true ↔ closes (String.ofList chars)) :
    (partBehind? opening accepts text.toList).isSome = true ↔
      ∃ name, IsNamed opening closes text name := by
  simp only [isNamed_iff haccepts, partBehind?, Option.isSome_bind]
  cases hbehind : after? opening.toList text.toList with
  | none => simp
  | some behind =>
    simp only [Option.any_some, isSome_longestPartBefore?_iff, Option.some.injEq]
    constructor
    · rintro ⟨part, rest, hpart⟩
      exact ⟨String.ofList part, behind, rest, rfl, by rwa [String.toList_ofList]⟩
    · rintro ⟨name, _, rest, rfl, hpart⟩
      exact ⟨name.toList, rest, hpart⟩

/-- Behind `before` and the fixed words is named what is named behind the fixed words in the text
from there on. -/
theorem isNamed_append_iff {before : String} :
    IsNamed (before ++ opening) closes text name ↔
      ∃ behind, text = before ++ behind ∧ IsNamed opening closes behind name := by
  constructor
  · rintro ⟨hname, rest, htext, hcloses⟩
    refine ⟨opening ++ name ++ rest, ?_, hname, rest, rfl, hcloses⟩
    rw [htext, String.append_assoc, String.append_assoc, String.append_assoc]
  · rintro ⟨_, rfl, hname, rest, rfl, hcloses⟩
    refine ⟨hname, rest, ?_, hcloses⟩
    rw [String.append_assoc, String.append_assoc, String.append_assoc]

/-- Behind `before` is named what is named in the text from there on. -/
theorem isNamed_append_right_iff {before behind : String} :
    IsNamed (before ++ opening) closes (before ++ behind) name ↔
      IsNamed opening closes behind name := by
  rw [isNamed_append_iff]
  constructor
  · rintro ⟨other, hsame, hnamed⟩
    rwa [(String.append_right_inj before).1 hsame]
  · intro hnamed
    exact ⟨behind, rfl, hnamed⟩

/-- **The name taken anywhere in a text** is the longest at the leftmost place that has one. -/
theorem firstMatch?_partBehind?_eq_some_iff
    (haccepts : ∀ chars, accepts chars = true ↔ closes (String.ofList chars)) :
    firstMatch? (fun chars => (partBehind? opening accepts chars).map fun found =>
        String.ofList found.1) text.toList = some name ↔
      IsLeftmost (fun before => IsNamed (before ++ opening) closes text) name := by
  rw [firstMatch?_eq_some_iff]
  -- to look for names behind `before` is to look for them in the text from there on
  have hplace : ∀ {before behind : String}, text = before ++ behind →
      (IsLongest (IsNamed opening closes behind) name ↔
        IsLongest (IsNamed (before ++ opening) closes text) name) := by
    rintro before behind rfl
    have hsame : IsNamed (before ++ opening) closes (before ++ behind) =
        IsNamed opening closes behind :=
      funext fun other => propext isNamed_append_right_iff
    rw [hsame]
  constructor
  · rintro ⟨before, behind, hsplit, hfound, hleftmost⟩
    have htext : text = String.ofList before ++ String.ofList behind := by
      rw [← String.ofList_append, ← hsplit, String.ofList_toList]
    rw [← String.toList_ofList (l := behind), map_partBehind?_eq_some_iff haccepts] at hfound
    refine ⟨String.ofList before, (hplace htext).1 hfound, fun earlier other hother => ?_⟩
    obtain ⟨later, hlater, hnamed⟩ := isNamed_append_iff.1 hother
    rw [← String.length_toList, ← String.length_toList, String.toList_ofList]
    refine hleftmost earlier.toList later.toList (by rw [hlater, String.toList_append]) ?_
    rw [Option.isSome_map, isSome_partBehind?_iff haccepts]
    exact ⟨other, hnamed⟩
  · rintro ⟨before, hlongest, hleftmost⟩
    obtain ⟨behind, htext, -⟩ := isNamed_append_iff.1 hlongest.holds
    refine ⟨before.toList, behind.toList, by rw [htext, String.toList_append],
      (map_partBehind?_eq_some_iff haccepts).2 ((hplace htext).2 hlongest),
      fun earlier later hsplit hsome => ?_⟩
    have hearlier : text = String.ofList earlier ++ String.ofList later := by
      rw [← String.ofList_append, ← hsplit, String.ofList_toList]
    rw [Option.isSome_map, ← String.toList_ofList (l := later), isSome_partBehind?_iff haccepts]
      at hsome
    obtain ⟨other, hnamed⟩ := hsome
    have hlength := hleftmost (String.ofList earlier) other
      (isNamed_append_iff.2 ⟨String.ofList later, hearlier, hnamed⟩)
    rwa [← String.length_toList, ← String.length_toList, String.toList_ofList] at hlength

/-- A name is taken in a text exactly if there is one anywhere. -/
theorem isSome_firstMatch?_partBehind?_iff
    (haccepts : ∀ chars, accepts chars = true ↔ closes (String.ofList chars)) :
    (firstMatch? (fun chars => (partBehind? opening accepts chars).map fun found =>
        String.ofList found.1) text.toList).isSome = true ↔
      ∃ before name, IsNamed (before ++ opening) closes text name := by
  rw [isSome_firstMatch?_iff]
  constructor
  · rintro ⟨before, behind, hsplit, hsome⟩
    rw [Option.isSome_map, ← String.toList_ofList (l := behind), isSome_partBehind?_iff haccepts]
      at hsome
    obtain ⟨name, hnamed⟩ := hsome
    refine ⟨String.ofList before, name, isNamed_append_iff.2 ⟨String.ofList behind, ?_, hnamed⟩⟩
    rw [← String.ofList_append, ← hsplit, String.ofList_toList]
  · rintro ⟨before, name, hnamed⟩
    obtain ⟨behind, htext, hnamed⟩ := isNamed_append_iff.1 hnamed
    refine ⟨before.toList, behind.toList, by rw [htext, String.toList_append], ?_⟩
    rw [Option.isSome_map, isSome_partBehind?_iff haccepts]
    exact ⟨name, hnamed⟩

end BorrowSketch.Text
