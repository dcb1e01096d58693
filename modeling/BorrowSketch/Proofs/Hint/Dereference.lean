import BorrowSketch.Hint.Dereference
import BorrowSketch.Proofs.Diagnostic.Related
import BorrowSketch.Proofs.Document.Words

/-! # Hints for mismatched types

A report on mismatched types names the two types on one line, with fixed words between them. These
words may also stand within a type; then the last of them count. A hint is made where the compiler
advises to dereference.

* **`Text.IsLastSplit`**, **`Text.Unquoted`** — a text cut at the last of some words, and a text
  without its quotes.
* **`TypeMismatch.IsReport`**, **`TypeMismatch.Reads`** — the reports, and what is read from a
  message.
* **`TypeMismatch.IsHint`**, **`TypeMismatch.Hinted`** — the hint at a place, and what comes of a
  diagnostic.
* **`TypeMismatch.hints_of_report`** — the reading and the hints of every diagnostic. -/

namespace BorrowSketch

/-! ## Texts with words and quotes in them -/

namespace Text

/-- **A text is cut at the last place** where the words stand in it. -/
structure IsLastSplit (words text before behind : String) : Prop where
  /-- The parts and the words between them are all there is. -/
  split : text = before ++ words ++ behind
  /-- The words stand nowhere later. -/
  last : ∀ other tail, text = other ++ words ++ tail → other.length ≤ before.length

/-- There is one such cut. -/
theorem IsLastSplit.unique {words text before behind other tail : String}
    (h : IsLastSplit words text before behind) (hother : IsLastSplit words text other tail) :
    before = other ∧ behind = tail := by
  have hlength : before.length = other.length :=
    Nat.le_antisymm (hother.last before behind h.split) (h.last other tail hother.split)
  have hchars : before.toList ++ (words.toList ++ behind.toList) =
      other.toList ++ (words.toList ++ tail.toList) := by
    rw [← List.append_assoc, ← List.append_assoc, ← String.toList_append, ← String.toList_append,
      ← String.toList_append, ← String.toList_append, ← h.split, ← hother.split]
  rw [← String.length_toList, ← String.length_toList] at hlength
  obtain ⟨hbefore, hrest⟩ := List.append_inj hchars hlength
  exact ⟨String.toList_injective hbefore,
    String.toList_injective (List.append_cancel_left hrest)⟩

/-- A text with a quote at either end. -/
structure IsQuoted (text : String) : Prop where
  starts : StartsWith "`" text
  ends : EndsWith "`" text
  /-- The quotes are two. -/
  two_le : 2 ≤ text.length

/-- What is left of a text when the quotes around it are taken away, if it has both. -/
inductive Unquoted : String → String → Prop where
  /-- The quotes are taken away. -/
  | quoted (name : String) : Unquoted ("`" ++ name ++ "`") name
  /-- The text stays as it is. -/
  | plain {text : String} (h : ¬ IsQuoted text) : Unquoted text text

/-- Two quotes at the ends have a text between them. -/
theorem isQuoted_iff {text : String} : IsQuoted text ↔ ∃ name, text = "`" ++ name ++ "`" := by
  constructor
  · rintro ⟨⟨rest, rfl⟩, ⟨before, hends⟩, htwo⟩
    have hchars : '`' :: rest.toList = before.toList ++ ['`'] := by
      have hchars := congrArg String.toList hends
      rwa [String.toList_append, String.toList_append] at hchars
    cases hbefore : before.toList with
    | nil =>
      -- one quote would be at both ends
      rw [hbefore] at hchars
      have hrest : rest = "" := String.toList_eq_nil_iff.1 (List.cons.inj hchars).2
      rw [hrest] at htwo
      exact absurd htwo (by decide)
    | cons c name =>
      rw [hbefore] at hchars
      refine ⟨String.ofList name, String.toList_injective ?_⟩
      simp only [String.toList_append, String.toList_ofList, (List.cons.inj hchars).2]
      exact (List.append_assoc ['`'] name ['`']).symm
  · rintro ⟨name, rfl⟩
    refine ⟨⟨name ++ "`", String.append_assoc⟩, ⟨"`" ++ name, rfl⟩, ?_⟩
    rw [String.length_append, String.length_append]
    show 2 ≤ 1 + name.length + 1
    omega

/-- There is one such text. -/
theorem Unquoted.unique {text name other : String} (h : Unquoted text name)
    (hother : Unquoted text other) : name = other := by
  generalize htext : text = whole at hother
  cases h with
  | quoted =>
    cases hother with
    | quoted =>
      rw [String.append_assoc, String.append_assoc, String.append_right_inj,
        String.append_left_inj] at htext
      exact htext
    | plain hplain => exact absurd (isQuoted_iff.2 ⟨_, htext.symm⟩) hplain
  | plain hplain =>
    cases hother with
    | quoted => exact absurd (isQuoted_iff.2 ⟨_, htext⟩) hplain
    | plain => exact htext

end Text

open Text

namespace TypeMismatch

/-! ## What is read -/

/-- **A report on mismatched types:** fixed words, and behind them one line in which the types are
separated. -/
structure IsReport (message rest : String) : Prop where
  /-- The message opens with the words. -/
  opening : message = "mismatched types\nexpected `" ++ rest
  /-- Nothing but the rest of the line is behind them. -/
  line : '\n' ∉ rest.toList
  /-- The types are separated. -/
  separated : ∃ before behind, rest = before ++ "`, found " ++ behind

/-- **What is read from a message.** -/
inductive Reads (message : String) : Outcome TypeMismatch → Prop where
  /-- From a report the types at both sides of the last separator, the type found without quotes. -/
  | mismatch {rest before behind name : String} (hreport : IsReport message rest)
    (hsplit : IsLastSplit "`, found " rest before behind) (hname : Unquoted behind name) :
    Reads message (.success ⟨before, name⟩)
  /-- From other messages nothing; no reason is given. -/
  | other (h : ∀ rest, ¬ IsReport message rest) : Reads message (.inapplicable none)

/-- A separator follows, and then the rest of the line. -/
theorem separates_iff {chars : List Char} :
    separates chars = true ↔ ∃ found, chars = separator ++ found ∧ '\n' ∉ found := by
  simp only [← after?_eq_some_iff]
  rw [separates]
  cases hafter : after? separator chars with
  | none => simp
  | some found => simp

/-- The characters of a text with a separator in it. -/
theorem eq_separated_iff {rest before behind : String} :
    rest = before ++ "`, found " ++ behind ↔
      rest.toList = before.toList ++ (separator ++ behind.toList) := by
  rw [← String.toList_inj, String.toList_append, String.toList_append, List.append_assoc]
  rfl

/-- **The starts of a line behind which a separator follows** are the parts before the
separators. -/
theorem isStart_separates_iff {rest before : String} {tail : List Char} :
    IsStart separates rest.toList before.toList tail ↔ '\n' ∉ rest.toList ∧
      ∃ behind : String, tail = separator ++ behind.toList ∧
        rest = before ++ "`, found " ++ behind := by
  have hseparator : '\n' ∉ separator := by decide
  constructor
  · rintro ⟨hsplit, hbefore, haccepted⟩
    obtain ⟨found, rfl, hfound⟩ := separates_iff.1 haccepted
    refine ⟨?_, String.ofList found, by rw [String.toList_ofList], ?_⟩
    · rw [hsplit, List.mem_append, List.mem_append]
      rintro (h | h | h)
      · exact hbefore h
      · exact hseparator h
      · exact hfound h
    · rw [eq_separated_iff, String.toList_ofList, hsplit]
  · rintro ⟨hline, behind, rfl, hrest⟩
    rw [eq_separated_iff] at hrest
    rw [hrest, List.mem_append, List.mem_append, not_or, not_or] at hline
    exact ⟨hrest, hline.1, separates_iff.2 ⟨behind.toList, rfl, hline.2.2⟩⟩

/-- Quotes are taken away that stand around a text. -/
theorem withoutQuotes_quoted (name : List Char) :
    withoutQuotes ('`' :: (name ++ ['`'])) = name := by
  rw [withoutQuotes, if_pos List.getLast?_concat, List.dropLast_concat]

/-- Other texts stay as they are. -/
theorem withoutQuotes_of_forall_ne {chars : List Char}
    (h : ∀ name, chars ≠ '`' :: (name ++ ['`'])) :
    withoutQuotes chars = chars := by
  unfold withoutQuotes
  split
  · next rest =>
    refine if_neg fun hlast => ?_
    obtain ⟨name, rfl⟩ := List.getLast?_eq_some_iff.1 hlast
    exact h name rfl
  · rfl

/-- **The quotes around a type** are taken away if it has both. -/
theorem unquoted_withoutQuotes (chars : List Char) :
    Unquoted (String.ofList chars) (String.ofList (withoutQuotes chars)) := by
  by_cases hquoted : IsQuoted (String.ofList chars)
  · obtain ⟨name, hname⟩ := isQuoted_iff.1 hquoted
    have hchars : chars = '`' :: (name.toList ++ ['`']) := by
      rw [← String.toList_ofList (l := chars), hname, String.append_assoc, String.toList_append,
        String.toList_append]
      rfl
    rw [hname, hchars, withoutQuotes_quoted, String.ofList_toList]
    exact .quoted name
  · rw [withoutQuotes_of_forall_ne]
    · exact .plain hquoted
    · rintro name rfl
      refine hquoted (isQuoted_iff.2 ⟨String.ofList name, String.toList_injective ?_⟩)
      simp only [String.toList_append, String.toList_ofList]
      rfl

/-- **What is read from a diagnostic.** -/
theorem reads_read (d : Diagnostic) : Reads d.message (read d) := by
  rw [read, readMessage?]
  cases hafter : after? "mismatched types\nexpected `".toList d.message.toList with
  | none =>
    refine .other fun rest hreport => ?_
    rw [hreport.opening, String.toList_append, after?_eq_some_iff.2 rfl] at hafter
    cases hafter
  | some chars =>
    obtain ⟨rest, rfl⟩ : ∃ rest : String, chars = rest.toList :=
      ⟨String.ofList chars, String.toList_ofList.symm⟩
    have hopening : d.message = "mismatched types\nexpected `" ++ rest :=
      String.toList_injective ((after?_eq_some_iff.1 hafter).trans String.toList_append.symm)
    rw [Option.bind_some]
    rcases longestBefore?_cases separates rest.toList with
      ⟨part, tail, hfound, hstart, hlongest⟩ | ⟨hnone, hno⟩
    · obtain ⟨before, rfl⟩ : ∃ before : String, part = before.toList :=
        ⟨String.ofList part, String.toList_ofList.symm⟩
      obtain ⟨hline, behind, rfl, hrest⟩ := isStart_separates_iff.1 hstart
      have hlast : IsLastSplit "`, found " rest before behind := by
        refine ⟨hrest, fun other tail hother => ?_⟩
        have hlength := hlongest other.toList (separator ++ tail.toList)
          (isStart_separates_iff.2 ⟨hline, tail, rfl, hother⟩)
        rwa [String.length_toList, String.length_toList] at hlength
      have hname := unquoted_withoutQuotes behind.toList
      rw [String.ofList_toList] at hname
      rw [hfound]
      show Reads d.message (.success ⟨String.ofList before.toList,
        String.ofList (withoutQuotes ((separator ++ behind.toList).drop separator.length))⟩)
      rw [List.drop_left, String.ofList_toList]
      exact .mismatch ⟨hopening, hline, before, behind, hrest⟩ hlast hname
    · rw [hnone]
      refine .other fun other hreport => ?_
      obtain rfl := (String.append_right_inj _).1 (hopening.symm.trans hreport.opening)
      obtain ⟨before, behind, hsplit⟩ := hreport.separated
      exact hno before.toList (separator ++ behind.toList)
        (isStart_separates_iff.2 ⟨hreport.line, behind, rfl, hsplit⟩)

/-- One thing is read from a message. -/
theorem Reads.unique {message : String} {reading other : Outcome TypeMismatch}
    (h : Reads message reading) (hother : Reads message other) : reading = other := by
  cases h with
  | @mismatch rest before behind name hreport hsplit hname =>
    cases hother with
    | @mismatch otherRest otherBefore otherBehind otherName hotherReport hotherSplit hotherName =>
      have hrest : rest = otherRest :=
        (String.append_right_inj _).1 (hreport.opening.symm.trans hotherReport.opening)
      obtain ⟨rfl, rfl⟩ := hsplit.unique (hrest ▸ hotherSplit)
      rw [hname.unique hotherName]
    | other hno => exact absurd hreport (hno rest)
  | other hno =>
    cases hother with
    | mismatch hreport => exact absurd hreport (hno _)
    | other => rfl

/-- **A diagnostic is read** as its message says. -/
theorem read_eq_iff {d : Diagnostic} {reading : Outcome TypeMismatch} :
    read d = reading ↔ Reads d.message reading := by
  constructor
  · rintro rfl
    exact reads_read d
  · exact (reads_read d).unique

/-- The separator may stand within the type that is expected, and a lone quote is not taken away. -/
example : readMessage? "mismatched types\nexpected `a`, found `b`, found `" =
    some ⟨"a`, found `b", "`"⟩ := by decide

/-- **The types are read** from reports, and from no other messages. -/
theorem isSuccess_read_iff {d : Diagnostic} :
    (read d).isSuccess = true ↔ ∃ rest, IsReport d.message rest := by
  have h := reads_read d
  generalize read d = reading at h ⊢
  cases h with
  | mismatch hreport => exact iff_of_true rfl ⟨_, hreport⟩
  | other hno => exact iff_of_false Bool.false_ne_true fun ⟨rest, hreport⟩ => hno rest hreport

/-! ## What is hinted -/

/-- **The hint at a place where the compiler gives its advice:** to insert a star where the place
starts. -/
structure IsHint (document : LineView) (place : Related) (hint : Hint) : Prop where
  /-- One star is inserted at the start of the place. -/
  fix : hint.fix = ⟨place.span.start, "*"⟩
  /-- The advice is shown. -/
  hover : hint.hover = advice ++ " (click to accept)"
  /-- The word that touches the start of the place is marked. -/
  word : ∀ span, document.TouchesWord place.span.start span → hint.span = span
  /-- The place is marked if no word touches its start. -/
  whole : (∀ span, ¬ document.TouchesWord place.span.start span) → hint.span = place.span

/-- There is one hint at a place. -/
theorem isHint_iff {document : LineView} {place : Related} {other : Hint} :
    IsHint document place other ↔ other = hint document place := by
  constructor
  · intro h
    have hspan : other.span = (hint document place).span := by
      rw [hint]
      cases hword : document.wordSpan? place.span.start with
      | some span => exact h.word span (LineView.wordSpan?_eq_some_iff.1 hword)
      | none => exact h.whole (LineView.wordSpan?_eq_none_iff.1 hword)
    obtain ⟨span, hover, fix⟩ := other
    rw [Hint.mk.injEq]
    exact ⟨hspan, h.hover, h.fix⟩
  · rintro rfl
    refine ⟨rfl, rfl, fun span hword => ?_, fun hnone => ?_⟩
    · rw [hint, LineView.wordSpan?_eq_some_iff.2 hword]
      rfl
    · rw [hint, LineView.wordSpan?_eq_none_iff.2 hnone]
      rfl

/-- **What comes of a diagnostic.** -/
inductive Hinted (document : LineView) (d : Diagnostic) : Outcome (List Hint) → Prop where
  /-- Of other messages nothing; no reason is given. -/
  | unread (h : ∀ rest, ¬ IsReport d.message rest) : Hinted document d (.inapplicable none)
  /-- Of a report without the advice no hint. -/
  | quiet {rest : String} (h : IsReport d.message rest)
    (hnone : ∀ place ∈ d.related, ¬ place.Begins advice) : Hinted document d (.success [])
  /-- Of a report with the advice the hint at the first place that it is given for. -/
  | advised {rest : String} {place : Related} {hint : Hint} (h : IsReport d.message rest)
    (hplace : IsFirst (Related.Begins advice) d.related place)
    (hhint : IsHint document place hint) : Hinted document d (.success [hint])

theorem hinted_hints (document : LineView) (d : Diagnostic) :
    Hinted document d (hints document d) := by
  have h := reads_read d
  rw [hints]
  generalize read d = reading at h ⊢
  cases h with
  | other hno => exact .unread hno
  | mismatch hreport =>
    cases hplace : d.relatedStartingWith? advice with
    | none => exact .quiet hreport (Diagnostic.relatedStartingWith?_eq_none_iff.1 hplace)
    | some place =>
      exact .advised hreport (Diagnostic.relatedStartingWith?_eq_some_iff.1 hplace)
        (isHint_iff.2 rfl)

/-- One thing comes of a diagnostic. -/
theorem Hinted.unique {document : LineView} {d : Diagnostic} {outcome other : Outcome (List Hint)}
    (h : Hinted document d outcome) (hother : Hinted document d other) : outcome = other := by
  cases h with
  | unread hno =>
    cases hother with
    | unread => rfl
    | quiet hreport => exact absurd hreport (hno _)
    | advised hreport => exact absurd hreport (hno _)
  | quiet hreport hnone =>
    cases hother with
    | unread hno => exact absurd hreport (hno _)
    | quiet => rfl
    | advised _ hplace =>
      rw [← Diagnostic.relatedStartingWith?_eq_some_iff,
        Diagnostic.relatedStartingWith?_eq_none_iff.2 hnone] at hplace
      cases hplace
  | advised hreport hplace hhint =>
    rw [← Diagnostic.relatedStartingWith?_eq_some_iff] at hplace
    cases hother with
    | unread hno => exact absurd hreport (hno _)
    | quiet _ hnone =>
      rw [Diagnostic.relatedStartingWith?_eq_none_iff.2 hnone] at hplace
      cases hplace
    | advised _ hotherPlace hotherHint =>
      rw [← Diagnostic.relatedStartingWith?_eq_some_iff, hplace, Option.some.injEq] at hotherPlace
      rw [isHint_iff.1 hhint, isHint_iff.1 hotherHint, hotherPlace]

/-- **The reading and the hints of every diagnostic.** The types are read exactly from reports on
mismatched types: cut at the last separator, the type found without the quotes around it; from other
messages nothing is read, and no reason is given. There is no outcome for the hints just if there is
none for the types. Else there is no hint if the compiler gives no advice, and one hint, at the
first place that the advice is given for, if it does. -/
theorem hints_of_report (document : LineView) (d : Diagnostic) :
    ((read d).isSuccess = true ↔ ∃ rest, IsReport d.message rest) ∧
    (∀ reading, read d = reading ↔ Reads d.message reading) ∧
    ((hints document d).isUnsuccessful = true ↔ (read d).isUnsuccessful = true) ∧
    ∀ outcome, hints document d = outcome ↔ Hinted document d outcome := by
  refine ⟨isSuccess_read_iff, fun reading => read_eq_iff, ?_, fun outcome => ⟨?_, ?_⟩⟩
  · rw [hints]
    cases read d <;> rfl
  · rintro rfl
    exact hinted_hints document d
  · exact (hinted_hints document d).unique

end TypeMismatch
end BorrowSketch
