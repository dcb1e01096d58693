import BorrowSketch.Document.LineView

/-! # The word that touches a place

From a place in a line the word there goes on to both sides as long as there are word characters.
What it comes to is told without going: a run of word characters that has none at either end.

* **`Text.IsRunAt`**, **`Text.IsWordAt`** — the run around a place, and the word if it is not empty.
* **`Text.wordAt?_eq_some_iff`** — the word found in a line.
* **`Text.IsAtWordChar`**, **`Text.wordAt?_eq_none_iff`** — where no word is found.
* **`LineView.TouchesWord`**, **`LineView.wordSpan?_eq_some_iff`** — the word found in a document.
* **`LineView.wordSpan?_touching`** — all that is found from the places of a line. -/

namespace BorrowSketch

namespace Text

variable {chars : List Char} {place start stop i : Nat}

/-- At an index of the text stands a word character. -/
def WordCharAt (chars : List Char) (i : Nat) : Prop :=
  ∃ c, chars[i]? = some c ∧ IsWordChar c

/-- There is no word character behind the end. -/
theorem WordCharAt.lt_length (h : WordCharAt chars i) : i < chars.length := by
  obtain ⟨c, hc, -⟩ := h
  exact (List.getElem?_eq_some_iff.1 hc).1

/-! ## Going on as long as there are word characters -/

/-- **The word characters at the start of a text** are counted up to the first other character. -/
theorem wordLength_spec (chars : List Char) :
    (∀ i < wordLength chars, WordCharAt chars i) ∧ ¬ WordCharAt chars (wordLength chars) := by
  induction chars with
  | nil =>
    refine ⟨fun i hi => absurd hi (Nat.not_lt_zero i), ?_⟩
    rintro ⟨c, hc, -⟩
    cases hc
  | cons c chars ih =>
    by_cases hc : IsWordChar c
    · have hlength : wordLength (c :: chars) = wordLength chars + 1 := by
        simp [wordLength, hc]
      rw [hlength]
      refine ⟨fun i hi => ?_, ih.2⟩
      cases i with
      | zero => exact ⟨c, rfl, hc⟩
      | succ i => exact ih.1 i (Nat.lt_of_succ_lt_succ hi)
    · have hlength : wordLength (c :: chars) = 0 := by
        simp [wordLength, hc]
      rw [hlength]
      refine ⟨fun i hi => absurd hi (Nat.not_lt_zero i), ?_⟩
      rintro ⟨first, hfirst, hword⟩
      obtain rfl := Option.some.inj hfirst
      exact hc hword

/-- Behind a place stand the characters of the rest. -/
theorem wordCharAt_drop : WordCharAt (chars.drop place) i ↔ WordCharAt chars (place + i) := by
  rw [WordCharAt, List.getElem?_drop, WordCharAt]

/-- Going back from a place one meets the characters before it, the nearest first. -/
theorem wordCharAt_reverse_take (hplace : place ≤ chars.length) :
    WordCharAt (chars.take place).reverse i ↔ i < place ∧ WordCharAt chars (place - 1 - i) := by
  by_cases hi : i < place
  · have hlength : (chars.take place).length = place := List.length_take_of_le hplace
    rw [WordCharAt, List.getElem?_reverse (by omega), hlength,
      List.getElem?_take_of_lt (by omega), WordCharAt, and_iff_right hi]
  · refine iff_of_false (fun h => hi ?_) fun h => hi h.1
    have hlt := h.lt_length
    rw [List.length_reverse, List.length_take] at hlt
    omega

/-! ## The run around a place -/

/-- **The run of word characters around a place,** where a place behind the end of the line stands
for the end. It may be empty. -/
structure IsRunAt (chars : List Char) (place start stop : Nat) : Prop where
  /-- The run does not start behind the place. -/
  start_le : start ≤ min place chars.length
  /-- The run does not stop before the place. -/
  le_stop : min place chars.length ≤ stop
  /-- All its characters are word characters. -/
  word : ∀ i, start ≤ i → i < stop → WordCharAt chars i
  /-- Before it stands no word character. -/
  before : ∀ i, i + 1 = start → ¬ WordCharAt chars i
  /-- Behind it stands no word character. -/
  behind : ¬ WordCharAt chars stop

/-- **There is one run around a place.** -/
theorem IsRunAt.unique {otherStart otherStop : Nat} (h : IsRunAt chars place start stop)
    (hother : IsRunAt chars place otherStart otherStop) :
    start = otherStart ∧ stop = otherStop := by
  have hstart := h.start_le
  have hstop := h.le_stop
  have hotherStart := hother.start_le
  have hotherStop := hother.le_stop
  constructor
  · -- the character before the later of two starts would be in the other run
    rcases Nat.lt_trichotomy start otherStart with hlt | heq | hlt
    · exact absurd (h.word (otherStart - 1) (by omega) (by omega)) (hother.before _ (by omega))
    · exact heq
    · exact absurd (hother.word (start - 1) (by omega) (by omega)) (h.before _ (by omega))
  · rcases Nat.lt_trichotomy stop otherStop with hlt | heq | hlt
    · exact absurd (hother.word stop (by omega) hlt) h.behind
    · exact heq
    · exact absurd (h.word otherStop (by omega) hlt) hother.behind

/-- **Going on to both sides of a place** ends at the bounds of the run. -/
theorem isRunAt_wordLength (chars : List Char) (place : Nat) :
    IsRunAt chars place
      (min place chars.length - wordLength (chars.take (min place chars.length)).reverse)
      (min place chars.length + wordLength (chars.drop (min place chars.length))) := by
  have hplace : min place chars.length ≤ chars.length := Nat.min_le_right _ _
  obtain ⟨hback, hbefore⟩ := wordLength_spec (chars.take (min place chars.length)).reverse
  obtain ⟨hforth, hbehind⟩ := wordLength_spec (chars.drop (min place chars.length))
  simp only [wordCharAt_reverse_take hplace] at hback hbefore
  simp only [wordCharAt_drop] at hforth hbehind
  refine ⟨Nat.sub_le _ _, Nat.le_add_right _ _, fun i hfirst hlast => ?_, fun i hi hword => ?_,
    hbehind⟩
  · by_cases hi : i < min place chars.length
    · obtain ⟨-, hword⟩ := hback (min place chars.length - 1 - i) (by omega)
      rwa [show min place chars.length - 1 - (min place chars.length - 1 - i) = i by omega] at hword
    · have hword := hforth (i - min place chars.length) (by omega)
      rwa [show min place chars.length + (i - min place chars.length) = i by omega] at hword
  · refine hbefore ⟨by omega, ?_⟩
    rwa [show min place chars.length - 1 -
      wordLength (chars.take (min place chars.length)).reverse = i by omega]

/-- **The word that contains or touches a place:** the run around it, if there is something in
it. -/
structure IsWordAt (chars : List Char) (place start stop : Nat) : Prop
    extends IsRunAt chars place start stop where
  /-- There is something in it. -/
  nonempty : start < stop

/-- A word stops at the end of the line at the latest. -/
theorem IsWordAt.stop_le (h : IsWordAt chars place start stop) : stop ≤ chars.length := by
  have hnonempty := h.nonempty
  have hlt := (h.word (stop - 1) (by omega) (by omega)).lt_length
  omega

/-- **The word found** is the one that contains or touches the place. -/
theorem wordAt?_eq_some_iff :
    wordAt? chars place = some (start, stop) ↔ IsWordAt chars place start stop := by
  have hrun := isRunAt_wordLength chars place
  rw [wordAt?]
  split
  · next hnonempty =>
    rw [Option.some.injEq, Prod.mk.injEq]
    constructor
    · rintro ⟨rfl, rfl⟩
      exact ⟨hrun, hnonempty⟩
    · intro h
      exact hrun.unique h.toIsRunAt
  · next hempty =>
    refine iff_of_false (by simp) fun h => hempty ?_
    obtain ⟨hstart, hstop⟩ := hrun.unique h.toIsRunAt
    rw [hstart, hstop]
    exact h.nonempty

/-! ## Where there is a word -/

/-- **A word character stands next to a place:** right before it or right behind it. -/
def IsAtWordChar (chars : List Char) (place : Nat) : Prop :=
  (∃ i, i + 1 = place ∧ WordCharAt chars i) ∨ WordCharAt chars place

/-- There is something in the run around a place exactly if a word character stands next to it. -/
theorem IsRunAt.lt_iff (h : IsRunAt chars place start stop) :
    start < stop ↔ IsAtWordChar chars (min place chars.length) := by
  have hstart := h.start_le
  have hstop := h.le_stop
  constructor
  · intro hlt
    rcases Nat.lt_or_ge start (min place chars.length) with hbefore | hbehind
    · exact .inl ⟨min place chars.length - 1, by omega, h.word _ (by omega) (by omega)⟩
    · exact .inr (h.word _ hstart (by omega))
  · rintro (⟨i, hi, hword⟩ | hword)
    · have hlt : start < min place chars.length := by
        refine Nat.lt_of_le_of_ne hstart fun heq => ?_
        exact h.before i (hi.trans heq.symm) hword
      omega
    · have hlt : min place chars.length < stop := by
        refine Nat.lt_of_le_of_ne hstop fun heq => ?_
        exact h.behind (heq ▸ hword)
      omega

/-- **No word is found** exactly where no word character stands next to the place. -/
theorem wordAt?_eq_none_iff :
    wordAt? chars place = none ↔ ¬ IsAtWordChar chars (min place chars.length) := by
  rw [← (isRunAt_wordLength chars place).lt_iff, wordAt?]
  simp

/-- **A word is the one around a place** exactly if the place is in it or at one of its ends. -/
theorem IsWordAt.around_iff {other : Nat} (h : IsWordAt chars place start stop) :
    IsWordAt chars other start stop ↔
      start ≤ min other chars.length ∧ min other chars.length ≤ stop := by
  constructor
  · intro hother
    exact ⟨hother.start_le, hother.le_stop⟩
  · rintro ⟨hstart, hstop⟩
    exact ⟨⟨hstart, hstop, h.word, h.before, h.behind⟩, h.nonempty⟩

end Text

/-! ## Words in a document -/

namespace LineView

variable {document : LineView} {position : Position} {span : Span}

/-- **The span of the word** that contains or touches a position of the document. -/
def TouchesWord (document : LineView) (position : Position) (span : Span) : Prop :=
  ∃ text start stop, document.text? position.line = some text ∧
    Text.IsWordAt text.toList position.character start stop ∧
    span = Span.onLine position.line start stop

/-- **The span found** is that of the word. -/
theorem wordSpan?_eq_some_iff :
    document.wordSpan? position = some span ↔ document.TouchesWord position span := by
  rw [wordSpan?, Option.bind_eq_some_iff]
  constructor
  · rintro ⟨text, htext, hspan⟩
    obtain ⟨⟨start, stop⟩, hword, rfl⟩ := Option.map_eq_some_iff.1 hspan
    exact ⟨text, start, stop, htext, Text.wordAt?_eq_some_iff.1 hword, rfl⟩
  · rintro ⟨text, start, stop, htext, hword, rfl⟩
    exact ⟨text, htext, Option.map_eq_some_iff.2
      ⟨(start, stop), Text.wordAt?_eq_some_iff.2 hword, rfl⟩⟩

/-- No span is found where no word touches the position. -/
theorem wordSpan?_eq_none_iff :
    document.wordSpan? position = none ↔ ∀ span, ¬ document.TouchesWord position span := by
  rw [Option.eq_none_iff_forall_ne_some]
  simp only [Ne, wordSpan?_eq_some_iff]

/-- The span found on a line with a known text. -/
theorem wordSpan?_eq_onLine_iff {line start stop : Nat} {text : String}
    (htext : document.text? line = some text) (place : Nat) :
    document.wordSpan? ⟨line, place⟩ = some (Span.onLine line start stop) ↔
      Text.IsWordAt text.toList place start stop := by
  rw [wordSpan?_eq_some_iff]
  constructor
  · rintro ⟨other, first, last, hother, hword, hspan⟩
    obtain rfl := Option.some.inj (htext.symm.trans hother)
    obtain ⟨rfl, rfl⟩ : start = first ∧ stop = last := by
      simpa [Span.onLine] using hspan
    exact hword
  · intro hword
    exact ⟨text, start, stop, htext, hword, rfl⟩

/-- **The word that touches a position.** None is found exactly if the line does not exist or has no
word character next to the place, which is the end of the line for an offset past it. What is found
otherwise is a span of the line that contains the place or has it at an end: it is not empty, is
within the line, is made of word characters and has none before or behind it. It is found from
exactly those places of the line that it contains or has at an end. -/
theorem wordSpan?_touching (document : LineView) (position : Position) :
    (document.wordSpan? position = none ↔
      document.text? position.line = none ∨
        ∃ text, document.text? position.line = some text ∧
          ¬ Text.IsAtWordChar text.toList (min position.character text.toList.length)) ∧
    ∀ span, document.wordSpan? position = some span → ∃ text start stop,
      document.text? position.line = some text ∧ span = Span.onLine position.line start stop ∧
        Text.IsWordAt text.toList position.character start stop ∧ stop ≤ text.toList.length ∧
        (∀ other, start ≤ other → other ≤ stop →
          document.wordSpan? ⟨position.line, other⟩ = some span) ∧
        ∀ other, document.wordSpan? ⟨position.line, other⟩ = some span →
          start ≤ min other text.toList.length ∧ min other text.toList.length ≤ stop := by
  constructor
  · cases htext : document.text? position.line with
    | none => simp [wordSpan?, htext]
    | some text => simp [wordSpan?, htext, Text.wordAt?_eq_none_iff]
  · intro span hspan
    obtain ⟨text, start, stop, htext, hword, rfl⟩ := wordSpan?_eq_some_iff.1 hspan
    have hstop := hword.stop_le
    refine ⟨text, start, stop, htext, rfl, hword, hstop, fun other hfirst hlast => ?_,
      fun other hother => ?_⟩
    · have hplace : min other text.toList.length = other :=
        Nat.min_eq_left (Nat.le_trans hlast hstop)
      rw [wordSpan?_eq_onLine_iff htext, hword.around_iff, hplace]
      exact ⟨hfirst, hlast⟩
    · rwa [wordSpan?_eq_onLine_iff htext, hword.around_iff] at hother

end LineView
end BorrowSketch
