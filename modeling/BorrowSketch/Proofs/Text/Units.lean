import BorrowSketch.Text.Units
import Mathlib.Order.Bounds.Defs
import Mathlib.Order.Lattice

/-! # Offsets in units and in characters

Each of the two ways to count an offset is told by the other: a character stands before a unit
offset exactly if it starts before it.

* **`Text.unitsBefore_lt_iff`** — a later character starts at a later unit.
* **`Text.lt_charsBefore_iff`** — the characters that stand before a unit offset.
* **`Text.charsBefore_le_length`**, **`Text.charsBefore_mono`** — what follows for the count.
* **`Text.charsBefore_unitsBefore`** — an offset in characters counted in units and back.
* **`Text.InsidePair`**, **`Text.exists_place`** — where an offset in units can fall.
* **`Text.offsets_adjoint`** — the two ways to count, each told by the other. -/

namespace BorrowSketch.Text

variable {chars : List Char} {offset other i n : Nat}

@[simp] theorem unitsBefore_zero (chars : List Char) : unitsBefore chars 0 = 0 := rfl

@[simp] theorem unitsBefore_cons_succ (c : Char) (rest : List Char) (n : Nat) :
    unitsBefore (c :: rest) (n + 1) = units c + unitsBefore rest n := rfl

/-- **A later character starts at a later unit.** -/
theorem unitsBefore_lt_iff (hi : i < chars.length) :
    unitsBefore chars i < unitsBefore chars n ↔ i < n := by
  induction chars generalizing i n with
  | nil => exact absurd hi (Nat.not_lt_zero i)
  | cons c rest ih =>
    have hunits := units_pos c
    cases n with
    | zero => simp
    | succ n =>
      cases i with
      | zero =>
        rw [unitsBefore_zero, unitsBefore_cons_succ]
        omega
      | succ i =>
        rw [unitsBefore_cons_succ, unitsBefore_cons_succ, Nat.add_lt_add_iff_left,
          ih (Nat.lt_of_succ_lt_succ hi), Nat.succ_lt_succ_iff]

/-- **The characters before a unit offset** are those that start before it. -/
theorem lt_charsBefore_iff :
    i < charsBefore chars offset ↔ i < chars.length ∧ unitsBefore chars i < offset := by
  -- each character takes its units off the offset, and the ones behind it are counted by the rest
  induction chars generalizing offset i with
  | nil => simp
  | cons c rest ih =>
    rcases Nat.eq_zero_or_pos offset with rfl | hpos
    · simp
    · rw [charsBefore_cons_of_pos hpos]
      cases i with
      | zero => simpa using hpos
      | succ i =>
        rw [Nat.succ_lt_succ_iff, ih, List.length_cons, Nat.succ_lt_succ_iff, unitsBefore_cons_succ]
        omega

/-- No more characters stand before an offset than there are. -/
theorem charsBefore_le_length (chars : List Char) (offset : Nat) :
    charsBefore chars offset ≤ chars.length :=
  Nat.le_of_not_lt fun h => Nat.lt_irrefl _ (lt_charsBefore_iff.1 h).1

/-- At least as many characters stand before a later offset. -/
theorem charsBefore_mono (chars : List Char) (h : offset ≤ other) :
    charsBefore chars offset ≤ charsBefore chars other := by
  refine Nat.le_of_not_lt fun hlt => Nat.lt_irrefl (charsBefore chars other) ?_
  obtain ⟨hlength, hstart⟩ := lt_charsBefore_iff.1 hlt
  exact lt_charsBefore_iff.2 ⟨hlength, Nat.lt_of_lt_of_le hstart h⟩

/-- **Counted in units and back,** an offset is as it was, and one past the end is the end. -/
theorem charsBefore_unitsBefore (chars : List Char) (n : Nat) :
    charsBefore chars (unitsBefore chars n) = min n chars.length := by
  refine eq_of_forall_lt_iff fun i => ?_
  rw [lt_charsBefore_iff, Nat.lt_min, and_comm]
  exact and_congr_left fun hi => unitsBefore_lt_iff hi

/-! ## The units before a character -/

/-- All units stand before the end, and before an offset past it. -/
theorem unitsBefore_of_length_le (h : chars.length ≤ n) :
    unitsBefore chars n = unitLength chars := by
  rw [unitsBefore, List.take_of_length_le h]

/-- The units before the character behind are those before the character and its own. -/
theorem unitsBefore_succ {c : Char} (h : chars[i]? = some c) :
    unitsBefore chars (i + 1) = unitsBefore chars i + units c := by
  induction chars generalizing i with
  | nil => cases h
  | cons first rest ih =>
    cases i with
    | zero =>
      obtain rfl := Option.some.inj h
      rw [unitsBefore_cons_succ, unitsBefore_zero, unitsBefore_zero, Nat.add_comm]
    | succ i => rw [unitsBefore_cons_succ, unitsBefore_cons_succ, ih h, Nat.add_assoc]

/-- At least as many units stand before a later character. -/
theorem unitsBefore_mono (chars : List Char) : Monotone (unitsBefore chars) := by
  intro m n hle
  induction chars generalizing m n with
  | nil => simp [unitsBefore]
  | cons c rest ih =>
    cases m with
    | zero => exact Nat.zero_le _
    | succ m =>
      cases n with
      | zero => exact absurd hle (Nat.not_succ_le_zero m)
      | succ n => exact Nat.add_le_add_left (ih (Nat.le_of_succ_le_succ hle)) _

/-- No more units stand before an offset than there are. -/
theorem unitsBefore_le_unitLength (chars : List Char) (n : Nat) :
    unitsBefore chars n ≤ unitLength chars := by
  rw [← unitsBefore_of_length_le (Nat.le_max_right n chars.length)]
  exact unitsBefore_mono chars (Nat.le_max_left n chars.length)

/-! ## The least offset in characters -/

/-- **The characters before a unit offset** are at most so many as the units before that many
characters allow. -/
theorem charsBefore_le_iff (hn : n < chars.length) :
    charsBefore chars offset ≤ n ↔ offset ≤ unitsBefore chars n := by
  rw [← Nat.not_lt, lt_charsBefore_iff, and_iff_right hn, Nat.not_lt]

/-- Past the end stand all characters. -/
theorem charsBefore_of_unitLength_lt (h : unitLength chars < offset) :
    charsBefore chars offset = chars.length := by
  refine Nat.le_antisymm (charsBefore_le_length chars offset) (Nat.le_of_not_lt fun hlt => ?_)
  have hle := (charsBefore_le_iff hlt).1 (Nat.le_refl _)
  have hall := unitsBefore_le_unitLength chars (charsBefore chars offset)
  omega

/-- The characters that stand before an offset not past the end reach up to it. -/
theorem le_unitsBefore_charsBefore (h : offset ≤ unitLength chars) :
    offset ≤ unitsBefore chars (charsBefore chars offset) := by
  rcases Nat.lt_or_ge (charsBefore chars offset) chars.length with hlt | hge
  · exact (charsBefore_le_iff hlt).1 (Nat.le_refl _)
  · rwa [unitsBefore_of_length_le hge]

/-- **Fewest characters** that reach up to a unit offset are those that stand before it. -/
theorem isLeast_charsBefore (h : offset ≤ unitsBefore chars n) :
    IsLeast {m | offset ≤ unitsBefore chars m} (charsBefore chars offset) := by
  refine ⟨le_unitsBefore_charsBefore (h.trans (unitsBefore_le_unitLength chars n)), fun m hm => ?_⟩
  refine Nat.le_of_not_lt fun hlt => ?_
  obtain ⟨-, hstart⟩ := lt_charsBefore_iff.1 hlt
  exact Nat.not_lt.2 hm hstart

/-! ## Where an offset in units falls -/

/-- **Between two characters,** at the start or at the end of the text. -/
def IsBoundary (chars : List Char) (offset : Nat) : Prop :=
  ∃ n ≤ chars.length, offset = unitsBefore chars n

/-- **Inside a surrogate pair:** behind the first of the two units of a character. -/
def InsidePair (chars : List Char) (offset : Nat) : Prop :=
  ∃ i c, chars[i]? = some c ∧ units c = 2 ∧ offset = unitsBefore chars i + 1

/-- **An offset falls between two characters, inside a pair or past the end.** -/
theorem exists_place (chars : List Char) (offset : Nat) :
    IsBoundary chars offset ∨ InsidePair chars offset ∨ unitLength chars < offset := by
  rcases Nat.lt_or_ge (unitLength chars) offset with hpast | hle
  · exact .inr (.inr hpast)
  · have hreach := le_unitsBefore_charsBefore hle
    rcases Nat.eq_or_lt_of_le hreach with heq | hlt
    · exact .inl ⟨_, charsBefore_le_length chars offset, heq⟩
    · -- the last character before the offset starts before it and ends behind it
      obtain ⟨i, hi⟩ : ∃ i, charsBefore chars offset = i + 1 := by
        refine Nat.exists_eq_succ_of_ne_zero fun hzero => ?_
        rw [hzero, unitsBefore_zero] at hlt
        exact Nat.not_lt_zero _ hlt
      have hlast : i < charsBefore chars offset := by
        rw [hi]
        exact Nat.lt_succ_self i
      obtain ⟨hlength, hstart⟩ := lt_charsBefore_iff.1 hlast
      have hc : chars[i]? = some chars[i] := List.getElem?_eq_getElem hlength
      have hunits : units chars[i] ≤ 2 := by
        unfold units
        split <;> decide
      rw [hi, unitsBefore_succ hc] at hlt
      exact .inr (.inl ⟨i, chars[i], hc, by omega, by omega⟩)

/-- Between two characters, an offset counted in characters and back is as it was. -/
theorem unitsBefore_charsBefore_of_isBoundary (h : IsBoundary chars offset) :
    unitsBefore chars (charsBefore chars offset) = offset := by
  obtain ⟨n, hn, rfl⟩ := h
  rw [charsBefore_unitsBefore, Nat.min_eq_left hn]

/-- Inside a pair, it moves behind the pair. -/
theorem unitsBefore_charsBefore_of_insidePair (h : InsidePair chars offset) :
    unitsBefore chars (charsBefore chars offset) = offset + 1 := by
  obtain ⟨i, c, hc, hunits, rfl⟩ := h
  have hlength := (List.getElem?_eq_some_iff.1 hc).1
  have hnext := unitsBefore_succ hc
  have hchars : charsBefore chars (unitsBefore chars i + 1) = i + 1 := by
    refine Nat.le_antisymm ?_ (lt_charsBefore_iff.2 ⟨hlength, Nat.lt_succ_self _⟩)
    rcases Nat.lt_or_ge (i + 1) chars.length with hlt | hge
    · rw [charsBefore_le_iff hlt]
      omega
    · exact (charsBefore_le_length chars _).trans hge
  rw [hchars, hnext, hunits]

/-- Past the end, it moves to the end. -/
theorem unitsBefore_charsBefore_of_unitLength_lt (h : unitLength chars < offset) :
    unitsBefore chars (charsBefore chars offset) = unitLength chars := by
  rw [charsBefore_of_unitLength_lt h, unitsBefore_of_length_le (Nat.le_refl _)]

/-- **The two ways to count are adjoint.** Counted in units and back, an offset in characters is as
it was, or the end if it was past it. The characters before a unit offset are the fewest that reach
up to it, or all of them if even these do not: at most `n` of them, with `n` less than all, exactly
if `n` characters reach up to it. An offset in units falls between two characters, inside a
surrogate pair or past the end; counted in characters and back it stays, moves behind the pair or
moves to the end. Either count grows with the offset. -/
theorem offsets_adjoint (chars : List Char) :
    (∀ n, charsBefore chars (unitsBefore chars n) = min n chars.length) ∧
    (∀ offset,
      (∀ n, offset ≤ unitsBefore chars n →
        IsLeast {m | offset ≤ unitsBefore chars m} (charsBefore chars offset)) ∧
      ((∀ n, unitsBefore chars n < offset) → charsBefore chars offset = chars.length) ∧
      (∀ n < chars.length, charsBefore chars offset ≤ n ↔ offset ≤ unitsBefore chars n)) ∧
    (∀ offset,
      (IsBoundary chars offset ∨ InsidePair chars offset ∨ unitLength chars < offset) ∧
      (IsBoundary chars offset → unitsBefore chars (charsBefore chars offset) = offset) ∧
      (InsidePair chars offset → unitsBefore chars (charsBefore chars offset) = offset + 1) ∧
      (unitLength chars < offset →
        unitsBefore chars (charsBefore chars offset) = unitLength chars)) ∧
    Monotone (unitsBefore chars) ∧ Monotone (charsBefore chars) := by
  refine ⟨charsBefore_unitsBefore chars, fun offset => ⟨fun n => isLeast_charsBefore, ?_, ?_⟩,
    fun offset => ⟨exists_place chars offset, unitsBefore_charsBefore_of_isBoundary,
      unitsBefore_charsBefore_of_insidePair, unitsBefore_charsBefore_of_unitLength_lt⟩,
    unitsBefore_mono chars, fun offset other => charsBefore_mono chars⟩
  · intro hpast
    have hend := hpast chars.length
    rw [unitsBefore_of_length_le (Nat.le_refl _)] at hend
    exact charsBefore_of_unitLength_lt hend
  · intro n hn
    exact charsBefore_le_iff hn

/-- The hand is a pair: the offset in the middle of it moves behind it. -/
example : unitsBefore ['a', '👋', 'b'] (charsBefore ['a', '👋', 'b'] 2) = 3 := by decide

end BorrowSketch.Text
