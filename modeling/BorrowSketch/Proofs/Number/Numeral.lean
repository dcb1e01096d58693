import BorrowSketch.Number.Reading
import BorrowSketch.Number.Thousandths
import Mathlib

/-! # Canonical numerals

A numeral with at most three decimals is canonical if nothing in it could be left out: no zero in
front of other digits, no zero at the end of the decimals, no point without decimals and no sign on
zero. There is exactly one canonical numeral for every whole number of thousandths, and it is the
one that is written.

* **`IsWhole`**, **`IsFraction`** — the digits before and behind the point.
* **`Numeral`** — a canonical numeral, with its `text` and its `value`.
* **`Numeral.ofCount`** — the numeral of a number of thousandths.
* **`Numeral.value_eq_iff`** — it is the only one of that value.
* **`Numeral.chars_ofCount`** — it is what is written. -/

namespace BorrowSketch.Number

/-! ## Digits before the point -/

/-- Digits in front of the point: at least one, and no superfluous zero. -/
structure IsWhole (digits : List Char) : Prop where
  /-- They are digits. -/
  digit : ∀ c ∈ digits, c.isDigit = true
  /-- There is one. -/
  ne_nil : digits ≠ []
  /-- A zero in front stands alone. -/
  leading : digits.head? = some '0' → digits = ['0']

/-- The value with one digit more behind. -/
theorem digitsValue_concat (digits : List Char) (c : Char) :
    digitsValue (digits ++ [c]) = 10 * digitsValue digits + (c.toNat - '0'.toNat) := by
  simp [digitsValue]

@[simp] theorem digitsValue_toDigits (n : Nat) : digitsValue (Nat.toDigits 10 n) = n :=
  Nat.ofDigitChars_toDigits (by decide) (by decide)

/-- A digit is the character of a number below ten. -/
theorem exists_digitChar_eq {c : Char} (hdigit : c.isDigit = true) :
    ∃ d < 10, c = Nat.digitChar d := by
  have hrange : 48 ≤ c.toNat ∧ c.toNat ≤ 57 := Char.isDigit_iff_toNat.mp hdigit
  refine ⟨c.toNat - 48, by omega, Char.toNat_inj.mp ?_⟩
  rw [Nat.toNat_digitChar_of_lt_ten (by omega)]
  omega

theorem digitChar_toNat_sub {d : Nat} (hsmall : d < 10) :
    (Nat.digitChar d).toNat - '0'.toNat = d :=
  Nat.toNat_digitChar_sub_48_of_lt_ten hsmall

/-- The digits of a number have no superfluous zero. -/
theorem isWhole_toDigits (n : Nat) : IsWhole (Nat.toDigits 10 n) where
  digit _ hmem := Nat.isDigit_of_mem_toDigits (by decide) (by decide) hmem
  ne_nil := Nat.toDigits_ne_nil
  leading := by
    induction n using Nat.strong_induction_on with
    | _ n ih =>
      intro hzero
      rcases Nat.lt_or_ge n 10 with hone | hmore
      · rw [Nat.toDigits_of_lt_base hone] at hzero ⊢
        simpa using hzero
      · rw [Nat.toDigits_of_base_le (by decide) hmore,
          List.head?_append_of_ne_nil _ Nat.toDigits_ne_nil] at hzero
        -- the digits in front of the last one would be those of zero
        have hfront := congrArg digitsValue (ih (n / 10) (by omega) hzero)
        rw [digitsValue_toDigits] at hfront
        have : n / 10 = 0 := hfront
        omega

/-- **Digits without a superfluous zero** are the digits of their value. -/
theorem IsWhole.eq_toDigits {digits : List Char} (hwhole : IsWhole digits) :
    digits = Nat.toDigits 10 (digitsValue digits) := by
  induction digits using List.reverseRecOn with
  | nil => exact absurd rfl hwhole.ne_nil
  | append_singleton front c ih =>
    obtain ⟨d, hsmall, rfl⟩ := exists_digitChar_eq (hwhole.digit c (by simp))
    rw [digitsValue_concat, digitChar_toNat_sub hsmall]
    rcases eq_or_ne front [] with rfl | hne
    · rw [show 10 * digitsValue [] + d = d from Nat.zero_add d, Nat.toDigits_of_lt_base hsmall]
      rfl
    · -- with a digit behind it, a zero in front would not stand alone
      have hleading : front.head? ≠ some '0' := by
        intro hzero
        have hshort := hwhole.leading (by rw [List.head?_append_of_ne_nil _ hne, hzero])
        have hlengths := congrArg List.length hshort
        exact hne (by simpa using hlengths)
      have heq := ih ⟨fun c hmem => hwhole.digit c (List.mem_append_left _ hmem), hne,
        fun hzero => absurd hzero hleading⟩
      have hpositive : 0 < digitsValue front := by
        by_contra hzero
        rw [Nat.eq_zero_of_not_pos hzero] at heq
        exact hleading (by rw [heq]; rfl)
      rw [← Nat.toDigits_append_toDigits (by decide) hpositive hsmall, ← heq,
        Nat.toDigits_of_lt_base hsmall]

/-- Only a single zero has no value. -/
theorem IsWhole.digitsValue_pos {digits : List Char} (hwhole : IsWhole digits)
    (hne : digits ≠ ['0']) : 0 < digitsValue digits := by
  by_contra hzero
  have heq := hwhole.eq_toDigits
  rw [Nat.eq_zero_of_not_pos hzero] at heq
  exact hne heq

/-! ## Digits behind the point -/

/-- Digits behind the point: at most three, not ending in a zero. -/
structure IsFraction (digits : List Char) : Prop where
  /-- They are digits. -/
  digit : ∀ c ∈ digits, c.isDigit = true
  /-- There are at most three. -/
  length_le : digits.length ≤ 3
  /-- The last one is not a zero. -/
  trailing : digits.getLast? ≠ some '0'

/-- The thousandths that digits behind the point stand for. -/
def places (digits : List Char) : Nat :=
  digitsValue digits * Nat.pow 10 (3 - digits.length)

/-- The decimals of three digits are all of them up to the last one that is not zero. -/
theorem decimals_eq {a b c : Nat} (ha : a < 10) (hb : b < 10) (hc : c < 10) :
    Thousandths.decimals (100 * a + 10 * b + c)
      = if c ≠ 0 then [a, b, c] else if b ≠ 0 then [a, b] else if a ≠ 0 then [a] else [] := by
  have hfirst : (100 * a + 10 * b + c) / 100 = a := by omega
  have hsecond : (100 * a + 10 * b + c) / 10 % 10 = b := by omega
  have hthird : (100 * a + 10 * b + c) % 10 = c := by omega
  rw [Thousandths.decimals, hfirst, hsecond, hthird]
  split_ifs <;> first | rfl | omega

theorem decimals_eq_nil_iff (part : Nat) : Thousandths.decimals part = [] ↔ part = 0 := by
  unfold Thousandths.decimals
  split_ifs with hzero <;> simp [hzero]

theorem exists_three_digits {part : Nat} (hsmall : part < 1000) :
    ∃ a < 10, ∃ b < 10, ∃ c < 10, part = 100 * a + 10 * b + c :=
  ⟨part / 100, by omega, part / 10 % 10, by omega, part % 10, by omega, by omega⟩

theorem isFraction_decimals {part : Nat} (hsmall : part < 1000) :
    IsFraction ((Thousandths.decimals part).map Nat.digitChar) := by
  obtain ⟨a, ha, b, hb, c, hc, rfl⟩ := exists_three_digits hsmall
  rw [decimals_eq ha hb hc]
  split_ifs with hthree htwo hone
  all_goals constructor <;> simp [Nat.isDigit_digitChar, ha, hb, hc]
  · exact hthree
  · exact htwo
  · exact hone

theorem places_decimals {part : Nat} (hsmall : part < 1000) :
    places ((Thousandths.decimals part).map Nat.digitChar) = part := by
  obtain ⟨a, ha, b, hb, c, hc, rfl⟩ := exists_three_digits hsmall
  have hdigitA := Nat.toNat_digitChar_sub_48_of_lt_ten ha
  have hdigitB := Nat.toNat_digitChar_sub_48_of_lt_ten hb
  have hdigitC := Nat.toNat_digitChar_sub_48_of_lt_ten hc
  rw [decimals_eq ha hb hc]
  split_ifs with hthree htwo hone
  all_goals simp [places, digitsValue, hdigitA, hdigitB, hdigitC]; omega

/-- Decimals that do not end in a zero are those of some number of thousandths. -/
theorem IsFraction.exists_decimals_eq {digits : List Char} (hfraction : IsFraction digits) :
    ∃ part < 1000, digits = (Thousandths.decimals part).map Nat.digitChar := by
  obtain ⟨hdigit, hlength_le, htrailing⟩ := hfraction
  match digits with
  | [] => exact ⟨0, by decide, rfl⟩
  | [x] =>
    obtain ⟨a, ha, rfl⟩ := exists_digitChar_eq (hdigit x (by simp))
    have hne : a ≠ 0 := by simpa using htrailing
    refine ⟨100 * a + 10 * 0 + 0, by omega, ?_⟩
    rw [decimals_eq ha (by decide) (by decide)]
    simp [hne]
  | [x, y] =>
    obtain ⟨a, ha, rfl⟩ := exists_digitChar_eq (hdigit x (by simp))
    obtain ⟨b, hb, rfl⟩ := exists_digitChar_eq (hdigit y (by simp))
    have hne : b ≠ 0 := by simpa using htrailing
    refine ⟨100 * a + 10 * b + 0, by omega, ?_⟩
    rw [decimals_eq ha hb (by decide)]
    simp [hne]
  | [x, y, z] =>
    obtain ⟨a, ha, rfl⟩ := exists_digitChar_eq (hdigit x (by simp))
    obtain ⟨b, hb, rfl⟩ := exists_digitChar_eq (hdigit y (by simp))
    obtain ⟨c, hc, rfl⟩ := exists_digitChar_eq (hdigit z (by simp))
    have hne : c ≠ 0 := by simpa using htrailing
    refine ⟨100 * a + 10 * b + c, by omega, ?_⟩
    rw [decimals_eq ha hb hc]
    simp [hne]
  | _ :: _ :: _ :: _ :: _ =>
    simp only [List.length_cons] at hlength_le
    omega

theorem IsFraction.eq_decimals {digits : List Char} (hfraction : IsFraction digits) :
    digits = (Thousandths.decimals (places digits)).map Nat.digitChar := by
  obtain ⟨part, hsmall, rfl⟩ := hfraction.exists_decimals_eq
  rw [places_decimals hsmall]

theorem IsFraction.places_lt {digits : List Char} (hfraction : IsFraction digits) :
    places digits < 1000 := by
  obtain ⟨part, hsmall, rfl⟩ := hfraction.exists_decimals_eq
  rwa [places_decimals hsmall]

theorem IsFraction.places_pos {digits : List Char} (hfraction : IsFraction digits)
    (hne : digits ≠ []) : 0 < places digits := by
  by_contra hzero
  have heq := hfraction.eq_decimals
  rw [Nat.eq_zero_of_not_pos hzero] at heq
  exact hne heq

/-! ## Numerals -/

/-- A canonical decimal numeral with at most three decimals. -/
structure Numeral where
  /-- Whether it carries a minus sign. -/
  negative : Bool
  /-- The digits before the point. -/
  whole : List Char
  /-- The digits behind the point; there is no point if there are none. -/
  decimals : List Char
  /-- There is no superfluous zero before the point. -/
  isWhole : IsWhole whole
  /-- There is none behind it. -/
  isFraction : IsFraction decimals
  /-- Zero carries no sign. -/
  signed : negative = true → whole ≠ ['0'] ∨ decimals ≠ []

namespace Numeral

/-- The characters of a numeral. -/
def chars (n : Numeral) : List Char :=
  (if n.negative then ['-'] else []) ++ n.whole
    ++ if n.decimals = [] then [] else '.' :: n.decimals

/-- The numeral as it is written. -/
def text (n : Numeral) : String :=
  String.ofList n.chars

/-- The number that a numeral denotes. -/
def value (n : Numeral) : ℚ :=
  (if n.negative then -1 else 1)
    * (digitsValue n.whole + digitsValue n.decimals / 10 ^ n.decimals.length)

/-- The thousandths in a numeral, without its sign. -/
def magnitude (n : Numeral) : Nat :=
  1000 * digitsValue n.whole + places n.decimals

/-- The thousandths in a numeral. -/
def count (n : Numeral) : Int :=
  if n.negative then -n.magnitude else n.magnitude

/-- A numeral denotes as many thousandths as are counted in it. -/
theorem value_eq (n : Numeral) : n.value = n.count / 1000 := by
  have hscaled : (digitsValue n.decimals : ℚ) / 10 ^ n.decimals.length
      = places n.decimals / 1000 := by
    have hsplit : (10 : ℚ) ^ n.decimals.length * 10 ^ (3 - n.decimals.length) = 1000 := by
      rw [← pow_add, Nat.add_sub_cancel' n.isFraction.length_le]
      norm_num
    have hunfolded : (places n.decimals : ℚ)
        = digitsValue n.decimals * 10 ^ (3 - n.decimals.length) := by
      simp [places]
    rw [hunfolded, ← hsplit]
    field_simp
  rw [value, hscaled, count, magnitude]
  split_ifs <;> push_cast <;> ring

theorem magnitude_pos_of_negative {n : Numeral} (hnegative : n.negative = true) :
    0 < n.magnitude := by
  unfold magnitude
  rcases n.signed hnegative with hne | hne
  · have := n.isWhole.digitsValue_pos hne
    omega
  · have := n.isFraction.places_pos hne
    omega

theorem negative_iff (n : Numeral) : n.negative = true ↔ n.count < 0 := by
  unfold count
  split_ifs with hnegative
  · have := magnitude_pos_of_negative hnegative
    simp only [hnegative, true_iff]
    omega
  · simp [hnegative]

theorem natAbs_count (n : Numeral) : n.count.natAbs = n.magnitude := by
  unfold count
  split_ifs <;> omega

/-- The numeral of a number of thousandths. -/
def ofCount (count : Int) : Numeral where
  negative := decide (count < 0)
  whole := Nat.toDigits 10 (count.natAbs / 1000)
  decimals := (Thousandths.decimals (count.natAbs % 1000)).map Nat.digitChar
  isWhole := isWhole_toDigits _
  isFraction := isFraction_decimals (Nat.mod_lt _ (by decide))
  signed := by
    intro hnegative
    by_contra hzero
    simp only [not_or, not_not] at hzero
    have hwhole := congrArg digitsValue hzero.1
    have hpart := congrArg places hzero.2
    rw [digitsValue_toDigits] at hwhole
    rw [places_decimals (Nat.mod_lt _ (by decide))] at hpart
    -- without any digit but zeros there are no thousandths
    have hwholeZero : count.natAbs / 1000 = 0 := hwhole
    have hpartZero : count.natAbs % 1000 = 0 := hpart
    have hbelow : count < 0 := of_decide_eq_true hnegative
    omega

theorem magnitude_ofCount (count : Int) : (ofCount count).magnitude = count.natAbs := by
  have hpart : places (ofCount count).decimals = count.natAbs % 1000 :=
    places_decimals (Nat.mod_lt _ (by decide))
  have hwhole : digitsValue (ofCount count).whole = count.natAbs / 1000 := digitsValue_toDigits _
  rw [magnitude, hwhole, hpart]
  exact Nat.div_add_mod _ _

theorem count_ofCount (count : Int) : (ofCount count).count = count := by
  have hnegative : (ofCount count).negative = decide (count < 0) := rfl
  rw [Numeral.count, magnitude_ofCount, hnegative]
  split_ifs with hbelow
  · have := of_decide_eq_true hbelow
    omega
  · have := of_decide_eq_false (Bool.not_eq_true _ ▸ hbelow)
    omega

/-- A numeral is that of its thousandths. -/
theorem ofCount_count (n : Numeral) : ofCount n.count = n := by
  have hsmall := n.isFraction.places_lt
  have hnegative : decide (n.count < 0) = n.negative := by
    rw [Bool.eq_iff_iff, decide_eq_true_iff, n.negative_iff]
  have hwholeCount : n.count.natAbs / 1000 = digitsValue n.whole := by
    rw [natAbs_count, magnitude]
    omega
  have hpart : n.count.natAbs % 1000 = places n.decimals := by
    rw [natAbs_count, magnitude]
    omega
  have hwhole : Nat.toDigits 10 (n.count.natAbs / 1000) = n.whole := by
    rw [hwholeCount, ← n.isWhole.eq_toDigits]
  have hdecimals : (Thousandths.decimals (n.count.natAbs % 1000)).map Nat.digitChar
      = n.decimals := by
    rw [hpart, ← n.isFraction.eq_decimals]
  unfold ofCount
  simp only [hnegative, hwhole, hdecimals]

/-- **Numerals are canonical:** each number of thousandths has only one. -/
theorem value_eq_iff (n : Numeral) (count : Int) :
    n.value = count / 1000 ↔ n = ofCount count := by
  rw [value_eq, div_left_inj' (by norm_num), Int.cast_inj]
  constructor
  · rintro rfl
    exact n.ofCount_count.symm
  · rintro rfl
    exact count_ofCount count

/-- **The numeral that is written** is the canonical one. -/
theorem chars_ofCount (count : Int) : (ofCount count).chars = Thousandths.numeral count := by
  unfold chars ofCount Thousandths.numeral Thousandths.fraction
  simp only [List.map_eq_nil_iff, decimals_eq_nil_iff, decide_eq_true_eq]

/-! ## What a numeral looks like -/

theorem chars_ne_nil (n : Numeral) : n.chars ≠ [] := by
  simp [chars, n.isWhole.ne_nil]

/-- There are only digits in a numeral, a sign and a point. -/
theorem of_mem_chars {n : Numeral} {c : Char} (hmem : c ∈ n.chars) :
    c.isDigit = true ∨ c = '-' ∨ c = '.' := by
  simp only [chars, List.mem_append] at hmem
  rcases hmem with (hsign | hwhole) | hdecimals
  · split_ifs at hsign
    · exact .inr (.inl (List.mem_singleton.mp hsign))
    · exact absurd hsign List.not_mem_nil
  · exact .inl (n.isWhole.digit c hwhole)
  · split_ifs at hdecimals
    · exact absurd hdecimals List.not_mem_nil
    · rcases List.mem_cons.mp hdecimals with hpoint | hdigit
      · exact .inr (.inr hpoint)
      · exact .inl (n.isFraction.digit c hdigit)

/-- The last character is a digit, never the point. -/
theorem isDigit_of_getLast?_chars {n : Numeral} {c : Char} (hlast : n.chars.getLast? = some c) :
    c.isDigit = true := by
  unfold chars at hlast
  by_cases hnone : n.decimals = []
  · rw [if_pos hnone, List.append_nil, List.getLast?_append_of_ne_nil _ n.isWhole.ne_nil] at hlast
    exact n.isWhole.digit c (List.mem_of_getLast? hlast)
  · rw [if_neg hnone, List.getLast?_append_of_ne_nil _ (List.cons_ne_nil _ _),
      ← List.singleton_append, List.getLast?_append_of_ne_nil _ hnone] at hlast
    exact n.isFraction.digit c (List.mem_of_getLast? hlast)

/-- No numeral is a zero with a sign. -/
theorem chars_ne_minus_zero (n : Numeral) : n.chars ≠ ['-', '0'] := by
  intro heq
  unfold chars at heq
  by_cases hnegative : n.negative = true
  · rw [if_pos hnegative, List.append_assoc, List.singleton_append, List.cons.injEq,
      List.append_eq_singleton_iff] at heq
    rcases heq.2 with ⟨hempty, -⟩ | ⟨hzero, hrest⟩
    · exact n.isWhole.ne_nil hempty
    · have hnone : n.decimals = [] := by
        by_contra hsome
        rw [if_neg hsome] at hrest
        exact List.cons_ne_nil _ _ hrest
      exact (n.signed hnegative).elim (absurd hzero) (absurd hnone)
  · -- without a sign the first character is a digit
    obtain ⟨c, digits, hwhole⟩ := List.exists_cons_of_ne_nil n.isWhole.ne_nil
    rw [if_neg hnegative, hwhole, List.nil_append, List.cons_append, List.cons.injEq] at heq
    have hdigit := n.isWhole.digit c (hwhole ▸ List.mem_cons_self)
    rw [heq.1] at hdigit
    exact absurd hdigit (by decide)

end Numeral

end BorrowSketch.Number
