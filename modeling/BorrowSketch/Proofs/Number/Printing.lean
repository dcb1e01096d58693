import BorrowSketch.Proofs.Number.Numeral
import BorrowSketch.Proofs.Number.Rounding

/-! # Printing numbers

Step by step, a number is written with a threshold and with changes at the end of a text: what is
too close to zero is `0`, anything else is written with three decimals, and then zeros, a bare point
and the sign of a zero are taken off. The threshold is itself a float, a little above half a
thousandth. Below it is exactly what rounding takes to zero, and what the steps leave is the
canonical numeral of the rounded number.

* **`printed`** — the steps.
* **`abs_lt_threshold_iff`** — the threshold leaves out the floats that round to zero.
* **`stripped_three_decimals`** — taking off zeros and the point leaves the decimals.
* **`printed_eq`** — the steps write the numeral of the thousandths.
* **`text_rounded`** — the text of any float. -/

namespace BorrowSketch.Number

/-! ## The threshold -/

/-- The float nearest to half a thousandth is a little above it. -/
theorem ofFloat?_threshold :
    Binary.ofFloat? 0.0005 = some ⟨false, 4611686018427388, -63⟩ := by
  decide +kernel

/-- No float lies between half a thousandth and the threshold, which is the next float above. -/
theorem Binary.Canonical.magnitude_lt_threshold_iff {b : Binary} (hcanonical : b.Canonical) :
    b.magnitude < 4611686018427388 * 2 ^ (-63 : ℤ) ↔ b.magnitude ≤ 1 / 2000 := by
  constructor
  · intro hbelow
    have horder :=
      (hcanonical.magnitude_lt_iff (canonical_of_ofFloat? ofFloat?_threshold)).mp hbelow
    rw [Ordering.then_eq_lt, compare_lt_iff_lt, compare_eq_iff_eq, compare_lt_iff_lt] at horder
    rcases horder with hsmaller | ⟨hsame, hless⟩
    · -- whatever the significand, the number is less than a power of two below half a thousandth
      have hsignificand : (b.significand : ℚ) ≤ 2 ^ 53 := by
        exact_mod_cast hcanonical.significand_lt.le
      have hscale : (2 : ℚ) ^ b.exponent ≤ 2 ^ (-64 : ℤ) :=
        zpow_le_zpow_right₀ (by norm_num) (by have : b.exponent < -63 := hsmaller; omega)
      calc b.magnitude ≤ 2 ^ 53 * 2 ^ (-64 : ℤ) := by unfold magnitude; gcongr
        _ ≤ 1 / 2000 := by norm_num
    · -- the next significand below that of the threshold already is on the other side
      have hsignificand : (b.significand : ℚ) ≤ 4611686018427387 := by
        exact_mod_cast Nat.le_of_lt_succ hless
      calc b.magnitude = b.significand * 2 ^ (-63 : ℤ) := by rw [magnitude, hsame]
        _ ≤ 4611686018427387 * 2 ^ (-63 : ℤ) := by gcongr
        _ ≤ 1 / 2000 := by norm_num
  · intro hsmall
    calc b.magnitude ≤ 1 / 2000 := hsmall
      _ < 4611686018427388 * 2 ^ (-63 : ℤ) := by norm_num

/-- **The floats below the threshold** are those that are at most half a thousandth. -/
theorem abs_lt_threshold_iff {x : Float} {q : ℚ} (hvalued : value? x = some q) :
    x.abs < 0.0005 ↔ |q| ≤ 1 / 2000 := by
  have hthreshold : value? 0.0005 = some (4611686018427388 * 2 ^ (-63 : ℤ)) := by
    rw [value?_eq, ofFloat?_threshold]
    simp [Binary.value, Binary.magnitude]
  have habsolute : value? x.abs = some |q| := by rw [value?_abs, hvalued, Option.map_some]
  rw [lt_iff_value_lt habsolute hthreshold]
  rw [value?_eq, Option.map_eq_some_iff] at hvalued
  obtain ⟨b, hdecoded, rfl⟩ := hvalued
  rw [b.abs_value, (Binary.canonical_of_ofFloat? hdecoded).magnitude_lt_threshold_iff]

/-! ## The steps -/

/-- A binary number written with three decimals and its sign, zero included. -/
def Binary.fixed (b : Binary) : List Char :=
  let count := roundHalfEven (b.numerator * 1000) b.denominator
  (if b.negative then ['-'] else []) ++ Nat.toDigits 10 (count / 1000)
    ++ ['.', Nat.digitChar (count % 1000 / 100), Nat.digitChar (count % 1000 / 10 % 10),
      Nat.digitChar (count % 1000 % 10)]

/-- Zeros taken off the end one by one, and then the point if it is last. -/
def stripped (out : List Char) : List Char :=
  let out := out.rdropWhile (· = '0')
  if out.getLast? = some '.' then out.dropLast else out

/-- A float written step by step. -/
def printed (x : Float) : String :=
  if x.isFinite = false ∨ x.abs < 0.0005 then "0"
  else
    let out := stripped ((Binary.ofFloat? x).elim [] Binary.fixed)
    if out = ['-', '0'] then "0" else String.ofList out

theorem digitChar_ne_point {d : Nat} (hsmall : d < 10) : Nat.digitChar d ≠ '.' := by
  intro hpoint
  have hdigit : (Nat.digitChar d).isDigit = decide (d < 10) := Nat.isDigit_digitChar
  rw [hpoint, decide_eq_true hsmall] at hdigit
  exact absurd hdigit (by decide)

theorem stripped_concat_zero (out : List Char) :
    stripped (out ++ [Nat.digitChar 0]) = stripped out := by
  simp [stripped]

theorem stripped_concat_digit (out : List Char) {d : Nat} (hsmall : d < 10) (hne : d ≠ 0) :
    stripped (out ++ [Nat.digitChar d]) = out ++ [Nat.digitChar d] := by
  simp [stripped, hne, digitChar_ne_point hsmall]

theorem stripped_concat_point (out : List Char) : stripped (out ++ ['.']) = out := by
  simp [stripped]

/-- Of three decimals, the steps leave those that do not end in a zero; the point goes with the last
of them, so that no digit before it is taken off. -/
theorem stripped_three_decimals (front : List Char) {part : Nat} (hsmall : part < 1000) :
    stripped (front ++ ['.', Nat.digitChar (part / 100), Nat.digitChar (part / 10 % 10),
      Nat.digitChar (part % 10)]) = front ++ Thousandths.fraction part := by
  obtain ⟨a, ha, b, hb, c, hc, rfl⟩ := exists_three_digits hsmall
  have hfirst : (100 * a + 10 * b + c) / 100 = a := by omega
  have hsecond : (100 * a + 10 * b + c) / 10 % 10 = b := by omega
  have hthird : (100 * a + 10 * b + c) % 10 = c := by omega
  have hsplit : front ++ ['.', Nat.digitChar a, Nat.digitChar b, Nat.digitChar c]
      = front ++ ['.'] ++ [Nat.digitChar a] ++ [Nat.digitChar b] ++ [Nat.digitChar c] := by
    simp
  rw [hfirst, hsecond, hthird, hsplit, Thousandths.fraction, decimals_eq ha hb hc]
  -- from the last digit on, up to the first one that stays
  rcases eq_or_ne c 0 with rfl | hc0
  · rw [stripped_concat_zero]
    rcases eq_or_ne b 0 with rfl | hb0
    · rw [stripped_concat_zero]
      rcases eq_or_ne a 0 with rfl | ha0
      · rw [stripped_concat_zero, stripped_concat_point]
        simp
      · rw [stripped_concat_digit _ ha ha0]
        simp [ha0]
    · rw [stripped_concat_digit _ hb hb0]
      simp [hb0]
  · rw [stripped_concat_digit _ hc hc0]
    simp [hc0]

/-- Where the number does not round to zero, its sign is that of the thousandths. -/
theorem stripped_fixed {x : Float} {b : Binary} (hdecoded : Binary.ofFloat? x = some b)
    (hne : thousandths x ≠ 0) :
    stripped b.fixed = Thousandths.numeral (thousandths x) := by
  have hcount : thousandths x = if b.negative
      then -(roundHalfEven (b.numerator * 1000) b.denominator : Int)
      else roundHalfEven (b.numerator * 1000) b.denominator := by
    simp only [thousandths, hdecoded]
  have hnatAbs : (thousandths x).natAbs = roundHalfEven (b.numerator * 1000) b.denominator := by
    rw [hcount]
    split_ifs <;> omega
  have hnegative : thousandths x < 0 ↔ b.negative = true := by
    rw [hcount] at hne ⊢
    split_ifs at hne ⊢ with h
    · simp only [h, iff_true]
      omega
    · simp [h]
  rw [Binary.fixed, ← hnatAbs, stripped_three_decimals _ (Nat.mod_lt _ (by decide)),
    Thousandths.numeral]
  simp only [hnegative]

/-- **The steps write the numeral** of the thousandths. -/
theorem printed_eq (x : Float) :
    printed x = String.ofList (Thousandths.numeral (thousandths x)) := by
  unfold printed
  cases hvalued : value? x with
  | none =>
    have hinfinite : x.isFinite = false := by
      rw [← Bool.not_eq_true, isFinite_iff, hvalued]
      simp
    rw [if_pos (.inl hinfinite), thousandths_of_value?_eq_none hvalued]
    rfl
  | some q =>
    have hfinite : x.isFinite = true := by
      rw [isFinite_iff, hvalued]
      rfl
    have hthreshold := (abs_lt_threshold_iff hvalued).trans (thousandths_eq_zero_iff hvalued).symm
    rcases eq_or_ne (thousandths x) 0 with hzero | hne
    · rw [if_pos (.inr (hthreshold.mpr hzero)), hzero]
      rfl
    · have hwritten : ¬(x.isFinite = false ∨ x.abs < 0.0005) := by
        rw [hfinite]
        simp [hthreshold, hne]
      rw [value?_eq, Option.map_eq_some_iff] at hvalued
      obtain ⟨b, hdecoded, -⟩ := hvalued
      have hsigned : Thousandths.numeral (thousandths x) ≠ ['-', '0'] := by
        rw [← Numeral.chars_ofCount]
        exact Numeral.chars_ne_minus_zero _
      rw [if_neg hwritten, hdecoded, Option.elim_some, stripped_fixed hdecoded hne]
      simp only [if_neg hsigned]

/-! ## The text of a float -/

theorem text_eq_printed (x : Float) : text x = printed x :=
  (printed_eq x).symm

theorem text_eq_numeral (x : Float) : text x = (Numeral.ofCount (thousandths x)).text := by
  rw [text, Numeral.text, Numeral.chars_ofCount]

/-- **The text of a float.** It is what the steps write. If the float is finite, there is one
integer nearest to its thousandfold value, a tie going to the even one, and one canonical numeral of
as many thousandths, and this is the text; what is not finite is written as zero. No text is empty,
is a zero with a sign or ends in the point. -/
theorem text_rounded (x : Float) :
    text x = printed x
      ∧ (x.isFinite = true → ∃ q, value? x = some q
          ∧ ∃ r : ℤ, (∀ s, IsNearest (1000 * q) s ↔ s = r)
          ∧ ∃ n : Numeral, (∀ m : Numeral, m.value = r / 1000 ↔ m = n) ∧ text x = n.text)
      ∧ (x.isFinite = false → text x = "0")
      ∧ text x ≠ "" ∧ text x ≠ "-0" ∧ (text x).toList.getLast? ≠ some '.' := by
  refine ⟨text_eq_printed x, fun hfinite => ?_, fun hinfinite => ?_, ?_, ?_, ?_⟩
  · obtain ⟨q, hvalued⟩ := Option.isSome_iff_exists.mp ((isFinite_iff x).mp hfinite)
    have hnearest := isNearest_thousandths hvalued
    exact ⟨q, hvalued, thousandths x, fun s => ⟨hnearest.unique, fun heq => heq ▸ hnearest⟩,
      Numeral.ofCount (thousandths x), fun m => m.value_eq_iff _, text_eq_numeral x⟩
  · rw [text_eq_printed, printed, if_pos (.inl hinfinite)]
  all_goals rw [text_eq_numeral, Numeral.text]
  · intro hempty
    exact Numeral.chars_ne_nil _ (by simpa using congrArg String.toList hempty)
  · intro hminus
    exact Numeral.chars_ne_minus_zero _ (by simpa using congrArg String.toList hminus)
  · intro hpoint
    rw [String.toList_ofList] at hpoint
    exact absurd (Numeral.isDigit_of_getLast?_chars hpoint) (by decide)

/-- One sixteenth is half-way between two thousandths. -/
theorem text_rounded_sixteenth :
    (0.0625 : Float).isFinite = true ∧ value? 0.0625 = some (1 / 16)
      ∧ (∀ s : ℤ, IsNearest (1000 * (1 / 16)) s ↔ s = 62) ∧ text 0.0625 = "0.062" := by
  have hfinite : (0.0625 : Float).isFinite = true := by decide +kernel
  have hsixteenth : value? 0.0625 = some (1 / 16) := by
    have hdecoded : Binary.ofFloat? 0.0625 = some ⟨false, 4503599627370496, -56⟩ := by
      decide +kernel
    rw [value?_eq, hdecoded]
    norm_num [Binary.value, Binary.magnitude]
  have heven : IsNearest (1000 * (1 / 16)) 62 := by
    rw [isNearest_iff]
    constructor
    · norm_num [abs_le]
    · exact fun _ => by decide
  obtain ⟨q, hvalued, r, hnearest, n, honly, hwritten⟩ := (text_rounded 0.0625).2.1 hfinite
  obtain rfl : q = 1 / 16 := Option.some.inj (hvalued.symm.trans hsixteenth)
  obtain rfl : 62 = r := (hnearest 62).mp heven
  have hnumeral : n = Numeral.ofCount 62 := (n.value_eq_iff 62).mp ((honly n).mpr rfl)
  refine ⟨hfinite, hsixteenth, hnearest, ?_⟩
  rw [hwritten, hnumeral]
  decide +kernel

end BorrowSketch.Number
