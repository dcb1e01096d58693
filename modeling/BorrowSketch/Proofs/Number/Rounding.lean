import BorrowSketch.Number.Thousandths
import BorrowSketch.Proofs.Number.Value

/-! # Rounding to whole thousandths

The integer nearest to a rational number, a tie going to the even neighbour, is specified by
distances. The quotient that is computed in `Nat` arithmetic meets the specification, and so does
the number of thousandths that is computed from a float.

* **`IsNearest`** — an integer is nearest to a rational number.
* **`isNearest_iff`**, **`IsNearest.unique`** — it is at most one half away, and there is one.
* **`isNearest_roundHalfEven`** — the rounded quotient is nearest.
* **`isNearest_thousandths`** — the thousandths of a float are nearest to its thousandfold value.
* **`thousandths_eq_zero_iff`** — which floats have none. -/

namespace BorrowSketch.Number

/-- No integer is nearer to `q` than `r`, and if another one is as near then `r` is even. -/
structure IsNearest (q : ℚ) (r : ℤ) : Prop where
  /-- No integer is nearer. -/
  closest : ∀ s : ℤ, |q - r| ≤ |q - s|
  /-- Of two equally near ones it is the even one. -/
  even : ∀ s : ℤ, s ≠ r → |q - s| = |q - r| → Even r

/-- Two integers are at least one apart, so they cannot both be near to `q`. -/
theorem one_le_distances {r s : ℤ} (q : ℚ) (hne : s ≠ r) : 1 ≤ |q - r| + |q - s| := by
  have hapart : (1 : ℚ) ≤ |(r : ℚ) - s| := by
    exact_mod_cast Int.one_le_abs (sub_ne_zero.mpr hne.symm)
  calc (1 : ℚ) ≤ |(r : ℚ) - s| := hapart
    _ ≤ |(r : ℚ) - q| + |q - s| := abs_sub_le _ _ _
    _ = |q - r| + |q - s| := by rw [abs_sub_comm (r : ℚ) q]

/-- An integer is nearest if it is at most one half away, and even if it is one half away. -/
theorem isNearest_iff {q : ℚ} {r : ℤ} :
    IsNearest q r ↔ |q - r| ≤ 1 / 2 ∧ (|q - r| = 1 / 2 → Even r) := by
  constructor
  · intro hnearest
    have hhalf : |q - r| ≤ 1 / 2 := (hnearest.closest (round q)).trans (abs_sub_round q)
    refine ⟨hhalf, fun htie => ?_⟩
    rcases (abs_eq (by norm_num)).mp htie with habove | hbelow
    · refine hnearest.even (r + 1) (by omega) ?_
      rw [htie, Int.cast_add, Int.cast_one, show q - (r + 1) = -(1 / 2) by linarith]
      norm_num
    · refine hnearest.even (r - 1) (by omega) ?_
      rw [htie, Int.cast_sub, Int.cast_one, show q - (r - 1) = 1 / 2 by linarith]
      norm_num
  · rintro ⟨hhalf, heven⟩
    refine ⟨fun s => ?_, fun s hne hsame => ?_⟩
    · rcases eq_or_ne s r with rfl | hne
      · exact le_rfl
      · linarith [one_le_distances q hne]
    · exact heven (by linarith [one_le_distances q hne])

/-- **There is only one nearest integer.** -/
theorem IsNearest.unique {q : ℚ} {r s : ℤ} (hr : IsNearest q r) (hs : IsNearest q s) : s = r := by
  by_contra hne
  have hsame : |q - s| = |q - r| := le_antisymm (hs.closest r) (hr.closest s)
  have hevenR : Even r := hr.even s hne hsame
  have hevenS : Even s := hs.even r (Ne.symm hne) hsame.symm
  -- two even numbers are too far apart to be as near to `q` as rounding leaves them
  have hapart : (2 : ℚ) ≤ |(r : ℚ) - s| := by
    obtain ⟨i, rfl⟩ := hevenR
    obtain ⟨j, rfl⟩ := hevenS
    have : 2 ≤ |(i + i : ℤ) - (j + j)| := by
      rcases abs_cases ((i + i : ℤ) - (j + j)) with h | h <;> omega
    exact_mod_cast this
  have hnear : |(r : ℚ) - s| ≤ 1 := by
    have htriangle := abs_sub_le (r : ℚ) q s
    rw [abs_sub_comm (r : ℚ) q] at htriangle
    linarith [(isNearest_iff.mp hr).1, (isNearest_iff.mp hs).1]
  linarith

theorem IsNearest.neg {q : ℚ} {r : ℤ} (hnearest : IsNearest q r) : IsNearest (-q) (-r) := by
  rw [isNearest_iff] at hnearest ⊢
  have hmirrored : |-q - (-r : ℤ)| = |q - r| := by
    rw [Int.cast_neg, ← abs_neg]
    congr 1
    ring
  rw [hmirrored]
  exact ⟨hnearest.1, fun htie => (hnearest.2 htie).neg⟩

/-- **The rounded quotient is nearest:** the remainder decides which neighbour is nearer. -/
theorem isNearest_roundHalfEven (n : ℕ) {d : ℕ} (hpos : 0 < d) :
    IsNearest (n / d) (roundHalfEven n d) := by
  have hpositive : (0 : ℚ) < d := by exact_mod_cast hpos
  have hsplit : (n : ℚ) / d = (n / d : ℕ) + (n % d : ℕ) / d := by
    have hparts : (n : ℚ) = d * (n / d : ℕ) + (n % d : ℕ) := by
      exact_mod_cast (Nat.div_add_mod n d).symm
    field_simp
    linarith
  have hlow : (0 : ℚ) ≤ (n % d : ℕ) / d := by positivity
  have hhigh : ((n % d : ℕ) : ℚ) / d < 1 := by
    rw [div_lt_one hpositive]
    exact_mod_cast Nat.mod_lt n hpos
  have hdown_lt : 2 * (n % d) < d ↔ ((n % d : ℕ) : ℚ) / d < 1 / 2 := by
    rw [div_lt_div_iff₀ hpositive two_pos]
    norm_cast
    omega
  have hup_lt : d < 2 * (n % d) ↔ 1 / 2 < ((n % d : ℕ) : ℚ) / d := by
    rw [div_lt_div_iff₀ two_pos hpositive]
    norm_cast
    omega
  have hdown : |(n : ℚ) / d - (n / d : ℕ)| = (n % d : ℕ) / d := by
    rw [hsplit, add_sub_cancel_left, abs_of_nonneg hlow]
  have hup : |(n : ℚ) / d - (n / d + 1 : ℕ)| = 1 - (n % d : ℕ) / d := by
    rw [hsplit, Nat.cast_add_one, abs_of_nonpos (by linarith)]
    ring
  rw [isNearest_iff, Int.cast_natCast, Int.even_coe_nat]
  unfold roundHalfEven
  split_ifs with hless hmore heven
  · rw [hdown]
    have := hdown_lt.mp hless
    exact ⟨this.le, fun htie => absurd htie this.ne⟩
  · rw [hup]
    have := hup_lt.mp hmore
    exact ⟨by linarith, fun htie => by linarith⟩
  · rw [hdown]
    exact ⟨not_lt.mp (mt hup_lt.mpr hmore), fun _ => Nat.even_iff.mpr heven⟩
  · rw [hup]
    have := not_lt.mp (mt hdown_lt.mpr hless)
    exact ⟨by linarith, fun _ => Nat.even_iff.mpr (by omega)⟩

/-- **The thousandths of a float** are nearest to its thousandfold value. -/
theorem isNearest_thousandths {x : Float} {q : ℚ} (hvalued : value? x = some q) :
    IsNearest (1000 * q) (thousandths x) := by
  rw [value?_eq, Option.map_eq_some_iff] at hvalued
  obtain ⟨b, hdecoded, rfl⟩ := hvalued
  have hmagnitude : IsNearest (1000 * b.magnitude)
      (roundHalfEven (b.numerator * 1000) b.denominator) := by
    have hscaled : 1000 * b.magnitude = (b.numerator * 1000 : ℕ) / b.denominator := by
      rw [← b.numerator_div_denominator]
      push_cast
      ring
    rw [hscaled]
    exact isNearest_roundHalfEven _ b.denominator_pos
  simp only [thousandths, hdecoded, Binary.value]
  split_ifs
  · rw [mul_neg]
    exact hmagnitude.neg
  · exact hmagnitude

/-- Half-way between two thousandths, the even one is taken: up to it in one case, down to it in the
other. -/
example : thousandths 0.0625 = 62 ∧ thousandths 0.1875 = 188 := by decide +kernel

theorem thousandths_of_value?_eq_none {x : Float} (hinfinite : value? x = none) :
    thousandths x = 0 := by
  rw [value?_eq, Option.map_eq_none_iff] at hinfinite
  rw [thousandths, hinfinite]

/-- A float has no thousandths if it is at most half a thousandth away from zero. -/
theorem thousandths_eq_zero_iff {x : Float} {q : ℚ} (hvalued : value? x = some q) :
    thousandths x = 0 ↔ |q| ≤ 1 / 2000 := by
  have hnearest := isNearest_thousandths hvalued
  have hscaled : |1000 * q - (0 : ℤ)| = 1000 * |q| := by
    rw [Int.cast_zero, sub_zero, abs_mul, abs_of_pos (by norm_num)]
  constructor
  · intro hzero
    rw [hzero, isNearest_iff, hscaled] at hnearest
    linarith [hnearest.1]
  · intro hsmall
    refine IsNearest.unique ?_ hnearest
    rw [isNearest_iff, hscaled]
    exact ⟨by linarith, fun _ => Even.zero⟩

end BorrowSketch.Number
