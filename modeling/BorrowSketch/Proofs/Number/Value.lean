import BorrowSketch.Number.Binary
import Mathlib

/-! # What a float stands for

A finite float stands for a rational number. The value is read off the unpacked form of the float;
the decoding by arithmetic on the bits, on which the printing of numbers rests, gives the same, and
comparisons of floats are comparisons of values.

* **`value?`** — the exact value of a float, if it is finite.
* **`Binary.ofFloat?_eq`** — the arithmetic on the bits decodes what the fields of the bits say.
* **`Binary.Canonical`** — what holds of every decoded number.
* **`lt_iff_value_lt`** — a float is less than another one exactly if its value is.
* **`unpack_abs`** — the absolute value only changes the sign. -/

namespace BorrowSketch.Number

open Float.Model (UnpackedFloat)
open Float.Model.UnpackedFloat (Sign packComponents unpack pack)

/-- The exact value of a float, if it is finite: its signed significand, scaled. -/
def value? (x : Float) : Option ℚ :=
  match x.toModel.unpack with
  | .finite sign significand exponent _ => some (sign.apply significand * 2 ^ exponent)
  | .zero _ => some 0
  | .infinity _ | .notANumber => none

theorem isFinite_iff (x : Float) : x.isFinite = true ↔ (value? x).isSome := by
  have hunpacked : x.isFinite = x.toModel.unpack.isFinite := rfl
  rw [hunpacked, value?]
  cases x.toModel.unpack <;> simp [UnpackedFloat.isFinite]

namespace Binary

/-- The exact magnitude of a binary number. -/
def magnitude (b : Binary) : ℚ :=
  b.significand * 2 ^ b.exponent

/-- The exact value of a binary number. -/
def value (b : Binary) : ℚ :=
  if b.negative then -b.magnitude else b.magnitude

/-- The binary number that an unpacked float stands for, if it is finite. -/
def ofUnpacked? : UnpackedFloat → Option Binary
  | .finite sign significand exponent _ => some ⟨sign == .negative, significand, exponent⟩
  | .zero sign => some ⟨sign == .negative, 0, -1074⟩
  | .infinity _ | .notANumber => none

theorem magnitude_nonneg (b : Binary) : 0 ≤ b.magnitude := by
  unfold magnitude
  positivity

theorem abs_value (b : Binary) : |b.value| = b.magnitude := by
  unfold value
  split_ifs <;> simp [abs_of_nonneg b.magnitude_nonneg]

theorem numerator_div_denominator (b : Binary) :
    (b.numerator : ℚ) / b.denominator = b.magnitude := by
  obtain ⟨k, h | h⟩ := b.exponent.eq_nat_or_neg <;>
    simp [numerator, denominator, magnitude, h, div_eq_mul_inv]

/-! ## Decoding

Any 64 bits are a sign, an exponent field and a fraction field put together. Both ways to decode
them are computed from these three. -/

section Parts

variable (sign : Sign) (scale : BitVec 11) (fraction : BitVec 52)

/-- The binary number with the given sign bit, exponent field and fraction field. -/
def ofParts? : Option Binary :=
  if scale = -1#11 then none
  else if scale = 0#11 then some ⟨sign == .negative, fraction.toNat, -1074⟩
  else some ⟨sign == .negative, Nat.pow 2 52 + fraction.toNat, (scale.toNat : Int) - 1075⟩

theorem toNat_append {m n : Nat} (front : BitVec m) (back : BitVec n) :
    (front ++ back).toNat = front.toNat * Nat.pow 2 n + back.toNat := by
  rw [BitVec.toNat_append, ← Nat.shiftLeft_add_eq_or_of_lt back.isLt, Nat.shiftLeft_eq]
  rfl

theorem ofBits?_packComponents :
    ofBits? (packComponents .binary64 sign scale fraction).toNat
      = ofParts? sign scale fraction := by
  have hbits : (packComponents .binary64 sign scale fraction).toNat
      = (sign.toBitVec.toNat * Nat.pow 2 11 + scale.toNat) * Nat.pow 2 52 + fraction.toNat :=
    (toNat_append _ _).trans (by rw [toNat_append])
  have hsign_lt : sign.toBitVec.toNat < 2 := sign.toBitVec.isLt
  have hscale_lt : scale.toNat < 2048 := scale.isLt
  have hfraction_lt : fraction.toNat < 4503599627370496 := fraction.isLt
  -- each field is a digit of the sum, and the others are below its place or multiples of the next
  have hfractionField : (packComponents .binary64 sign scale fraction).toNat % Nat.pow 2 52
      = fraction.toNat := by
    rw [hbits]; norm_num; omega
  have hscaleField :
      (packComponents .binary64 sign scale fraction).toNat / Nat.pow 2 52 % Nat.pow 2 11
        = scale.toNat := by
    rw [hbits]; norm_num; omega
  have hsignField : (packComponents .binary64 sign scale fraction).toNat / Nat.pow 2 63 % 2
      = sign.toBitVec.toNat := by
    rw [hbits]; norm_num; omega
  have hnegative : decide (sign.toBitVec.toNat = 1) = (sign == .negative) := by
    cases sign <;> rfl
  have htop : scale = -1#11 ↔ scale.toNat = 2047 := by rw [← BitVec.toNat_inj]; rfl
  have hbottom : scale = 0#11 ↔ scale.toNat = 0 := by rw [← BitVec.toNat_inj]; rfl
  simp only [ofBits?, ofParts?, hfractionField, hscaleField, hsignField, hnegative, htop, hbottom]

theorem ofUnpacked?_packComponents :
    ofUnpacked? (unpack .binary64 (packComponents .binary64 sign scale fraction))
      = ofParts? sign scale fraction := by
  have himplicit : (1#1 ++ fraction).toNat = Nat.pow 2 52 + fraction.toNat := by
    rw [toNat_append]; rfl
  have hbias : (Float.Model.Format.binary64.exponentBias : Int) = 1023 := rfl
  have hsigned : Sign.ofBitVec sign.toBitVec = sign := by cases sign <;> rfl
  simp only [unpack, ofParts?, UnpackedFloat.unpackExponent_packComponents,
    UnpackedFloat.unpackMantissa_packComponents, UnpackedFloat.unpackSign_packComponents, hsigned]
  by_cases hfull : scale = -1#11
  · rw [if_pos hfull, if_pos hfull]
    split_ifs <;> rfl
  · rw [if_neg hfull, if_neg hfull]
    by_cases hsubnormal : scale = 0#11
    · rw [if_pos hsubnormal, if_pos hsubnormal]
      split_ifs with hzero
      · rw [hzero]; rfl
      · rw [ofUnpacked?, hsubnormal]; rfl
    · rw [if_neg hsubnormal, if_neg hsubnormal, ofUnpacked?, himplicit, hbias]
      norm_num

/-- Without its sign, a number has the positive one in its first bit. -/
theorem abs_unpack_packComponents :
    (unpack .binary64 (packComponents .binary64 sign scale fraction)).abs
      = unpack .binary64 (packComponents .binary64 .positive scale fraction) := by
  simp only [unpack, UnpackedFloat.unpackExponent_packComponents,
    UnpackedFloat.unpackMantissa_packComponents, UnpackedFloat.unpackSign_packComponents]
  split_ifs <;> rfl

end Parts

/-- All bits are put together of their fields. -/
theorem exists_packComponents_eq (bits : BitVec 64) :
    ∃ sign scale fraction, bits = packComponents .binary64 sign scale fraction :=
  ⟨_, _, _,
    (@UnpackedFloat.packComponents_unpackSign_unpackExponent_unpackMantissa .binary64 bits).symm⟩

/-- Decoding by arithmetic and decoding by fields agree. -/
theorem ofFloat?_eq (x : Float) : ofFloat? x = ofUnpacked? x.toModel.unpack := by
  obtain ⟨sign, scale, fraction, hparts⟩ := exists_packComponents_eq x.toModel.toBits.toBitVec
  have hencoded : ofFloat? x = ofBits? x.toModel.toBits.toBitVec.toNat := rfl
  have hdecoded : x.toModel.unpack = unpack .binary64 x.toModel.toBits.toBitVec := rfl
  rw [hencoded, hdecoded, hparts, ofBits?_packComponents, ofUnpacked?_packComponents]

end Binary

/-- The value is that of the decoded number. -/
theorem value?_eq (x : Float) : value? x = (Binary.ofFloat? x).map Binary.value := by
  rw [Binary.ofFloat?_eq, value?]
  cases x.toModel.unpack with
  | finite sign m e hpos =>
    cases sign <;> simp [Binary.ofUnpacked?, Binary.value, Binary.magnitude, Sign.apply]
  | zero sign => simp [Binary.ofUnpacked?, Binary.value, Binary.magnitude]
  | infinity sign => rfl
  | notANumber => rfl

/-! ## Order -/

namespace Binary

/-- A significand and an exponent as they are stored: normal, or of the least exponent. -/
structure Canonical (b : Binary) : Prop where
  /-- The significand has 53 bits. -/
  significand_lt : b.significand < Nat.pow 2 53
  /-- The exponent is not below the least one. -/
  le_exponent : -1074 ≤ b.exponent
  /-- Above the least exponent the leading bit is set. -/
  normal : b.exponent = -1074 ∨ Nat.pow 2 52 ≤ b.significand

theorem canonical_of_ofFloat? {x : Float} {b : Binary} (hdecoded : ofFloat? x = some b) :
    b.Canonical := by
  have hfraction : x.toBits.toNat % Nat.pow 2 52 < Nat.pow 2 52 := Nat.mod_lt _ (Nat.two_pow_pos _)
  simp only [ofFloat?, ofBits?] at hdecoded
  split_ifs at hdecoded with full subnormal
  · obtain rfl := Option.some.inj hdecoded
    exact ⟨hfraction.trans (by decide), le_rfl, .inl rfl⟩
  · obtain rfl := Option.some.inj hdecoded
    refine ⟨?_, ?_, .inr (Nat.le_add_right _ _)⟩
    · norm_num at *; omega
    · show (-1074 : Int) ≤ _ - 1075
      omega

/-- A greater exponent makes a greater number, whatever the significands. -/
theorem Canonical.magnitude_lt_of_exponent_lt {b c : Binary} (hb : b.Canonical) (hc : c.Canonical)
    (hless : b.exponent < c.exponent) : b.magnitude < c.magnitude := by
  have hsmall : (b.significand : ℚ) < 2 ^ 53 := by exact_mod_cast hb.significand_lt
  have hlarge : (2 : ℚ) ^ 52 ≤ c.significand := by
    -- an exponent above another one is not the least
    have hnormal := hc.normal.resolve_left (by have := hb.le_exponent; omega)
    exact_mod_cast hnormal
  calc b.magnitude < 2 ^ 53 * 2 ^ b.exponent := by unfold magnitude; gcongr
    _ = 2 ^ 52 * 2 ^ (b.exponent + 1) := by rw [zpow_add_one₀ (by norm_num)]; ring
    _ ≤ c.magnitude := by
        unfold magnitude
        gcongr
        · norm_num
        · omega

theorem Canonical.magnitude_lt_iff {b c : Binary} (hb : b.Canonical) (hc : c.Canonical) :
    b.magnitude < c.magnitude
      ↔ (compare b.exponent c.exponent).then (compare b.significand c.significand) = .lt := by
  rw [Ordering.then_eq_lt, compare_lt_iff_lt, compare_eq_iff_eq, compare_lt_iff_lt]
  rcases lt_trichotomy b.exponent c.exponent with hless | hsame | hmore
  · simp [hless, hb.magnitude_lt_of_exponent_lt hc hless]
  · have hpositive : (0 : ℚ) < 2 ^ c.exponent := by positivity
    simp [magnitude, hsame, hpositive]
  · have := hc.magnitude_lt_of_exponent_lt hb hmore
    simp [not_lt_of_gt this, not_lt_of_gt hmore, hmore.ne']

end Binary

/-- Floats are compared by their unpacked forms. -/
theorem lt_iff_compare (x y : Float) :
    x < y ↔ x.toModel.unpack.compare y.toModel.unpack = some .lt :=
  calc x < y ↔ decide (x.toModel < y.toModel) = true := Iff.rfl
    _ ↔ x.toModel < y.toModel := decide_eq_true_iff
    _ ↔ (x.toModel.unpack.compare y.toModel.unpack == some .lt) = true := Iff.rfl
    _ ↔ x.toModel.unpack.compare y.toModel.unpack = some .lt := beq_iff_eq

/-- The magnitudes of two floats are ordered as their exponents and, where these are equal, as
their significands. -/
theorem magnitude_lt_iff_of_unpack {x y : Float} {sign sign' : Sign} {m m' : ℕ} {e e' : ℤ}
    {hpos : 0 < m} {hpos' : 0 < m'} (hux : x.toModel.unpack = .finite sign m e hpos)
    (huy : y.toModel.unpack = .finite sign' m' e' hpos') :
    (m * 2 ^ e : ℚ) < m' * 2 ^ e' ↔ (compare e e').then (compare m m') = .lt := by
  have hdecodeX := Binary.ofFloat?_eq x
  have hdecodeY := Binary.ofFloat?_eq y
  rw [hux] at hdecodeX
  rw [huy] at hdecodeY
  exact (Binary.canonical_of_ofFloat? hdecodeX).magnitude_lt_iff
    (Binary.canonical_of_ofFloat? hdecodeY)

/-- **Floats are ordered by their values.** -/
theorem lt_iff_value_lt {x y : Float} {p q : ℚ} (hx : value? x = some p) (hy : value? y = some q) :
    x < y ↔ p < q := by
  rw [lt_iff_compare]
  unfold value? at hx hy
  cases hux : x.toModel.unpack with
  | infinity | notANumber => simp [hux] at hx
  | zero _ =>
    obtain rfl : 0 = p := by simpa [hux] using hx
    cases huy : y.toModel.unpack with
    | infinity | notANumber => simp [huy] at hy
    | zero _ =>
      obtain rfl : 0 = q := by simpa [huy] using hy
      simp [UnpackedFloat.compare]
    | finite sign m e hpos =>
      have hpositive : (0 : ℚ) < m * 2 ^ e := by positivity
      obtain rfl : sign.apply m * 2 ^ e = q := by simpa [huy] using hy
      cases sign <;> simp [UnpackedFloat.compare, Sign.apply, hpositive.le, hpositive]
  | finite sign m e hpos =>
    have hpositive : (0 : ℚ) < m * 2 ^ e := by positivity
    obtain rfl : sign.apply m * 2 ^ e = p := by simpa [hux] using hx
    cases huy : y.toModel.unpack with
    | infinity | notANumber => simp [huy] at hy
    | zero _ =>
      obtain rfl : 0 = q := by simpa [huy] using hy
      cases sign <;> simp [UnpackedFloat.compare, Sign.apply, hpositive.le, hpositive]
    | finite sign' m' e' hpos' =>
      have hpositive' : (0 : ℚ) < m' * 2 ^ e' := by positivity
      obtain rfl : sign'.apply m' * 2 ^ e' = q := by simpa [huy] using hy
      cases sign <;> cases sign'
      case negative.negative =>
        -- the order of the magnitudes is turned around
        have hturned : ((compare e e').then (compare m m')).swap
            = (compare e' e).then (compare m' m) := by
          rw [Ordering.swap_then, ← Std.OrientedCmp.eq_swap, ← Std.OrientedCmp.eq_swap]
        have horder := magnitude_lt_iff_of_unpack huy hux
        simpa [UnpackedFloat.compare, Sign.apply, hturned] using horder.symm
      case negative.positive =>
        have hbelow : -(m * 2 ^ e : ℚ) < m' * 2 ^ e' := by linarith
        simpa [UnpackedFloat.compare, Sign.apply] using hbelow
      case positive.negative =>
        have habove : -(m' * 2 ^ e' : ℚ) ≤ m * 2 ^ e := by linarith
        simpa [UnpackedFloat.compare, Sign.apply] using habove
      case positive.positive =>
        have horder := magnitude_lt_iff_of_unpack hux huy
        simpa [UnpackedFloat.compare, Sign.apply] using horder.symm

/-! ## Absolute value -/

/-- What is unpacked can be packed and unpacked again. -/
theorem unpack_pack_unpack (bits : BitVec 64) :
    unpack .binary64 (pack .binary64 (unpack .binary64 bits)) = unpack .binary64 bits := by
  rw [UnpackedFloat.pack_unpack]
  split_ifs with hisNaN
  · have hfields : @UnpackedFloat.unpackExponent .binary64 bits = -1#_
        ∧ @UnpackedFloat.unpackMantissa .binary64 bits ≠ 0#_ := by
      simpa [UnpackedFloat.isNaNBits] using hisNaN
    rw [UnpackedFloat.unpack_packedNaN, unpack, if_pos hfields.1, if_neg hfields.2]
  · rfl

/-- The absolute value of a float has the positive sign, and all else of the float. -/
theorem unpack_abs (x : Float) : x.abs.toModel.unpack = x.toModel.unpack.abs := by
  obtain ⟨sign, scale, fraction, hparts⟩ :=
    Binary.exists_packComponents_eq x.toModel.toBits.toBitVec
  have hdecoded : x.toModel.unpack = unpack .binary64 x.toModel.toBits.toBitVec := rfl
  calc x.abs.toModel.unpack
      = unpack .binary64 (pack .binary64 x.toModel.unpack.abs) := rfl
    _ = unpack .binary64 (pack .binary64
          (unpack .binary64 (packComponents .binary64 .positive scale fraction))) := by
        rw [hdecoded, hparts, Binary.abs_unpack_packComponents]
    _ = x.toModel.unpack.abs := by
        rw [unpack_pack_unpack, ← Binary.abs_unpack_packComponents sign, ← hparts, hdecoded]

theorem value?_abs (x : Float) : value? x.abs = (value? x).map abs := by
  rw [value?, value?, unpack_abs]
  cases x.toModel.unpack with
  | finite sign m e hpos =>
    have hpositive : (0 : ℚ) < m * 2 ^ e := by positivity
    cases sign <;> simp [UnpackedFloat.abs, Sign.apply, abs_of_pos hpositive]
  | zero sign => simp [UnpackedFloat.abs]
  | infinity sign => rfl
  | notANumber => rfl

end BorrowSketch.Number
