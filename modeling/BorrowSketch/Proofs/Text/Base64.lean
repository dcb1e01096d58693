import BorrowSketch.Text.Base64
import Mathlib.Algebra.Ring.Nat
import Mathlib.Data.List.Basic

/-! # What base64 writes

The standard tells base64 by bits: those of the bytes are put in one row, filled up with zeros and
cut into sixes, and each six of them names a character. Encoder and decoder never see a bit; both
are held against the row.

* **`bits`** — the row of bits of a number.
* **`alphabet`**, **`Fills`** — characters and padding that stand for bytes, by their bits.
* **`isTextOf_encode`** — the encoder writes such a text.
* **`decode?_eq_some_iff`** — the decoder reads such texts and nothing else. -/

namespace BorrowSketch.Text.Base64

/-! ## Rows of bits -/

/-- The lowest bits of a number, the highest of them first. -/
def bits : Nat → Nat → List Bool
  | 0, _ => []
  | width + 1, n => n.testBit width :: bits width n

@[simp] theorem length_bits (width n : Nat) : (bits width n).length = width := by
  induction width with
  | zero => rfl
  | succ width ih => rw [bits, List.length_cons, ih]

/-- The bits of a number are those of its upper part and those of its lower part. -/
theorem bits_add (upper lower n : Nat) :
    bits (upper + lower) n = bits upper (n / 2 ^ lower) ++ bits lower n := by
  induction upper with
  | zero => rw [Nat.zero_add, bits, List.nil_append]
  | succ upper ih =>
    rw [Nat.add_right_comm, bits, bits, ih, Nat.testBit_div_two_pow, List.cons_append]

/-- Only the bits that are asked for matter. -/
theorem bits_congr {width m n : Nat} (h : ∀ i < width, m.testBit i = n.testBit i) :
    bits width m = bits width n := by
  induction width with
  | zero => rfl
  | succ width ih =>
    rw [bits, bits, h width (Nat.lt_succ_self width),
      ih fun i hi => h i (Nat.lt_succ_of_lt hi)]

@[simp] theorem bits_mod (width n : Nat) : bits width (n % 2 ^ width) = bits width n := by
  refine bits_congr fun i hi => ?_
  rw [Nat.testBit_mod_two_pow, decide_eq_true hi, Bool.true_and]

/-- **Two parts put together** are told by the bits of both. -/
theorem bits_mod_mul_add (upper lower m : Nat) {n : Nat} (hn : n < 2 ^ lower) :
    bits (upper + lower) (m % 2 ^ upper * 2 ^ lower + n) = bits upper m ++ bits lower n := by
  have hupper : (m % 2 ^ upper * 2 ^ lower + n) / 2 ^ lower = m % 2 ^ upper := by
    rw [Nat.mul_comm, Nat.mul_add_div (Nat.two_pow_pos lower), Nat.div_eq_of_lt hn, Nat.add_zero]
  have hlower : (m % 2 ^ upper * 2 ^ lower + n) % 2 ^ lower = n := by
    rw [Nat.mul_comm, Nat.mul_add_mod, Nat.mod_eq_of_lt hn]
  rw [bits_add, hupper, bits_mod, ← bits_mod lower, hlower]

/-- **A number is told by its bits,** if it has no more of them. -/
theorem bits_inj {width m n : Nat} (hm : m < 2 ^ width) (hn : n < 2 ^ width)
    (h : bits width m = bits width n) : m = n := by
  have hbit : ∀ width, bits width m = bits width n → ∀ i < width, m.testBit i = n.testBit i := by
    intro width h i hi
    induction width with
    | zero => exact absurd hi (Nat.not_lt_zero i)
    | succ width ih =>
      rw [bits, bits, List.cons.injEq] at h
      rcases Nat.lt_succ_iff_lt_or_eq.1 hi with hlt | rfl
      · exact ih h.2 hlt
      · exact h.1
  apply Nat.eq_of_testBit_eq
  intro i
  rcases Nat.lt_or_ge i width with hlt | hge
  · exact hbit width h i hlt
  · have hpow : 2 ^ width ≤ 2 ^ i := Nat.pow_le_pow_right (by decide) hge
    rw [Nat.testBit_lt_two_pow (Nat.lt_of_lt_of_le hm hpow),
      Nat.testBit_lt_two_pow (Nat.lt_of_lt_of_le hn hpow)]

/-! ## Characters that stand for bytes -/

/-- The characters of the alphabet in the order of their values. -/
def alphabet : List Char :=
  "ABCDEFGHIJKLMNOPQRSTUVWXYZabcdefghijklmnopqrstuvwxyz0123456789+/".toList

/-- The six bits that a character stands for. -/
def digitBits (c : Char) : List Bool :=
  bits 6 (alphabet.idxOf c)

/-- The eight bits of a byte. -/
def byteBits (b : UInt8) : List Bool :=
  bits 8 b.toNat

/-- **Characters and padding that stand for bytes.** The characters are of the alphabet and make
groups of four together with the padding, of which there are at most two. Their bits are those of
the bytes, and behind them two zeros for each padding character. -/
structure Fills (bytes : List UInt8) (digits : List Char) (padding : Nat) : Prop where
  /-- All characters are of the alphabet. -/
  mem_alphabet : ∀ c ∈ digits, c ∈ alphabet
  /-- There are whole groups of four. -/
  four_dvd : 4 ∣ digits.length + padding
  /-- At most two are padding. -/
  padding_lt : padding < 3
  /-- The bits are those of the bytes, filled up with zeros. -/
  bits_eq : digits.flatMap digitBits = bytes.flatMap byteBits ++ List.replicate (2 * padding) false

/-- A text with characters and padding that stand for bytes. -/
def IsTextOf (bytes : List UInt8) (text : List Char) : Prop :=
  ∃ digits padding, text = digits ++ List.replicate padding '=' ∧ Fills bytes digits padding

variable {bytes : List UInt8} {digits text : List Char} {padding v : Nat} {c : Char}

@[simp] theorem length_digitBits (c : Char) : (digitBits c).length = 6 := length_bits 6 _

@[simp] theorem length_byteBits (b : UInt8) : (byteBits b).length = 8 := length_bits 8 _

/-- A row is as long as all its parts, when these have one length. -/
theorem length_flatMap_bits {α : Type} {f : α → List Bool} {width : Nat}
    (hf : ∀ x, (f x).length = width) (xs : List α) :
    (xs.flatMap f).length = xs.length * width := by
  simp [List.length_flatMap, hf]

/-- Characters of the alphabet are told apart by their bits. -/
theorem digitBits_inj {d : Char} (hc : c ∈ alphabet) (hd : d ∈ alphabet)
    (h : digitBits c = digitBits d) : c = d := by
  have hlength : alphabet.length = 2 ^ 6 := by decide
  have hindex := bits_inj (hlength ▸ List.idxOf_lt_length_of_mem hc)
    (hlength ▸ List.idxOf_lt_length_of_mem hd) h
  exact (List.idxOf_inj hc).1 hindex

/-- Characters of the alphabet are told by the row of their bits. -/
theorem flatMap_digitBits_inj {others : List Char} (hdigits : ∀ c ∈ digits, c ∈ alphabet)
    (hothers : ∀ c ∈ others, c ∈ alphabet)
    (h : digits.flatMap digitBits = others.flatMap digitBits) : digits = others := by
  have hlength : digits.length = others.length := by
    have hbits := congrArg List.length h
    rw [length_flatMap_bits length_digitBits, length_flatMap_bits length_digitBits] at hbits
    exact Nat.eq_of_mul_eq_mul_right (by decide) hbits
  induction digits generalizing others with
  | nil => exact (List.length_eq_zero_iff.1 hlength.symm).symm
  | cons c digits ih =>
    cases others with
    | nil => cases hlength
    | cons d others =>
      rw [List.flatMap_cons, List.flatMap_cons] at h
      obtain ⟨hfirst, hrest⟩ := List.append_inj h (by rw [length_digitBits, length_digitBits])
      rw [digitBits_inj (hdigits c List.mem_cons_self) (hothers d List.mem_cons_self) hfirst,
        ih (fun c hc => hdigits c (List.mem_cons_of_mem _ hc))
          (fun c hc => hothers c (List.mem_cons_of_mem _ hc)) hrest (Nat.succ.inj hlength)]

/-- **Bytes have one text.** -/
theorem IsTextOf.unique {other : List Char} (h : IsTextOf bytes text)
    (hother : IsTextOf bytes other) : text = other := by
  obtain ⟨digits, padding, rfl, hfills⟩ := h
  obtain ⟨others, padding', rfl, hfills'⟩ := hother
  -- the number of bits leaves one choice for the padding
  have hpadding : padding = padding' := by
    have hlength := congrArg List.length hfills.bits_eq
    have hlength' := congrArg List.length hfills'.bits_eq
    rw [length_flatMap_bits length_digitBits, List.length_append,
      length_flatMap_bits length_byteBits, List.length_replicate] at hlength hlength'
    have hlt := hfills.padding_lt
    have hlt' := hfills'.padding_lt
    omega
  subst hpadding
  rw [flatMap_digitBits_inj hfills.mem_alphabet hfills'.mem_alphabet
    (hfills.bits_eq.trans hfills'.bits_eq.symm)]

/-! ## Single characters -/

/-- The characters of all values make up the alphabet. -/
theorem map_digit_range : (List.range 64).map digit = alphabet := by decide

theorem digit_mem_alphabet (hv : v < 64) : digit v ∈ alphabet := by
  rw [← map_digit_range]
  exact List.mem_map_of_mem (List.mem_range.2 hv)

/-- A character stands for the bits of its value. -/
theorem digitBits_digit (hv : v < 64) : digitBits (digit v) = bits 6 v := by
  have hall : ∀ v < 64, alphabet.idxOf (digit v) = v := by decide +kernel
  rw [digitBits, hall v hv]

@[simp] theorem value?_digit (hv : v < 64) : value? (digit v) = some v := by
  have hall : ∀ v < 64, value? (digit v) = some v := by decide
  exact hall v hv

/-- What has a value is a character of the alphabet. -/
theorem eq_digit_of_value? (h : value? c = some v) : v < 64 ∧ c = digit v := by
  have hascii : c.toNat < 128 := by
    have hle : ∀ {first last : Char}, first ≤ c ∧ c ≤ last → c.toNat ≤ last.toNat := fun h => h.2
    unfold value? at h
    split_ifs at h with hupper hlower hnumber hplus hslash
    · exact Nat.lt_of_le_of_lt (hle hupper) (by decide)
    · exact Nat.lt_of_le_of_lt (hle hlower) (by decide)
    · exact Nat.lt_of_le_of_lt (hle hnumber) (by decide)
    · rw [hplus]
      decide
    · rw [hslash]
      decide
  have hall : ∀ n < 128, ∀ v ∈ value? (Char.ofNat n), v < 64 ∧ Char.ofNat n = digit v := by
    decide +kernel
  have hc := hall c.toNat hascii v
  rw [Char.ofNat_toNat] at hc
  exact hc h

/-- The characters of the alphabet are not those that fill up. -/
theorem digit_ne_padding (hv : v < 64) : digit v ≠ '=' := by
  have hall : ∀ v < 64, digit v ≠ '=' := by decide
  exact hall v hv

/-! ## The encoder -/

/-- A character with two bits of a byte and four of the next. -/
theorem bits_two_four (a : Nat) {n : Nat} (hn : n < 16) :
    bits 6 (a % 4 * 16 + n) = bits 2 a ++ bits 4 n :=
  bits_mod_mul_add 2 4 a hn

/-- A character with four bits of a byte and two of the next. -/
theorem bits_four_two (b : Nat) {n : Nat} (hn : n < 4) :
    bits 6 (b % 16 * 4 + n) = bits 4 b ++ bits 2 n :=
  bits_mod_mul_add 4 2 b hn

/-- The first byte of three gives its upper bits to the first character. -/
theorem byteBits_six_two (b : UInt8) :
    byteBits b = bits 6 (b.toNat / 4) ++ bits 2 b.toNat :=
  bits_add 6 2 b.toNat

/-- The second byte is shared evenly. -/
theorem byteBits_four_four (b : UInt8) :
    byteBits b = bits 4 (b.toNat / 16) ++ bits 4 b.toNat :=
  bits_add 4 4 b.toNat

/-- The third byte gives its lower bits to the last character. -/
theorem byteBits_two_six (b : UInt8) :
    byteBits b = bits 2 (b.toNat / 64) ++ bits 6 (b.toNat % 64) := by
  rw [show bits 6 (b.toNat % 64) = bits 6 b.toNat from bits_mod 6 b.toNat]
  exact bits_add 2 6 b.toNat

namespace Fills

/-- Characters of given values stand for bytes if the bits of the values do. -/
theorem of_values (values : List Nat) (hvalues : ∀ v ∈ values, v < 64)
    (hfour : 4 ∣ values.length + padding) (hpadding : padding < 3)
    (hbits : values.flatMap (bits 6) =
      bytes.flatMap byteBits ++ List.replicate (2 * padding) false) :
    Fills bytes (values.map digit) padding := by
  refine ⟨fun c hc => ?_, by rwa [List.length_map], hpadding, ?_⟩
  · obtain ⟨v, hv, rfl⟩ := List.mem_map.1 hc
    exact digit_mem_alphabet (hvalues v hv)
  · rw [List.flatMap_map, ← hbits]
    exact List.flatMap_congr fun v hv => digitBits_digit (hvalues v hv)

/-- Whole groups can stand in front of what stands for other bytes. -/
theorem append {front : List UInt8} {others : List Char} (hfront : Fills front others 0)
    (h : Fills bytes digits padding) : Fills (front ++ bytes) (others ++ digits) padding := by
  refine ⟨fun c hc => ?_, ?_, h.padding_lt, ?_⟩
  · rcases List.mem_append.1 hc with hc | hc
    · exact hfront.mem_alphabet c hc
    · exact h.mem_alphabet c hc
  · rw [List.length_append, Nat.add_assoc]
    exact Nat.dvd_add hfront.four_dvd h.four_dvd
  · rw [List.flatMap_append, List.flatMap_append, hfront.bits_eq, h.bits_eq, Nat.mul_zero,
      List.replicate_zero, List.append_nil, List.append_assoc]

/-- One byte fills one character and a third of the next. -/
theorem one (a : UInt8) : Fills [a] [digit (a.toNat / 4), digit (a.toNat % 4 * 16)] 2 := by
  have ha := a.toNat_lt
  have hsecond := bits_two_four a.toNat (n := 0) (by decide)
  rw [Nat.add_zero] at hsecond
  refine of_values [a.toNat / 4, a.toNat % 4 * 16] ?_ (Nat.dvd_refl 4) (by decide) ?_
  · intro v hv
    simp only [List.mem_cons, List.not_mem_nil, or_false] at hv
    omega
  · simp only [List.flatMap_cons, List.flatMap_nil, byteBits_six_two, hsecond, List.append_assoc,
      List.append_nil]
    rfl

/-- Two bytes fill two characters and two thirds of the next. -/
theorem two (a b : UInt8) :
    Fills [a, b] [digit (a.toNat / 4), digit (a.toNat % 4 * 16 + b.toNat / 16),
      digit (b.toNat % 16 * 4)] 1 := by
  have ha := a.toNat_lt
  have hb := b.toNat_lt
  have hsecond := bits_two_four a.toNat (n := b.toNat / 16) (by omega)
  have hthird := bits_four_two b.toNat (n := 0) (by decide)
  rw [Nat.add_zero] at hthird
  refine of_values [a.toNat / 4, a.toNat % 4 * 16 + b.toNat / 16, b.toNat % 16 * 4]
    ?_ (Nat.dvd_refl 4) (by decide) ?_
  · intro v hv
    simp only [List.mem_cons, List.not_mem_nil, or_false] at hv
    omega
  · simp only [List.flatMap_cons, List.flatMap_nil, byteBits_six_two a, byteBits_four_four b,
      hsecond, hthird, List.append_assoc, List.append_nil]
    rfl

/-- Three bytes fill four characters. -/
theorem three (a b c : UInt8) :
    Fills [a, b, c] [digit (a.toNat / 4), digit (a.toNat % 4 * 16 + b.toNat / 16),
      digit (b.toNat % 16 * 4 + c.toNat / 64), digit (c.toNat % 64)] 0 := by
  have ha := a.toNat_lt
  have hb := b.toNat_lt
  have hc := c.toNat_lt
  have hsecond := bits_two_four a.toNat (n := b.toNat / 16) (by omega)
  have hthird := bits_four_two b.toNat (n := c.toNat / 64) (by omega)
  refine of_values [a.toNat / 4, a.toNat % 4 * 16 + b.toNat / 16,
    b.toNat % 16 * 4 + c.toNat / 64, c.toNat % 64] ?_ (Nat.dvd_refl 4) (by decide) ?_
  · intro v hv
    simp only [List.mem_cons, List.not_mem_nil, or_false] at hv
    omega
  · simp only [List.flatMap_cons, List.flatMap_nil, byteBits_six_two a, byteBits_four_four b,
      byteBits_two_six c, hsecond, hthird, List.append_assoc, List.append_nil]
    rfl

end Fills

/-- **The encoder writes characters and padding that stand for the bytes.** -/
theorem isTextOf_encode (bytes : List UInt8) : IsTextOf bytes (encode bytes) := by
  fun_induction encode bytes with
  | case1 => exact ⟨[], 0, rfl, by simp, by decide, by decide, rfl⟩
  | case2 a => exact ⟨_, 2, rfl, .one a⟩
  | case3 a b => exact ⟨_, 1, rfl, .two a b⟩
  | case4 a b c rest ih =>
    obtain ⟨digits, padding, hrest, hfills⟩ := ih
    exact ⟨_, padding, by rw [hrest]; rfl, (Fills.three a b c).append hfills⟩

/-! ## The decoder -/

/-- **The decoder reads back what the encoder wrote.** -/
theorem decode?_encode (bytes : List UInt8) : decode? (encode bytes) = some bytes := by
  fun_induction encode bytes with
  | case1 => rfl
  | case2 a =>
    have ha := a.toNat_lt
    have hbyte : a.toNat / 4 * 4 + a.toNat % 4 * 16 / 16 = a.toNat := by omega
    rw [decode?, value?_digit (by omega), value?_digit (by omega)]
    simp only [Option.bind_eq_bind, Option.bind_some]
    rw [if_pos (by omega), hbyte, UInt8.ofNat_toNat]
  | case3 a b =>
    have ha := a.toNat_lt
    have hb := b.toNat_lt
    have hfirst : a.toNat / 4 * 4 + (a.toNat % 4 * 16 + b.toNat / 16) / 16 = a.toNat := by omega
    have hsecond : (a.toNat % 4 * 16 + b.toNat / 16) % 16 * 16 + b.toNat % 16 * 4 / 4 =
        b.toNat := by omega
    rw [decode?, value?_digit (by omega), value?_digit (by omega), value?_digit (by omega)]
    · simp only [Option.bind_eq_bind, Option.bind_some]
      rw [if_pos (by omega), hfirst, hsecond, UInt8.ofNat_toNat, UInt8.ofNat_toNat]
    · exact digit_ne_padding (by omega)
  | case4 a b c rest ih =>
    have ha := a.toNat_lt
    have hb := b.toNat_lt
    have hc := c.toNat_lt
    have hfirst : a.toNat / 4 * 4 + (a.toNat % 4 * 16 + b.toNat / 16) / 16 = a.toNat := by omega
    have hsecond : (a.toNat % 4 * 16 + b.toNat / 16) % 16 * 16 +
        (b.toNat % 16 * 4 + c.toNat / 64) / 4 = b.toNat := by omega
    have hthird : (b.toNat % 16 * 4 + c.toNat / 64) % 4 * 64 + c.toNat % 64 = c.toNat := by omega
    -- the group is not one of those with padding
    have hlast : digit (c.toNat % 64) ≠ '=' := digit_ne_padding (by omega)
    rw [decode?, value?_digit (by omega), value?_digit (by omega), value?_digit (by omega),
      value?_digit (by omega), ih]
    · simp only [Option.bind_eq_bind, Option.bind_some]
      rw [hfirst, hsecond, hthird, UInt8.ofNat_toNat, UInt8.ofNat_toNat, UInt8.ofNat_toNat]
    · exact fun _ hpadding => absurd hpadding hlast
    · exact fun hpadding => absurd hpadding hlast

/-- The number of a byte with the bound written out, so that arithmetic can settle it. -/
theorem toNat_ofNat {n : Nat} (hn : n < 256) : (UInt8.ofNat n).toNat = n :=
  UInt8.toNat_ofNat_of_lt' hn

/-- **What the decoder reads, the encoder writes.** -/
theorem encode_of_decode? (h : decode? text = some bytes) : encode bytes = text := by
  fun_induction decode? text generalizing bytes with
  | case1 =>
    obtain rfl := Option.some.inj h
    rfl
  | case2 a b =>
    simp only [Option.bind_eq_bind, Option.bind_eq_some_iff] at h
    obtain ⟨x, hx, y, hy, h⟩ := h
    obtain ⟨hx, rfl⟩ := eq_digit_of_value? hx
    obtain ⟨hy, rfl⟩ := eq_digit_of_value? hy
    -- the bits that fill up are checked to be zeros, without which `y` would not come back
    split_ifs at h with hzeros
    obtain rfl := Option.some.inj h
    have hfirst : (x * 4 + y / 16) / 4 = x := by omega
    have hsecond : (x * 4 + y / 16) % 4 * 16 = y := by omega
    rw [encode, toNat_ofNat (by omega), hfirst, hsecond]
  | case3 a b c hpadding =>
    simp only [Option.bind_eq_bind, Option.bind_eq_some_iff] at h
    obtain ⟨x, hx, y, hy, z, hz, h⟩ := h
    obtain ⟨hx, rfl⟩ := eq_digit_of_value? hx
    obtain ⟨hy, rfl⟩ := eq_digit_of_value? hy
    obtain ⟨hz, rfl⟩ := eq_digit_of_value? hz
    split_ifs at h with hzeros
    obtain rfl := Option.some.inj h
    have hfirst : (x * 4 + y / 16) / 4 = x := by omega
    have hsecond : (x * 4 + y / 16) % 4 * 16 + (y % 16 * 16 + z / 4) / 16 = y := by omega
    have hthird : (y % 16 * 16 + z / 4) % 16 * 4 = z := by omega
    rw [encode, toNat_ofNat (by omega), toNat_ofNat (by omega), hfirst, hsecond, hthird]
  | case4 a b c d rest _ hpadding ih =>
    simp only [Option.bind_eq_bind, Option.bind_eq_some_iff] at h
    obtain ⟨x, hx, y, hy, z, hz, w, hw, behind, hbehind, h⟩ := h
    obtain ⟨hx, rfl⟩ := eq_digit_of_value? hx
    obtain ⟨hy, rfl⟩ := eq_digit_of_value? hy
    obtain ⟨hz, rfl⟩ := eq_digit_of_value? hz
    obtain ⟨hw, rfl⟩ := eq_digit_of_value? hw
    obtain rfl := Option.some.inj h
    have hfirst : (x * 4 + y / 16) / 4 = x := by omega
    have hsecond : (x * 4 + y / 16) % 4 * 16 + (y % 16 * 16 + z / 4) / 16 = y := by omega
    have hthird : (y % 16 * 16 + z / 4) % 16 * 4 + (z % 4 * 64 + w) / 64 = z := by omega
    have hfourth : (z % 4 * 64 + w) % 64 = w := by omega
    rw [encode, toNat_ofNat (by omega), toNat_ofNat (by omega),
      toNat_ofNat (by omega), hfirst, hsecond, hthird, hfourth, ih hbehind]
  | case5 => cases h

/-- **The decoder reads the characters and padding that stand for bytes,** and nothing else. -/
theorem decode?_eq_some_iff : decode? text = some bytes ↔ IsTextOf bytes text := by
  constructor
  · intro h
    rw [← encode_of_decode? h]
    exact isTextOf_encode bytes
  · intro h
    rw [h.unique (isTextOf_encode bytes)]
    exact decode?_encode bytes

end BorrowSketch.Text.Base64
