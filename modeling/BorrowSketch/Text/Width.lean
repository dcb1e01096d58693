import BorrowSketch.Text.Ranges
import BorrowSketch.Text.WidthTable

/-! # Display width

How many cells of a monospace grid a text takes. Most characters take one cell, East Asian wide
characters and emoji two, and attaching marks none. A few sequences differ from the sum of their
characters: a carriage return before a line feed, emoji built from several characters, quotation
marks with a full-width form, and the ligatures of some scripts. The text is measured from its end
to its start, so that each character knows what stands behind it.

* **`Shape`**, **`Ahead`** — what the measured rest of the text offers to the character before it.
* **`alone`** — the cells of a character that joins nothing.
* **`step`** — the cells that a character adds in front of a measured rest.
* **`displayWidth`** — the width of a text. -/

namespace BorrowSketch.Text

namespace Width

/-! ## What stands behind a character -/

/-- The start of the measured rest, as far as the character before it may join it. -/
inductive Shape where
  /-- Nothing that joins. -/
  | plain
  /-- A line feed. -/
  | lineFeed
  /-- A skin tone. -/
  | skinTone
  /-- One regional indicator. -/
  | regional
  /-- Several regional indicators. -/
  | regionals
  /-- An emoji. -/
  | emoji
  /-- A joiner before an emoji. -/
  | joinedEmoji
  /-- A keycap mark before a joined emoji. -/
  | joinedKeycap
  /-- A regional indicator before a joined emoji. -/
  | joinedRegional
  /-- An even number of regional indicators before a joined emoji. -/
  | joinedRegionalsEven
  /-- An odd number, at least three, of regional indicators before a joined emoji. -/
  | joinedRegionalsOdd
  /-- The tags of a subdivision flag before a joined emoji: so many letters, then so many digits. -/
  | flagTags (letters digits : Nat)
  /-- An Arabic alef. -/
  | alef
  /-- A Hebrew lamed. -/
  | lamed
  /-- A joiner before a Hebrew lamed. -/
  | joinedLamed
  /-- A Buginese ya. -/
  | ya
  /-- A joiner before a Buginese ya. -/
  | joinedYa
  /-- The Buginese vowel sign i before a joined ya. -/
  | vowelJoinedYa
  /-- A Tifinagh consonant. -/
  | tifinagh
  /-- A joiner before a Tifinagh consonant. -/
  | joinedTifinagh
  /-- The consonant joiner before a Tifinagh consonant. -/
  | conjoinedTifinagh
  /-- A Lisu tone letter that ends a compound tone. -/
  | lisuTone
  /-- The Old Turkic letter Orkhon i. -/
  | orkhonI
  /-- A joiner before the Old Turkic letter Orkhon i. -/
  | joinedOrkhonI
  /-- A Khmer letter that a coeng sign turns into a subscript. -/
  | khmerLetter
  /-- The Kirat Rai vowel sign e. -/
  | kiratRaiE
  /-- The Kirat Rai vowel sign ai. -/
  | kiratRaiAi
deriving DecidableEq

namespace Shape

/-- The joined form of a shape that a zero width joiner joins to what stands before it. -/
def joined : Shape → Shape
  | lamed => joinedLamed
  | ya => joinedYa
  | tifinagh => joinedTifinagh
  | orkhonI => joinedOrkhonI
  | shape => shape

/-- Whether default ignorable marks between the parts of the ligature leave it intact. -/
def seesThroughMarks : Shape → Bool
  | lamed | joinedLamed | ya | joinedYa | vowelJoinedYa | tifinagh | joinedTifinagh
  | conjoinedTifinagh | lisuTone | orkhonI | joinedOrkhonI | khmerLetter => true
  | _ => false

/-- Whether a variation selector before the shape leaves it in place. -/
def keepsBehindSelector (shape : Shape) : Bool :=
  shape.seesThroughMarks || shape = alef

/-- Whether the shape waits for the first part of a joined emoji. -/
def awaitsEmoji (shape : Shape) : Bool :=
  shape = joinedEmoji || shape = joinedKeycap

end Shape

/-- What the measured rest of the text offers to the character before it. -/
structure Ahead where
  /-- What the rest starts with. -/
  shape : Shape
  /-- Whether a text variation selector stands before it. -/
  asText : Bool := false
  /-- Whether an emoji variation selector stands before it. -/
  asEmoji : Bool := false
  /-- Whether the selector of full-width quotation marks stands before it. -/
  asFullWidth : Bool := false
deriving DecidableEq

/-- A rest that starts with a shape and no selector. -/
def Ahead.of (shape : Shape) : Ahead := ⟨shape, false, false, false⟩

/-- A rest that joins nothing. -/
def Ahead.plain : Ahead := .of .plain

/-! ## Characters -/

/-- Characters without a cell that leave a ligature intact, other than the joiner. -/
def IsIgnorableMark (c : Char) : Prop :=
  InRanges [(0x34F, 0x34F), (0x17B4, 0x17B5), (0x180B, 0x180D), (0x180F, 0x180F),
    (0xFE00, 0xFE0F), (0xE0100, 0xE01EF)] c

instance (c : Char) : Decidable (IsIgnorableMark c) := by
  unfold IsIgnorableMark; infer_instance

/-- Characters without a cell between the lam and the alef of an Arabic ligature. -/
def IsArabicTransparent (c : Char) : Prop :=
  InRanges zeroRanges c ∧ ¬ InRanges opaqueRanges c

instance (c : Char) : Decidable (IsArabicTransparent c) := by
  unfold IsArabicTransparent; infer_instance

/-- The Arabic letters of the joining group of lam. -/
def lamRanges : List (Nat × Nat) :=
  [(0x644, 0x644), (0x6B5, 0x6B8), (0x76A, 0x76A), (0x8A6, 0x8A6), (0x8C7, 0x8C7)]

/-- The Arabic letters of the joining group of alef. -/
def alefRanges : List (Nat × Nat) :=
  [(0x622, 0x623), (0x625, 0x625), (0x627, 0x627), (0x671, 0x673), (0x675, 0x675),
    (0x773, 0x774), (0x870, 0x882)]

/-- The consonants of Tifinagh. -/
def tifinaghRanges : List (Nat × Nat) :=
  [(0x2D31, 0x2D65), (0x2D6F, 0x2D6F)]

/-- The Khmer letters that have a subscript form. -/
def khmerRanges : List (Nat × Nat) :=
  [(0x1780, 0x1782), (0x1784, 0x1787), (0x1789, 0x178C), (0x178E, 0x1793), (0x1795, 0x1798),
    (0x179B, 0x179D), (0x17A0, 0x17A0), (0x17A2, 0x17A2), (0x17A7, 0x17A7), (0x17AB, 0x17AC),
    (0x17AF, 0x17AF)]

/-- The quotation marks that have a full-width form when variation selector 2 follows. -/
def quotationRanges : List (Nat × Nat) :=
  [(0x2018, 0x2019), (0x201C, 0x201D)]

/-- The regional indicators, two of which make a flag. -/
def regionalRanges : List (Nat × Nat) :=
  [(0x1F1E6, 0x1F1FF)]

/-- The skin tones. -/
def skinToneRanges : List (Nat × Nat) :=
  [(0x1F3FB, 0x1F3FF)]

/-- The tag digits of a subdivision flag. -/
def tagDigitRanges : List (Nat × Nat) :=
  [(0xE0030, 0xE0039)]

/-- The tag letters of a subdivision flag. -/
def tagLetterRanges : List (Nat × Nat) :=
  [(0xE0061, 0xE007A)]

/-- The shapes that a character may give to the rest it starts, with the characters that give
them. -/
def shapeTable : List (List (Nat × Nat) × Shape) :=
  [(emojiRanges, .emoji), (skinToneRanges, .skinTone), (regionalRanges, .regional),
    (alefRanges, .alef), ([(0x5DC, 0x5DC)], .lamed), ([(0x1A10, 0x1A10)], .ya),
    (tifinaghRanges, .tifinagh), ([(0xA4FC, 0xA4FD)], .lisuTone), ([(0x10C03, 0x10C03)], .orkhonI),
    (khmerRanges, .khmerLetter), ([(0x16D67, 0x16D67)], .kiratRaiE),
    ([(0x16D68, 0x16D68)], .kiratRaiAi)]

/-- The shape of a rest that starts with a character above U+00A0 which joined nothing. -/
def shapeOf (c : Char) : Shape :=
  match shapeTable.find? fun entry => InRanges entry.1 c with
  | some entry => entry.2
  | none => .plain

/-- The cells of a character above U+00A0 that joins nothing. -/
def alone (c : Char) : Nat :=
  if c.toNat = 0x17D8 then 3
  else if InRanges zeroRanges c then 0
  else if InRanges wideRanges c then 2
  else 1

/-! ## Measuring -/

/-- The cells added by a character above U+00A0 that joins the shape behind it, and the new shape;
nothing if it does not join. -/
def join? (c : Char) (shape : Shape) : Option (Int × Shape) :=
  match shape with
  | .alef =>
    if InRanges lamRanges c then some (0, .plain)
    else if IsArabicTransparent c then some (0, .alef)
    else none
  | .joinedLamed => if c.toNat = 0x5D0 then some (0, .plain) else none
  | .khmerLetter => if c.toNat = 0x17D2 then some (-1, .plain) else none
  | .joinedYa => if c.toNat = 0x1A17 then some (0, .vowelJoinedYa) else none
  | .vowelJoinedYa => if c.toNat = 0x1A15 then some (0, .plain) else none
  | .tifinagh => if c.toNat = 0x2D7F then some (1, .conjoinedTifinagh) else none
  | .joinedTifinagh =>
    if c.toNat = 0x2D7F then some (1, .conjoinedTifinagh)
    else if InRanges tifinaghRanges c then some (0, .plain)
    else none
  | .conjoinedTifinagh => if InRanges tifinaghRanges c then some (-1, .plain) else none
  | .lisuTone => if InRanges [(0xA4F8, 0xA4FB)] c then some (0, .plain) else none
  | .joinedOrkhonI => if c.toNat = 0x10C32 then some (0, .plain) else none
  | .skinTone =>
    if InRanges modifierBaseRanges c then some (0, .emoji)
    else if c.toNat = 0x200D then some (0, .joinedEmoji)
    else none
  | .regional => if InRanges regionalRanges c then some (1, .regionals) else none
  | .regionals =>
    if InRanges regionalRanges c then some (1, .regionals)
    else if c.toNat = 0x200D then some (0, .joinedEmoji)
    else none
  | .emoji => if c.toNat = 0x200D then some (0, .joinedEmoji) else none
  | .joinedEmoji =>
    if c.toNat = 0x20E3 then some (0, .joinedKeycap)
    else if InRanges regionalRanges c then some (1, .joinedRegional)
    else if InRanges skinToneRanges c then some (0, .skinTone)
    else if c.toNat = 0xE007F then some (0, .flagTags 0 0)
    else if InRanges emojiRanges c then some (0, .emoji)
    else none
  | .joinedRegional => if InRanges regionalRanges c then some (-1, .joinedRegionalsEven) else none
  | .joinedRegionalsEven =>
    if InRanges regionalRanges c then some (3, .joinedRegionalsOdd)
    else if c.toNat = 0x200D then some (0, .joinedEmoji)
    else none
  | .joinedRegionalsOdd =>
    if InRanges regionalRanges c then some (-1, .joinedRegionalsEven)
    else if c.toNat = 0x200D then some (0, .joinedEmoji)
    else none
  | .flagTags letters digits =>
    if InRanges tagLetterRanges c ∧ digits = 0 ∧ letters < 6 then
      some (0, .flagTags (letters + 1) 0)
    else if InRanges tagDigitRanges c ∧ (digits = 0 ∧ letters < 5 ∨ 0 < digits ∧ digits < 3) then
      some (0, .flagTags letters (digits + 1))
    else if c.toNat = 0x1F3F4 ∧ (digits = 0 ∧ 3 ≤ letters ∨ digits = 3) then some (0, .emoji)
    else none
  | .kiratRaiE =>
    if c.toNat = 0x16D63 ∨ c.toNat = 0x16D69 then some (0, .plain)
    else if c.toNat = 0x16D67 then some (0, .kiratRaiAi)
    else if c.toNat = 0x16D68 then some (1, .kiratRaiE)
    else none
  | .kiratRaiAi => if c.toNat = 0x16D63 then some (0, .plain) else none
  | _ => none

/-- The rest behind an emoji variation selector. -/
def Ahead.selectEmoji (ahead : Ahead) : Ahead :=
  if ahead.shape.keepsBehindSelector || (ahead.shape.awaitsEmoji && !ahead.asEmoji) then
    { ahead with asEmoji := true }
  else { Ahead.plain with asEmoji := true }

/-- The rest behind a text variation selector. -/
def Ahead.selectText (ahead : Ahead) : Ahead :=
  if ahead.shape.keepsBehindSelector then { ahead with asText := true }
  else { Ahead.plain with asText := true }

/-- The rest behind the selector of full-width quotation marks. -/
def Ahead.selectFullWidth (ahead : Ahead) : Ahead :=
  if ahead.shape.keepsBehindSelector then { ahead with asFullWidth := true }
  else { Ahead.plain with asFullWidth := true }

/-- The rest when the character before an emoji variation selector has no emoji form. -/
def Ahead.dropEmoji (ahead : Ahead) : Ahead :=
  if !ahead.asEmoji then ahead
  else if ahead.shape.keepsBehindSelector then { ahead with asEmoji := false }
  else .plain

/-- The cells added by a character above U+00A0, with no pending emoji selector behind it. -/
def stepWide (c : Char) (ahead : Ahead) : Int × Ahead :=
  if c.toNat = 0xFE0F then (0, ahead.selectEmoji)
  else if c.toNat = 0xFE0E then (0, ahead.selectText)
  else if c.toNat = 0xFE01 then (0, ahead.selectFullWidth)
  else if ahead.asText && decide (InRanges textStyleRanges c) then (1, .plain)
  else if ahead.asFullWidth && !ahead.asText && decide (InRanges quotationRanges c) then
    (2, .plain)
  else
    let shape := ahead.shape
    if shape.seesThroughMarks && decide (c.toNat = 0x200D) then (0, .of shape.joined)
    else if shape.seesThroughMarks && decide (IsIgnorableMark c) then (0, .of shape)
    else match join? c shape with
      | some (cells, next) => (cells, .of next)
      | none => (alone c, .of (shapeOf c))

/-- The cells that a character adds in front of a measured rest, and what it offers in turn. -/
def step (c : Char) (ahead : Ahead) : Int × Ahead :=
  if ahead.asEmoji && decide (InRanges emojiStyleRanges c) then
    (if ahead.shape.awaitsEmoji then 0 else 2, .of .emoji)
  else
    let ahead := ahead.dropEmoji
    if c.toNat ≤ 0xA0 then
      if c = '\n' then (1, .of .lineFeed)
      else if c = '\r' ∧ ahead.shape = .lineFeed then (0, .plain)
      else (1, .plain)
    else stepWide c ahead

/-- The cells of a text given as characters, and what its start offers to a character before it. -/
def measure : List Char → Int × Ahead
  | [] => (0, .plain)
  | c :: rest =>
    let (cells, ahead) := measure rest
    let (more, next) := step c ahead
    (cells + more, next)

end Width

/-- The width of a text in cells of a monospace grid. -/
def displayWidth (text : String) : Nat :=
  (Width.measure text.toList).1.toNat

end BorrowSketch.Text
