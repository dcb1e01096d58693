/-! # UTF-16 units

Editors count the characters of a line in UTF-16 units: a character of the basic plane is one unit,
any other is a surrogate pair of two.

* **`units`**, **`unitLength`** — the units of a character and of a list of characters.
* **`unitsBefore`** — the unit offset of a character offset.
* **`charsBefore`** — the character offset of a unit offset. -/

namespace BorrowSketch.Text

/-- The number of UTF-16 units of a character. -/
def units (c : Char) : Nat :=
  if c.toNat < 0x10000 then 1 else 2

@[simp] theorem units_pos (c : Char) : 0 < units c := by
  unfold units; split <;> decide

/-- The number of UTF-16 units of a list of characters. -/
def unitLength (chars : List Char) : Nat :=
  chars.foldr (fun c length => units c + length) 0

/-- The unit offset of a character offset. An offset past the end stands for the end. -/
def unitsBefore (chars : List Char) (offset : Nat) : Nat :=
  unitLength (chars.take offset)

/-- The character offset of a unit offset: the number of characters that start before it. An
offset inside a surrogate pair thus moves behind the pair, and one past the end to the end. -/
def charsBefore : List Char → Nat → Nat
  | _, 0 => 0
  | [], _ + 1 => 0
  | c :: rest, offset + 1 => charsBefore rest (offset + 1 - units c) + 1

@[simp] theorem charsBefore_zero (chars : List Char) : charsBefore chars 0 = 0 := by
  cases chars <;> rfl

@[simp] theorem charsBefore_nil (offset : Nat) : charsBefore [] offset = 0 := by
  cases offset <;> rfl

theorem charsBefore_cons_of_pos {offset : Nat} (h : 0 < offset) (c : Char) (rest : List Char) :
    charsBefore (c :: rest) offset = charsBefore rest (offset - units c) + 1 := by
  cases offset with
  | zero => exact absurd h (Nat.lt_irrefl 0)
  | succ n => rfl

end BorrowSketch.Text
