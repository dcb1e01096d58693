/-! # Counting lines

A renderer counts on from the lines of a diagnostic: to the line behind, and from the first line to
the last. The lines of a diagnostic are machine words, and a count may come to a number that is
none. What happens then depends on how the program is built.

* **`wordSize`** — how many numbers there are in a machine word.
* **`Counting`**, **`Counting.count`** — ways to count, and what they come to. -/

namespace BorrowSketch

/-- How many numbers there are in a machine word. -/
def wordSize : Nat := UInt64.size

/-- How a program counts beyond the numbers of a machine word. -/
inductive Counting where
  /-- It goes on without end. -/
  | exact
  /-- It stops there. -/
  | checked
  /-- It starts over from zero. -/
  | wrapping
deriving DecidableEq

/-- The number that a program goes on with when it has counted to `n`; none if it stops. -/
def Counting.count (counting : Counting) (n : Nat) : Option Nat :=
  match counting with
  | exact => some n
  | checked => if n < wordSize then some n else none
  | wrapping => some (n % wordSize)

namespace Counting

variable {counting : Counting} {n m : Nat}

/-- A count stops nowhere, unless it is checked. -/
theorem exists_count (h : counting ≠ .checked) (n : Nat) : ∃ m, counting.count n = some m := by
  cases counting with
  | exact => exact ⟨n, rfl⟩
  | checked => exact absurd rfl h
  | wrapping => exact ⟨n % wordSize, rfl⟩

/-- **A count comes to the number counted** if that is a machine word, and otherwise only if it goes
on without end. -/
theorem count_eq_iff : counting.count n = some n ↔ counting = .exact ∨ n < wordSize := by
  cases counting with
  | exact => simp [count]
  | checked => simp [count]
  | wrapping =>
    have hpos : wordSize ≠ 0 := by decide
    simp [count, Nat.mod_eq_iff_lt hpos]

/-- A smaller number is counted to as well. -/
theorem count_eq_of_le (h : counting.count n = some n) (hle : m ≤ n) :
    counting.count m = some m :=
  count_eq_iff.2 ((count_eq_iff.1 h).imp_right (Nat.lt_of_le_of_lt hle))

end Counting
end BorrowSketch
