import BorrowSketch.Document.Extent
import BorrowSketch.Document.LineView
import Mathlib.Order.Bounds.Basic

/-! # Extents and shifts

What lies between the smallest and the greatest of several lines, and how far to the right a drawing
beside these lines has to start.

* **`isLeast_extent`**, **`extent_fst_le`**, **`isGreatest_extent`**, **`le_extent_snd`** — the
  smallest and the greatest.
* **`LineView.longest_le_iff`** — the widest of several lines, told by its bounds.
* **`LineView.width_le_shift`** — each line of an extent ends before the shift from the first.
* **`LineView.isLeast_shift`** — and before no smaller one. -/

namespace BorrowSketch

/-! ## The smallest and the greatest of several lines -/

/-- Taking the smaller of two again and again ends with one of them, and with none that is greater
than another. -/
theorem isLeast_foldl_min (first : Nat) (rest : List Nat) :
    IsLeast {line | line ∈ first :: rest} (rest.foldl min first) := by
  induction rest generalizing first with
  | nil => exact ⟨List.mem_singleton_self first, fun line hline => (List.mem_singleton.1 hline).ge⟩
  | cons second rest ih =>
    obtain ⟨hmem, hle⟩ := ih (min first second)
    rw [List.foldl_cons]
    constructor
    · rcases List.mem_cons.1 hmem with heq | hrest
      · -- the smaller of the first two is one of them
        rw [heq]
        rcases Nat.le_total first second with hfirst | hsecond
        · rw [Nat.min_eq_left hfirst]
          exact List.mem_cons_self
        · rw [Nat.min_eq_right hsecond]
          exact List.mem_cons_of_mem first List.mem_cons_self
      · exact List.mem_cons_of_mem first (List.mem_cons_of_mem second hrest)
    · intro line hline
      have hboth : rest.foldl min (min first second) ≤ min first second := hle List.mem_cons_self
      rcases List.mem_cons.1 hline with rfl | hline
      · exact hboth.trans (Nat.min_le_left line second)
      · rcases List.mem_cons.1 hline with rfl | hline
        · exact hboth.trans (Nat.min_le_right first line)
        · exact hle (List.mem_cons_of_mem _ hline)

/-- Taking the greater of two again and again ends with none that is smaller than another. -/
theorem le_foldl_max {first line : Nat} {rest : List Nat} (h : line ∈ first :: rest) :
    line ≤ rest.foldl max first := by
  induction rest generalizing first line with
  | nil => exact (List.mem_singleton.1 h).le
  | cons second rest ih =>
    have hboth : max first second ≤ rest.foldl max (max first second) := ih List.mem_cons_self
    rcases List.mem_cons.1 h with rfl | h
    · exact (Nat.le_max_left line second).trans hboth
    · rcases List.mem_cons.1 h with rfl | h
      · exact (Nat.le_max_right first line).trans hboth
      · exact ih (List.mem_cons_of_mem _ h)

/-- Taking the greater of two again and again ends with one of them. -/
theorem foldl_max_mem (first : Nat) (rest : List Nat) :
    rest.foldl max first ∈ first :: rest := by
  induction rest generalizing first with
  | nil => exact List.mem_singleton_self first
  | cons second rest ih =>
    rw [List.foldl_cons]
    rcases List.mem_cons.1 (ih (max first second)) with heq | hrest
    · -- the greater of the first two is one of them
      rw [heq]
      rcases Nat.le_total first second with hfirst | hsecond
      · rw [Nat.max_eq_right hfirst]
        exact List.mem_cons_of_mem first List.mem_cons_self
      · rw [Nat.max_eq_left hsecond]
        exact List.mem_cons_self
    · exact List.mem_cons_of_mem first (List.mem_cons_of_mem second hrest)

variable {lines : List Nat} {line : Nat}

/-- **The extent of several lines starts** at the smallest of them. -/
theorem isLeast_extent (h : lines ≠ []) : IsLeast {line | line ∈ lines} (extent lines).1 := by
  cases lines with
  | nil => exact absurd rfl h
  | cons first rest => exact isLeast_foldl_min first rest

/-- No line is below the start of the extent. -/
theorem extent_fst_le (h : line ∈ lines) : (extent lines).1 ≤ line :=
  (isLeast_extent (List.ne_nil_of_mem h)).2 h

/-- **No line is beyond the extent.** -/
theorem le_extent_snd (h : line ∈ lines) : line ≤ (extent lines).2 := by
  cases lines with
  | nil => cases h
  | cons first rest => exact le_foldl_max h

/-- **The extent of several lines ends** at the greatest of them. -/
theorem isGreatest_extent (h : lines ≠ []) : IsGreatest {line | line ∈ lines} (extent lines).2 := by
  cases lines with
  | nil => exact absurd rfl h
  | cons first rest => exact ⟨foldl_max_mem first rest, fun line hline => le_extent_snd hline⟩

/-- The lines from one up to but not including another. -/
theorem mem_linesBetween_iff {first stop : Nat} :
    line ∈ linesBetween first stop ↔ first ≤ line ∧ line < stop := by
  rw [linesBetween, List.mem_range'_1]
  omega

/-! ## Widths -/

namespace LineView

variable {document : LineView} {first last : Nat}

/-- Taking the wider of two again and again stays within a bound exactly if all of them do. -/
theorem foldl_width_le_iff {widest bound : Nat} {lines : List Nat} :
    lines.foldl (fun widest line => max widest (document.width line)) widest ≤ bound ↔
      widest ≤ bound ∧ ∀ line ∈ lines, document.width line ≤ bound := by
  induction lines generalizing widest with
  | nil => simp
  | cons other lines ih => rw [List.foldl_cons, ih, Nat.max_le, List.forall_mem_cons, and_assoc]

/-- **The widest line is within a bound** exactly if all lines between the two are. -/
theorem longest_le_iff {bound : Nat} :
    document.longest first last ≤ bound ↔
      ∀ line, first ≤ line → line ≤ last → document.width line ≤ bound := by
  simp only [longest, widest, foldl_width_le_iff, mem_linesBetween_iff, Nat.lt_succ_iff,
    Nat.zero_le, true_and, and_imp]

/-- No line is wider than the widest. -/
theorem width_le_longest (hfirst : first ≤ line) (hlast : line ≤ last) :
    document.width line ≤ document.longest first last :=
  longest_le_iff.1 (Nat.le_refl _) line hfirst hlast

/-- **Every line between two others ends before the shift** from the end of the first. -/
theorem width_le_shift (hfirst : first ≤ line) (hlast : line ≤ last) :
    document.width line ≤ document.width first + document.shift first last := by
  have hlongest : document.width line ≤ document.longest first last :=
    width_le_longest hfirst hlast
  rw [shift]
  omega

/-- A shift is enough exactly if every line ends before it. -/
theorem shift_le_iff {cells : Nat} :
    document.shift first last ≤ cells ↔
      ∀ line, first ≤ line → line ≤ last → document.width line ≤ document.width first + cells := by
  rw [shift, Nat.sub_le_iff_le_add', longest_le_iff]

/-- More lines are not cleared by less. -/
theorem monotone_shift (document : LineView) (first : Nat) : Monotone (document.shift first) := by
  intro last further hle
  exact shift_le_iff.2 fun line hfirst hlast => width_le_shift hfirst (hlast.trans hle)

/-- **The shift is the least that clears all lines.** A line that is missing counts as empty. There
is none to clear when the lines end before they start, and with more of them the shift does not get
smaller. Otherwise the first line is one of them, so that the widest is as wide as the first and the
shift together. -/
theorem isLeast_shift (document : LineView) (first last : Nat) :
    IsLeast {cells | ∀ line, first ≤ line → line ≤ last →
        (document.width? line).getD 0 ≤ (document.width? first).getD 0 + cells}
      (document.shift first last) ∧
    (last < first → document.shift first last = 0) ∧
    Monotone (document.shift first) ∧
    (first ≤ last → document.longest first last
      = (document.width? first).getD 0 + document.shift first last) := by
  refine ⟨⟨fun line hfirst hlast => width_le_shift hfirst hlast,
    fun cells hclear => shift_le_iff.2 hclear⟩, ?_, monotone_shift document first, ?_⟩
  · intro hbefore
    have hnone : document.shift first last ≤ 0 :=
      shift_le_iff.2 fun line hfirst hlast => absurd (hfirst.trans hlast) (Nat.not_le.2 hbefore)
    exact Nat.le_zero.1 hnone
  · intro hle
    have hwide : document.width first ≤ document.longest first last :=
      width_le_longest (Nat.le_refl first) hle
    exact (Nat.add_sub_of_le hwide).symm

/-- Of three lines the middle one is missing; the other way round there are none. -/
theorem isLeast_shift_missing :
    (ofLines [some "abcd", none, some "abcdefg"]).shift 0 2 = 3 ∧
    (0 ≤ 2 ∧ (ofLines [some "abcd", none, some "abcdefg"]).longest 0 2 = 4 + 3) ∧
    (0 < 2 ∧ (ofLines [some "abcd", none, some "abcdefg"]).shift 2 0 = 0) := by
  have hshift : (ofLines [some "abcd", none, some "abcdefg"]).shift 0 2 = 3 := by decide +kernel
  have hwidth : ((ofLines [some "abcd", none, some "abcdefg"]).width? 0).getD 0 = 4 := by
    decide +kernel
  obtain ⟨-, hnone, -, -⟩ := isLeast_shift (ofLines [some "abcd", none, some "abcdefg"]) 2 0
  obtain ⟨-, -, -, hwide⟩ := isLeast_shift (ofLines [some "abcd", none, some "abcdefg"]) 0 2
  refine ⟨hshift, ⟨by decide, ?_⟩, by decide, hnone (by decide)⟩
  rw [hwide (by decide), hwidth, hshift]

end LineView
end BorrowSketch
