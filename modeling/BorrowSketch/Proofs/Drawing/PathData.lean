import BorrowSketch.Proofs.Drawing.Recovery
import BorrowSketch.Proofs.Number.Printing

/-! # Reading path data

Path data has no brackets and no quotes: movements are only kept apart by blanks, and the two
numbers of a movement by a comma. That is enough as long as no number has either of them in it, or a
letter that could be taken for a movement, whatever float it was written for.

* **`IsNumeral`**, **`isNumeral_text`** — what every number in a drawing looks like.
* **`IsToken`**, **`isToken_data`** — what a movement is written as.
* **`Path.extended`**, **`Path.data_concat`** — the data with one more movement.
* **`Path.splitOn_data`** — blanks separate the movements again.
* **`Path.read?`** — a reader of path data.
* **`Path.read?_data`** — what is read back from any path.
* **`Path.data_unambiguous`** — what path data say, and for which paths they say the same. -/

namespace BorrowSketch.Drawing

/-! ### Numbers -/

/-- A plain decimal numeral. -/
structure IsNumeral (text : String) : Prop where
  /-- It is canonical. -/
  canonical : ∃ n : Number.Numeral, text = n.text
  /-- It has digits, a sign and a point in it only. -/
  only : ∀ c ∈ text.toList, c.isDigit = true ∨ c = '-' ∨ c = '.'
  /-- There is nothing in it that path data could be cut at. -/
  whole : ∀ c ∈ text.toList, c ≠ ' ' ∧ c ≠ ',' ∧ c.isAlpha = false

/-- No digit is a letter. -/
theorem isAlpha_of_isDigit {c : Char} (hdigit : c.isDigit = true) : c.isAlpha = false := by
  obtain ⟨d, hsmall, rfl⟩ := Number.exists_digitChar_eq hdigit
  have hnone : ∀ d < 10, (Nat.digitChar d).isAlpha = false := by decide
  exact hnone d hsmall

/-- **Whatever the float**, a plain numeral is written for it. -/
theorem isNumeral_text (x : Float) : IsNumeral (Number.text x) := by
  have honly : ∀ c ∈ (Number.text x).toList, c.isDigit = true ∨ c = '-' ∨ c = '.' := by
    intro c hmem
    rw [Number.text_eq_numeral, Number.Numeral.text, String.toList_ofList] at hmem
    exact Number.Numeral.of_mem_chars hmem
  refine ⟨⟨_, Number.text_eq_numeral x⟩, honly, fun c hmem => ?_⟩
  rcases honly c hmem with hdigit | rfl | rfl
  · have hblank : c ≠ ' ' := Markup.ne_of_test hdigit (by decide)
    have hcomma : c ≠ ',' := Markup.ne_of_test hdigit (by decide)
    exact ⟨hblank, hcomma, isAlpha_of_isDigit hdigit⟩
  · decide
  · decide

/-! ### Movements -/

/-- Two numbers with a comma between them. -/
def coordinates (x y : Float) : List Char :=
  (Number.text x).toList ++ ',' :: (Number.text y).toList

/-- What each movement of the pen is written as. -/
inductive IsToken : Step → List Char → Prop where
  /-- The pen goes to a point. -/
  | moveTo (x y : Float) : IsToken (moveTo x y) ('M' :: coordinates x y)
  /-- The pen draws to a point. -/
  | lineTo (x y : Float) : IsToken (lineTo x y) ('L' :: coordinates x y)
  /-- The pen goes by an offset. -/
  | moveBy (x y : Float) : IsToken (moveBy x y) ('m' :: coordinates x y)
  /-- The pen draws by an offset. -/
  | lineBy (x y : Float) : IsToken (lineBy x y) ('l' :: coordinates x y)

namespace Step

theorem toList_data (step : Step) :
    step.data.toList = step.pen.letter :: coordinates step.x step.y := by
  simp [data, coordinates]

/-- A movement is written as its letter and its two numbers. -/
theorem isToken_data (step : Step) : IsToken step step.data.toList := by
  rw [toList_data]
  obtain ⟨pen, x, y⟩ := step
  cases pen with
  | moveTo => exact .moveTo x y
  | lineTo => exact .lineTo x y
  | moveBy => exact .moveBy x y
  | lineBy => exact .lineBy x y

/-- No movement has a blank in it. -/
theorem blank_notMem_data (step : Step) : ' ' ∉ step.data.toList := by
  have hletter : ' ' ≠ step.pen.letter := by cases step.pen <;> decide
  have hblankless (x : Float) : ' ' ∉ (Number.text x).toList := fun hmem =>
    ((isNumeral_text x).whole ' ' hmem).1 rfl
  rw [toList_data, coordinates]
  simp [hletter, hblankless]

/-- The comma separates the numbers of a movement again. -/
theorem splitOn_coordinates (x y : Float) :
    (coordinates x y).splitOn ',' = [(Number.text x).toList, (Number.text y).toList] := by
  have hjoined : coordinates x y
      = [','].intercalate [(Number.text x).toList, (Number.text y).toList] := by
    simp [coordinates, List.intercalate]
  have hcommaless (z : Float) : ',' ∉ (Number.text z).toList := fun hmem =>
    ((isNumeral_text z).whole ',' hmem).2.1 rfl
  rw [hjoined]
  refine List.splitOn_intercalate ',' (fun number hmem => ?_) (List.cons_ne_nil _ _)
  rcases List.mem_pair.mp hmem with rfl | rfl
  · exact hcommaless x
  · exact hcommaless y

end Step

/-! ### One movement more -/

namespace Path

/-- Path data with one more movement behind it. Only between movements there is a blank. -/
def extended (data : String) (step : Step) : String :=
  if data = "" then step.data else data ++ " " ++ step.data

/-- Blanks separate the movements again. -/
theorem splitOn_data {path : Path} (hne : path ≠ []) :
    path.data.toList.splitOn ' ' = path.map fun step => step.data.toList := by
  have hjoined : path.data.toList
      = [' '].intercalate (path.map fun step => step.data.toList) := by
    rw [data, String.toList_intercalate, List.map_map]
    rfl
  rw [hjoined]
  refine List.splitOn_intercalate ' ' (fun token hmem => ?_) (by simpa using hne)
  obtain ⟨step, -, rfl⟩ := List.mem_map.mp hmem
  exact step.blank_notMem_data

/-- Only where nothing moves there are no data. -/
theorem data_eq_empty_iff (path : Path) : path.data = "" ↔ path = [] := by
  constructor
  · intro hempty
    by_contra hne
    -- the data of a path have at least one token, and no token is empty
    have htokens := splitOn_data hne
    rw [hempty] at htokens
    obtain ⟨step, rest, rfl⟩ := List.exists_cons_of_ne_nil hne
    have hfirst : [] = step.data.toList := (List.cons.inj htokens).1
    rw [step.toList_data] at hfirst
    exact List.cons_ne_nil _ _ hfirst.symm
  · rintro rfl
    rfl

theorem data_concat (path : Path) (step : Step) :
    data (path ++ [step]) = extended path.data step := by
  unfold extended
  split_ifs with hempty
  · rw [(data_eq_empty_iff path).mp hempty]
    rfl
  · have hne : path ≠ [] := fun hnone => hempty ((data_eq_empty_iff path).mpr hnone)
    have hfirst : path.map Step.data ≠ [] := by simpa using hne
    have hlast : [step].map Step.data ≠ [] := List.cons_ne_nil _ _
    rw [data, List.map_append, String.intercalate_append_of_ne_nil hfirst hlast]
    rfl

/-- **Path data are written** movement by movement. -/
theorem data_eq_foldl (path : Path) : path.data = path.foldl extended "" := by
  induction path using List.reverseRecOn with
  | nil => rfl
  | append_singleton path step ih => rw [data_concat, List.foldl_concat, ih]

end Path

/-! ### The reader -/

/-- A movement as it can be read: its kind and the two numbers as they are written. -/
structure Movement where
  /-- The kind. -/
  pen : Pen
  /-- The first number. -/
  x : String
  /-- The second number. -/
  y : String

/-- The kind of movement that begins with a letter. -/
def Pen.ofLetter? : Char → Option Pen
  | 'M' => some moveTo
  | 'L' => some lineTo
  | 'm' => some moveBy
  | 'l' => some lineBy
  | _ => none

@[simp] theorem Pen.ofLetter?_letter (pen : Pen) : Pen.ofLetter? pen.letter = some pen := by
  cases pen <;> rfl

/-- The movement that is written between two blanks. -/
def Movement.ofToken? : List Char → Option Movement
  | [] => none
  | letter :: numbers =>
    match numbers.splitOn ',' with
    | [x, y] => (Pen.ofLetter? letter).map (⟨·, String.ofList x, String.ofList y⟩)
    | _ => none

/-- A movement with its numbers as they are written. -/
def Step.movement (step : Step) : Movement :=
  ⟨step.pen, Number.text step.x, Number.text step.y⟩

/-- Movements that read alike are written alike. -/
theorem Step.data_eq_of_movement_eq {step other : Step} (hsame : step.movement = other.movement) :
    step.data = other.data := by
  obtain ⟨hpen, hx, hy⟩ := Movement.mk.inj hsame
  rw [data, data, hpen, hx, hy]

/-- A movement is read as what it was. -/
theorem Step.ofToken?_data (step : Step) :
    Movement.ofToken? step.data.toList = some step.movement := by
  rw [toList_data, Movement.ofToken?, splitOn_coordinates]
  simp [movement]

namespace Path

/-- The movements that path data say. -/
def read? (data : String) : Option (List Movement) :=
  if data = "" then some [] else (data.toList.splitOn ' ').mapM Movement.ofToken?

/-- **A path is read** as its movements. -/
theorem read?_data (path : Path) : read? path.data = some (path.map Step.movement) := by
  unfold read?
  split_ifs with hempty
  · rw [(data_eq_empty_iff path).mp hempty]
    rfl
  · have hne : path ≠ [] := fun hnone => hempty ((data_eq_empty_iff path).mpr hnone)
    rw [splitOn_data hne]
    exact mapM_map_eq_some fun step _ => step.ofToken?_data

/-- Paths have the same data exactly if the same is read in them. -/
theorem data_eq_iff (path other : Path) :
    path.data = other.data ↔ path.map Step.movement = other.map Step.movement := by
  constructor
  · intro hsame
    have hread := congrArg read? hsame
    rwa [read?_data, read?_data, Option.some.injEq] at hread
  · intro hsame
    have htokens : path.map Step.data = other.map Step.data := by
      rw [← List.forall₂_eq_eq_eq, List.forall₂_map_left_iff, List.forall₂_map_right_iff] at hsame ⊢
      exact hsame.imp fun _ _ => Step.data_eq_of_movement_eq
    rw [data, data, htokens]

/-- **Path data are unambiguous.** They are written movement by movement, and empty only without
any. Otherwise cutting them at the blanks gives one token for each movement, in order: its letter
and two numbers with a comma between them. These are plain numerals for any floats, so the movements
can be read back, and two paths have the same data exactly if they are made of the same movements
with the same written numbers. -/
theorem data_unambiguous (path : Path) :
    path.data = path.foldl extended "" ∧
    (path.data = "" ↔ path = []) ∧
    (path ≠ [] → List.Forall₂ IsToken path (path.data.toList.splitOn ' ')) ∧
    (∀ x : Float, IsNumeral (Number.text x)) ∧
    read? path.data = some (path.map Step.movement) ∧
    ∀ other : Path, path.data = other.data ↔ path.map Step.movement = other.map Step.movement := by
  refine ⟨data_eq_foldl path, data_eq_empty_iff path, fun hne => ?_, isNumeral_text,
    read?_data path, data_eq_iff path⟩
  rw [splitOn_data hne, List.forall₂_map_right_iff, List.forall₂_same]
  exact fun step _ => step.isToken_data

/-- A sign needs no blank before it, and what is no number is written as one. -/
theorem data_unambiguous_arrow :
    [moveTo 0 9.5, lineBy (-6) (-3), lineTo (0 / 0) 0.1] ≠ ([] : Path) ∧
    List.Forall₂ IsToken [moveTo 0 9.5, lineBy (-6) (-3), lineTo (0 / 0) 0.1]
      ["M0,9.5".toList, "l-6,-3".toList, "L0,0.1".toList] := by
  have htokens : (data [moveTo 0 9.5, lineBy (-6) (-3), lineTo (0 / 0) 0.1]).toList.splitOn ' '
      = ["M0,9.5".toList, "l-6,-3".toList, "L0,0.1".toList] := by
    decide +kernel
  have hne : [moveTo 0 9.5, lineBy (-6) (-3), lineTo (0 / 0) 0.1] ≠ ([] : Path) :=
    List.cons_ne_nil _ _
  rw [← htokens]
  exact ⟨hne, (data_unambiguous _).2.2.1 hne⟩

end Path

end BorrowSketch.Drawing
