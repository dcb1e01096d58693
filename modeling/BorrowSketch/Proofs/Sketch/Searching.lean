import BorrowSketch.Proofs.Sketch.Reading
import BorrowSketch.Sketch.EarlyDrop
import BorrowSketch.Sketch.MovedValue

/-! # Reports searched for a name

Two reports do not open with fixed words: the name stands anywhere in the message, and the leftmost
place counts. What is read from them is told by a grammar, as for the reports with fixed openings.

* **`MovedValue.EndsLine`** — what closes the name of a moved value; it leaves only one name at a
  place.
* **`MovedValue.isReport_read`** — the report on a moved value.
* **`EarlyDrop.Reported`** — why a borrow is needed after the drop, by the kinds of places related.
* **`EarlyDrop.isReport_read`** — the report on an early drop.
* **`read_of_search`** — both reports. -/

namespace BorrowSketch

open Text

namespace Outcome

/-- Where the reason is the same, it does not matter which of two things is missing. -/
theorem bind_ofOptionOr {α β : Type} {reason : String} {found : Option α} {next : α → Option β} :
    ((ofOptionOr reason found).bind fun a => ofOptionOr reason (next a)) =
      ofOptionOr reason (found.bind next) := by
  cases found <;> rfl

end Outcome

/-! ## Moved values -/

namespace MovedValue

/-- The closing quote of a name that ends its line: the line is the last one, or another follows. -/
def EndsLine (rest : String) : Prop :=
  rest = "`" ∨ StartsWith "`\n" rest

/-- The closing quote is looked for in the two forms that it has. -/
theorem endsLine_iff (chars : List Char) :
    closesLine chars = true ↔ EndsLine (String.ofList chars) := by
  have hlast : String.ofList chars = "`" ↔ chars = ['`'] := by
    rw [← String.toList_inj, String.toList_ofList]
    rfl
  have hbefore : StartsWith "`\n" (String.ofList chars) ↔ ['`', '\n'] <+: chars := by
    rw [← isPrefixOf_iff, List.isPrefixOf_iff_prefix]
    rfl
  rw [EndsLine, hlast, hbefore]
  unfold closesLine
  split
  · exact iff_of_true rfl (.inl rfl)
  · next c rest =>
    rw [decide_eq_true_iff, List.cons_prefix_cons, List.cons_prefix_cons]
    constructor
    · rintro rfl
      exact .inr ⟨rfl, rfl, List.nil_prefix⟩
    · rintro (h | ⟨-, h, -⟩)
      · cases h
      · exact h.symm
  · next hlast hbefore =>
    refine iff_of_false Bool.false_ne_true ?_
    rintro (rfl | ⟨rest, rfl⟩)
    · exact hlast rfl
    · exact hbefore '\n' rest rfl

/-- Up to the end of its line, what follows the opening words is the name and the closing quote. -/
theorem takeWhile_name {name rest : String} (hname : IsName name) (hcloses : EndsLine rest) :
    (name ++ rest).toList.takeWhile (· ≠ '\n') = name.toList ++ ['`'] := by
  have hline : ∀ c ∈ name.toList, decide (c ≠ '\n') = true := by
    intro c hc
    rw [decide_eq_true_iff]
    rintro rfl
    exact hname.line hc
  rw [String.toList_append, List.takeWhile_append_of_pos hline]
  rcases hcloses with rfl | ⟨tail, rfl⟩
  · rfl
  · rw [String.toList_append]
    rfl

/-- **There is only one name at a place,** as its closing quote ends the line. -/
theorem isNamed_unique {opening text name other : String}
    (hname : IsNamed opening EndsLine text name) (hother : IsNamed opening EndsLine text other) :
    name = other := by
  obtain ⟨hname, rest, htext, hcloses⟩ := hname
  obtain ⟨hother, tail, hsame, hotherCloses⟩ := hother
  have hbehind : name ++ rest = other ++ tail := by
    rw [htext, String.append_assoc, String.append_assoc] at hsame
    exact (String.append_right_inj _).1 hsame
  have hlines := takeWhile_name hname hcloses
  rw [hbehind, takeWhile_name hother hotherCloses] at hlines
  exact (String.toList_injective (List.append_cancel_right hlines)).symm

/-- The name at the leftmost place is the longest there, as it is the only one. -/
theorem isLeftmost_iff {text name : String} :
    IsLeftmost (fun before => IsNamed (before ++ ": `") EndsLine text) name ↔
      ∃ before, IsNamed (before ++ ": `") EndsLine text name ∧
        ∀ earlier other, IsNamed (earlier ++ ": `") EndsLine text other →
          before.length ≤ earlier.length := by
  constructor
  · rintro ⟨before, hlongest, hleftmost⟩
    exact ⟨before, hlongest.holds, hleftmost⟩
  · rintro ⟨before, hnamed, hleftmost⟩
    refine ⟨before, ⟨hnamed, fun other hother => ?_⟩, hleftmost⟩
    exact Nat.le_of_eq (congrArg String.length (isNamed_unique hother hnamed))

/-- The name read from a message. -/
theorem readMessage?_eq_some_iff {message name : String} :
    readMessage? message = some name ↔
      ∃ before, IsNamed (before ++ ": `") EndsLine message name ∧
        ∀ earlier other, IsNamed (earlier ++ ": `") EndsLine message other →
          before.length ≤ earlier.length := by
  rw [← isLeftmost_iff, ← firstMatch?_partBehind?_eq_some_iff endsLine_iff, readMessage?]
  simp only [partBehind?, Option.map_bind]
  rfl

/-- A name is read from a message exactly if there is one. -/
theorem isSome_readMessage?_iff {message : String} :
    (readMessage? message).isSome = true ↔
      ∃ before name, IsNamed (before ++ ": `") EndsLine message name := by
  rw [← isSome_firstMatch?_partBehind?_iff endsLine_iff, readMessage?]
  simp only [partBehind?, Option.map_bind]
  rfl

/-- **A report on a moved value.** A related place says where the value was moved, and the message
names the value at the end of a line; the leftmost such name counts. Where the value was defined may
be said by another related place. -/
def IsReport (d : Diagnostic) (outcome : Outcome MovedValue) : Prop :=
  outcome.IsReading
    ((∃ place ∈ d.related, place.Ends "value moved here") ∧
      ∃ before name, IsNamed (before ++ ": `") EndsLine d.message name)
    True
    fun facts =>
      (∃ before, IsNamed (before ++ ": `") EndsLine d.message facts.name ∧
        ∀ earlier other, IsNamed (earlier ++ ": `") EndsLine d.message other →
          before.length ≤ earlier.length) ∧
      (∃ place, IsFirst (Related.Ends "value moved here") d.related place ∧
        facts.moved = place.span.start.line) ∧
      (∀ line, facts.defined = some line ↔
        ∃ place, IsFirst (Related.Begins "move occurs because `") d.related place ∧
          line = place.span.start.line) ∧
      facts.used = d.line

/-- The line of the definition, as a related place reports it. -/
theorem map_relatedStartingWith?_eq_iff {d : Diagnostic} {words : String} {defined : Option Nat} :
    (d.relatedStartingWith? words).map (·.span.start.line) = defined ↔
      ∀ line, defined = some line ↔
        ∃ place, IsFirst (Related.Begins words) d.related place ∧
          line = place.span.start.line := by
  have hreported : ∀ line, (d.relatedStartingWith? words).map (·.span.start.line) = some line ↔
      ∃ place, IsFirst (Related.Begins words) d.related place ∧
        line = place.span.start.line := by
    intro line
    rw [Option.map_eq_some_iff]
    refine exists_congr fun place => ?_
    rw [Diagnostic.relatedStartingWith?_eq_some_iff, eq_comm (a := line)]
  constructor
  · rintro rfl line
    exact hreported line
  · intro h
    exact Option.ext fun line => (hreported line).trans (h line).symm

/-- **What is read of a moved value** is what is reported of it. -/
theorem isReport_read (d : Diagnostic) : IsReport d (read d) := by
  simp only [read, Outcome.map_ofOptionOr, Outcome.bind_ofOptionOr]
  refine Outcome.isReading_ofOptionOr ?_ fun facts => ?_
  · rw [← Diagnostic.isSome_relatedEndingWith?_iff, ← isSome_readMessage?_iff]
    cases d.relatedEndingWith? "value moved here" <;> simp
  · simp only [Option.bind_eq_some_iff, Option.map_eq_some_iff,
      Diagnostic.relatedEndingWith?_eq_some_iff, readMessage?_eq_some_iff]
    constructor
    · rintro ⟨move, hmove, name, hname, rfl⟩
      exact ⟨hname, ⟨move, hmove, rfl⟩, map_relatedStartingWith?_eq_iff.1 rfl, rfl⟩
    · rintro ⟨hname, ⟨move, hmove, hmoved⟩, hdefined, hused⟩
      refine ⟨move, hmove, facts.name, hname, ?_⟩
      rw [← hmoved, map_relatedStartingWith?_eq_iff.2 hdefined, ← hused]

end MovedValue

/-! ## Early drops -/

namespace EarlyDrop

/-- A related place where a borrower is used or stored. -/
def IsUse (place : Related) : Prop :=
  place.Ends "borrow later used here" ∨ place.Ends "borrow later stored here"

/-- **Why a borrow is needed after its value is dropped,** as the related places report it. A kind
of place counts only if there is none of the kinds before it, wherever in the list it stands. -/
inductive Reported (related : List Related) : LaterNeed → Prop where
  /-- The first use. -/
  | used {place : Related} (hfirst : IsFirst IsUse related place) :
      Reported related (.used place.span)
  /-- There is no use; the first possible use. -/
  | mightUse {place : Related} (huse : ∀ other ∈ related, ¬ IsUse other)
      (hfirst : IsFirst (Related.Begins "borrow might be used here,") related place) :
      Reported related (.mightUse place.span.start.line place.message)
  /-- There is no use, nor a possible one; the first borrow that must live forever. -/
  | forever {place : Related} (huse : ∀ other ∈ related, ¬ IsUse other)
      (hpossible : ∀ other ∈ related, ¬ other.Begins "borrow might be used here,")
      (hfirst : IsFirst (Related.Ends " is borrowed for `'static`") related place) :
      Reported related (.forever place.span.stop.line)

/-- A use is looked for by both of its forms. -/
theorem isUse_iff (place : Related) :
    (endsWith place.message "borrow later used here" ||
      endsWith place.message "borrow later stored here") = true ↔ IsUse place := by
  rw [Bool.or_eq_true, endsWith_iff, endsWith_iff]
  rfl

/-- The place taken for a use is the first use. -/
theorem relatedUse?_eq_some_iff {d : Diagnostic} {place : Related} :
    relatedUse? d = some place ↔ IsFirst IsUse d.related place :=
  find?_eq_some_iff_isFirst isUse_iff

/-- No place is taken for a use exactly if there is none. -/
theorem relatedUse?_eq_none_iff {d : Diagnostic} :
    relatedUse? d = none ↔ ∀ place ∈ d.related, ¬ IsUse place :=
  find?_eq_none_iff_forall isUse_iff

/-- **What is read of the need** is what is reported. -/
theorem readLater?_eq_some_iff {d : Diagnostic} {later : LaterNeed} :
    readLater? d = some later ↔ Reported d.related later := by
  constructor
  · intro h
    rw [readLater?] at h
    cases huse : relatedUse? d with
    | some place =>
      rw [huse] at h
      obtain rfl := Option.some.inj h
      exact .used (relatedUse?_eq_some_iff.1 huse)
    | none =>
      rw [huse] at h
      have hnoUse := relatedUse?_eq_none_iff.1 huse
      cases hpossible : d.relatedStartingWith? "borrow might be used here," with
      | some place =>
        rw [hpossible] at h
        obtain rfl := Option.some.inj h
        exact .mightUse hnoUse (Diagnostic.relatedStartingWith?_eq_some_iff.1 hpossible)
      | none =>
        rw [hpossible] at h
        obtain ⟨place, hplace, rfl⟩ := Option.map_eq_some_iff.1 h
        exact .forever hnoUse (Diagnostic.relatedStartingWith?_eq_none_iff.1 hpossible)
          (Diagnostic.relatedEndingWith?_eq_some_iff.1 hplace)
  · intro h
    rw [readLater?]
    cases h with
    | used hfirst => rw [relatedUse?_eq_some_iff.2 hfirst]
    | mightUse huse hfirst =>
      rw [relatedUse?_eq_none_iff.2 huse, Diagnostic.relatedStartingWith?_eq_some_iff.2 hfirst]
    | forever huse hpossible hfirst =>
      rw [relatedUse?_eq_none_iff.2 huse, Diagnostic.relatedStartingWith?_eq_none_iff.2 hpossible,
        Diagnostic.relatedEndingWith?_eq_some_iff.2 hfirst]
      rfl

/-- A need is read exactly if a place of one of the kinds is related. -/
theorem isSome_readLater?_iff {d : Diagnostic} :
    (readLater? d).isSome = true ↔ ∃ place ∈ d.related, IsUse place ∨
      place.Begins "borrow might be used here," ∨ place.Ends " is borrowed for `'static`" := by
  -- the kinds are looked for in turn, each only where those before it were not found
  rw [readLater?]
  cases huse : relatedUse? d with
  | some place =>
    obtain ⟨hplace, before, after, hrelated, -⟩ := relatedUse?_eq_some_iff.1 huse
    exact iff_of_true rfl ⟨place, by rw [hrelated]; simp, .inl hplace⟩
  | none =>
    have hnoUse := relatedUse?_eq_none_iff.1 huse
    cases hpossible : d.relatedStartingWith? "borrow might be used here," with
    | some place =>
      obtain ⟨hplace, before, after, hrelated, -⟩ :=
        Diagnostic.relatedStartingWith?_eq_some_iff.1 hpossible
      exact iff_of_true rfl ⟨place, by rw [hrelated]; simp, .inr (.inl hplace)⟩
    | none =>
      have hnoPossible := Diagnostic.relatedStartingWith?_eq_none_iff.1 hpossible
      dsimp only
      rw [Option.isSome_map, Diagnostic.isSome_relatedEndingWith?_iff]
      constructor
      · rintro ⟨place, hplace, hends⟩
        exact ⟨place, hplace, .inr (.inr hends)⟩
      · rintro ⟨place, hplace, hplaceUse | hbegins | hends⟩
        · exact absurd hplaceUse (hnoUse place hplace)
        · exact absurd hbegins (hnoPossible place hplace)
        · exact ⟨place, hplace, hends⟩

/-- The name read from a message. -/
theorem readMessage?_eq_some_iff {message name : String} :
    readMessage? message = some name ↔
      IsLeftmost (fun before =>
        IsNamed (before ++ "`") (StartsWith "` does not live long enough") message) name := by
  rw [← firstMatch?_partBehind?_eq_some_iff fun _ => isPrefixOf_iff, readMessage?]
  simp only [partBehind?, Option.map_bind]
  rfl

/-- A name is read from a message exactly if there is one. -/
theorem isSome_readMessage?_iff {message : String} :
    (readMessage? message).isSome = true ↔ ∃ before name,
      IsNamed (before ++ "`") (StartsWith "` does not live long enough") message name := by
  rw [← isSome_firstMatch?_partBehind?_iff fun _ => isPrefixOf_iff, readMessage?]
  simp only [partBehind?, Option.map_bind]
  rfl

/-- **A report on an early drop.** The message names a value before fixed words; of the quotes that
could open the name the leftmost counts, and of the names behind it the longest. Related places say
where the value is dropped and why the borrow is needed afterwards. -/
def IsReport (d : Diagnostic) (outcome : Outcome EarlyDrop) : Prop :=
  outcome.IsReading
    ((∃ before name,
        IsNamed (before ++ "`") (StartsWith "` does not live long enough") d.message name) ∧
      (∃ place ∈ d.related, place.Ends "dropped here while still borrowed") ∧
      ∃ place ∈ d.related, IsUse place ∨ place.Begins "borrow might be used here," ∨
        place.Ends " is borrowed for `'static`")
    True
    fun facts =>
      IsLeftmost (fun before =>
        IsNamed (before ++ "`") (StartsWith "` does not live long enough") d.message) facts.name ∧
      facts.borrowed = d.line ∧
      (∃ place, IsFirst (Related.Ends "dropped here while still borrowed") d.related place ∧
        facts.dropped = place.span.stop.line) ∧
      Reported d.related facts.later

/-- **What is read of an early drop** is what is reported of it. -/
theorem isReport_read (d : Diagnostic) : IsReport d (read d) := by
  simp only [read, Outcome.map_ofOptionOr, Outcome.bind_ofOptionOr]
  refine Outcome.isReading_ofOptionOr ?_ fun facts => ?_
  · rw [← isSome_readMessage?_iff, ← Diagnostic.isSome_relatedEndingWith?_iff,
      ← isSome_readLater?_iff]
    cases readMessage? d.message <;>
      cases d.relatedEndingWith? "dropped here while still borrowed" <;> simp
  · simp only [Option.bind_eq_some_iff, Option.map_eq_some_iff,
      Diagnostic.relatedEndingWith?_eq_some_iff, readMessage?_eq_some_iff, readLater?_eq_some_iff]
    constructor
    · rintro ⟨name, hname, drop, hdrop, later, hlater, rfl⟩
      exact ⟨hname, rfl, ⟨drop, hdrop, rfl⟩, hlater⟩
    · rintro ⟨hname, hborrowed, ⟨drop, hdrop, hdropped⟩, hlater⟩
      refine ⟨facts.name, hname, drop, hdrop, facts.later, hlater, ?_⟩
      rw [← hborrowed, ← hdropped]

end EarlyDrop

/-! ## Both reports -/

/-- **What is read of the reports that are searched for a name** is what their grammar says, for
every diagnostic. -/
theorem read_of_search (d : Diagnostic) :
    MovedValue.IsReport d (MovedValue.read d) ∧ EarlyDrop.IsReport d (EarlyDrop.read d) :=
  ⟨MovedValue.isReport_read d, EarlyDrop.isReport_read d⟩

end BorrowSketch
