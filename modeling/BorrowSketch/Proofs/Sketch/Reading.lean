import BorrowSketch.Proofs.Diagnostic.Related
import BorrowSketch.Sketch.EscapingClosure
import BorrowSketch.Sketch.MixedBorrow

/-! # Reports with fixed openings

Most reports on borrows open with fixed words, name a place and go on with other fixed words. What
is read from such a report is told here by a grammar, without the search that finds the name.

* **`Outcome.IsReading`** — what reading a diagnostic comes to: which facts, or what is missing.
* **`Outcome.isReading_ofOptionOr`**, **`Outcome.isReading_bind`** — readings made of what is found.
* **`BorrowInUse.isReport_read`**, **`MixedBorrow.isReport_read`** — the reports on a place that is
  borrowed over some lines.
* **`EscapingClosure.isReport_read`** — the report on a closure.
* **`read_of_opening`** — the reports of all codes of this kind. -/

namespace BorrowSketch

open Text

/-! ## What reading comes to -/

namespace Outcome

variable {α β γ : Type}

/-- **What reading a diagnostic comes to.** There are facts exactly if the message and the related
places are as required. If they are not, it says which of them is not understood, the message
first. -/
structure IsReading (outcome : Outcome α) (message related : Prop) (facts : α → Prop) : Prop where
  /-- There are facts if nothing is missing. -/
  isSuccess_iff : outcome.isSuccess = true ↔ message ∧ related
  /-- The facts are these. -/
  eq_success_iff : ∀ a, outcome = .success a ↔ facts a
  /-- The message is not understood. -/
  cannotParse_iff : outcome = .inapplicable (some cannotParse) ↔ ¬ message
  /-- The related places are not understood. -/
  cannotParseRelated_iff :
    outcome = .inapplicable (some cannotParseRelated) ↔ message ∧ ¬ related

theorem cannotParse_ne_cannotParseRelated : cannotParse ≠ cannotParseRelated := by decide

variable {message related : Prop} {facts : α → Prop}

/-- A reading for which the related places are not required, or are looked at along with the
message. -/
theorem isReading_ofOptionOr {found : Option α} (hmessage : found.isSome = true ↔ message)
    (hfacts : ∀ a, found = some a ↔ facts a) :
    (ofOptionOr cannotParse found).IsReading message True facts where
  isSuccess_iff := by
    rw [and_true, ← hmessage]
    cases found <;> simp [ofOptionOr, isSuccess]
  eq_success_iff a := by
    rw [← hfacts]
    cases found <;> simp [ofOptionOr]
  cannotParse_iff := by
    rw [← hmessage]
    cases found <;> simp [ofOptionOr]
  cannotParseRelated_iff := by
    rw [not_true_eq_false, and_false, iff_false]
    cases found with
    | some a => exact fun h => by cases h
    | none =>
      intro h
      exact cannotParse_ne_cannotParseRelated (Option.some.inj (Outcome.inapplicable.inj h))

theorem map_ofOptionOr {reason : String} {f : α → β} {found : Option α} :
    (ofOptionOr reason found).map f = ofOptionOr reason (found.map f) := by
  cases found <;> rfl

/-- A reading of the message and then of the related places. -/
theorem isReading_bind {named : Option β} {placed : Option γ} {make : β → γ → α}
    (hmessage : named.isSome = true ↔ message) (hrelated : placed.isSome = true ↔ related)
    (hfacts : ∀ a, (∃ b c, named = some b ∧ placed = some c ∧ make b c = a) ↔ facts a) :
    ((ofOptionOr cannotParse named).bind fun b =>
      (ofOptionOr cannotParseRelated placed).map (make b)).IsReading message related facts := by
  have hne := cannotParse_ne_cannotParseRelated
  cases named with
  | none =>
    have hno : ¬ message := by rw [← hmessage]; simp
    exact
      { isSuccess_iff := iff_of_false (by simp [ofOptionOr, isSuccess]) fun h => hno h.1
        eq_success_iff := fun a => by rw [← hfacts]; simp [ofOptionOr]
        cannotParse_iff := iff_of_true rfl hno
        cannotParseRelated_iff := iff_of_false (by simp [ofOptionOr, hne]) fun h => hno h.1 }
  | some b =>
    have hyes : message := hmessage.1 rfl
    cases placed with
    | none =>
      have hno : ¬ related := by rw [← hrelated]; simp
      exact
        { isSuccess_iff := iff_of_false (by simp [ofOptionOr, isSuccess]) fun h => hno h.2
          eq_success_iff := fun a => by rw [← hfacts]; simp [ofOptionOr]
          cannotParse_iff := iff_of_false (by simp [ofOptionOr, hne.symm]) (not_not.2 hyes)
          cannotParseRelated_iff := iff_of_true rfl ⟨hyes, hno⟩ }
    | some c =>
      have hboth : related := hrelated.1 rfl
      exact
        { isSuccess_iff := iff_of_true rfl ⟨hyes, hboth⟩
          eq_success_iff := fun a => by rw [← hfacts]; simp [ofOptionOr]
          cannotParse_iff := iff_of_false (by simp [ofOptionOr]) (not_not.2 hyes)
          cannotParseRelated_iff :=
            iff_of_false (by simp [ofOptionOr]) fun h => h.2 hboth }

end Outcome

/-! ## A name between fixed words -/

/-- What is read between fixed words at the start of a message. -/
theorem placeBetween?_eq (opening closing message : String) :
    placeBetween? opening closing message =
      (partBehind? opening closing.toList.isPrefixOf message.toList).map fun found =>
        String.ofList found.1 := by
  rw [placeBetween?, partBehind?, Option.map_bind]
  rfl

/-- **The name read between fixed words** is the longest that stands there. -/
theorem placeBetween?_eq_some_iff {opening closing message name : String} :
    placeBetween? opening closing message = some name ↔
      IsLongest (IsNamed opening (StartsWith closing) message) name := by
  rw [placeBetween?_eq]
  exact map_partBehind?_eq_some_iff fun _ => isPrefixOf_iff

/-- A name is read between fixed words exactly if there is one. -/
theorem isSome_placeBetween?_iff {opening closing message : String} :
    (placeBetween? opening closing message).isSome = true ↔
      ∃ name, IsNamed opening (StartsWith closing) message name := by
  rw [placeBetween?_eq, Option.isSome_map]
  exact isSome_partBehind?_iff fun _ => isPrefixOf_iff

/-! ## The lines of a borrow -/

namespace Diagnostic

variable {d : Diagnostic} {fromWords toWords : String}

/-- The lines of a borrow are found if both of the related places are there. -/
theorem isSome_regionBetween?_iff :
    (d.regionBetween? fromWords toWords).isSome = true ↔
      (∃ place ∈ d.related, place.Ends fromWords) ∧ ∃ place ∈ d.related, place.Ends toWords := by
  rw [← isSome_relatedEndingWith?_iff, ← isSome_relatedEndingWith?_iff, regionBetween?]
  cases d.relatedEndingWith? fromWords <;> cases d.relatedEndingWith? toWords <;> simp

/-- **The lines of a borrow** run from the start of the first place of the one kind to the end of
the first of the other. -/
theorem regionBetween?_eq_some_iff {first last : Nat} :
    d.regionBetween? fromWords toWords = some (first, last) ↔
      (∃ place, IsFirst (Related.Ends fromWords) d.related place ∧ first = place.span.start.line) ∧
        ∃ place, IsFirst (Related.Ends toWords) d.related place ∧ last = place.span.stop.line := by
  simp only [regionBetween?, Option.bind_eq_some_iff, Option.map_eq_some_iff, Prod.mk.injEq,
    relatedEndingWith?_eq_some_iff]
  constructor
  · rintro ⟨start, hstart, stop, hstop, rfl, rfl⟩
    exact ⟨⟨start, hstart, rfl⟩, stop, hstop, rfl⟩
  · rintro ⟨⟨start, hstart, rfl⟩, stop, hstop, rfl⟩
    exact ⟨start, hstart, stop, hstop, rfl, rfl⟩

end Diagnostic

/-! ## Reports on a borrowed place -/

namespace BorrowInUse

/-- **A report in a wording.** The message names a place between the opening and the closing words,
the longest name counts, and two related places say over which lines the place is borrowed. -/
def IsReport (wording : Wording) (d : Diagnostic) (outcome : Outcome BorrowInUse) : Prop :=
  outcome.IsReading (∃ name, IsNamed wording.opening (StartsWith wording.closing) d.message name)
    ((∃ place ∈ d.related, place.Ends wording.borrowed) ∧
      ∃ place ∈ d.related, place.Ends wording.lastUsed)
    fun facts =>
      IsLongest (IsNamed wording.opening (StartsWith wording.closing) d.message) facts.place ∧
      (∃ place, IsFirst (Related.Ends wording.borrowed) d.related place ∧
        facts.first = place.span.start.line) ∧
      (∃ place, IsFirst (Related.Ends wording.lastUsed) d.related place ∧
        facts.last = place.span.stop.line) ∧
      facts.point = d.line

/-- **What is read in a wording** is what is reported in it. -/
theorem isReport_read (wording : Wording) (d : Diagnostic) :
    IsReport wording d (read wording d) := by
  refine Outcome.isReading_bind isSome_placeBetween?_iff Diagnostic.isSome_regionBetween?_iff ?_
  intro facts
  simp only [placeBetween?_eq_some_iff]
  constructor
  · rintro ⟨name, ⟨first, last⟩, hname, hregion, rfl⟩
    obtain ⟨hfirst, hlast⟩ := Diagnostic.regionBetween?_eq_some_iff.1 hregion
    exact ⟨hname, hfirst, hlast, rfl⟩
  · rintro ⟨hname, hfirst, hlast, hpoint⟩
    refine ⟨facts.place, (facts.first, facts.last), hname,
      Diagnostic.regionBetween?_eq_some_iff.2 ⟨hfirst, hlast⟩, ?_⟩
    rw [← hpoint]

end BorrowInUse

/-! ## Mixed borrows -/

namespace MixedBorrow

/-- The words behind the place, for an immutable or a mutable second borrow. -/
def closing (immutable : Bool) : String :=
  "` as " ++ (if immutable then "im" else "") ++ "mutable"

/-- The place is followed by the words for one of the two kinds of borrow. -/
def Closes (rest : String) : Prop :=
  ∃ immutable, StartsWith (closing immutable) rest

/-- **A place without the star before it,** unless the star is all there is. -/
inductive Unstarred : String → String → Prop where
  /-- The star alone. -/
  | star : Unstarred "*" "*"
  /-- A star and something behind it. -/
  | starred {place : String} (h : place ≠ "") : Unstarred ("*" ++ place) place
  /-- No star. -/
  | plain {place : String} (h : ¬ StartsWith "*" place) : Unstarred place place

theorem ofList_star_cons (chars : List Char) :
    String.ofList ('*' :: chars) = "*" ++ String.ofList chars := by
  have hstar : String.ofList ['*'] = "*" := rfl
  rw [← hstar, ← String.ofList_append]
  rfl

/-- A place loses its star as stated. -/
theorem unstarred_withoutStar (name : List Char) :
    Unstarred (String.ofList name) (String.ofList (withoutStar name)) := by
  unfold withoutStar
  split
  · next c rest =>
    rw [ofList_star_cons]
    exact .starred fun h => by simpa using congrArg String.toList h
  · next hplain =>
    by_cases hstar : name = ['*']
    · rw [hstar]
      exact .star
    · -- a name that began with a star would be one of those before
      refine .plain ?_
      rintro ⟨rest, hrest⟩
      have hchars : name = '*' :: rest.toList := by
        simpa using congrArg String.toList hrest
      match hbehind : rest.toList with
      | [] => exact hstar (by rw [hchars, hbehind])
      | c :: behind => exact hplain c behind (by rw [hchars, hbehind])

/-- A place loses its star in one way only. -/
theorem Unstarred.eq_withoutStar {name place : String} (h : Unstarred name place) :
    place = String.ofList (withoutStar name.toList) := by
  cases h with
  | star => rfl
  | starred hplace =>
    match hchars : place.toList with
    | [] => exact absurd (String.toList_eq_nil_iff.1 hchars) hplace
    | c :: rest =>
      have hname : ("*" ++ place).toList = '*' :: c :: rest := by
        rw [String.toList_append, hchars]
        rfl
      rw [hname, withoutStar, ← hchars, String.ofList_toList]
  | plain hplain =>
    unfold withoutStar
    split
    · next c rest hchars =>
      refine absurd ⟨String.ofList (c :: rest), ?_⟩ hplain
      rw [← ofList_star_cons, ← hchars, String.ofList_toList]
    · exact String.ofList_toList.symm

/-- What is required behind the place is looked for in the two forms that it has. -/
theorem closes_iff (chars : List Char) : closes chars = true ↔ Closes (String.ofList chars) := by
  rw [closes, Bool.or_eq_true, isPrefixOf_iff, isPrefixOf_iff, Closes, Bool.exists_bool, or_comm]
  rfl

/-- The words for an immutable borrow are not those for a mutable one. -/
theorem closing_unique {first second : Bool} {rest : String}
    (hfirst : StartsWith (closing first) rest) (hsecond : StartsWith (closing second) rest) :
    first = second := by
  have hclash : ∀ {rest}, StartsWith (closing true) rest → ¬ StartsWith (closing false) rest := by
    rintro _ ⟨tail, rfl⟩ ⟨other, hother⟩
    have hchars := congrArg String.toList hother
    rw [String.toList_append, String.toList_append] at hchars
    simp [closing] at hchars
  cases first with
  | true =>
    cases second with
    | true => rfl
    | false => exact absurd hsecond (hclash hfirst)
  | false =>
    cases second with
    | true => exact absurd hfirst (hclash hsecond)
    | false => rfl

/-- What is read from a message is made of the name behind the opening words. -/
theorem readMessage?_eq (message : String) :
    readMessage? message =
      (partBehind? "cannot borrow `" closes message.toList).map fun (place, rest) =>
        (String.ofList (withoutStar place), "` as immutable".toList.isPrefixOf rest) := by
  rw [readMessage?, partBehind?, Option.map_bind]
  rfl

/-- Where the words for a borrow stand, those for an immutable one are looked for. -/
theorem isPrefixOf_immutable_eq {immutable : Bool} {rest : List Char}
    (h : StartsWith (closing immutable) (String.ofList rest)) :
    "` as immutable".toList.isPrefixOf rest = immutable := by
  have hiff : "` as immutable".toList.isPrefixOf rest = true ↔
      StartsWith (closing true) (String.ofList rest) := isPrefixOf_iff
  cases immutable with
  | true => exact hiff.2 h
  | false =>
    rw [Bool.eq_false_iff, Ne, hiff]
    intro himmutable
    cases closing_unique himmutable h

/-- **The place and the kind of borrow read from a message.** -/
theorem readMessage?_eq_some_iff {message place : String} {immutable : Bool} :
    readMessage? message = some (place, immutable) ↔
      ∃ name, IsLongest (IsNamed "cannot borrow `" Closes message) name ∧
        IsNamed "cannot borrow `" (StartsWith (closing immutable)) message name ∧
        Unstarred name place := by
  rw [readMessage?_eq, Option.map_eq_some_iff]
  constructor
  · rintro ⟨⟨part, rest⟩, hfound, hmade⟩
    obtain ⟨rfl, rfl⟩ := Prod.mk.inj hmade
    rw [← String.toList_ofList (l := part), partBehind?_eq_some_iff closes_iff] at hfound
    obtain ⟨hlongest, htext⟩ := hfound
    obtain ⟨hname, behind, hbehind, kind, hkind⟩ := hlongest.holds
    -- what stands behind the name is determined by the text
    obtain rfl : String.ofList rest = behind :=
      (String.append_right_inj _).1 (htext.symm.trans hbehind)
    rw [isPrefixOf_immutable_eq hkind]
    exact ⟨String.ofList part, hlongest, ⟨hname, String.ofList rest, htext, hkind⟩,
      unstarred_withoutStar part⟩
  · rintro ⟨name, hlongest, ⟨-, rest, htext, hkind⟩, hunstarred⟩
    refine ⟨(name.toList, rest.toList), ?_, ?_⟩
    · rw [partBehind?_eq_some_iff closes_iff, String.ofList_toList]
      exact ⟨hlongest, htext⟩
    · rw [← String.ofList_toList (s := rest)] at hkind
      rw [hunstarred.eq_withoutStar, ← isPrefixOf_immutable_eq hkind]

/-- A place is read from a message exactly if it names one. -/
theorem isSome_readMessage?_iff {message : String} :
    (readMessage? message).isSome = true ↔
      ∃ name, IsNamed "cannot borrow `" Closes message name := by
  rw [readMessage?_eq, Option.isSome_map]
  exact isSome_partBehind?_iff closes_iff

/-- **A report on a mixed borrow.** The message names a place between the opening words and those
for one of the two kinds of borrow. The longest name counts; it loses its star. Two related places
say over which lines the place is borrowed. -/
def IsReport (d : Diagnostic) (outcome : Outcome MixedBorrow) : Prop :=
  outcome.IsReading (∃ name, IsNamed "cannot borrow `" Closes d.message name)
    ((∃ place ∈ d.related, place.Ends "borrow occurs here") ∧
      ∃ place ∈ d.related, place.Ends "borrow later used here")
    fun facts =>
      (∃ name, IsLongest (IsNamed "cannot borrow `" Closes d.message) name ∧
        IsNamed "cannot borrow `" (StartsWith (closing facts.immutable)) d.message name ∧
        Unstarred name facts.borrow.place) ∧
      (∃ place, IsFirst (Related.Ends "borrow occurs here") d.related place ∧
        facts.borrow.first = place.span.start.line) ∧
      (∃ place, IsFirst (Related.Ends "borrow later used here") d.related place ∧
        facts.borrow.last = place.span.stop.line) ∧
      facts.borrow.point = d.line

/-- **What is read of a mixed borrow** is what is reported of it. -/
theorem isReport_read (d : Diagnostic) : IsReport d (read d) := by
  refine Outcome.isReading_bind isSome_readMessage?_iff Diagnostic.isSome_regionBetween?_iff ?_
  intro facts
  constructor
  · rintro ⟨⟨place, immutable⟩, ⟨first, last⟩, hmessage, hregion, rfl⟩
    obtain ⟨hfirst, hlast⟩ := Diagnostic.regionBetween?_eq_some_iff.1 hregion
    exact ⟨readMessage?_eq_some_iff.1 hmessage, hfirst, hlast, rfl⟩
  · rintro ⟨hmessage, hfirst, hlast, hpoint⟩
    refine ⟨(facts.borrow.place, facts.immutable), (facts.borrow.first, facts.borrow.last),
      readMessage?_eq_some_iff.2 hmessage,
      Diagnostic.regionBetween?_eq_some_iff.2 ⟨hfirst, hlast⟩, ?_⟩
    rw [← hpoint]

end MixedBorrow

/-! ## Escaping closures -/

namespace EscapingClosure

/-- **A report on an escaping closure.** The message names a variable between fixed words, and the
longest name counts; no related place is required. -/
def IsReport (d : Diagnostic) (outcome : Outcome EscapingClosure) : Prop :=
  outcome.IsReading
    (∃ name, IsNamed "closure may outlive the current function, but it borrows `"
      (StartsWith "`,") d.message name)
    True
    fun facts =>
      IsLongest (IsNamed "closure may outlive the current function, but it borrows `"
        (StartsWith "`,") d.message) facts.variableName ∧
      facts.line = d.line

/-- **What is read of an escaping closure** is what is reported of it. -/
theorem isReport_read (d : Diagnostic) : IsReport d (read d) := by
  rw [read, Outcome.map_ofOptionOr]
  refine Outcome.isReading_ofOptionOr ?_ fun facts => ?_
  · rw [Option.isSome_map]
    exact isSome_placeBetween?_iff
  · rw [Option.map_eq_some_iff]
    constructor
    · rintro ⟨name, hname, rfl⟩
      exact ⟨placeBetween?_eq_some_iff.1 hname, rfl⟩
    · rintro ⟨hname, hline⟩
      refine ⟨facts.variableName, placeBetween?_eq_some_iff.2 hname, ?_⟩
      rw [← hline]

end EscapingClosure

/-! ## All reports of this kind -/

/-- **What is read of the reports with fixed openings** is what their grammar says, for every
diagnostic: of an escaping closure; of a place that is used, moved, assigned to or borrowed again
while it is borrowed; and of a mixed borrow. -/
theorem read_of_opening (d : Diagnostic) :
    EscapingClosure.IsReport d (EscapingClosure.read d) ∧
    BorrowInUse.IsReport
      ⟨"cannot borrow `", "` as mutable more than once at a time",
        "first mutable borrow occurs here", "first borrow later used here"⟩
      d (SecondBorrow.read d) ∧
    BorrowInUse.IsReport
      ⟨"cannot use `", "` because it was mutably borrowed",
        "is borrowed here", "borrow later used here"⟩
      d (UseDuringBorrow.read d) ∧
    BorrowInUse.IsReport
      ⟨"cannot move out of `", "` because it is borrowed",
        "is borrowed here", "borrow later used here"⟩
      d (MoveDuringBorrow.read d) ∧
    BorrowInUse.IsReport
      ⟨"cannot assign to `", "` because it is borrowed",
        "is borrowed here", "borrow later used here"⟩
      d (AssignDuringBorrow.read d) ∧
    MixedBorrow.IsReport d (MixedBorrow.read d) := by
  refine ⟨EscapingClosure.isReport_read d, ?_, ?_, ?_, ?_, MixedBorrow.isReport_read d⟩
  · exact BorrowInUse.isReport_read SecondBorrow.wording d
  · exact BorrowInUse.isReport_read UseDuringBorrow.wording d
  · exact BorrowInUse.isReport_read MoveDuringBorrow.wording d
  · exact BorrowInUse.isReport_read AssignDuringBorrow.wording d

end BorrowSketch
