import BorrowSketch.Document.Basic
import Mathlib.Data.List.Basic

/-! # Lines

What the lines of a text are depends on what ends a line. A carriage return, a line feed and both
together end a line everywhere; documents are cut at further characters besides, and keep these in
the line that they end.

* **`Document.IsFurtherBreak`** — the further characters at which documents are cut.
* **`Document.IsCut`** — the lines of a text with their ends, told without cutting.
* **`Document.cut`**, **`Document.isCut_iff`** — cutting, and that there is one way to do it.
* **`Document.length_cut`** — each further character makes one more line.
* **`Document.pieces_eq`**, **`Document.view_text?_eq`** — the lines of a document.
* **`Document.view_of_cut`** — when these are the lines that end as they do everywhere. -/

namespace BorrowSketch
namespace Document

/-- The characters that end a line in documents, but not everywhere. -/
def IsFurtherBreak (c : Char) : Prop :=
  c = '\x0b' ∨ c = '\x0c' ∨ c = '\u0085' ∨ c = '\u2028' ∨ c = '\u2029'

instance : DecidablePred IsFurtherBreak := fun c => by
  unfold IsFurtherBreak; infer_instance

/-- A line of a text and what ends it; nothing ends the last line. -/
structure Line where
  /-- The characters before the end. -/
  chars : List Char
  /-- The end. -/
  ending : List Char
deriving DecidableEq

/-- The line with its end. -/
def Line.whole (line : Line) : List Char :=
  line.chars ++ line.ending

/-! ## Lines without cutting -/

section Cut

variable {more : Char → Prop}

/-- A carriage return, a line feed, or one of some more characters. -/
def Breaks (more : Char → Prop) (c : Char) : Prop :=
  c = '\n' ∨ c = '\r' ∨ more c

instance [DecidablePred more] : DecidablePred (Breaks more) := fun c => by
  unfold Breaks; infer_instance

/-- The characters are those that end a line everywhere, and some more. -/
theorem breaks_iff {c : Char} : Breaks more c ↔ Breaks (fun _ => False) c ∨ more c := by
  unfold Breaks
  tauto

/-- What ends a line when it stands before the rest of a text: one of the characters, or a carriage
return and a line feed, which are never taken apart. -/
inductive IsEnd (more : Char → Prop) (rest : List Char) : List Char → Prop where
  /-- A carriage return and a line feed. -/
  | pair : IsEnd more rest ['\r', '\n']
  /-- One character that is not the first half of a pair. -/
  | single {c : Char} (hbreaks : Breaks more c) (hpair : c = '\r' → rest.head? ≠ some '\n') :
    IsEnd more rest [c]

/-- **The lines of a text.** Each line but the last has an end, and none has a character in it that
ends lines. -/
inductive IsCut (more : Char → Prop) : List Char → List Line → Prop where
  /-- The last line is what is left. -/
  | last {chars : List Char} (hchars : ∀ c ∈ chars, ¬ Breaks more c) :
    IsCut more chars [⟨chars, []⟩]
  /-- A line and its end stand before the rest. -/
  | next {chars ending rest : List Char} {lines : List Line}
      (hchars : ∀ c ∈ chars, ¬ Breaks more c) (hending : IsEnd more rest ending)
      (hrest : IsCut more rest lines) :
    IsCut more (chars ++ (ending ++ rest)) (⟨chars, ending⟩ :: lines)

/-- The lines with their ends make up the text. -/
theorem IsCut.flatMap_whole {text : List Char} {lines : List Line} (h : IsCut more text lines) :
    lines.flatMap Line.whole = text := by
  induction h with
  | last => simp [Line.whole]
  | next _ _ _ ih => simp [Line.whole, ih]

/-- An end in front of a text makes an empty line. -/
theorem IsCut.consEnd {ending rest : List Char} {lines : List Line} (h : IsCut more rest lines)
    (hending : IsEnd more rest ending) : IsCut more (ending ++ rest) (⟨[], ending⟩ :: lines) :=
  .next (List.forall_mem_nil _) hending h

/-! ## Cutting -/

/-- Put a character in front of the first of a list of lines. -/
def pushFirst (c : Char) : List Line → List Line
  | [] => []
  | line :: lines => { line with chars := c :: line.chars } :: lines

/-- A character that ends no line can be put in front of the first line. -/
theorem IsCut.pushFirst {c : Char} {text : List Char} {lines : List Line} (hc : ¬ Breaks more c)
    (h : IsCut more text lines) : IsCut more (c :: text) (Document.pushFirst c lines) := by
  cases h with
  | last hchars => exact .last (List.forall_mem_cons.2 ⟨hc, hchars⟩)
  | next hchars hending hrest => exact .next (List.forall_mem_cons.2 ⟨hc, hchars⟩) hending hrest

/-- The lines of a text. -/
def cut (more : Char → Prop) [DecidablePred more] : List Char → List Line
  | [] => [⟨[], []⟩]
  | '\r' :: '\n' :: rest => ⟨[], ['\r', '\n']⟩ :: cut more rest
  | c :: rest => if Breaks more c then ⟨[], [c]⟩ :: cut more rest else pushFirst c (cut more rest)

variable [DecidablePred more]

/-- Two ways to say that a character is not the first half of a pair. -/
theorem not_pair_iff {c : Char} {rest : List Char} :
    (∀ tail, c = '\r' → rest = '\n' :: tail → False) ↔ (c = '\r' → rest.head? ≠ some '\n') := by
  simp only [ne_eq, List.head?_eq_some_iff, not_exists]
  exact ⟨fun h hreturn tail => h tail hreturn, fun h tail hreturn => h hreturn tail⟩

/-- A character that is not the first half of a pair is looked at alone. -/
theorem cut_cons {c : Char} {rest : List Char} (h : c = '\r' → rest.head? ≠ some '\n') :
    cut more (c :: rest) =
      if Breaks more c then ⟨[], [c]⟩ :: cut more rest else pushFirst c (cut more rest) := by
  rw [cut]
  exact not_pair_iff.2 h

/-- A character that ends no line goes to the line that follows. -/
theorem cut_cons_of_not_breaks {c : Char} (h : ¬ Breaks more c) (rest : List Char) :
    cut more (c :: rest) = pushFirst c (cut more rest) := by
  rw [cut_cons fun hreturn => absurd (.inr (.inl hreturn)) h, if_neg h]

/-- An end in front of a text makes an empty line. -/
theorem cut_append_of_isEnd {ending rest : List Char} (h : IsEnd more rest ending) :
    cut more (ending ++ rest) = ⟨[], ending⟩ :: cut more rest := by
  cases h with
  | pair => rfl
  | single hbreaks hpair =>
    rw [List.singleton_append, cut_cons hpair, if_pos hbreaks]

/-- Characters that end no line go to the line that follows. -/
theorem cut_append {chars rest : List Char} {line : Line} {lines : List Line}
    (hchars : ∀ c ∈ chars, ¬ Breaks more c) (hrest : cut more rest = line :: lines) :
    cut more (chars ++ rest) = { line with chars := chars ++ line.chars } :: lines := by
  induction chars with
  | nil => exact hrest
  | cons c chars ih =>
    rw [List.cons_append, cut_cons_of_not_breaks (hchars c List.mem_cons_self),
      ih fun other hother => hchars other (List.mem_cons_of_mem c hother)]
    rfl

/-- There is no other way to cut a text. -/
theorem IsCut.eq_cut {text : List Char} {lines : List Line} (h : IsCut more text lines) :
    lines = cut more text := by
  induction h with
  | @last chars hchars =>
    have hlast := cut_append hchars (show cut more [] = [⟨[], []⟩] from rfl)
    simpa using hlast.symm
  | @next chars ending rest lines hchars hending _ ih =>
    rw [cut_append hchars (cut_append_of_isEnd hending), ← ih, List.append_nil]

/-- Cutting gives the lines of a text. -/
theorem isCut_cut (more : Char → Prop) [DecidablePred more] (text : List Char) :
    IsCut more text (cut more text) := by
  -- the end of the text, a pair, a character that ends a line, and any other
  fun_induction cut more text with
  | case1 => exact .last (List.forall_mem_nil _)
  | case2 rest ih => exact ih.consEnd .pair
  | case3 c rest hpair hbreaks ih => exact ih.consEnd (.single hbreaks (not_pair_iff.1 hpair))
  | case4 c rest hpair hbreaks ih => exact ih.pushFirst hbreaks

/-- **There is one way to cut a text.** -/
theorem isCut_iff {text : List Char} {lines : List Line} :
    IsCut more text lines ↔ lines = cut more text :=
  ⟨IsCut.eq_cut, fun h => h ▸ isCut_cut more text⟩

/-- Every text has a first line. -/
theorem exists_cut_eq_cons (more : Char → Prop) [DecidablePred more] (text : List Char) :
    ∃ line lines, cut more text = line :: lines := by
  have hcut := isCut_cut more text
  generalize cut more text = lines at hcut
  cases hcut with
  | last => exact ⟨_, _, rfl⟩
  | next => exact ⟨_, _, rfl⟩

/-- Only the characters of a text matter for how it is cut. -/
theorem cut_congr {other : Char → Prop} [DecidablePred other] {text : List Char}
    (h : ∀ c ∈ text, more c ↔ other c) : cut more text = cut other text := by
  -- the two walk along the text together, since they end a line at the same characters
  fun_induction cut more text with
  | case1 => rfl
  | case2 rest ih =>
    rw [ih fun c hc => h c (List.mem_cons_of_mem _ (List.mem_cons_of_mem _ hc))]
    rfl
  | case3 c rest hpair hbreaks ih =>
    have hother : Breaks other c := by
      rwa [Breaks, ← h c List.mem_cons_self]
    rw [cut_cons (not_pair_iff.1 hpair), if_pos hother,
      ih fun d hd => h d (List.mem_cons_of_mem c hd)]
  | case4 c rest hpair hbreaks ih =>
    have hother : ¬ Breaks other c := by
      rwa [Breaks, ← h c List.mem_cons_self]
    rw [cut_cons_of_not_breaks hother, ih fun d hd => h d (List.mem_cons_of_mem c hd)]

@[simp] theorem length_pushFirst (c : Char) (lines : List Line) :
    (pushFirst c lines).length = lines.length := by
  cases lines <;> rfl

/-- **Each further character makes one more line.** -/
theorem length_cut (h : ∀ c, more c → c ≠ '\n' ∧ c ≠ '\r') (text : List Char) :
    (cut more text).length =
      (cut (fun _ => False) text).length + text.countP fun c => decide (more c) := by
  fun_induction cut more text with
  | case1 => rfl
  | case2 rest ih =>
    -- neither half of a pair is one of the further characters
    have hreturn : ¬ more '\r' := fun hc => (h _ hc).2 rfl
    have hfeed : ¬ more '\n' := fun hc => (h _ hc).1 rfl
    simp only [cut, List.length_cons, ih, List.countP_cons, hreturn, hfeed]
    simp only [decide_false, Bool.false_eq_true, if_false]
    omega
  | case3 c rest hpair hbreaks ih =>
    rw [List.length_cons, ih, cut_cons (not_pair_iff.1 hpair), List.countP_cons]
    by_cases hc : more c
    · -- a further character makes a line of its own here, and goes to the next line there
      have hnot : ¬ Breaks (fun _ => False) c := by
        simp [Breaks, (h c hc).1, (h c hc).2]
      rw [if_neg hnot, length_pushFirst, if_pos (decide_eq_true hc)]
      omega
    · rw [if_pos ((breaks_iff.1 hbreaks).resolve_right hc), List.length_cons,
        if_neg (by simp [hc])]
      omega
  | case4 c rest hpair hbreaks ih =>
    rw [breaks_iff, not_or] at hbreaks
    rw [length_pushFirst, ih, cut_cons_of_not_breaks hbreaks.1, length_pushFirst, List.countP_cons,
      if_neg (by simp [hbreaks.2]), Nat.add_zero]

end Cut

/-! ## The lines of documents -/

/-- Documents are cut at carriage returns, line feeds and the further characters. -/
theorem breaks_isFurtherBreak_iff {c : Char} : Breaks IsFurtherBreak c ↔ IsLineBreak c := by
  unfold Breaks IsFurtherBreak IsLineBreak
  tauto

/-- The further characters are neither of the two that end a line everywhere. -/
theorem ne_of_isFurtherBreak {c : Char} (h : IsFurtherBreak c) : c ≠ '\n' ∧ c ≠ '\r' := by
  rcases h with rfl | rfl | rfl | rfl | rfl <;> decide

/-- What a document keeps of a line: the further characters stay, also if they end it. -/
def Line.kept (line : Line) : List Char :=
  line.chars ++ line.ending.filter fun c => decide (IsFurtherBreak c)

/-- The pieces of a text are its lines with their ends. -/
theorem pieces_eq (text : List Char) :
    pieces text = (cut IsFurtherBreak text).map Line.whole := by
  fun_induction pieces text with
  | case1 => rfl
  | case2 rest ih =>
    rw [ih]
    rfl
  | case3 c rest hpair hbreak ih =>
    rw [cut_cons (not_pair_iff.1 hpair), if_pos (breaks_isFurtherBreak_iff.2 hbreak), ih]
    rfl
  | case4 c rest hpair hbreak ih =>
    -- there is a first line for the character to go to
    rw [cut_cons_of_not_breaks (mt breaks_isFurtherBreak_iff.1 hbreak), ih]
    obtain ⟨line, lines, hcut⟩ := exists_cut_eq_cons IsFurtherBreak rest
    rw [hcut]
    rfl

/-- Without one of the characters in it, nothing is taken off a line. -/
theorem withoutEnd_of_not_breaks {chars : List Char}
    (h : ∀ c ∈ chars, ¬ Breaks IsFurtherBreak c) : withoutEnd chars = chars := by
  have hfeed : chars.getLast? ≠ some '\n' := fun hlast =>
    h '\n' (List.mem_of_getLast? hlast) (.inl rfl)
  have hreturn : chars.getLast? ≠ some '\r' := fun hlast =>
    h '\r' (List.mem_of_getLast? hlast) (.inr (.inl rfl))
  simp only [withoutEnd, if_neg hfeed, if_neg hreturn]

/-- Of the end of a line, a carriage return and a line feed are taken off. -/
theorem withoutEnd_append_of_isEnd {chars ending rest : List Char}
    (h : ∀ c ∈ chars, ¬ Breaks IsFurtherBreak c) (hending : IsEnd IsFurtherBreak rest ending) :
    withoutEnd (chars ++ ending) = Line.kept ⟨chars, ending⟩ := by
  cases hending with
  | pair =>
    rw [List.append_cons]
    simp [withoutEnd, Line.kept, IsFurtherBreak]
  | @single c hbreaks hpair =>
    -- once a line feed is gone, no carriage return stands before it
    have hreturn : chars.getLast? ≠ some '\r' := fun hlast =>
      h '\r' (List.mem_of_getLast? hlast) (.inr (.inl rfl))
    rcases hbreaks with rfl | rfl | hmore
    · simp [withoutEnd, Line.kept, IsFurtherBreak, hreturn]
    · simp [withoutEnd, Line.kept, IsFurtherBreak]
    · obtain ⟨hfeed, hreturn⟩ := ne_of_isFurtherBreak hmore
      simp [withoutEnd, Line.kept, hmore, hfeed, hreturn]

/-- Taking the ends off leaves what a document keeps. -/
theorem IsCut.map_withoutEnd {text : List Char} {lines : List Line}
    (h : IsCut IsFurtherBreak text lines) :
    lines.map (fun line => withoutEnd line.whole) = lines.map Line.kept := by
  induction h with
  | last hchars => simp [Line.whole, Line.kept, withoutEnd_of_not_breaks hchars]
  | next hchars hending _ ih =>
    rw [List.map_cons, List.map_cons, ih, Line.whole, withoutEnd_append_of_isEnd hchars hending]

/-- **The lines of a document.** -/
theorem view_text?_eq (document : Document) (l : Nat) :
    document.view.text? l =
      ((cut IsFurtherBreak document.text.toList)[l]?).map fun line => String.ofList line.kept := by
  have hkept := (isCut_cut IsFurtherBreak document.text.toList).map_withoutEnd
  have hlines : document.linePieces.map (fun piece => String.ofList (withoutEnd piece)) =
      (cut IsFurtherBreak document.text.toList).map fun line => String.ofList line.kept := by
    have htexts := congrArg (List.map String.ofList) hkept
    rw [linePieces, pieces_eq]
    simpa only [List.map_map, Function.comp_def] using htexts
  simp only [view, List.getElem?_toArray, hlines, List.getElem?_map]

/-- Nothing is kept of the ends of lines in a text without the further characters. -/
theorem IsCut.kept_eq {more : Char → Prop} {text : List Char} {lines : List Line}
    (h : IsCut more text lines) (htext : ∀ c ∈ text, ¬ IsFurtherBreak c) {line : Line}
    (hline : line ∈ lines) : line.kept = line.chars := by
  have hnone : line.ending.filter (fun c => decide (IsFurtherBreak c)) = [] := by
    refine List.filter_eq_nil_iff.2 fun c hc => ?_
    have hmem : c ∈ text := by
      rw [← h.flatMap_whole]
      exact List.mem_flatMap.2 ⟨line, hline, List.mem_append_right _ hc⟩
    simpa using htext c hmem
  rw [Line.kept, hnone, List.append_nil]

/-- **The lines of a document and those of its text.** There is one way to cut a text where lines
end everywhere, and its lines with their ends make up the text. The lines of the document are these
exactly if the text has none of the further characters; each of them makes one more line. In general
they are the lines of a text that is cut at the further characters as well, of which there is again
one way, and a line that ends with such a character keeps it. -/
theorem view_of_cut (document : Document) :
    let text := document.text.toList
    ∃ lines, (∀ other, IsCut (fun _ => False) text other ↔ other = lines) ∧
      lines.flatMap Line.whole = text ∧
      ((∀ l, document.view.text? l = (lines[l]?).map fun line => String.ofList line.chars) ↔
        ∀ c ∈ text, ¬ IsFurtherBreak c) ∧
      document.view.count = lines.length + text.countP (fun c => decide (IsFurtherBreak c)) ∧
      ∃ all, (∀ other, IsCut IsFurtherBreak text other ↔ other = all) ∧
        ∀ l, document.view.text? l = (all[l]?).map fun line => String.ofList line.kept := by
  intro text
  have hlength : (cut IsFurtherBreak text).length = (cut (fun _ => False) text).length +
      text.countP fun c => decide (IsFurtherBreak c) :=
    length_cut (fun _ => ne_of_isFurtherBreak) text
  refine ⟨cut (fun _ => False) text, fun _ => isCut_iff, (isCut_cut _ text).flatMap_whole,
    ⟨fun h => ?_, fun h l => ?_⟩, ?_, cut IsFurtherBreak text, fun _ => isCut_iff,
    view_text?_eq document⟩
  · -- the same lines are as many, and each of the further characters would make one more
    have hsame : (cut IsFurtherBreak text).map (fun line => String.ofList line.kept) =
        (cut (fun _ => False) text).map fun line => String.ofList line.chars := by
      refine List.ext_getElem? fun l => ?_
      rw [List.getElem?_map, List.getElem?_map, ← view_text?_eq, h]
    have hcount : (cut IsFurtherBreak text).length = (cut (fun _ => False) text).length := by
      simpa only [List.length_map] using congrArg List.length hsame
    have hzero : text.countP (fun c => decide (IsFurtherBreak c)) = 0 := by omega
    simpa using List.countP_eq_zero.1 hzero
  · have hcut : cut IsFurtherBreak text = cut (fun _ => False) text :=
      cut_congr fun c hc => iff_of_false (h c hc) id
    rw [view_text?_eq, hcut]
    refine Option.map_congr fun line hline => ?_
    rw [(isCut_cut _ text).kept_eq h (List.mem_of_getElem? hline)]
  · rw [← hlength, view, linePieces, pieces_eq]
    simp [text]

/-- A vertical tab is a character like any other where lines end everywhere, and ends a line of a
document. -/
theorem view_text?_tab :
    IsCut (fun _ => False) "a\x0bb".toList [⟨"a\x0bb".toList, []⟩] ∧
    (Document.mk "a\x0bb").view.text? 0 ≠ some "a\x0bb" ∧
    (Document.mk "a\x0bb").view.text? 1 = some "b" :=
  ⟨isCut_iff.2 (by decide), by decide, by decide⟩

end Document
end BorrowSketch
