import BorrowSketch.Proofs.Document.Lines

/-! # Insertions

A text is inserted at an offset in a line, and the lines are told anew from the text that results.
As long as nothing inserted ends a line, they are the lines from before, one of them longer: what
stands in front of a carriage return or a line feed can neither part the two nor bring them
together.

* **`Text.splice`** — a text with another inserted at an offset.
* **`Document.StartsAt`** — the offset in the text at which a line starts.
* **`Document.IsCut.replace`** — the lines of a text after a change of one of them.
* **`Document.isSome_insert?_iff`** — which positions there are.
* **`Document.view_of_insert?`** — what an insertion does to the text and to its lines. -/

namespace BorrowSketch

/-- A text with another inserted at an offset. -/
def Text.splice (chars inserted : List Char) (offset : Nat) : List Char :=
  chars.take offset ++ inserted ++ chars.drop offset

namespace Text

variable {chars inserted : List Char} {offset : Nat}

/-- What is inserted, and what was there before. -/
theorem mem_splice_iff {c : Char} :
    c ∈ splice chars inserted offset ↔ c ∈ chars ∨ c ∈ inserted := by
  have htaken := congrArg (c ∈ ·) (List.take_append_drop offset chars)
  simp only [List.mem_append, eq_iff_iff] at htaken
  rw [splice, List.mem_append, List.mem_append, ← htaken]
  tauto

/-- Nothing is lost. -/
theorem eq_nil_of_splice_eq_nil (h : splice chars inserted offset = []) : chars = [] := by
  refine List.eq_nil_iff_forall_not_mem.2 fun c hc => ?_
  have hmem : c ∈ splice chars inserted offset := mem_splice_iff.2 (.inl hc)
  rw [h] at hmem
  exact List.not_mem_nil hmem

/-- An insertion into the middle one of three parts. -/
theorem splice_append (first last : List Char) (h : offset ≤ chars.length) :
    splice (first ++ (chars ++ last)) inserted (first.length + offset) =
      first ++ (splice chars inserted offset ++ last) := by
  rw [splice, List.take_append, List.drop_append, List.take_of_length_le (by omega),
    List.drop_of_length_le (by omega), Nat.add_sub_cancel_left, List.take_append_of_le_length h,
    List.drop_append_of_le_length h, splice]
  simp

end Text

namespace Document

/-! ## One line changed -/

section Replace

variable {more : Char → Prop}

/-- A first line is the whole text, or it stands with its end before the rest. -/
theorem isCut_cons_iff {text : List Char} {line : Line} {lines : List Line} :
    IsCut more text (line :: lines) ↔ (∀ c ∈ line.chars, ¬ Breaks more c) ∧
      (lines = [] ∧ line.ending = [] ∧ text = line.chars ∨
        ∃ rest, IsEnd more rest line.ending ∧ IsCut more rest lines ∧
          text = line.whole ++ rest) := by
  constructor
  · intro h
    cases h with
    | last hchars => exact ⟨hchars, .inl ⟨rfl, rfl, rfl⟩⟩
    | next hchars hending hrest =>
      exact ⟨hchars, .inr ⟨_, hending, hrest, (List.append_assoc ..).symm⟩⟩
  · obtain ⟨chars, ending⟩ := line
    rintro ⟨hchars, ⟨rfl, rfl, rfl⟩ | ⟨rest, hending, hrest, rfl⟩⟩
    · exact .last hchars
    · rw [Line.whole, List.append_assoc]
      exact .next hchars hending hrest

/-- No line has a character in it that ends lines. -/
theorem IsCut.not_breaks {text : List Char} {lines : List Line} {line : Line}
    (h : IsCut more text lines) (hline : line ∈ lines) : ∀ c ∈ line.chars, ¬ Breaks more c := by
  induction h with
  | last hchars => exact List.mem_singleton.1 hline ▸ hchars
  | next hchars _ _ ih =>
    rcases List.mem_cons.1 hline with rfl | hline
    · exact hchars
    · exact ih hline

/-- Every end has a character. -/
theorem IsEnd.ne_nil {rest ending : List Char} (h : IsEnd more rest ending) : ending ≠ [] := by
  cases h <;> exact List.cons_ne_nil _ _

/-- An end stays one before another rest, unless that one starts with a line feed. -/
theorem IsEnd.of_head? {rest other ending : List Char} (h : IsEnd more rest ending)
    (hother : other.head? = some '\n' → rest.head? = some '\n') : IsEnd more other ending := by
  cases h with
  | pair => exact .pair
  | single hbreaks hpair => exact .single hbreaks fun hreturn => mt hother (hpair hreturn)

/-- **One line changed.** When a line has other characters, of which none ends a line, all lines
before and behind it are as they were. It must not become empty, or the carriage return before it
and the line feed behind it would come together. -/
theorem IsCut.replace {text chars : List Char} {before behind : List Line} {line : Line}
    (h : IsCut more text (before ++ line :: behind)) (hchars : ∀ c ∈ chars, ¬ Breaks more c)
    (hempty : chars = [] → line.chars = []) :
    IsCut more ((before ++ { line with chars := chars } :: behind).flatMap Line.whole)
      (before ++ { line with chars := chars } :: behind) := by
  -- a line feed at the start of the new text has to be carried along for the end before it
  suffices hboth : IsCut more
      ((before ++ { line with chars := chars } :: behind).flatMap Line.whole)
      (before ++ { line with chars := chars } :: behind) ∧
      (((before ++ { line with chars := chars } :: behind).flatMap Line.whole).head? = some '\n' →
        text.head? = some '\n') from hboth.1
  induction before generalizing text with
  | nil =>
    obtain ⟨-, hline⟩ := isCut_cons_iff.1 h
    have hfeed : ((chars ++ line.ending) ++ behind.flatMap Line.whole).head? = some '\n' →
        text.head? = some '\n' := by
      rw [← h.flatMap_whole]
      cases chars with
      | nil => simp [Line.whole, hempty rfl]
      | cons c chars =>
        intro hhead
        obtain rfl : c = '\n' := by simpa using hhead
        exact absurd (.inl rfl) (hchars '\n' List.mem_cons_self)
    refine ⟨isCut_cons_iff.2 ⟨hchars, ?_⟩, hfeed⟩
    rcases hline with ⟨rfl, hending, -⟩ | ⟨rest, hending, hrest, -⟩
    · exact .inl ⟨rfl, hending, by simp [Line.whole, hending]⟩
    · refine .inr ⟨rest, hending, hrest, ?_⟩
      rw [List.nil_append, List.flatMap_cons, hrest.flatMap_whole]
  | cons first before ih =>
    obtain ⟨hfirst, ⟨hnil, -⟩ | ⟨rest, hending, hrest, rfl⟩⟩ := isCut_cons_iff.1 h
    · simp at hnil
    · obtain ⟨hcut, hfeed⟩ := ih hrest
      refine ⟨isCut_cons_iff.2 ⟨hfirst, .inr ⟨_, hending.of_head? hfeed, hcut, rfl⟩⟩, ?_⟩
      -- the first character of the text is one of the first line or of its end
      have hwhole : first.whole ≠ [] := fun hnil =>
        hending.ne_nil (List.append_eq_nil_iff.1 hnil).2
      rw [List.cons_append, List.flatMap_cons, List.head?_append_of_ne_nil _ hwhole,
        List.head?_append_of_ne_nil _ hwhole]
      exact id

end Replace

/-! ## Positions -/

variable {document edited : Document} {position : Position} {inserted : String}

/-- **A line starts at an offset:** the lines before it, with their ends, take up as much. -/
def StartsAt (document : Document) (l offset : Nat) : Prop :=
  ∃ before line behind, IsCut IsFurtherBreak document.text.toList (before ++ line :: behind) ∧
    before.length = l ∧ (before.flatMap Line.whole).length = offset

/-- The lines of a document, with their ends taken off. -/
theorem view_text?_eq_lineChars? (document : Document) (l : Nat) :
    document.view.text? l = (document.lineChars? l).map String.ofList := by
  simp [view, lineChars?, Function.comp_def]

/-- The number of lines of a document. -/
theorem view_count_eq (document : Document) :
    document.view.count = (cut IsFurtherBreak document.text.toList).length := by
  simp [view, linePieces, pieces_eq]

/-- An insertion is made if the line has characters up to the offset. -/
theorem insert?_eq (document : Document) (position : Position) (inserted : String) :
    document.insert? position inserted =
      (document.view.text? position.line).bind fun text =>
        if position.character ≤ text.length then
          some ⟨String.ofList (Text.splice document.text.toList inserted.toList
            (document.lineOffset position.line + position.character))⟩
        else none := by
  rw [insert?, view_text?_eq_lineChars?, Option.bind_map]
  simp only [Function.comp_def, String.length_ofList]
  rfl

/-- **Which positions there are:** the line exists, and the offset is not past its last
character. -/
theorem isSome_insert?_iff :
    (document.insert? position inserted).isSome ↔
      ∃ text, document.view.text? position.line = some text ∧
        position.character ≤ text.length := by
  rw [insert?_eq]
  cases document.view.text? position.line with
  | none => simp
  | some text => by_cases h : position.character ≤ text.length <;> simp [h]

/-- A line that exists, between those before and those behind it. -/
theorem exists_cut_eq_append {text : String} {l : Nat} (h : document.view.text? l = some text) :
    ∃ before line behind, cut IsFurtherBreak document.text.toList = before ++ line :: behind ∧
      before.length = l ∧ text = String.ofList line.kept := by
  rw [view_text?_eq] at h
  obtain ⟨line, hline, rfl⟩ := Option.map_eq_some_iff.1 h
  obtain ⟨hlt, rfl⟩ := List.getElem?_eq_some_iff.1 hline
  have hsplit := List.take_append_drop l (cut IsFurtherBreak document.text.toList)
  rw [List.drop_eq_getElem_cons hlt] at hsplit
  exact ⟨_, _, _, hsplit.symm, List.length_take_of_le (Nat.le_of_lt hlt), rfl⟩

section Edited

variable {before behind : List Line} {line : Line}

/-- An insertion takes place behind the lines before. -/
theorem insert?_eq_some (h : cut IsFurtherBreak document.text.toList = before ++ line :: behind)
    (hline : before.length = position.line) (hoffset : position.character ≤ line.kept.length) :
    document.insert? position inserted =
      some ⟨String.ofList (Text.splice document.text.toList inserted.toList
        ((before.flatMap Line.whole).length + position.character))⟩ := by
  have htext : document.view.text? position.line = some (String.ofList line.kept) := by
    rw [view_text?_eq, h, ← hline, List.getElem?_append_right (Nat.le_refl _), Nat.sub_self]
    rfl
  have hstart : document.lineOffset position.line = (before.flatMap Line.whole).length := by
    rw [lineOffset, linePieces, pieces_eq, h, List.map_append, ← hline,
      List.take_left' (List.length_map _), List.flatMap_def]
  rw [insert?_eq, htext, Option.bind_some, String.length_ofList, if_pos hoffset, hstart]

/-! ## Lines after an insertion -/

/-- Without a character that ends lines in what is kept of a line, that is what stands before its
end, and nothing is kept of the end. -/
theorem Line.kept_eq_chars (h : ∀ c ∈ line.kept, ¬ IsLineBreak c) :
    line.ending.filter (fun c => decide (IsFurtherBreak c)) = [] ∧ line.kept = line.chars := by
  have hnone : line.ending.filter (fun c => decide (IsFurtherBreak c)) = [] := by
    refine List.eq_nil_iff_forall_not_mem.2 fun c hc => h c (List.mem_append_right _ hc) ?_
    exact breaks_isFurtherBreak_iff.1 (.inr (.inr (of_decide_eq_true (List.mem_filter.1 hc).2)))
  exact ⟨hnone, by rw [kept, hnone, List.append_nil]⟩

/-- **The cut after an insertion** is the one before with one line changed, if the insertion is made
before the end of that line and has no character that ends lines. -/
theorem cut_splice {chars : List Char} {offset : Nat}
    (h : cut IsFurtherBreak document.text.toList = before ++ line :: behind)
    (hchars : ∀ c ∈ chars, ¬ IsLineBreak c) (hoffset : offset ≤ line.chars.length) :
    cut IsFurtherBreak (Text.splice document.text.toList chars
        ((before.flatMap Line.whole).length + offset)) =
      before ++ { line with chars := Text.splice line.chars chars offset } :: behind := by
  have hcut : IsCut IsFurtherBreak document.text.toList (before ++ line :: behind) :=
    isCut_iff.2 h.symm
  have hspliced : ∀ c ∈ Text.splice line.chars chars offset, ¬ Breaks IsFurtherBreak c := by
    intro c hc
    rcases Text.mem_splice_iff.1 hc with hline | hinserted
    · exact hcut.not_breaks (List.mem_append_right _ List.mem_cons_self) c hline
    · exact mt breaks_isFurtherBreak_iff.1 (hchars c hinserted)
  have hreplace := hcut.replace hspliced Text.eq_nil_of_splice_eq_nil
  have htext : Text.splice document.text.toList chars
      ((before.flatMap Line.whole).length + offset) =
        (before ++ { line with chars := Text.splice line.chars chars offset } :: behind).flatMap
          Line.whole := by
    rw [← hcut.flatMap_whole, List.flatMap_append, List.flatMap_cons, Line.whole, List.append_assoc,
      Text.splice_append _ _ hoffset]
    simp [Line.whole]
  rw [htext]
  exact (isCut_iff.1 hreplace).symm

/-- Lists that differ at one place have the same items at all others. -/
theorem getElem?_append_cons_of_ne {other : Line} {l : Nat} (h : l ≠ before.length) :
    (before ++ other :: behind)[l]? = (before ++ line :: behind)[l]? := by
  rw [List.getElem?_append, List.getElem?_append]
  split
  · rfl
  · next hle =>
    obtain ⟨k, hk⟩ := Nat.exists_eq_succ_of_ne_zero (show l - before.length ≠ 0 by omega)
    rw [hk, List.getElem?_cons_succ, List.getElem?_cons_succ]

end Edited

/-- **What an insertion does.** It is made exactly if the line exists and has characters up to the
offset, and otherwise the document stays as it is. Once made, the text is the one before with the
inserted text at the offset, counted from the start of the line. If moreover no character that ends
lines is inserted and the line has none in it, then there are as many lines as before, all others
are as they were, and the line is the one before with the inserted text at the offset. -/
theorem view_of_insert? (document : Document) (position : Position) (inserted : String) :
    let accepted := (document.insert? position inserted).isSome
    let after := (document.insert? position inserted).getD document
    (accepted ↔ ∃ text, document.view.text? position.line = some text ∧
      position.character ≤ text.length) ∧
    (¬ accepted → after = document) ∧
    (accepted → ∃ start, document.StartsAt position.line start ∧
      after.text.toList = Text.splice document.text.toList inserted.toList
        (start + position.character)) ∧
    (accepted → (∀ c ∈ inserted.toList, ¬ IsLineBreak c) → ∀ text,
      document.view.text? position.line = some text → (∀ c ∈ text.toList, ¬ IsLineBreak c) →
        after.view.count = document.view.count ∧
        (∀ l, l ≠ position.line → after.view.text? l = document.view.text? l) ∧
        after.view.text? position.line =
          some (String.ofList (Text.splice text.toList inserted.toList position.character))) := by
  intro accepted after
  refine ⟨isSome_insert?_iff, fun hrefused => ?_, fun haccepted => ?_,
    fun haccepted hinserted text htext hbreaks => ?_⟩
  · have hnone : document.insert? position inserted = none := by simpa [accepted] using hrefused
    simp only [after, hnone, Option.getD_none]
  · obtain ⟨text, htext, hoffset⟩ := isSome_insert?_iff.1 haccepted
    obtain ⟨before, line, behind, hcut, hlength, rfl⟩ := exists_cut_eq_append htext
    rw [String.length_ofList] at hoffset
    refine ⟨(before.flatMap Line.whole).length,
      ⟨before, line, behind, isCut_iff.2 hcut.symm, hlength, rfl⟩, ?_⟩
    simp only [after, insert?_eq_some hcut hlength hoffset, Option.getD_some, String.toList_ofList]
  · obtain ⟨_, hsame, hoffset⟩ := isSome_insert?_iff.1 haccepted
    obtain rfl := Option.some.inj (htext.symm.trans hsame)
    obtain ⟨before, line, behind, hcut, hlength, rfl⟩ := exists_cut_eq_append htext
    rw [String.length_ofList] at hoffset
    rw [String.toList_ofList] at hbreaks ⊢
    have hafter : after.text.toList = Text.splice document.text.toList inserted.toList
        ((before.flatMap Line.whole).length + position.character) := by
      simp only [after, insert?_eq_some hcut hlength hoffset, Option.getD_some,
        String.toList_ofList]
    -- nothing is kept of the end of the line, before as after
    obtain ⟨hnone, hkept⟩ := Line.kept_eq_chars hbreaks
    rw [hkept] at hoffset ⊢
    have hlines := cut_splice hcut hinserted hoffset
    rw [← hafter] at hlines
    refine ⟨?_, fun l hl => ?_, ?_⟩
    · rw [view_count_eq, view_count_eq, hlines, hcut, List.length_append, List.length_append,
        List.length_cons, List.length_cons]
    · rw [view_text?_eq, view_text?_eq, hlines, hcut,
        getElem?_append_cons_of_ne (hlength.symm ▸ hl)]
    · rw [view_text?_eq, hlines, ← hlength, List.getElem?_append_right (Nat.le_refl _),
        Nat.sub_self, List.getElem?_cons_zero, Option.map_some, Line.kept, hnone, List.append_nil]

/-- A text inserted into the empty line between two ends of a carriage return and a line feed. Each
of the two stays one end. -/
theorem view_of_insert?_betweenReturns :
    let document := Document.mk "a\r\n\r\nb\r"
    let after := (document.insert? ⟨1, 0⟩ "xy").getD document
    (document.insert? ⟨1, 0⟩ "xy").isSome ∧ document.view.text? 1 = some "" ∧
    after.view.count = 4 ∧ after.view.text? 0 = some "a" ∧ after.view.text? 1 = some "xy" ∧
    after.view.text? 2 = some "b" ∧ after.view.text? 3 = some "" := by
  intro document after
  obtain ⟨haccepted, -, -, hlines⟩ := view_of_insert? document ⟨1, 0⟩ "xy"
  have htext : document.view.text? 1 = some "" := by decide
  have hmade := haccepted.2 ⟨"", htext, Nat.zero_le _⟩
  have hplain : ∀ c ∈ "xy".toList, ¬ IsLineBreak c :=
    List.forall_mem_cons.2 ⟨by decide, List.forall_mem_singleton.2 (by decide)⟩
  obtain ⟨hcount, hothers, hline⟩ := hlines hmade hplain "" htext (List.forall_mem_nil _)
  exact ⟨hmade, htext, hcount.trans (by decide), (hothers 0 (by decide)).trans (by decide),
    hline.trans (by decide), (hothers 2 (by decide)).trans (by decide),
    (hothers 3 (by decide)).trans (by decide)⟩

end Document
end BorrowSketch
