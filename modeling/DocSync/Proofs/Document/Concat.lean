import DocSync.Proofs.Document.Lines

/-! # Documents of texts in a row

  Two texts are put one behind the other. The last line of the first and the first
  line of the second then become one line, unless the cut is within a break: a
  carriage return at the very end of the first text is part of a break if the second
  text starts with the line feed.

  - `splitLines_append_break`: a line feed ends the last line of what stands before
    it, and trims it.
  - `splitLines_append`: the two cases, for any two texts.
  - `lines_append`: the same of documents, with the number of lines.
-/

namespace DocSync

namespace Text

/-! ### The last line of a text -/

theorem mapInner_append (f : List Char → List Char) (front : List (List Char))
    {segments : List (List Char)} (h : segments ≠ []) :
    mapInner f (front ++ segments) = front.map f ++ mapInner f segments := by
  induction front with
  | nil => rfl
  | cons segment front ih =>
    rw [List.cons_append, mapInner_cons f (by simp [h]), ih, List.map_cons, List.cons_append]

/-- What stands after the last separator of a text, or the whole text. -/
theorem exists_lastSegment (sep : Char) (text : List Char) :
    ∃ last, sep ∉ last ∧ (text = last ∨ ∃ before, text = before ++ sep :: last) := by
  by_cases h : sep ∈ text
  · -- The last separator is the first one from behind.
    obtain ⟨behind, before, heq, hbehind⟩ := List.eq_append_cons_of_mem (List.mem_reverse.2 h)
    refine ⟨behind.reverse, by simpa using hbehind, Or.inr ⟨before.reverse, ?_⟩⟩
    have hreverse := congrArg List.reverse heq
    simpa using hreverse
  · exact ⟨text, h, Or.inl rfl⟩

theorem splitLines_of_not_mem {line : List Char} (h : '\n' ∉ line) : splitLines line = [line] := by
  rw [splitLines_eq_mapInner, List.splitOn_eq_singleton h, mapInner_singleton]

/-- The last line of a text ends as the text does, and goes on as far as there is no
    line feed. -/
theorem exists_lastLine (text : List Char) :
    ∃ front last, splitLines text = front ++ [last] ∧
      (text.getLast? = some '\r' ↔ last.getLast? = some '\r') ∧
      ∀ more, '\n' ∉ more → splitLines (text ++ more) = front ++ [last ++ more] := by
  obtain ⟨last, hlast, hwhole | ⟨before, hbefore⟩⟩ := exists_lastSegment '\n' text
  · subst hwhole
    refine ⟨[], text, splitLines_of_not_mem hlast, Iff.rfl, ?_⟩
    intro more hmore
    exact splitLines_of_not_mem (by simp [hlast, hmore])
  · subst hbefore
    have hsplit (line : List Char) (hline : '\n' ∉ line) :
        splitLines (before ++ '\n' :: line) = (before.splitOn '\n').map trimEnd ++ [line] := by
      rw [splitLines_eq_mapInner, List.splitOn_append_cons_self, List.splitOn_eq_singleton hline,
        mapInner_append _ _ (by simp), mapInner_singleton]
    refine ⟨(before.splitOn '\n').map trimEnd, last, hsplit last hlast, ?_, ?_⟩
    · -- Where the last line is empty, the text ends in the line feed.
      cases last with
      | nil => simp
      | cons c rest => simp [List.getLast?_append, List.getLast?_cons_cons]
    · intro more hmore
      have hline : '\n' ∉ last ++ more := by simp [hlast, hmore]
      simpa using hsplit (last ++ more) hline

/-- A line feed ends the last line of the text before it. -/
theorem splitLines_append_break {text : List Char} {front : List (List Char)} {last : List Char}
    (h : splitLines text = front ++ [last]) (rest : List Char) :
    splitLines (text ++ '\n' :: rest) = front ++ trimEnd last :: splitLines rest := by
  obtain ⟨segments, segment, hsegments⟩ : ∃ segments segment,
      text.splitOn '\n' = segments ++ [segment] :=
    ⟨_, _, (List.dropLast_concat_getLast (List.splitOn_ne_nil '\n' text)).symm⟩
  rw [splitLines_eq_mapInner, hsegments, mapInner_append _ _ (by simp), mapInner_singleton] at h
  obtain ⟨rfl, hlast⟩ := List.append_inj' h rfl
  obtain rfl : segment = last := (List.cons.inj hlast).1
  rw [splitLines_eq_mapInner, List.splitOn_append_cons_self, hsegments,
    mapInner_append _ _ (List.splitOn_ne_nil '\n' rest), ← splitLines_eq_mapInner,
    List.map_append]
  simp

/-! ### Two texts -/

theorem trimEnd_append {more : List Char} (h : more ≠ []) (segment : List Char) :
    trimEnd (segment ++ more) = segment ++ trimEnd more := by
  obtain ⟨front, c, rfl⟩ := List.eq_nil_or_concat more |>.resolve_left h
  by_cases hc : c = '\r'
  · subst hc
    rw [List.concat_eq_append, ← List.append_assoc, trimEnd_append_return, trimEnd_append_return]
  · have hkeep (before : List Char) : trimEnd (before ++ [c]) = before ++ [c] :=
      (trimEnd_eq_self_iff _).2 (by simp [hc])
    rw [List.concat_eq_append, ← List.append_assoc, hkeep, hkeep, List.append_assoc]

/-- The lines of two texts in a row: the last of the one and the first of the other
    are joined, or the last is trimmed where the cut is within a break. -/
theorem splitLines_append (text more : List Char) :
    ∃ front last first rest, splitLines text = front ++ [last] ∧ splitLines more = first :: rest ∧
      (text.getLast? = some '\r' ↔ last.getLast? = some '\r') ∧
      splitLines (text ++ more) = front ++
        (if text.getLast? = some '\r' ∧ more.head? = some '\n' then trimEnd last
          else last ++ first) :: rest := by
  obtain ⟨front, last, htext, hend, hmore⟩ := exists_lastLine text
  by_cases hbreak : '\n' ∈ more
  · obtain ⟨line, rest, rfl, hline⟩ := List.eq_append_cons_of_mem hbreak
    have hline' : splitLines line = [] ++ [line] := splitLines_of_not_mem hline
    have hfirst := splitLines_append_break hline' rest
    have hall := splitLines_append_break (hmore line hline) rest
    rw [List.append_assoc] at hall
    refine ⟨front, last, trimEnd line, splitLines rest, htext, hfirst, hend, ?_⟩
    rw [hall]
    cases line with
    | nil =>
      -- The second text starts with a line feed, which may end a break.
      by_cases hreturn : text.getLast? = some '\r'
      · simp [hreturn]
      · have hkeep : trimEnd last = last :=
          (trimEnd_eq_self_iff last).2 (fun h => hreturn (hend.2 h))
        have hnil : trimEnd [] = [] := rfl
        simp [hreturn, hkeep, hnil]
    | cons c line =>
      have hc : c ≠ '\n' := fun h => hline (by simp [h])
      rw [trimEnd_append (by simp)]
      simp [hc]
  · have hhead : more.head? ≠ some '\n' := fun h => hbreak (List.mem_of_head? h)
    refine ⟨front, last, more, [], htext, splitLines_of_not_mem hbreak, hend, ?_⟩
    rw [hmore more hbreak]
    simp [hhead]

end Text

namespace Document

open Text

/-! ### Documents -/

section append
variable (s t : String)

/-- The lines of the two documents, and those of the document of both texts. -/
theorem exists_lines_append :
    ∃ front last first rest, (ofText s).lines = front ++ [last] ∧
      (ofText t).lines = first :: rest ∧
      (¬ (s.toList.getLast? = some '\r' ∧ t.toList.head? = some '\n') →
        (ofText (s ++ t)).lines = front ++ (last ++ first) :: rest) ∧
      (s.toList.getLast? = some '\r' ∧ t.toList.head? = some '\n' →
        ∃ kept, last = kept ++ "\r" ∧ (ofText (s ++ t)).lines = front ++ kept :: rest) := by
  obtain ⟨front, last, first, rest, hs, ht, hend, happend⟩ :=
    splitLines_append s.toList t.toList
  refine ⟨front.map String.ofList, String.ofList last, String.ofList first,
    rest.map String.ofList, by simp [lines_ofText, hs], by simp [lines_ofText, ht], ?_, ?_⟩
  · intro hcut
    rw [lines_ofText, String.toList_append, happend, if_neg hcut]
    simp
  · intro hcut
    obtain hkeep | hlast := trimEnd_cases last
    · exact absurd (hend.1 hcut.1) hkeep.1
    · refine ⟨String.ofList (trimEnd last), ?_, ?_⟩
      · rw [← String.toList_inj, String.toList_append, String.toList_ofList, String.toList_ofList]
        exact hlast
      · rw [lines_ofText, String.toList_append, happend, if_pos hcut]
        simp

theorem lineCount_append : (ofText (s ++ t)).lineCount + 1 =
    (ofText s).lineCount + (ofText t).lineCount := by
  rw [lineCount_ofText, lineCount_ofText, lineCount_ofText, String.toList_append,
    List.count_append]
  omega

/-- A whole break in between keeps the lines apart. -/
theorem lines_append_whole_break :
    (ofText (s ++ "\r\n" ++ t)).lines = (ofText s).lines ++ (ofText t).lines := by
  obtain ⟨front, last, hs, -, hmore⟩ := exists_lastLine s.toList
  have hlines := splitLines_append_break (hmore ['\r'] (by decide)) t.toList
  have htext : (s ++ "\r\n" ++ t).toList = s.toList ++ ['\r'] ++ '\n' :: t.toList := by simp
  rw [lines_ofText, lines_ofText, lines_ofText, htext, hlines, hs, trimEnd_append_return]
  simp

end append

/-- The lines of two texts in a row are those of the one and those of the other, and
    the two lines that meet are joined. If the cut is within a break, the carriage
    return at the end goes, and with it the empty line that the other text starts
    with. A break that is put in between keeps all lines as they are. -/
theorem lines_append (s t : String) :
    (¬ (s.toList.getLast? = some '\r' ∧ t.toList.head? = some '\n') →
      (ofText (s ++ t)).lines =
        (ofText s).lines.dropLast ++
          [(ofText s).lines.getLast (lines_ofText_ne_nil s) ++
            (ofText t).lines.head (lines_ofText_ne_nil t)] ++
          (ofText t).lines.tail) ∧
    (s.toList.getLast? = some '\r' ∧ t.toList.head? = some '\n' →
      ∃ kept, (ofText s).lines.getLast (lines_ofText_ne_nil s) = kept ++ "\r" ∧
        (ofText (s ++ t)).lines =
          (ofText s).lines.dropLast ++ [kept] ++ (ofText t).lines.tail) ∧
    (ofText (s ++ t)).lineCount = (ofText s).lineCount + (ofText t).lineCount - 1 ∧
    (ofText (s ++ "\r\n" ++ t)).lines = (ofText s).lines ++ (ofText t).lines := by
  obtain ⟨front, line, first, rest, hs, ht, hjoined, hcut⟩ := exists_lines_append s t
  have hfront : (ofText s).lines.dropLast = front := by simp [hs]
  have hlast : (ofText s).lines.getLast (lines_ofText_ne_nil s) = line := by simp [hs]
  have hfirst : (ofText t).lines.head (lines_ofText_ne_nil t) = first := by simp [ht]
  have hrest : (ofText t).lines.tail = rest := by simp [ht]
  rw [hfront, hlast, hfirst, hrest]
  refine ⟨?_, ?_, ?_, lines_append_whole_break s t⟩
  · intro h
    rw [hjoined h]
    simp
  · intro h
    obtain ⟨kept, hkept, hlines⟩ := hcut h
    exact ⟨kept, hkept, by rw [hlines]; simp⟩
  · have hcount := lineCount_append s t
    omega

/-- A cut within the break of three carriage returns and a line feed takes one of
    them, and a cut before the break takes none. -/
theorem lines_append_within_break :
    ¬ ("a\r\r".toList.getLast? = some '\r' ∧ "\r\nb".toList.head? = some '\n') ∧
    ("a\r\r\r".toList.getLast? = some '\r' ∧ "\nb".toList.head? = some '\n') ∧
    (ofText ("a\r\r" ++ "\r\nb")).lines = ["a\r\r", "b"] ∧
    (ofText ("a\r\r\r" ++ "\nb")).lines = ["a\r\r", "b"] := by
  have hbefore : ¬ ("a\r\r".toList.getLast? = some '\r' ∧ "\r\nb".toList.head? = some '\n') := by
    decide
  have hwithin : "a\r\r\r".toList.getLast? = some '\r' ∧ "\nb".toList.head? = some '\n' := by
    decide
  refine ⟨hbefore, hwithin, ?_, ?_⟩
  · rw [(lines_append "a\r\r" "\r\nb").1 hbefore]
    decide
  · obtain ⟨kept, hkept, hlines⟩ := (lines_append "a\r\r\r" "\nb").2.1 hwithin
    have hlast : "a\r\r" ++ "\r" = kept ++ "\r" := hkept
    have hline : "a\r\r" = kept := (String.append_left_inj _).1 hlast
    rw [hlines, ← hline]
    decide

end Document
end DocSync
