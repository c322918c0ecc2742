import DocSync.Document
import DocSync.Proofs.Text.Breaks

/-! # Spelling a document from its own lines

  A list of lines is written as a text by joining it, and read back by splitting
  the text. Joined with both characters of a break, every list of lines comes
  back. Joined with line feeds alone, a line that ends in a carriage return
  loses it, unless it is the last.

  The content of a document is its lines joined with line feeds, so a text can
  be read a second time. `reparse_eq_self_iff` names the texts that change: those with
  two carriage returns before a line feed, of which the first reading leaves one
  behind.
-/

namespace DocSync

namespace Text

/-! ### Two carriage returns before a break -/

/-- The characters that a second reading joins into one break. -/
def doubledReturn : List Char := ['\r', '\r', '\n']

/-- Joining with both characters of a break is joining with line feeds after
    every line but the last has got a carriage return. -/
theorem intercalate_return_break (lines : List (List Char)) :
    ['\r', '\n'].intercalate lines = ['\n'].intercalate (mapInner (· ++ ['\r']) lines) := by
  induction lines with
  | nil => rfl
  | cons line rest ih =>
    by_cases hr : rest = []
    · simp [hr]
    · rw [List.intercalate_cons_of_ne_nil hr, mapInner_cons _ hr,
        List.intercalate_cons_of_ne_nil (mapInner_ne_nil _ hr), ih]
      simp

theorem splitLines_intercalate_return_break {lines : List (List Char)} (hne : lines ≠ [])
    (h : ∀ line ∈ lines, '\n' ∉ line) :
    splitLines (['\r', '\n'].intercalate lines) = lines := by
  have hbreak : ∀ line ∈ mapInner (· ++ ['\r']) lines, '\n' ∉ line :=
    forall_mem_mapInner _ h fun line hline => by simp [hline]
  rw [intercalate_return_break, splitLines_intercalate (mapInner_ne_nil _ hne) hbreak,
    mapInner_mapInner, mapInner_eq_self_iff]
  intro line _
  exact trimEnd_append_return line

theorem splitLines_intercalate_eq_self_iff {lines : List (List Char)} (hne : lines ≠ [])
    (h : ∀ line ∈ lines, '\n' ∉ line) :
    splitLines (['\n'].intercalate lines) = lines ↔
      ∀ line ∈ lines.dropLast, line.getLast? ≠ some '\r' := by
  rw [splitLines_intercalate hne h, mapInner_eq_self_iff]
  simp only [trimEnd_eq_self_iff]

/-- Two carriage returns before a line feed stand before the first line feed, or
    behind it. -/
theorem doubledReturn_infix_append_break_iff {segment : List Char} (h : '\n' ∉ segment)
    (rest : List Char) :
    doubledReturn <:+: segment ++ '\n' :: rest ↔
      ['\r', '\r'] <:+ segment ∨ doubledReturn <:+: rest := by
  constructor
  · rintro ⟨front, back, heq⟩
    rw [doubledReturn, List.append_assoc] at heq
    rcases List.append_eq_append_iff.1 heq with ⟨gap, hseg, hgap⟩ | ⟨gap, hfront, hgap⟩
    · left
      -- The gap before the first line feed can only be the two carriage returns.
      match gap, hgap with
      | [a, b], hgap =>
        obtain ⟨rfl, rfl, -⟩ : '\r' = a ∧ '\r' = b ∧ back = rest := by simpa using hgap
        exact ⟨front, hseg.symm⟩
      | a :: b :: c :: gap, hgap =>
        obtain ⟨-, -, rfl, -⟩ : '\r' = a ∧ '\r' = b ∧ '\n' = c ∧ _ := by simpa using hgap
        exact absurd (hseg ▸ by simp) h
    · -- The returns and their line feed lie behind the first line feed.
      cases gap with
      | nil => simp at hgap
      | cons c gap =>
        right
        obtain ⟨-, rfl⟩ := List.cons.inj hgap
        exact ⟨gap, back, by simp [doubledReturn]⟩
  · rintro (⟨front, rfl⟩ | ⟨front, back, rfl⟩)
    · exact ⟨front, rest, by simp [doubledReturn]⟩
    · exact ⟨segment ++ '\n' :: front, back, by simp⟩

theorem trimEnd_getLast?_iff (segment : List Char) :
    (trimEnd segment).getLast? = some '\r' ↔ ['\r', '\r'] <:+ segment := by
  constructor
  · intro h
    obtain ⟨front, hfront⟩ := List.getLast?_eq_some_iff.1 h
    rcases trimEnd_cases segment with ⟨hs, heq⟩ | hs
    · exact absurd (heq ▸ h) hs
    · exact ⟨front, by rw [hs, hfront]; simp⟩
  · rintro ⟨front, rfl⟩
    have htrim : trimEnd (front ++ ['\r', '\r']) = front ++ ['\r'] := by
      have hassoc : front ++ ['\r', '\r'] = (front ++ ['\r']) ++ ['\r'] := by simp
      rw [hassoc, trimEnd_append_return]
    simp [htrim]

/-- Two carriage returns stand before a line feed somewhere in a text if and
    only if some segment but the last ends in a carriage return once trimmed. -/
theorem doubledReturn_infix_intercalate_iff {segments : List (List Char)}
    (h : ∀ segment ∈ segments, '\n' ∉ segment) :
    doubledReturn <:+: ['\n'].intercalate segments ↔
      ∃ segment ∈ segments.dropLast, (trimEnd segment).getLast? = some '\r' := by
  induction segments with
  | nil => simp [doubledReturn]
  | cons segment rest ih =>
    have hs : '\n' ∉ segment := h segment (by simp)
    by_cases hr : rest = []
    · have hno : ¬ doubledReturn <:+: segment := by
        intro hin
        exact hs (hin.subset (by simp [doubledReturn]))
      simp [hr, hno]
    · have ih' := ih fun other ho => h other (List.mem_cons_of_mem _ ho)
      rw [List.intercalate_cons_of_ne_nil hr, List.append_assoc, List.singleton_append,
        doubledReturn_infix_append_break_iff hs, ih', List.dropLast_cons_of_ne_nil hr,
        ← trimEnd_getLast?_iff]
      simp

/-! ### Reading a second time -/

theorem splitLines_joinLines_splitLines (text : List Char) :
    splitLines (joinLines (splitLines text)) = mapInner trimEnd (splitLines text) := by
  rw [joinLines, join_eq_intercalate]
  exact splitLines_intercalate (splitLines_ne_nil text) fun _ => not_mem_of_mem_splitLines

theorem splitLines_joinLines_eq_self_iff (text : List Char) :
    splitLines (joinLines (splitLines text)) = splitLines text ↔
      ¬ doubledReturn <:+: text := by
  have hbreak : ∀ segment ∈ text.splitOn '\n', '\n' ∉ segment := by
    intro segment hmem
    exact not_mem_of_mem_splitOn hmem
  have hsegments := doubledReturn_infix_intercalate_iff hbreak
  rw [List.intercalate_splitOn] at hsegments
  rw [splitLines_joinLines_splitLines, mapInner_eq_self_iff, splitLines_eq_mapInner,
    dropLast_mapInner, hsegments, List.forall_mem_map]
  simp only [trimEnd_eq_self_iff, not_exists, not_and, ne_eq]

end Text

namespace Document

open Text

/-! ### Documents from joined lines -/

theorem ofText_eq_iff (a b : String) :
    ofText a = ofText b ↔ splitLines a.toList = splitLines b.toList := by
  constructor
  · intro h
    have hlines := congrArg (fun d => d.lines.map String.toList) h
    simpa [lines_ofText, Function.comp_def] using hlines
  · intro h
    rw [ofText, ofText, h]

theorem getLast?_toList_iff (line : String) :
    line.toList.getLast? = some '\r' ↔ ∃ front, line = front ++ "\r" := by
  rw [List.getLast?_eq_some_iff]
  constructor
  · rintro ⟨front, hfront⟩
    exact ⟨String.ofList front, by rw [← String.toList_inj, hfront]; simp⟩
  · rintro ⟨front, rfl⟩
    exact ⟨front.toList, by simp⟩

theorem lines_ofText_eq_iff (text : String) (lines : List String) :
    (ofText text).lines = lines ↔ splitLines text.toList = lines.map String.toList := by
  rw [lines_ofText]
  constructor
  · rintro rfl
    simp [Function.comp_def]
  · intro h
    simp [h, Function.comp_def]

theorem toList_content_ofText (text : String) :
    (ofText text).content.toList = joinLines (splitLines text.toList) := by
  simp [content, lines_ofText, Function.comp_def]

section joined
variable {lines : List String}

theorem forall_mem_map_toList (h : ∀ line ∈ lines, '\n' ∉ line.toList) :
    ∀ line ∈ lines.map String.toList, '\n' ∉ line := by
  intro line hmem
  obtain ⟨text, ht, rfl⟩ := List.mem_map.1 hmem
  exact h text ht

/-- Lines joined with both characters of a break come back. -/
theorem lines_ofText_intercalate_return_break (hne : lines ≠ [])
    (h : ∀ line ∈ lines, '\n' ∉ line.toList) :
    (ofText ("\r\n".intercalate lines)).lines = lines := by
  rw [lines_ofText_eq_iff, String.toList_intercalate]
  exact splitLines_intercalate_return_break (by simpa using hne) (forall_mem_map_toList h)

/-- Lines joined with line feeds come back unless one but the last ends in a
    carriage return. -/
theorem lines_ofText_intercalate_eq_self_iff (hne : lines ≠ [])
    (h : ∀ line ∈ lines, '\n' ∉ line.toList) :
    (ofText ("\n".intercalate lines)).lines = lines ↔
      ∀ line ∈ lines.dropLast, ¬ ∃ front, line = front ++ "\r" := by
  have hlines := splitLines_intercalate_eq_self_iff (by simpa using hne) (forall_mem_map_toList h)
  rw [lines_ofText_eq_iff, String.toList_intercalate]
  refine hlines.trans ?_
  rw [← List.map_dropLast, List.forall_mem_map]
  refine forall₂_congr fun line _ => not_congr ?_
  exact getLast?_toList_iff line

end joined

/-! ### The second reading of a text -/

theorem lines_reparse (text : String) :
    (ofText (ofText text).content).lines =
      (mapInner trimEnd (splitLines text.toList)).map String.ofList := by
  rw [lines_ofText, toList_content_ofText, splitLines_joinLines_splitLines]

theorem lineCount_reparse (text : String) :
    (ofText (ofText text).content).lineCount = (ofText text).lineCount := by
  rw [lineCount, lineCount, lines_reparse, lines_ofText, List.length_map, List.length_map,
    length_mapInner]

theorem doubledReturn_infix_toList_iff (text : String) :
    doubledReturn <:+: text.toList ↔ ∃ a b, text = a ++ "\r\r\n" ++ b := by
  constructor
  · rintro ⟨a, b, hab⟩
    refine ⟨String.ofList a, String.ofList b, ?_⟩
    rw [← String.toList_inj, ← hab]
    simp [doubledReturn]
  · rintro ⟨a, b, rfl⟩
    exact ⟨a.toList, b.toList, by simp [doubledReturn]⟩

/-- The second reading gives the same document exactly if no break has two
    carriage returns. -/
theorem reparse_eq_self_iff (text : String) :
    ofText (ofText text).content = ofText text ↔ ¬ ∃ a b, text = a ++ "\r\r\n" ++ b := by
  rw [ofText_eq_iff, toList_content_ofText, splitLines_joinLines_eq_self_iff,
    doubledReturn_infix_toList_iff]

/-- A line of the second reading is that of the first, or has lost the carriage
    return at its end, which the last line never does. -/
theorem line?_reparse {text line : String} {n : Nat} (h : (ofText text).line? n = some line) :
    (ofText (ofText text).content).line? n = some line ∨
      n + 1 < (ofText text).lineCount ∧
        ∃ front, line = front ++ "\r" ∧
          (ofText (ofText text).content).line? n = some front := by
  have hlines : (splitLines text.toList)[n]? = some line.toList := by
    rw [line?, lines_ofText, List.getElem?_map, Option.map_eq_some_iff] at h
    obtain ⟨chars, hchars, rfl⟩ := h
    rw [hchars, String.toList_ofList]
  have hcount : (ofText text).lineCount = (splitLines text.toList).length := by
    rw [lineCount, lines_ofText, List.length_map]
  rw [line?, lines_reparse, List.getElem?_map, getElem?_mapInner, hlines, hcount]
  by_cases hinner : n + 1 < (splitLines text.toList).length
  · rw [if_pos hinner]
    rcases trimEnd_cases line.toList with ⟨-, hkept⟩ | hlost
    · left
      simp [hkept]
    · right
      refine ⟨hinner, String.ofList (trimEnd line.toList), ?_, rfl⟩
      rw [← String.toList_inj, String.toList_append, String.toList_ofList]
      exact hlost
  · left
    simp [if_neg hinner]

/-! ### Writing lines and reading them -/

/-- Lines without line feeds come back from a text that joins them with both
    characters of a break, and from one that joins them with line feeds exactly
    if none but the last ends in a carriage return. Hence a text is read the
    same from its own content exactly if no break in it has two carriage
    returns; if it has, lines keep their number and lose a carriage return each
    at most. -/
theorem ofText_joined_lines (lines : List String) (hne : lines ≠ [])
    (hbreak : ∀ line ∈ lines, '\n' ∉ line.toList) (text : String) :
    (ofText ("\r\n".intercalate lines)).lines = lines ∧
    ((ofText ("\n".intercalate lines)).lines = lines ↔
      ∀ line ∈ lines.dropLast, ¬ ∃ front, line = front ++ "\r") ∧
    (ofText (ofText text).content = ofText text ↔ ¬ ∃ a b, text = a ++ "\r\r\n" ++ b) ∧
    (ofText (ofText text).content).lineCount = (ofText text).lineCount ∧
    ∀ n line, (ofText text).line? n = some line →
      (ofText (ofText text).content).line? n = some line ∨
      n + 1 < (ofText text).lineCount ∧
        ∃ front, line = front ++ "\r" ∧
          (ofText (ofText text).content).line? n = some front :=
  ⟨lines_ofText_intercalate_return_break hne hbreak,
    lines_ofText_intercalate_eq_self_iff hne hbreak, reparse_eq_self_iff text,
    lineCount_reparse text, fun _ _ => line?_reparse⟩

/-- A line that ends in a carriage return comes back behind a whole break, and
    not behind a line feed. -/
theorem ofText_joined_lines_return :
    ["a\r", ""] ≠ [] ∧ (∀ line ∈ ["a\r", ""], '\n' ∉ line.toList) ∧
    (ofText "a\r\r\n").lines = ["a\r", ""] ∧ (ofText "a\r\n").lines ≠ ["a\r", ""] ∧
    ofText (ofText "a\r\r\n").content ≠ ofText "a\r\r\n" ∧
    (ofText "a\r\r\n").line? 0 = some "a\r" ∧
    ∃ front, "a\r" = front ++ "\r" ∧
      (ofText (ofText "a\r\r\n").content).line? 0 = some front := by
  have hbreak : ∀ line ∈ ["a\r", ""], '\n' ∉ line.toList := by decide
  have hline : (ofText "a\r\r\n").line? 0 = some "a\r" := by decide
  have hlost : (ofText (ofText "a\r\r\n").content).line? 0 ≠ some "a\r" := by decide
  obtain ⟨hreturn, hfeed, hsecond, -, hlines⟩ :=
    ofText_joined_lines ["a\r", ""] (by decide) hbreak "a\r\r\n"
  refine ⟨by decide, hbreak, hreturn, ?_, ?_, hline, ?_⟩
  · intro hsame
    exact hfeed.1 hsame "a\r" (by decide) ⟨"a", rfl⟩
  · intro hsame
    exact hsecond.1 hsame ⟨"a", "", rfl⟩
  · rcases hlines 0 "a\r" hline with hsame | ⟨-, hfront⟩
    · exact absurd hsame hlost
    · exact hfront

end Document
end DocSync
