import DocSync.Document
import DocSync.Proofs.Text.Replace

/-! # The lines of a document

  A document is spelled by normalizing the breaks of a text and splitting it.
  `lines_eq_trimmed_segments` describes the lines without normalizing: they are
  the segments between the line feeds of the text itself, and all but the last
  have lost one carriage return if they ended in one.
-/

namespace DocSync.Document

open Text

/-! ### Lines from segments -/

theorem lines_ofText_eq_mapInner (text : String) :
    (ofText text).lines = (mapInner trimEnd (text.toList.splitOn '\n')).map String.ofList := by
  rw [lines_ofText, splitLines_eq_mapInner]

theorem lineCount_ofText (text : String) :
    (ofText text).lineCount = 1 + text.toList.count '\n' := by
  rw [lineCount, lines_ofText, List.length_map, length_splitLines, Nat.add_comm]

theorem content_ofText_eq_replace (text : String) :
    (ofText text).content = text.replace "\r\n" "\n" := by
  rw [content_ofText, replace_breaks]

/-- A text without line feed is a single line. -/
theorem lines_of_not_mem {front : String} (h : '\n' ∉ front.toList) :
    (ofText front).lines = [front] := by
  rw [lines_ofText_eq_mapInner, List.splitOn_eq_singleton h]
  simp

/-- What stands before the first line feed, trimmed, is the first line. -/
theorem lines_append_break {front : String} (h : '\n' ∉ front.toList) (rest : String) :
    (ofText (front ++ "\n" ++ rest)).lines =
      String.ofList (trimEnd front.toList) :: (ofText rest).lines := by
  have htext : (front ++ "\n" ++ rest).toList = front.toList ++ '\n' :: rest.toList := by simp
  rw [lines_ofText_eq_mapInner, lines_ofText_eq_mapInner, htext,
    List.splitOn_append_cons_self_of_not_mem h,
    mapInner_cons _ (List.splitOn_ne_nil '\n' rest.toList), List.map_cons]

theorem lines_append_return_break {front : String} (h : '\n' ∉ front.toList) (rest : String) :
    (ofText (front ++ "\r\n" ++ rest)).lines = front :: (ofText rest).lines := by
  have hfront : '\n' ∉ (front ++ "\r").toList := by simp [h]
  have htext : front ++ "\r\n" ++ rest = (front ++ "\r") ++ "\n" ++ rest := by
    rw [← String.toList_inj]
    simp
  rw [htext, lines_append_break hfront]
  simp

theorem lines_append_bare_break {front : String} (h : '\n' ∉ front.toList)
    (hend : front.toList.getLast? ≠ some '\r') (rest : String) :
    (ofText (front ++ "\n" ++ rest)).lines = front :: (ofText rest).lines := by
  rw [lines_append_break h, (trimEnd_eq_self_iff _).2 hend, String.ofList_toList]

/-- What stands after the last line feed is the last line. -/
theorem getLast?_lines_append_break (before : String) {last : String}
    (h : '\n' ∉ last.toList) :
    (ofText (before ++ "\n" ++ last)).lines.getLast? = some last := by
  have htext : (before ++ "\n" ++ last).toList = before.toList ++ '\n' :: last.toList := by simp
  have hsplit : (before ++ "\n" ++ last).toList.splitOn '\n' =
      before.toList.splitOn '\n' ++ [last.toList] := by
    rw [htext, List.splitOn_append_cons_self, List.splitOn_eq_singleton h]
  rw [lines_ofText_eq_mapInner, hsplit]
  simp [mapInner]

/-! ### The lines of every text -/

/-- The lines of a text are its segments, all but the last trimmed of one
    carriage return. Their number and the content follow, and so do the
    carriage returns that stay: those of the last line, those that no line feed
    follows, and of a run before a line feed all but one. -/
theorem lines_eq_trimmed_segments (text : String) :
    (ofText text).lines = (mapInner trimEnd (text.toList.splitOn '\n')).map String.ofList ∧
    (ofText text).lineCount = 1 + text.toList.count '\n' ∧
    (ofText text).content = text.replace "\r\n" "\n" ∧
    ∀ line : String, '\n' ∉ line.toList →
      (ofText line).lines = [line] ∧
      (ofText (text ++ "\n" ++ line)).lines.getLast? = some line ∧
      (ofText (line ++ "\r\n" ++ text)).lines = line :: (ofText text).lines ∧
      (line.toList.getLast? ≠ some '\r' →
        (ofText (line ++ "\n" ++ text)).lines = line :: (ofText text).lines) := by
  refine ⟨lines_ofText_eq_mapInner text, lineCount_ofText text,
    content_ofText_eq_replace text, ?_⟩
  intro line hline
  refine ⟨lines_of_not_mem hline, getLast?_lines_append_break text hline,
    lines_append_return_break hline text, ?_⟩
  intro hend
  exact lines_append_bare_break hline hend text

/-- Of three carriage returns before a line feed two stay, as does the one at
    the end of the text. -/
theorem lines_eq_trimmed_segments_run :
    '\n' ∉ "a\r\r".toList ∧ '\n' ∉ "a".toList ∧ "a".toList.getLast? ≠ some '\r' ∧
    (ofText ("a\r\r" ++ "\r\n" ++ "\r")).lines = ["a\r\r", "\r"] ∧
    (ofText ("a" ++ "\n" ++ "\r")).lines = ["a", "\r"] := by
  have hrun : '\n' ∉ "a\r\r".toList := by decide
  have hplain : '\n' ∉ "a".toList := by decide
  have hend : "a".toList.getLast? ≠ some '\r' := by decide
  have hlast : '\n' ∉ "\r".toList := by decide
  obtain ⟨-, -, -, hlines⟩ := lines_eq_trimmed_segments "\r"
  have hrest := (hlines "\r" hlast).1
  refine ⟨hrun, hplain, hend, ?_, ?_⟩
  · rw [(hlines "a\r\r" hrun).2.2.1, hrest]
  · rw [(hlines "a" hplain).2.2.2 hend, hrest]

end DocSync.Document
