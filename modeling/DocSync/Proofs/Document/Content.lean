import DocSync.Proofs.Document.Lines

/-! # Documents and their content

  A list of lines need not be one that a text can have: it may be empty, as that
  of `Document.blank`, and a line may contain a line feed. `WellFormed` rules
  both out, and `wellFormed_ofText` says that every text spells such a document.

  - `WellFormed.lineCount_eq`: the number of lines shows in the content.
  - `WellFormed.eq_iff_content_eq`: the content says which document it is. Both
    halves of `WellFormed` are needed here: the content of `blank` is that of a
    document with one empty line.
  - `ofText_eq_iff_replace`: two texts spell one document exactly if they are
    the same once their breaks are.
-/

namespace DocSync.Document

open Text

/-! ### Well-formed documents -/

/-- There is a line, and no line contains a line feed. -/
structure WellFormed (d : Document) : Prop where
  lines_ne_nil : d.lines ≠ []
  not_mem_line : ∀ line ∈ d.lines, '\n' ∉ line.toList

theorem wellFormed_ofText (text : String) : WellFormed (ofText text) := by
  refine ⟨lines_ofText_ne_nil text, ?_⟩
  intro line hline
  rw [lines_ofText] at hline
  obtain ⟨chars, hchars, rfl⟩ := List.mem_map.1 hline
  rw [String.toList_ofList]
  exact not_mem_of_mem_splitLines hchars

theorem not_wellFormed_blank : ¬ WellFormed blank := by
  intro h
  exact h.lines_ne_nil rfl

section wellFormed
variable {d d' : Document}

/-- The segments of the content are the lines. -/
theorem WellFormed.splitOn_content (h : d.WellFormed) :
    d.content.toList.splitOn '\n' = d.lines.map String.toList := by
  have hne : d.lines.map String.toList ≠ [] := by simpa using h.lines_ne_nil
  have hbreak : ∀ line ∈ d.lines.map String.toList, '\n' ∉ line := by
    intro line hmem
    obtain ⟨text, htext, rfl⟩ := List.mem_map.1 hmem
    exact h.not_mem_line text htext
  rw [content, String.toList_ofList, joinLines, join_eq_intercalate]
  exact List.splitOn_intercalate '\n' hbreak hne

theorem WellFormed.lineCount_eq (h : d.WellFormed) :
    d.lineCount = 1 + d.content.toList.count '\n' := by
  have hlength := length_splitOn '\n' d.content.toList
  rw [h.splitOn_content, List.length_map] at hlength
  unfold lineCount
  omega

theorem WellFormed.eq_iff_content_eq (h : d.WellFormed) (h' : d'.WellFormed) :
    d = d' ↔ d.content = d'.content := by
  constructor
  · intro heq
    rw [heq]
  · intro hcontent
    have hsegments : d.lines.map String.toList = d'.lines.map String.toList := by
      rw [← h.splitOn_content, ← h'.splitOn_content, hcontent]
    have hlines : d.lines = d'.lines :=
      (List.map_inj_right fun _ _ => String.toList_inj.1).1 hsegments
    cases d
    cases d'
    exact congrArg Document.mk hlines

end wellFormed

/-! ### Texts of one document -/

/-- Texts that differ in nothing but how their breaks are written spell the same
    document, and no others do. -/
theorem ofText_eq_iff_replace (a b : String) :
    ofText a = ofText b ↔ a.replace "\r\n" "\n" = b.replace "\r\n" "\n" := by
  rw [(wellFormed_ofText a).eq_iff_content_eq (wellFormed_ofText b), content_ofText_eq_replace,
    content_ofText_eq_replace]

/-- The two breaks of `"\r\r\n"` are not one: a carriage return is left. -/
example : ofText "a\r\nb" = ofText "a\nb" ∧ ofText "a\r\r\nb" ≠ ofText "a\nb" := by decide

end DocSync.Document
