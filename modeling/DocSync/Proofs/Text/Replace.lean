import DocSync.Proofs.Text.Breaks

/-! # Replacing breaks

  `replace_breaks` says that dropping the carriage return of every break is the
  library's replacement of one string by another. The library looks for the
  pattern from the left and reports the stretches without it and the matches in
  turn; `foldl_found` follows such a report through the text.
-/

namespace DocSync.Text

open String.Slice.Pattern
open String.Slice.Pattern.Model

/-- A stretch in which no break of two characters starts stays as it is. -/
theorem normalizeBreaks_append_of_no_match {front : List Char} (back : List Char)
    (h : ∀ u v, front = u ++ v → v ≠ [] → ¬ ['\r', '\n'] <+: v ++ back) :
    normalizeBreaks (front ++ back) = front ++ normalizeBreaks back := by
  induction front with
  | nil => rfl
  | cons c front ih =>
    have hstart : ¬ (c = '\r' ∧ (front ++ back).head? = some '\n') := by
      rintro ⟨rfl, hn⟩
      obtain ⟨rest, hrest⟩ := List.head?_eq_some_iff.1 hn
      refine h [] ('\r' :: front) rfl (by simp) ?_
      rw [List.cons_append, hrest]
      exact ⟨rest, rfl⟩
    have hrest : normalizeBreaks (front ++ back) = front ++ normalizeBreaks back := by
      apply ih
      intro u v huv hv
      exact h (c :: u) v (by rw [huv]; rfl) hv
    rw [List.cons_append, normalizeBreaks_cons hstart, hrest]
    rfl

/-- What a replacement by a line feed writes for one finding of the search. -/
def written {s : String.Slice} (sofar : String) : SearchStep s → String
  | .matched _ _ => sofar ++ "\n"
  | .rejected start stop => sofar ++ (s.slice! start stop).copy

/-- Within a stretch that the search rejects no break of two characters starts. -/
theorem not_match_within {s : String.Slice} {start stop : s.Pos} {before gap after : String}
    (hstart : start.Splits before (gap ++ after)) (hstop : stop.Splits (before ++ gap) after)
    (hno : ∀ pos, start ≤ pos → pos < stop → ¬ MatchesAt "\r\n" pos) {u v : List Char}
    (huv : gap.toList = u ++ v) (hv : v ≠ []) : ¬ ['\r', '\n'] <+: v ++ after.toList := by
  rintro ⟨rest, hrest⟩
  have hgap : gap = String.ofList u ++ String.ofList v := by
    rw [← String.ofList_append, ← huv, String.ofList_toList]
  have hmatch : String.ofList v ++ after = "\r\n" ++ String.ofList rest := by
    rw [← String.toList_inj]
    simpa using hrest.symm
  have hsplit : start.Splits before (String.ofList u ++ (String.ofList v ++ after)) := by
    rwa [← String.append_assoc, ← hgap]
  -- The match would start at a position that the search has passed by.
  obtain ⟨here, hhere⟩ : ∃ here : s.Pos,
      here.Splits (before ++ String.ofList u) (String.ofList v ++ after) :=
    ⟨hsplit.rotateRight, hsplit.splits_rotateRight⟩
  refine hno here ?_ ?_ ?_
  · exact (hstart.le_iff_exists_eq_append hhere).2
      ⟨String.ofList u, rfl, by rw [hgap, String.append_assoc]⟩
  · refine (hhere.lt_iff_exists_eq_append hstop).2 ⟨String.ofList v, ?_, ?_, rfl⟩
    · simpa using hv
    · rw [hgap, String.append_assoc]
  · rw [hmatch] at hhere
    exact ForwardStringSearcher.matchesAt_iff_splits.2 ⟨_, _, hhere⟩

/-- What is written for the findings from a position on: the text from there,
    its breaks normalized. -/
theorem foldl_found {s : String.Slice} {pos : s.Pos} {found : List (SearchStep s)}
    (h : IsValidSearchFrom "\r\n" pos found) (sofar before after : String)
    (hpos : pos.Splits before after) :
    found.foldl written sofar = sofar ++ String.ofList (normalizeBreaks after.toList) := by
  -- The report is followed finding by finding; what is left of the text shrinks with it.
  induction h generalizing sofar before after with
  | endPos =>
    have hafter : after = "" := hpos.eq_endPos_iff.1 rfl
    simp [hafter, normalizeBreaks]
  | matched hmatch _ ih =>
    obtain ⟨t, rest, hstart, hstop⟩ := ForwardStringSearcher.isLongestMatchAt_iff_splits.1 hmatch
    obtain rfl : after = "\r\n" ++ rest := hpos.eq_right hstart
    rw [List.foldl_cons, ih _ _ _ hstop, String.toList_append]
    simp [written, normalizeBreaks, String.append_assoc]
  | @mismatched _ start stop hlt hno _ ih =>
    have hstop := stop.splits
    obtain ⟨gap, -, hleft, rfl⟩ := (hpos.lt_iff_exists_eq_append hstop).1 hlt
    rw [hleft] at hstop
    obtain ⟨hle, hgap⟩ := String.Slice.copy_slice_eq_iff_splits.2 ⟨_, _, hpos, hstop⟩
    rw [String.Slice.slice_eq_slice!] at hgap
    have hkept : ∀ u v, gap.toList = u ++ v → v ≠ [] →
        ¬ ['\r', '\n'] <+: v ++ (s.sliceFrom stop).copy.toList := by
      intro u v huv hv hmatch
      exact not_match_within hpos hstop hno huv hv hmatch
    rw [List.foldl_cons, ih _ _ _ hstop, String.toList_append,
      normalizeBreaks_append_of_no_match _ hkept, written, hgap]
    simp [String.append_assoc]

theorem replace_breaks (text : String) :
    text.replace "\r\n" "\n" = String.ofList (normalizeBreaks text.toList) := by
  have hne : "\r\n" ≠ "" := by decide
  have hvalid :=
    (ForwardStringSearcher.lawfulToForwardSearcherModel hne).isValidSearchFrom_toList text.toSlice
  have hstart : text.toSlice.startPos.Splits "" text := by
    simp
  have hfound := foldl_found hvalid "" "" text hstart
  rw [String.empty_append] at hfound
  rw [String.replace, String.Slice.replace, ← Std.Iter.foldl_toList, ← hfound]
  congr 1
  funext sofar step
  cases step <;> rfl

end DocSync.Text
