import DocSync.Text.Lines

/-! # Breaks of a text

  The lines of a text come from dropping carriage returns first and splitting
  afterwards. This file turns the two around: a text is split as it stands, and
  every segment but the last then loses one carriage return at its end.

  - `normalizeBreaks_intercalate`: dropping carriage returns from segments
    joined with line feeds is trimming all of them but the last.
  - `splitLines_eq_mapInner`: hence the lines of a text are its segments,
    trimmed.

  Segments are those of the library's `List.splitOn`.
-/

namespace DocSync.Text

/-! ### Splitting and joining -/

theorem split_eq_splitOn (sep : Char) (text : List Char) : split sep text = text.splitOn sep := by
  induction text with
  | nil => simp [split]
  | cons c rest ih =>
    rw [split, List.splitOn_cons_eq_if_modifyHead, ih]
    by_cases hc : c = sep
    · simp [hc]
    · have hne : rest.splitOn sep ≠ [] := List.splitOn_ne_nil sep rest
      cases hs : rest.splitOn sep with
      | nil => exact absurd hs hne
      | cons first others => simp [hc]

theorem join_eq_intercalate (sep : Char) (segments : List (List Char)) :
    join sep segments = [sep].intercalate segments := by
  induction segments with
  | nil => rfl
  | cons segment rest ih =>
    cases rest with
    | nil => simp [join]
    | cons next others => simp [join, ih]

/-- No segment of a text contains the separator. -/
theorem not_mem_of_mem_splitOn {sep : Char} {text segment : List Char}
    (h : segment ∈ text.splitOn sep) : sep ∉ segment := by
  induction text generalizing segment with
  | nil =>
    rw [List.splitOn_nil, List.mem_singleton] at h
    simp [h]
  | cons c rest ih =>
    rw [List.splitOn_cons_eq_if_modifyHead] at h
    by_cases hc : c = sep
    · rw [if_pos (by simp [hc]), List.mem_cons] at h
      rcases h with rfl | h
      · simp
      · exact ih h
    · rw [if_neg (by simp [hc])] at h
      cases hs : rest.splitOn sep with
      | nil => simp [hs] at h
      | cons first others =>
        rw [hs, List.modifyHead_cons, List.mem_cons] at h
        rcases h with rfl | h
        · have hfirst : sep ∉ first := ih (by simp [hs])
          simp [Ne.symm hc, hfirst]
        · exact ih (by simp [hs, h])

/-- There is one segment more than there are separators. -/
theorem length_splitOn (sep : Char) (text : List Char) :
    (text.splitOn sep).length = text.count sep + 1 := by
  induction text with
  | nil => simp
  | cons c rest ih =>
    rw [List.splitOn_cons_eq_if_modifyHead, List.count_cons]
    by_cases hc : c = sep
    · simp [hc, ih]
    · simp [hc, ih]

/-! ### Segments but the last -/

/-- A function applied to every segment but the last. -/
def mapInner (f : List Char → List Char) (segments : List (List Char)) : List (List Char) :=
  segments.dropLast.map f ++ segments.getLast?.toList

section inner
variable (f : List Char → List Char)

@[simp] theorem mapInner_singleton (segment : List Char) : mapInner f [segment] = [segment] := rfl

theorem mapInner_cons {segment : List Char} {rest : List (List Char)} (h : rest ≠ []) :
    mapInner f (segment :: rest) = f segment :: mapInner f rest := by
  cases rest with
  | nil => exact absurd rfl h
  | cons next others => simp [mapInner]

@[simp] theorem length_mapInner (segments : List (List Char)) :
    (mapInner f segments).length = segments.length := by
  cases segments with
  | nil => rfl
  | cons segment rest => simp [mapInner, List.getLast?_cons]

theorem mapInner_ne_nil {segments : List (List Char)} (h : segments ≠ []) :
    mapInner f segments ≠ [] := by
  rw [← List.length_pos_iff, length_mapInner]
  exact List.length_pos_iff.2 h

theorem dropLast_mapInner (segments : List (List Char)) :
    (mapInner f segments).dropLast = segments.dropLast.map f := by
  cases segments with
  | nil => rfl
  | cons segment rest => simp [mapInner, List.getLast?_cons]

/-- A segment that is not the last is mapped, and the last stays as it is. -/
theorem getElem?_mapInner (segments : List (List Char)) (n : Nat) :
    (mapInner f segments)[n]? =
      if n + 1 < segments.length then segments[n]?.map f else segments[n]? := by
  induction segments generalizing n with
  | nil => simp [mapInner]
  | cons segment rest ih =>
    by_cases hr : rest = []
    · -- A single segment is the last one.
      subst hr
      simp
    · have hlen : 0 < rest.length := List.length_pos_iff.2 hr
      rw [mapInner_cons f hr]
      cases n with
      | zero => simp [hlen]
      | succ n => simp [ih]

theorem mapInner_eq_self_iff (segments : List (List Char)) :
    mapInner f segments = segments ↔ ∀ segment ∈ segments.dropLast, f segment = segment := by
  induction segments with
  | nil => simp [mapInner]
  | cons segment rest ih =>
    by_cases hr : rest = []
    · simp [hr]
    · simp [mapInner_cons f hr, List.dropLast_cons_of_ne_nil hr, ih]

theorem mapInner_mapInner (g : List Char → List Char) (segments : List (List Char)) :
    mapInner f (mapInner g segments) = mapInner (f ∘ g) segments := by
  induction segments with
  | nil => rfl
  | cons segment rest ih =>
    by_cases hr : rest = []
    · simp [hr]
    · rw [mapInner_cons g hr, mapInner_cons f (mapInner_ne_nil g hr), mapInner_cons _ hr, ih,
        Function.comp_apply]

/-- What holds of all segments and is kept by the function holds of all after it. -/
theorem forall_mem_mapInner {p : List Char → Prop} {segments : List (List Char)}
    (h : ∀ segment ∈ segments, p segment) (hf : ∀ segment, p segment → p (f segment)) :
    ∀ segment ∈ mapInner f segments, p segment := by
  intro segment hmem
  rcases List.mem_append.1 hmem with hmem | hmem
  · obtain ⟨before, hb, rfl⟩ := List.mem_map.1 hmem
    exact hf before (h before (List.dropLast_subset _ hb))
  · exact h segment (List.mem_of_getLast? (Option.mem_toList.1 hmem))

end inner

/-! ### Trimming -/

/-- A segment without the carriage return at its end, if it has one there. -/
def trimEnd (segment : List Char) : List Char :=
  if segment.getLast? = some '\r' then segment.dropLast else segment

@[simp] theorem trimEnd_append_return (segment : List Char) :
    trimEnd (segment ++ ['\r']) = segment := by
  simp [trimEnd]

/-- Trimming changes nothing, or the segment has lost a carriage return. -/
theorem trimEnd_cases (segment : List Char) :
    (segment.getLast? ≠ some '\r' ∧ trimEnd segment = segment) ∨
      segment = trimEnd segment ++ ['\r'] := by
  by_cases h : segment.getLast? = some '\r'
  · right
    obtain ⟨front, rfl⟩ := List.getLast?_eq_some_iff.1 h
    simp
  · left
    exact ⟨h, if_neg h⟩

theorem trimEnd_eq_self_iff (segment : List Char) :
    trimEnd segment = segment ↔ segment.getLast? ≠ some '\r' := by
  rcases trimEnd_cases segment with ⟨h, hs⟩ | hs
  · simp [h, hs]
  · rw [hs]
    simp

theorem not_mem_trimEnd {c : Char} {segment : List Char} (h : c ∉ segment) :
    c ∉ trimEnd segment := by
  rcases trimEnd_cases segment with ⟨-, hs⟩ | hs
  · rwa [hs]
  · rw [hs] at h
    exact fun hc => h (List.mem_append_left _ hc)

theorem trimEnd_cons_cons (c d : Char) (segment : List Char) :
    trimEnd (c :: d :: segment) = c :: trimEnd (d :: segment) := by
  by_cases h : (d :: segment).getLast? = some '\r'
  · simp [trimEnd, List.getLast?_cons_cons, h]
  · simp [trimEnd, List.getLast?_cons_cons, h]

/-! ### Dropping carriage returns before breaks -/

theorem normalizeBreaks_cons {c : Char} {rest : List Char}
    (h : ¬ (c = '\r' ∧ rest.head? = some '\n')) :
    normalizeBreaks (c :: rest) = c :: normalizeBreaks rest := by
  rw [normalizeBreaks]
  intro next hc hd
  exact h ⟨hc, by simp [hd]⟩

/-- A text without line feed keeps all its carriage returns. -/
theorem normalizeBreaks_of_not_mem {segment : List Char} (h : '\n' ∉ segment) :
    normalizeBreaks segment = segment := by
  induction segment with
  | nil => rfl
  | cons c rest ih =>
    have hrest : '\n' ∉ rest := fun hn => h (List.mem_cons_of_mem _ hn)
    have hhead : rest.head? ≠ some '\n' := fun hn => hrest (List.mem_of_head? hn)
    rw [normalizeBreaks_cons (fun hc => hhead hc.2), ih hrest]

theorem normalizeBreaks_append_break {segment : List Char} (h : '\n' ∉ segment)
    (rest : List Char) :
    normalizeBreaks (segment ++ '\n' :: rest) =
      trimEnd segment ++ '\n' :: normalizeBreaks rest := by
  induction segment with
  | nil => exact normalizeBreaks_cons (by simp)
  | cons c segment ih =>
    have hs : '\n' ∉ segment := fun hn => h (List.mem_cons_of_mem _ hn)
    cases segment with
    | nil =>
      -- Only the character right before the break can be dropped.
      by_cases hc : c = '\r'
      · subst hc
        rfl
      · have hkeep : trimEnd [c] = [c] := (trimEnd_eq_self_iff _).2 (by simp [hc])
        rw [List.cons_append, normalizeBreaks_cons (fun hcr => hc hcr.1), ih hs, hkeep]
        rfl
    | cons d segment =>
      have hd : d ≠ '\n' := fun hn => hs (by simp [hn])
      rw [List.cons_append, normalizeBreaks_cons (by simp [hd]), ih hs, trimEnd_cons_cons]
      rfl

theorem normalizeBreaks_intercalate {segments : List (List Char)}
    (h : ∀ segment ∈ segments, '\n' ∉ segment) :
    normalizeBreaks (['\n'].intercalate segments) =
      ['\n'].intercalate (mapInner trimEnd segments) := by
  induction segments with
  | nil => rfl
  | cons segment rest ih =>
    have hs : '\n' ∉ segment := h segment (by simp)
    by_cases hr : rest = []
    · simp [hr, normalizeBreaks_of_not_mem hs]
    · have ih' := ih fun other ho => h other (List.mem_cons_of_mem _ ho)
      rw [List.intercalate_cons_of_ne_nil hr, mapInner_cons _ hr,
        List.intercalate_cons_of_ne_nil (mapInner_ne_nil _ hr), ← ih', List.append_assoc,
        List.append_assoc]
      exact normalizeBreaks_append_break hs _

/-! ### Lines -/

/-- Lines joined with line feeds are the lines of their text once trimmed. -/
theorem splitLines_intercalate {lines : List (List Char)} (hne : lines ≠ [])
    (h : ∀ line ∈ lines, '\n' ∉ line) :
    splitLines (['\n'].intercalate lines) = mapInner trimEnd lines := by
  rw [splitLines, split_eq_splitOn, normalizeBreaks_intercalate h]
  exact List.splitOn_intercalate '\n'
    (forall_mem_mapInner _ h fun _ => not_mem_trimEnd) (mapInner_ne_nil _ hne)

/-- The lines of a text are its segments, trimmed. -/
theorem splitLines_eq_mapInner (text : List Char) :
    splitLines text = mapInner trimEnd (text.splitOn '\n') := by
  have h := splitLines_intercalate (List.splitOn_ne_nil '\n' text)
    fun _ => not_mem_of_mem_splitOn
  rwa [List.intercalate_splitOn] at h

theorem not_mem_of_mem_splitLines {text line : List Char} (h : line ∈ splitLines text) :
    '\n' ∉ line := by
  rw [splitLines_eq_mapInner] at h
  exact forall_mem_mapInner _ (fun _ => not_mem_of_mem_splitOn)
    (fun _ => not_mem_trimEnd) line h

theorem length_splitLines (text : List Char) :
    (splitLines text).length = text.count '\n' + 1 := by
  rw [splitLines_eq_mapInner, length_mapInner, length_splitOn]

end DocSync.Text
