import DocSync.File.Path
import DocSync.Proofs.Text.Breaks

/-! # Components of a path

  A path is its front and its segments with slashes between them, and nothing is
  lost when it is taken apart: `front_append_segments`. The other way round, a front
  and segments are those of the path that they spell if they fit together, which
  `Fits` says.

  - `components_of_parent?`: the parent of a path has all its components but the last.
  - `components_join`: a name that is joined to a directory is one component more, and
    `prefix_of_parent?_join` that what is in front of it spells a beginning of the directory.
  - `exists_parent?_of_fileName?`: a path that ends in a name has a parent.
-/

namespace DocSync.File.Path

open Text (split join_split split_eq_splitOn)

/-! ### Segments -/

theorem split_ne_nil (path : List Char) : split '/' path ≠ [] := Text.split_ne_nil '/' path

theorem not_mem_segment {path segment : List Char} (h : segment ∈ segments path) :
    '/' ∉ segment := by
  rw [segments, split_eq_splitOn] at h
  exact Text.not_mem_of_mem_splitOn h

theorem segments_ne_nil (path : List Char) : segments path ≠ [] := split_ne_nil _

/-- Some first segments, joined, are a beginning of all of them joined. -/
theorem prefix_join {front segs : List (List Char)} (h : front <+: segs) :
    Text.join '/' front <+: Text.join '/' segs := by
  obtain ⟨more, rfl⟩ := h
  induction front with
  | nil => exact List.nil_prefix
  | cons segment front ih =>
    by_cases hmore : front ++ more = []
    · obtain ⟨rfl, rfl⟩ := List.append_eq_nil_iff.1 hmore
      exact List.prefix_rfl
    · rw [List.cons_append, Text.join_cons hmore]
      by_cases hfront : front = []
      · subst hfront
        exact List.prefix_append segment _
      · rw [Text.join_cons hfront, List.prefix_append_right_inj, List.cons_prefix_cons]
        exact ⟨rfl, ih⟩

/-- Segments are read back from the text that joins them. -/
theorem split_join {segs : List (List Char)} (hne : segs ≠ [])
    (h : ∀ segment ∈ segs, '/' ∉ segment) : split '/' (Text.join '/' segs) = segs := by
  rw [split_eq_splitOn, Text.join_eq_intercalate]
  exact List.splitOn_intercalate '/' h hne

/-- What can be the front of a path. -/
theorem head_cases (path : List Char) :
    (head path = ['/'] ∧ ∃ rest, path = '/' :: rest) ∨
    (head path = ['.'] ∧ (path = ['.'] ∨ ∃ rest, path = '.' :: '/' :: rest)) ∨
    (head path = [] ∧ path.head? ≠ some '/' ∧ path ≠ ['.'] ∧
      ∀ rest, path ≠ '.' :: '/' :: rest) := by
  unfold head
  split
  · exact Or.inl ⟨rfl, _, rfl⟩
  · exact Or.inr (Or.inl ⟨rfl, Or.inl rfl⟩)
  · exact Or.inr (Or.inl ⟨rfl, Or.inr ⟨_, rfl⟩⟩)
  · next hroot hhere hdir =>
    refine Or.inr (Or.inr ⟨rfl, ?_, hhere, hdir⟩)
    intro hslash
    obtain ⟨rest, hrest⟩ := List.head?_eq_some_iff.1 hslash
    exact hroot rest hrest

/-- The front and the segments make up the path. -/
theorem front_append_segments (path : List Char) :
    head path ++ Text.join '/' (segments path) = path := by
  rw [segments, join_split]
  obtain ⟨hhead, rest, rfl⟩ | ⟨hhead, rfl | ⟨rest, rfl⟩⟩ | ⟨hhead, -⟩ := head_cases path <;>
    simp [hhead]

/-! ### Fronts and segments that fit together -/

/-- A front and segments are those of the path that they spell. -/
structure Fits (front : List Char) (segs : List (List Char)) : Prop where
  ne_nil : segs ≠ []
  not_mem : ∀ segment ∈ segs, '/' ∉ segment
  front_cases : front = ['/'] ∨ (front = ['.'] ∧ segs.head? = some []) ∨
    (front = [] ∧ (segs = [[]] ∨ ∃ first, segs.head? = some first ∧ isIdle first = false))

theorem fits_self (path : List Char) : Fits (head path) (segments path) := by
  refine ⟨segments_ne_nil path, fun _ => not_mem_segment, ?_⟩
  obtain ⟨hhead, -⟩ | ⟨hhead, hpath⟩ | ⟨hhead, hroot, hhere, hdir⟩ := head_cases path
  · exact Or.inl hhead
  · refine Or.inr (Or.inl ⟨hhead, ?_⟩)
    -- After the leading point the path is over, or goes on with a slash.
    obtain rfl | ⟨rest, rfl⟩ := hpath
    · rfl
    · rfl
  · refine Or.inr (Or.inr ⟨hhead, ?_⟩)
    have hsegments : segments path = path.splitOn '/' := by
      rw [segments, hhead, List.length_nil, List.drop_zero, split_eq_splitOn]
    rw [hsegments]
    cases path with
    | nil => exact Or.inl rfl
    | cons c rest =>
      right
      have hc : c ≠ '/' := fun h => hroot (by simp [h])
      obtain ⟨first, others, hrest⟩ : ∃ first others, rest.splitOn '/' = first :: others :=
        List.exists_cons_of_ne_nil (List.splitOn_ne_nil '/' rest)
      refine ⟨c :: first, by simp [List.splitOn_cons_eq_if_modifyHead, hc, hrest], ?_⟩
      -- An idle first segment would be the leading point.
      have hnot : ¬ (c = '.' ∧ first = []) := by
        rintro ⟨rfl, rfl⟩
        have hjoin : ['/'].intercalate (rest.splitOn '/') = rest := List.intercalate_splitOn '/'
        rw [hrest] at hjoin
        cases others with
        | nil => exact hhere (by simp [← hjoin])
        | cons second others => exact hdir _ (by rw [← hjoin]; rfl)
      simpa [isIdle] using hnot

/-- Taken apart, a path that is spelled by parts that fit gives the parts back. -/
theorem Fits.head_and_segments {front : List Char} {segs : List (List Char)}
    (h : Fits front segs) :
    head (front ++ Text.join '/' segs) = front ∧
      segments (front ++ Text.join '/' segs) = segs := by
  have hhead : head (front ++ Text.join '/' segs) = front := by
    obtain rfl | ⟨rfl, hfirst⟩ | ⟨rfl, rfl | ⟨first, hfirst, hidle⟩⟩ := h.front_cases
    · rfl
    · obtain ⟨others, rfl⟩ := List.head?_eq_some_iff.1 hfirst
      cases others with
      | nil => rfl
      | cons second others => rfl
    · rfl
    · obtain ⟨others, rfl⟩ := List.head?_eq_some_iff.1 hfirst
      have hslash : '/' ∉ first := h.not_mem first (by simp)
      simp only [isIdle, Bool.decide_or, Bool.or_eq_false_iff, decide_eq_false_iff_not] at hidle
      -- The first segment is neither empty nor a point, so the path starts with a name.
      match first, hslash, hidle with
      | c :: [], hslash, hidle =>
        have hslash : c ≠ '/' := by simpa [eq_comm] using hslash
        have hpoint : c ≠ '.' := by simpa using hidle.2
        cases others <;> simp [head, Text.join, hslash, hpoint]
      | c :: d :: first, hslash, hidle =>
        have hc : c ≠ '/' := fun h => hslash (by simp [h])
        have hd : d ≠ '/' := fun h => hslash (by simp [h])
        cases others <;> simp [head, Text.join, hc, hd]
  refine ⟨hhead, ?_⟩
  rw [segments, hhead, List.drop_left, split_join h.ne_nil h.not_mem]

/-! ### Idle segments at the end -/

theorem exists_idle (segs : List (List Char)) :
    ∃ idle, segs = dropIdle segs ++ idle ∧ ∀ segment ∈ idle, isIdle segment = true := by
  refine ⟨(segs.reverse.takeWhile isIdle).reverse, ?_, ?_⟩
  · rw [dropIdle, ← List.reverse_append, List.takeWhile_append_dropWhile, List.reverse_reverse]
  · intro segment hmem
    exact List.all_eq_true.1 List.all_takeWhile segment (List.mem_reverse.1 hmem)

theorem prefix_dropIdle (segs : List (List Char)) : dropIdle segs <+: segs := by
  obtain ⟨idle, hsegs, -⟩ := exists_idle segs
  exact ⟨idle, hsegs.symm⟩

theorem filter_dropIdle (segs : List (List Char)) :
    (dropIdle segs).filter (!isIdle ·) = segs.filter (!isIdle ·) := by
  obtain ⟨idle, hsegs, hidle⟩ := exists_idle segs
  have hnone : idle.filter (!isIdle ·) = [] := by
    rw [List.filter_eq_nil_iff]
    intro segment hmem
    simp [hidle segment hmem]
  conv => rhs; rw [hsegs]
  rw [List.filter_append, hnone, List.append_nil]

/-- What is left ends in a segment that is not idle. -/
theorem not_isIdle_of_dropIdle {segs kept : List (List Char)} {last : List Char}
    (h : dropIdle segs = kept ++ [last]) : isIdle last = false := by
  have hreverse : segs.reverse.dropWhile isIdle = last :: kept.reverse := by
    have heq := congrArg List.reverse h
    simpa [dropIdle] using heq
  have hfirst := List.head?_dropWhile_not isIdle segs.reverse
  simpa [hreverse] using hfirst

/-! ### Components -/

def ofFront (front : List Char) : List Component :=
  match front with
  | ['/'] => [.root]
  | ['.'] => [.here]
  | _ => []

theorem components_eq (path : String) :
    components path = ofFront (head path.toList) ++
      ((segments path.toList).filter (!isIdle ·)).map .ofSegment := rfl

/-- The components that the first of some segments spell, behind the front. -/
theorem Fits.components_of_prefix {front : List Char} {segs some : List (List Char)}
    (h : Fits front segs) (hbegins : some <+: segs) :
    components (String.ofList (front ++ Text.join '/' some)) =
      ofFront front ++ (some.filter (!isIdle ·)).map .ofSegment := by
  rw [components_eq, String.toList_ofList]
  cases some with
  | nil =>
    -- Only the front is left, and it is a path of its own.
    obtain rfl | ⟨rfl, -⟩ | ⟨rfl, -⟩ := h.front_cases <;> rfl
  | cons first others =>
    obtain ⟨more, rfl⟩ := hbegins
    have hfits : Fits front (first :: others) := by
      refine ⟨by simp, fun segment hmem => h.not_mem segment (List.mem_append_left more hmem), ?_⟩
      obtain hroot | ⟨hhere, hfirst⟩ | ⟨hfront, hone | hname⟩ := h.front_cases
      · exact Or.inl hroot
      · exact Or.inr (Or.inl ⟨hhere, by simpa using hfirst⟩)
      · obtain ⟨rfl, hnil⟩ := List.cons.inj hone
        exact Or.inr (Or.inr ⟨hfront, Or.inl (by simp [(List.append_eq_nil_iff.1 hnil).1])⟩)
      · exact Or.inr (Or.inr ⟨hfront, Or.inr (by simpa using hname)⟩)
    rw [hfits.head_and_segments.1, hfits.head_and_segments.2]

theorem components_eq_nil_iff (path : String) : components path = [] ↔ path = "" := by
  constructor
  · intro h
    rw [components_eq, List.append_eq_nil_iff, List.map_eq_nil_iff] at h
    obtain ⟨hfront, hidle⟩ := h
    have hfits := fits_self path.toList
    obtain hroot | ⟨hhere, -⟩ | ⟨hnone, hone | ⟨first, hfirst, hname⟩⟩ := hfits.front_cases
    · rw [hroot] at hfront
      cases hfront
    · rw [hhere] at hfront
      cases hfront
    · have hpath := front_append_segments path.toList
      rw [hnone, hone] at hpath
      exact String.toList_inj.1 hpath.symm
    · have hmem : first ∈ segments path.toList := List.mem_of_head? hfirst
      have hout := List.filter_eq_nil_iff.1 hidle first hmem
      simp [hname] at hout
  · rintro rfl
    rfl

/-! ### Taking off the last component -/

section parent
variable {path dir name : String}

theorem components_of_parent? (h : parent? path = some dir) :
    components dir = (components path).dropLast := by
  have hfits := fits_self path.toList
  have hfilter := filter_dropIdle (segments path.toList)
  unfold parent? at h
  split at h
  · next hsegs =>
    -- All segments are idle, so the path is the leading point or nothing.
    rw [hsegs, List.filter_nil] at hfilter
    by_cases hhere : head path.toList = ['.']
    · simp only [hhere, if_true] at h
      obtain rfl := Option.some.inj h
      rw [components_eq path, hhere, ← hfilter]
      rfl
    · simp [hhere] at h
  · next hsegs =>
    obtain rfl := Option.some.inj h
    obtain ⟨kept, last, hlast⟩ : ∃ kept last, dropIdle (segments path.toList) = kept ++ [last] :=
      ⟨_, _, (List.dropLast_concat_getLast hsegs).symm⟩
    have hidle := not_isIdle_of_dropIdle hlast
    rw [hlast] at hfilter
    have hbegins : dropIdle kept <+: segments path.toList :=
      (prefix_dropIdle kept).trans
        ((List.prefix_append kept [last]).trans (hlast ▸ prefix_dropIdle _))
    rw [hlast, List.dropLast_concat, hfits.components_of_prefix hbegins, filter_dropIdle,
      components_eq path, ← hfilter, List.filter_append]
    simp [hidle, ← List.append_assoc]

/-- A path that ends in a name has a parent, and the name comes after it. -/
theorem exists_parent?_of_fileName? (h : fileName? path = some name) :
    ∃ dir, parent? path = some dir ∧ components path = components dir ++ [.name name] := by
  have hlast : (components path).getLast? = some (.name name) := by
    unfold fileName? at h
    split at h
    · next text hlast => rw [hlast, Option.some.inj h]
    · cases h
  obtain ⟨before, hbefore⟩ := List.getLast?_eq_some_iff.1 hlast
  cases hparent : parent? path with
  | some dir =>
    refine ⟨dir, rfl, ?_⟩
    rw [components_of_parent? hparent, hbefore, List.dropLast_concat]
  | none =>
    exfalso
    unfold parent? at hparent
    split at hparent
    · next hsegs =>
      have hfilter := filter_dropIdle (segments path.toList)
      rw [hsegs, List.filter_nil] at hfilter
      rw [components_eq, ← hfilter, List.map_nil, List.append_nil] at hlast
      -- A front is no name.
      obtain ⟨hhead, -⟩ | ⟨hhead, -⟩ | ⟨hhead, -⟩ := head_cases path.toList <;>
        simp [hhead, ofFront] at hlast
    · cases hparent

end parent

/-! ### Names -/

/-- What can be the name of a file or directory, as a text. -/
structure IsName (name : String) : Prop where
  not_mem : '/' ∉ name.toList
  ne_empty : name ≠ ""
  ne_here : name ≠ "."
  ne_up : name ≠ ".."

theorem IsName.isAbsolute {name : String} (h : IsName name) : isAbsolute name = false := by
  rw [Path.isAbsolute, decide_eq_false_iff_not]
  exact fun hslash => h.not_mem (List.mem_of_head? hslash)

theorem IsName.isIdle {name : String} (h : IsName name) : isIdle name.toList = false := by
  have hempty : name.toList ≠ "".toList := mt String.toList_inj.1 h.ne_empty
  have hhere : name.toList ≠ ".".toList := mt String.toList_inj.1 h.ne_here
  simp only [Path.isIdle, Bool.decide_or, Bool.or_eq_false_iff, decide_eq_false_iff_not]
  exact ⟨hempty, hhere⟩

theorem IsName.ofSegment {name : String} (h : IsName name) :
    Component.ofSegment name.toList = .name name := by
  have hup : name.toList ≠ "..".toList := mt String.toList_inj.1 h.ne_up
  have hup' : ¬ name.toList = ['.', '.'] := hup
  rw [Component.ofSegment, if_neg hup', String.ofList_toList]

theorem IsName.split {name : String} (h : IsName name) : split '/' name.toList = [name.toList] := by
  rw [split_eq_splitOn]
  exact List.splitOn_eq_singleton h.not_mem

/-- The last component of a path is a name, if it is one at all. -/
theorem isName_of_fileName? {path name : String} (h : fileName? path = some name) :
    IsName name := by
  have hlast : .name name ∈ components path := by
    unfold fileName? at h
    split at h
    · next text hlast => exact Option.some.inj h ▸ List.mem_of_getLast? hlast
    · cases h
  rw [components_eq, List.mem_append] at hlast
  obtain hfront | hsegment := hlast
  · obtain ⟨hhead, -⟩ | ⟨hhead, -⟩ | ⟨hhead, -⟩ := head_cases path.toList <;>
      simp [hhead, ofFront] at hfront
  · obtain ⟨segment, hmem, hname⟩ := List.mem_map.1 hsegment
    obtain ⟨hmem, hidle⟩ := List.mem_filter.1 hmem
    by_cases hup : segment = ['.', '.']
    · rw [Component.ofSegment, if_pos hup] at hname
      cases hname
    · rw [Component.ofSegment, if_neg hup] at hname
      obtain rfl := Component.name.inj hname
      simp only [Path.isIdle, Bool.decide_or, Bool.not_or, Bool.and_eq_true, Bool.not_eq_true',
        decide_eq_false_iff_not] at hidle
      have hne (text : String) (htext : segment ≠ text.toList) : String.ofList segment ≠ text := by
        intro heq
        exact htext (by rw [← heq, String.toList_ofList])
      refine ⟨?_, hne "" hidle.1, hne "." hidle.2, hne ".." hup⟩
      rw [String.toList_ofList]
      exact not_mem_segment hmem

/-! ### Joining -/

/-- A slash after a path that is not empty only adds segments. -/
theorem segments_append_slash {base : List Char} (h : base ≠ []) (rest : List Char) :
    head (base ++ '/' :: rest) = head base ∧
      segments (base ++ '/' :: rest) = segments base ++ split '/' rest := by
  have hhead : head (base ++ '/' :: rest) = head base := by
    match base, h with
    | [c], _ =>
      by_cases hroot : c = '/'
      · subst hroot
        rfl
      · by_cases hhere : c = '.' <;> simp [head, hroot, hhere]
    | c :: d :: base, _ =>
      by_cases hroot : c = '/'
      · subst hroot
        rfl
      · by_cases hhere : c = '.' <;> by_cases hd : d = '/' <;> simp [head, hroot, hhere, hd]
  refine ⟨hhead, ?_⟩
  have hfront : (head base).length ≤ base.length := by
    rw [← front_append_segments base, List.length_append, front_append_segments]
    exact Nat.le_add_right _ _
  rw [segments, hhead, List.drop_append_of_le_length hfront, segments, split_eq_splitOn,
    split_eq_splitOn, split_eq_splitOn, List.splitOn_append_cons_self]

/-- The name is the last segment of the joined path. The segments in front of it spell the
    directory, but for a slash at its end, and mean the same. -/
theorem exists_segments_join (dir : String) {name : String} (h : IsName name) :
    ∃ front, segments (join dir name).toList = front ++ [name.toList] ∧
      head (join dir name).toList ++ Text.join '/' front <+: dir.toList ∧
      components dir =
        ofFront (head (join dir name).toList) ++ (front.filter (!isIdle ·)).map .ofSegment := by
  have hslash (base : List Char) (hbase : base ≠ []) :
      segments (base ++ '/' :: name.toList) = segments base ++ [name.toList] := by
    rw [(segments_append_slash hbase name.toList).2, h.split]
  unfold join
  rw [if_neg (by simp [h.isAbsolute])]
  simp only
  by_cases hempty : dir.toList = []
  · obtain rfl : dir = "" := String.toList_inj.1 hempty
    have hhead : head name.toList = [] := by
      obtain ⟨-, rest, hroot⟩ | ⟨-, hhere | ⟨rest, hdir⟩⟩ | ⟨hhead, -⟩ := head_cases name.toList
      · exact absurd (by simp [hroot]) h.not_mem
      · exact absurd (String.toList_inj.1 hhere) h.ne_here
      · exact absurd (by simp [hdir]) h.not_mem
      · exact hhead
    rw [if_pos (Or.inl hempty), String.empty_append, segments, hhead, List.length_nil,
      List.drop_zero, h.split]
    exact ⟨[], rfl, List.prefix_rfl, rfl⟩
  by_cases hend : dir.toList.getLast? = some '/'
  · -- The slash at the end of the directory stands for the one in between.
    obtain ⟨base, hbase⟩ := List.getLast?_eq_some_iff.1 hend
    have htext : (dir ++ name).toList = base ++ '/' :: name.toList := by
      rw [String.toList_append, hbase]
      simp
    have hidle : Path.isIdle [] = true := rfl
    rw [if_pos (Or.inr hend), htext, components_eq, hbase]
    by_cases hroot : base = []
    · subst hroot
      refine ⟨[], ?_, List.prefix_rfl, rfl⟩
      rw [List.nil_append, List.nil_append, segments]
      exact h.split
    · obtain ⟨hhead, hsegments⟩ := segments_append_slash hroot []
      refine ⟨segments base, hslash base hroot, ?_, ?_⟩
      · rw [(segments_append_slash hroot name.toList).1, front_append_segments]
        exact List.prefix_append base ['/']
      · rw [(segments_append_slash hroot name.toList).1, hhead, hsegments]
        simp [Text.split, hidle]
  · have htext : (dir ++ "/" ++ name).toList = dir.toList ++ '/' :: name.toList := by simp
    rw [if_neg (by simp [hempty, hend]), htext]
    refine ⟨segments dir.toList, hslash dir.toList hempty, ⟨[], ?_⟩, ?_⟩
    · rw [(segments_append_slash hempty name.toList).1, front_append_segments, List.append_nil]
    · rw [(segments_append_slash hempty name.toList).1, components_eq]

/-- A name joined to a directory is one component more. -/
theorem components_join (dir : String) {name : String} (h : IsName name) :
    components (join dir name) = components dir ++ [.name name] := by
  obtain ⟨front, hsegments, -, hdir⟩ := exists_segments_join dir h
  rw [components_eq, hsegments, hdir]
  simp [h.isIdle, h.ofSegment]

/-- The path without the name is spelled by a beginning of the directory. -/
theorem prefix_of_parent?_join {dir name parent : String} (h : IsName name)
    (hparent : parent? (join dir name) = some parent) : parent.toList <+: dir.toList := by
  obtain ⟨front, hsegments, hbegins, -⟩ := exists_segments_join dir h
  have hdrop : dropIdle (segments (join dir name).toList) = front ++ [name.toList] := by
    rw [hsegments, dropIdle, List.reverse_append, List.reverse_singleton, List.singleton_append,
      List.dropWhile_cons_of_neg (by simp [h.isIdle]), List.reverse_cons, List.reverse_reverse]
  unfold parent? at hparent
  split at hparent
  · next hnil => simp [hdrop] at hnil
  · obtain rfl := Option.some.inj hparent
    rw [hdrop, List.dropLast_concat, String.toList_ofList]
    have hfront := prefix_join (prefix_dropIdle front)
    exact ((List.prefix_append_right_inj _).2 hfront).trans hbegins

/-- A joined path is absolute if one of its parts is. -/
theorem isAbsolute_join (dir path : String) :
    isAbsolute (join dir path) = (isAbsolute dir || isAbsolute path) := by
  unfold join
  by_cases hpath : isAbsolute path
  · simp [hpath]
  · rw [if_neg hpath]
    cases hdir : dir.toList with
    | nil =>
      obtain rfl : dir = "" := String.toList_inj.1 hdir
      simp [isAbsolute]
    | cons c rest =>
      have hhead (text : String) : isAbsolute (dir ++ text) = isAbsolute dir := by
        simp [isAbsolute, hdir]
      simp only [hpath, Bool.or_false]
      split
      · exact hhead path
      · rw [String.append_assoc]
        exact hhead _

end DocSync.File.Path
