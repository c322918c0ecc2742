import DocSync.Proofs.Store.History
import DocSync.Proofs.Text.Breaks

/-! # Reads of a store

  There are ten ways to read a store, and each goes its own way through it. This
  file shows that they tell one story:

  - `Store.Counted`: the identifiers are listed once each, and counted.
  - `Store.Agree`: whether a document is open is the same for every read, the
    guarded reads return exactly where their guards hold, and the lines read one
    by one are the content.

  That a document has a line at all, and so the very first guard, rests on how
  documents enter a store: each is spelled by a text (`Store.Spelled`), which
  every step through every handle keeps (`spelled_runState`).
-/

namespace DocSync

namespace Store

/-! ### Documents that texts spell -/

/-- Every document of the store is spelled by some text. -/
def Spelled (s : Store) : Prop :=
  ∀ id d, s.get? id = some d → ∃ text, d = .ofText text

theorem spelled_empty : Spelled empty := by
  intro id d hd
  cases hd

theorem Edit.exists_text {e : Edit} {d : Document} (hd : e.document? = some d) :
    ∃ text, d = .ofText text := by
  cases e with
  | openText id text => exact ⟨text, (Option.some.inj hd).symm⟩
  | changeText id text => exact ⟨text, (Option.some.inj hd).symm⟩
  | close id => cases hd

/-- An edit brings in no other documents. -/
theorem Spelled.edit {s : Store} (h : s.Spelled) (e : Edit) : (s.edit e).Spelled := by
  intro id d hd
  rw [get?_edit] at hd
  by_cases hid : id = e.id
  · rw [if_pos hid] at hd
    exact Edit.exists_text hd
  · rw [if_neg hid] at hd
    exact h id d hd

/-! ### What the reads have in common -/

/-- The identifiers are listed once each, and as many as are counted. -/
structure Counted (s : Store) : Prop where
  nodup : s.ids.Nodup
  size : s.size = s.ids.length
  isEmpty_iff : s.isEmpty ↔ s.ids = []

theorem counted (s : Store) : s.Counted where
  nodup := s.nodup_ids
  size := s.size_eq_length_ids
  isEmpty_iff := by simp [isEmpty, ids]

/-- All reads of a document agree on whether it is open and on what it holds,
    and a refusal says which guard did not hold. -/
structure Agree (s : Store) (id : DocumentId) : Prop where
  isOpen_iff : s.isOpen id ↔ id ∈ s.ids
  document_iff : (s.get? id).isSome ↔ id ∈ s.ids
  lineCount_iff : (s.lineCount? id).isSome ↔ id ∈ s.ids
  content_eq_ok_iff : ∀ text, s.content id = .ok text ↔ ∃ d, s.get? id = some d ∧ d.content = text
  content_eq_error_iff : ∀ r, s.content id = .error r ↔ id ∉ s.ids ∧ r = .notOpen id
  count_eq_ok_iff : ∀ k, s.count id = .ok k ↔ ∃ d, s.get? id = some d ∧ d.lineCount = k
  lineCount_eq_some_iff : ∀ k, s.lineCount? id = some k ↔ s.count id = .ok k
  count_eq_error_iff : ∀ r, s.count id = .error r ↔ id ∉ s.ids ∧ r = .notOpen id
  line_eq_ok_iff : ∀ n text, s.line id n = .ok text ↔
    ∃ d, s.get? id = some d ∧ d.lines[n]? = some text
  line_returns_iff : ∀ n, (∃ text, s.line id n = .ok text) ↔ ∃ k, s.count id = .ok k ∧ n < k
  line_eq_error_iff : ∀ n r, s.line id n = .error r ↔
    (id ∉ s.ids ∧ r = .notOpen id) ∨
      ∃ k, s.count id = .ok k ∧ k ≤ n ∧ r = .lineOutOfRange n id k
  one_le_count : ∀ k, s.count id = .ok k → 1 ≤ k
  first_line : id ∈ s.ids → ∃ text, s.line id 0 = .ok text
  content_eq_lines : ∀ k, s.count id = .ok k → ∃ lines,
    (List.range k).mapM (s.line id) = .ok lines ∧ s.content id = .ok ("\n".intercalate lines)

section reads
variable {s : Store} {id : DocumentId}

theorem get_of_open {d : Document} (h : s.get? id = some d) : s.get id = .ok d := by
  rw [get, h]

theorem get_of_not_open (h : s.get? id = none) : s.get id = .error (.notOpen id) := by
  rw [get, h]

theorem content_of_open {d : Document} (h : s.get? id = some d) :
    s.content id = .ok d.content := by
  rw [content, get_of_open h]
  rfl

theorem count_of_open {d : Document} (h : s.get? id = some d) :
    s.count id = .ok d.lineCount := by
  rw [count, get_of_open h]
  rfl

theorem line_of_lt {d : Document} (h : s.get? id = some d) {n : Nat} (hn : n < d.lines.length) :
    s.line id n = .ok d.lines[n] := by
  have hline : d.line? n = some d.lines[n] := List.getElem?_eq_getElem hn
  simp only [line, get_of_open h, hline]

theorem line_of_le {d : Document} (h : s.get? id = some d) {n : Nat} (hn : d.lineCount ≤ n) :
    s.line id n = .error (.lineOutOfRange n id d.lineCount) := by
  have hline : d.line? n = none := List.getElem?_eq_none hn
  simp only [line, get_of_open h, hline]

theorem content_of_not_open (h : s.get? id = none) : s.content id = .error (.notOpen id) := by
  rw [content, get_of_not_open h]
  rfl

theorem count_of_not_open (h : s.get? id = none) : s.count id = .error (.notOpen id) := by
  rw [count, get_of_not_open h]
  rfl

theorem line_of_not_open (h : s.get? id = none) (n : Nat) :
    s.line id n = .error (.notOpen id) := by
  simp only [line, get_of_not_open h]

/-- The lines read one after another, from the first, are the lines of the document. -/
theorem mapM_line_take {d : Document} (h : s.get? id = some d) {n : Nat} (hn : n ≤ d.lineCount) :
    (List.range n).mapM (s.line id) = .ok (d.lines.take n) := by
  induction n with
  | zero => rfl
  | succ n ih =>
    have hlt : n < d.lines.length := hn
    rw [List.range_succ, List.mapM_append, ih (Nat.le_of_lt hn), List.mapM_cons, List.mapM_nil,
      line_of_lt h hlt, List.take_succ_eq_append_getElem hlt]
    rfl

theorem content_eq_intercalate (d : Document) : d.content = "\n".intercalate d.lines := by
  rw [← String.toList_inj, String.toList_intercalate, Document.content, String.toList_ofList,
    Text.joinLines, Text.join_eq_intercalate]
  rfl

theorem agree_of_open {d : Document} (h : s.get? id = some d) (hd : 0 < d.lineCount) :
    s.Agree id := by
  have hmem : id ∈ s.ids := by
    rw [mem_ids_iff, h]
    rfl
  have hcount : s.lineCount? id = some d.lineCount := by
    rw [lineCount?, h]
    rfl
  constructor
  case isOpen_iff => simp [isOpen, h, hmem]
  case document_iff => simp [h, hmem]
  case lineCount_iff => simp [hcount, hmem]
  case content_eq_ok_iff => simp [content_of_open h, h]
  case content_eq_error_iff => simp [content_of_open h, hmem]
  case count_eq_ok_iff => simp [count_of_open h, h]
  case lineCount_eq_some_iff => simp [count_of_open h, hcount]
  case count_eq_error_iff => simp [count_of_open h, hmem]
  case line_eq_ok_iff =>
    intro n text
    rcases Nat.lt_or_ge n d.lines.length with hn | hn
    · have hget : d.lines[n]? = some d.lines[n] := List.getElem?_eq_getElem hn
      simp [line_of_lt h hn, h, hget]
    · have hget : d.lines[n]? = none := List.getElem?_eq_none hn
      simp [line_of_le h hn, h, hget]
  case line_returns_iff =>
    intro n
    rcases Nat.lt_or_ge n d.lineCount with hn | hn
    · simp [line_of_lt h hn, count_of_open h, hn]
    · simp [line_of_le h hn, count_of_open h, hn]
  case line_eq_error_iff =>
    intro n r
    rcases Nat.lt_or_ge n d.lineCount with hn | hn
    · simp [line_of_lt h hn, count_of_open h, hmem, Nat.not_le_of_lt hn]
    · simp [line_of_le h hn, count_of_open h, hmem, hn, eq_comm]
  case one_le_count =>
    intro k hk
    rw [count_of_open h] at hk
    obtain rfl := Except.ok.inj hk
    exact hd
  case first_line => exact fun _ => ⟨_, line_of_lt h hd⟩
  case content_eq_lines =>
    intro k hk
    rw [count_of_open h] at hk
    obtain rfl := Except.ok.inj hk
    refine ⟨d.lines, ?_, ?_⟩
    · rw [mapM_line_take h (Nat.le_refl _), Document.lineCount, List.take_length]
    · rw [content_of_open h, content_eq_intercalate]

theorem agree_of_not_open (h : s.get? id = none) : s.Agree id := by
  have hmem : id ∉ s.ids := by
    rw [mem_ids_iff, h]
    exact Bool.false_ne_true
  have hcount : s.lineCount? id = none := by
    rw [lineCount?, h]
    rfl
  constructor
  case isOpen_iff => simp [isOpen, h, hmem]
  case document_iff => simp [h, hmem]
  case lineCount_iff => simp [hcount, hmem]
  case content_eq_ok_iff => simp [content_of_not_open h, h]
  case content_eq_error_iff => simp [content_of_not_open h, hmem, eq_comm]
  case count_eq_ok_iff => simp [count_of_not_open h, h]
  case lineCount_eq_some_iff => simp [count_of_not_open h, hcount]
  case count_eq_error_iff => simp [count_of_not_open h, hmem, eq_comm]
  case line_eq_ok_iff => simp [line_of_not_open h, h]
  case line_returns_iff => simp [line_of_not_open h, count_of_not_open h]
  case line_eq_error_iff => simp [line_of_not_open h, count_of_not_open h, hmem, eq_comm]
  case one_le_count => simp [count_of_not_open h]
  case first_line => exact fun hin => absurd hin hmem
  case content_eq_lines => simp [count_of_not_open h]

/-- Spelled documents have a line, so that the first guard holds for all of them. -/
theorem Spelled.agree (hs : s.Spelled) (id : DocumentId) : s.Agree id := by
  cases h : s.get? id with
  | none => exact agree_of_not_open h
  | some d =>
    obtain ⟨text, rfl⟩ := hs id d h
    exact agree_of_open h (Document.lineCount_ofText_pos text)

end reads

end Store

/-! ### Through handles -/

namespace Handles

/-- No step through any handle brings a document that no text spells. -/
theorem spelled_step {s : Handles} (hs : ∀ live ∈ s.stores, live.Spelled) (h : Nat) (a : Step) :
    ∀ live ∈ (s.step h a).1.stores, live.Spelled := by
  cases ht : s.targets[h]? with
  | none =>
    rw [step_of_missing ht]
    exact hs
  | some t =>
    rw [stores_step ht]
    cases a with
    | edit e =>
      intro live hlive
      obtain ⟨n, hn⟩ := List.mem_iff_getElem?.1 hlive
      rw [List.getElem?_modify] at hn
      obtain ⟨before, hbefore, rfl⟩ := Option.map_eq_some_iff.1 hn
      have hspelled := hs before (List.mem_of_getElem? hbefore)
      split
      · exact hspelled.edit e
      · exact hspelled
    | fresh =>
      intro live hlive
      rcases List.mem_append.1 hlive with hold | hnew
      · exact hs live hold
      · obtain rfl := List.mem_singleton.1 hnew
        exact Store.spelled_empty
    | query _ => exact hs
    | clone => exact hs
    | takeSnapshot _ _ => exact hs
    | readSnapshot _ _ => exact hs

theorem spelled_runState {s : Handles} (hs : ∀ live ∈ s.stores, live.Spelled)
    (steps : List (Nat × Step)) : ∀ live ∈ (s.runState steps).stores, live.Spelled := by
  induction steps generalizing s with
  | nil => exact hs
  | cons a rest ih => exact ih (spelled_step hs a.1 a.2)

theorem spelled_after (history : History) : ∀ live ∈ (after history).stores, live.Spelled := by
  apply spelled_runState
  intro live hlive
  obtain rfl := List.mem_singleton.1 hlive
  exact Store.spelled_empty

/-- A read leaves everything as it is, whether it is answered or refused. -/
theorem step_query {s : Handles} {h : Nat} {live : Store} (hs : s.store? h = some live)
    (q : Store.Query) : s.step h (.query q) = (s, .answered (live.answer q)) := by
  have hstate : (s.step h (.query q)).1 = s := by
    obtain ⟨t, ht, hlive⟩ := Option.bind_eq_some_iff.1 hs
    obtain ⟨hlt, -⟩ := List.getElem?_eq_some_iff.1 hlive
    simp [step, ht, hlt]
  exact Prod.ext hstate (reply_query hs q)

/-- After every run, and through every handle there is, the reads of the store
    tell one story about every document: they agree on whether it is open, each
    guarded read is refused exactly where its guard does not hold, and the
    refusal is worded so. No read changes anything. -/
theorem reads_agree {past : History} {h : Nat} (hh : h < handleCount past) (id : DocumentId) :
    (∃ live, (after past).store? h = some live ∧
      (∀ q, (after past).step h (.query q) = (after past, .answered (live.answer q))) ∧
      live.Counted ∧ live.Agree id) ∧
    (Store.Refusal.notOpen id).message = "document is not open: " ++ id.text ∧
    ∀ n k, (Store.Refusal.lineOutOfRange n id k).message =
      "line " ++ toString n ++ " out of range for " ++ id.text ++
        " (" ++ toString k ++ " lines)" := by
  have hlt : h < (after past).targets.length := length_targets_after past ▸ hh
  obtain ⟨live, hs⟩ := exists_store?_of_lt hlt
  have hmem : live ∈ (after past).stores := by
    obtain ⟨t, -, hlive⟩ := Option.bind_eq_some_iff.1 hs
    exact List.mem_of_getElem? hlive
  have hspelled : live.Spelled := spelled_after past live hmem
  refine ⟨⟨live, hs, step_query hs, live.counted, hspelled.agree id⟩, rfl, ?_⟩
  intro n k
  rfl

/-- The last line of a document may be empty and is still read; a position after
    it is refused, such as the largest of 64 bits. -/
theorem reads_agree_bounds :
    let a : DocumentId := ⟨"a"⟩
    let past : History := [(0, .edit (.openText a "x\r\n")), (0, .clone), (1, .query (.line a 9))]
    1 < handleCount past ∧ ∃ live, (after past).store? 1 = some live ∧
      live.line a 1 = .ok "" ∧ live.content a = .ok ("\n".intercalate ["x", ""]) ∧
      live.line a 0xFFFFFFFFFFFFFFFF = .error (.lineOutOfRange 0xFFFFFFFFFFFFFFFF a 2) := by
  intro a past
  have hh : 1 < handleCount past := by decide
  obtain ⟨⟨live, hs, -, -, hagree⟩, -, -⟩ := reads_agree hh a
  obtain rfl : (after past).stores[0] = live := Option.some.inj hs
  have hcount : (after past).stores[0].count a = .ok 2 := rfl
  refine ⟨hh, _, hs, ?_, ?_, ?_⟩
  · exact (hagree.line_eq_ok_iff 1 "").2 ⟨.ofText "x\r\n", rfl, rfl⟩
  · obtain ⟨lines, hlines, hcontent⟩ := hagree.content_eq_lines 2 hcount
    obtain rfl : ["x", ""] = lines := Except.ok.inj hlines
    exact hcontent
  · exact (hagree.line_eq_error_iff _ _).2 (Or.inr ⟨2, hcount, by decide, rfl⟩)

end Handles

end DocSync
