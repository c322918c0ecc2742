import DocSync.Failure
import DocSync.Proofs.Text.Breaks
import Mathlib.Data.List.Basic

/-! # Reading a report back

  A report has a line for each message of its failure, and a label in front of each
  message. If no message is broken over lines, the labels are all that is in the
  way of the messages, whatever these look like themselves.

  - `Text.endedLines?_eq_some_iff` says which texts consist of whole lines.
  - `Failure.read?_eq_some_iff` says that a report can be read back, and that nothing
    else can.
  - `report_determines_chain` follows, with what a further cause does to a report.
-/

namespace DocSync

namespace Text

/-! ### Whole lines -/

/-- The lines of a text in which every line ends with a line feed. -/
def endedLines? (text : String) : Option (List String) :=
  let segments := text.toList.splitOn '\n'
  if segments.getLast? = some [] then some (segments.dropLast.map String.ofList) else none

/-- Lines with a line feed at the end of each. -/
def endLines (lines : List String) : String := String.join (lines.map (· ++ "\n"))

theorem toList_endLines (lines : List String) :
    (endLines lines).toList = ['\n'].intercalate (lines.map String.toList ++ [[]]) := by
  rw [endLines, String.toList_join, List.flatMap_map]
  induction lines with
  | nil => rfl
  | cons line rest ih =>
    have hne : rest.map String.toList ++ [[]] ≠ [] := by simp
    rw [List.flatMap_cons, List.map_cons, List.cons_append, List.intercalate_cons_of_ne_nil hne, ih,
      String.toList_append]
    rfl

theorem splitOn_endLines {lines : List String} (h : ∀ line ∈ lines, '\n' ∉ line.toList) :
    (endLines lines).toList.splitOn '\n' = lines.map String.toList ++ [[]] := by
  rw [toList_endLines]
  refine List.splitOn_intercalate '\n' ?_ (by simp)
  intro segment hsegment
  rcases List.mem_append.1 hsegment with hline | hlast
  · obtain ⟨line, hmem, rfl⟩ := List.mem_map.1 hline
    exact h line hmem
  · simp [List.mem_singleton.1 hlast]

/-- The lines of a text are read just if they are put together to it. -/
theorem endedLines?_eq_some_iff {text : String} {lines : List String} :
    endedLines? text = some lines ↔ text = endLines lines ∧ ∀ line ∈ lines, '\n' ∉ line.toList := by
  have hofList : String.ofList ∘ String.toList = id := funext fun _ => String.ofList_toList
  constructor
  · intro h
    simp only [endedLines?, Option.ite_none_right_eq_some, Option.some.injEq] at h
    obtain ⟨hlast, rfl⟩ := h
    -- Behind the last line feed there is an empty segment, which is no line.
    obtain ⟨front, hfront⟩ := List.getLast?_eq_some_iff.1 hlast
    rw [hfront, List.dropLast_concat]
    have htoList : (front.map String.ofList).map String.toList = front := by
      simp [List.map_map, Function.comp_def]
    constructor
    · rw [← String.toList_inj, toList_endLines, htoList, ← hfront, List.intercalate_splitOn]
    · intro line hline
      obtain ⟨segment, hsegment, rfl⟩ := List.mem_map.1 hline
      rw [String.toList_ofList]
      exact not_mem_of_mem_splitOn (by rw [hfront]; exact List.mem_append_left _ hsegment)
  · rintro ⟨rfl, h⟩
    simp [endedLines?, splitOn_endLines h, hofList]

end Text

namespace Failure

/-! ### Messages and lines -/

/-- All messages, from the outermost to the innermost. -/
def chain (f : Failure) : List String := f.message :: f.causes

/-- No message is broken over lines. -/
def OneLined (f : Failure) : Prop := ∀ text ∈ f.chain, '\n' ∉ text.toList

instance (f : Failure) : Decidable f.OneLined := List.decidableBAll _ f.chain

/-- The failure with a cause beneath all others. -/
def causedBy (f : Failure) (cause : String) : Failure := ⟨f.message, f.causes ++ [cause]⟩

/-- What stands in front of the outermost message. -/
def messageLabel : String := "Error: "

/-- What stands in front of a cause. -/
def causeLabel : String := "Caused by: "

def lines (f : Failure) : List String :=
  (messageLabel ++ f.message) :: f.causes.map (causeLabel ++ ·)

theorem report_eq_endLines (f : Failure) : f.report = Text.endLines f.lines := by
  rw [← String.toList_inj]
  simp [report, Text.endLines, lines, String.toList_join, messageLabel, causeLabel,
    causeEntry, List.flatMap_map, Function.comp_def]

theorem length_lines (f : Failure) : f.lines.length = f.chain.length := by
  simp [lines, chain]

/-- Only the first line has the label of the message. -/
theorem getElem?_lines (f : Failure) (n : Nat) :
    f.lines[n]? = f.chain[n]?.map ((if n = 0 then messageLabel else causeLabel) ++ ·) := by
  cases n with
  | zero => rfl
  | succ n => simp [lines, chain]

theorem oneLined_iff (f : Failure) : f.OneLined ↔ ∀ line ∈ f.lines, '\n' ∉ line.toList := by
  have hmessage : '\n' ∉ messageLabel.toList := by decide
  have hcause : '\n' ∉ causeLabel.toList := by decide
  simp [OneLined, chain, lines, hmessage, hcause]

/-! ### Reading -/

/-- A line without the label in front of it. -/
def unlabel? (label line : String) : Option String :=
  (label.toList.isPrefixOf? line.toList).map String.ofList

def ofLines? : List String → Option Failure
  | [] => none
  | first :: rest => do
    let message ← unlabel? messageLabel first
    let causes ← rest.mapM (unlabel? causeLabel)
    return ⟨message, causes⟩

/-- The failure that has the given report. -/
def read? (text : String) : Option Failure := (Text.endedLines? text).bind ofLines?

theorem unlabel?_eq_some_iff {label line text : String} :
    unlabel? label line = some text ↔ line = label ++ text := by
  rw [unlabel?, Option.map_eq_some_iff, ← String.toList_inj, String.toList_append]
  simp only [List.isPrefixOf?_eq_some_iff_append_eq]
  constructor
  · rintro ⟨rest, hrest, rfl⟩
    rw [String.toList_ofList, hrest]
  · intro h
    exact ⟨text.toList, h.symm, String.ofList_toList⟩

theorem mapM_unlabel?_eq_some_iff {label : String} {lines texts : List String} :
    lines.mapM (unlabel? label) = some texts ↔ lines = texts.map (label ++ ·) := by
  induction lines generalizing texts with
  | nil => simp [eq_comm]
  | cons line rest ih =>
    cases texts with
    | nil => simp [Option.bind_eq_some_iff]
    | cons text texts => simp [Option.bind_eq_some_iff, unlabel?_eq_some_iff, ih]

theorem ofLines?_eq_some_iff {lines : List String} {f : Failure} :
    ofLines? lines = some f ↔ lines = f.lines := by
  obtain ⟨message, causes⟩ := f
  cases lines with
  | nil => simp [ofLines?, Failure.lines]
  | cons first rest =>
    simp [ofLines?, Failure.lines, Option.bind_eq_some_iff, unlabel?_eq_some_iff,
      mapM_unlabel?_eq_some_iff]

/-- What can be read are the reports of failures without broken messages. -/
theorem read?_eq_some_iff {text : String} {f : Failure} :
    read? text = some f ↔ text = f.report ∧ f.OneLined := by
  rw [read?, Option.bind_eq_some_iff, report_eq_endLines, oneLined_iff]
  constructor
  · rintro ⟨lines, hlines, hf⟩
    obtain rfl := ofLines?_eq_some_iff.1 hf
    exact Text.endedLines?_eq_some_iff.1 hlines
  · intro h
    exact ⟨f.lines, Text.endedLines?_eq_some_iff.2 h, ofLines?_eq_some_iff.2 rfl⟩

/-! ### A further cause -/

theorem chain_causedBy (f : Failure) (cause : String) :
    (f.causedBy cause).chain = f.chain ++ [cause] := rfl

theorem report_causedBy (f : Failure) (cause : String) :
    (f.causedBy cause).report = f.report ++ causeLabel ++ cause ++ "\n" := by
  rw [← String.toList_inj]
  simp [report, causedBy, String.toList_join, causeEntry, causeLabel, List.append_assoc]

/-- Where no message is broken over lines, a report has as many lines as there are
    messages, each with its label and in their order. It is then read as the chain
    that it comes from, and as no other, so it is the report of no other chain. A
    further cause, broken or not, adds its entry at the end. -/
theorem report_determines_chain (f : Failure) :
    (f.OneLined →
      (∃ lines, Text.endedLines? f.report = some lines ∧ lines.length = f.chain.length ∧
        ∀ n, lines[n]? =
          f.chain[n]?.map ((if n = 0 then "Error: " else "Caused by: ") ++ ·)) ∧
      (∀ text, read? text = some f ↔ text = f.report) ∧
      ∀ g : Failure, g.OneLined → g.chain ≠ f.chain → g.report ≠ f.report) ∧
    ∀ cause, (f.causedBy cause).chain = f.chain ++ [cause] ∧
      (f.causedBy cause).report = f.report ++ "Caused by: " ++ cause ++ "\n" := by
  refine ⟨?_, fun cause => ⟨chain_causedBy f cause, report_causedBy f cause⟩⟩
  intro h
  have hread (text : String) : read? text = some f ↔ text = f.report := by
    rw [read?_eq_some_iff, and_iff_left h]
  refine ⟨⟨f.lines, ?_, length_lines f, getElem?_lines f⟩, hread, ?_⟩
  · exact Text.endedLines?_eq_some_iff.2 ⟨report_eq_endLines f, (oneLined_iff f).1 h⟩
  · intro g hg hchain hreport
    -- The report of the two is read as both.
    have hsame : some g = some f :=
      (read?_eq_some_iff.2 ⟨rfl, hg⟩).symm.trans ((hread _).2 hreport)
    exact hchain (congrArg chain (Option.some.inj hsame))

/-- Messages that look like labelled ones, that are empty or that are repeated. -/
theorem report_determines_chain_labelled :
    let f : Failure := ⟨"Error: Caused by: ", ["", "", "Caused by: "]⟩
    let g : Failure := ⟨"Error: Caused by: ", ["", "Caused by: "]⟩
    f.OneLined ∧ g.OneLined ∧
      read? "Error: Error: Caused by: \nCaused by: \nCaused by: \nCaused by: Caused by: \n" =
        some f ∧
      g.report ≠ f.report := by
  intro f g
  have hf : f.OneLined := by decide
  have hg : g.OneLined := by decide
  obtain ⟨-, hread, hother⟩ := (report_determines_chain f).1 hf
  exact ⟨hf, hg, (hread _).2 (by decide), hother g hg (by decide)⟩

/-- A message that is broken over lines may look like a message and its cause. -/
example : (⟨"a\nCaused by: b", []⟩ : Failure).report = (⟨"a", ["b"]⟩ : Failure).report := by
  decide

end Failure
end DocSync
