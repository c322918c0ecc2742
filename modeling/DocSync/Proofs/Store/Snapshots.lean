import DocSync.Proofs.Document.Content
import DocSync.Proofs.Store.History

/-! # Snapshots

  A document that is read through a handle can be kept under a name. What is
  kept is a value: `snapshot_step` and `snapshot_runState` say that no step
  through any handle changes it, as long as its name is not used again.

  Hence a comparison of a snapshot with a document says something about two
  points of a run, that at which the snapshot was taken and the present. With
  the history of the store it comes down to the texts of two edits:
  `snapshots_compare_by_text`.
-/

namespace DocSync

/-- The text that an edit gives to its document. -/
def Store.Edit.text? : Store.Edit → Option String
  | .openText _ text => some text
  | .changeText _ text => some text
  | .close _ => none

theorem Store.Edit.document?_eq_map (e : Store.Edit) : e.document? = e.text?.map .ofText := by
  cases e <;> rfl

namespace Handles

/-! ### The text of a document -/

/-- The last edit of the document through a related handle gave it this text. -/
def LastText (history : History) (h : Nat) (id : DocumentId) (text : String) : Prop :=
  ∃ e, LastEdit history h id e ∧ e.text? = some text

section text
variable {history past : History} {h g : Nat} {i j : DocumentId}

theorem LastText.current {text : String} (ht : LastText history h i text) :
    Current history h i (some (.ofText text)) := by
  obtain ⟨e, he, htext⟩ := ht
  left
  refine ⟨e, he, ?_⟩
  rw [Store.Edit.document?_eq_map, htext]
  rfl

theorem Current.exists_lastText {d : Document} (hd : Current history h i (some d)) :
    ∃ text, LastText history h i text ∧ d = .ofText text := by
  rcases hd with ⟨e, he, hdoc⟩ | ⟨-, hnone⟩
  · rw [Store.Edit.document?_eq_map] at hdoc
    obtain ⟨text, htext, hd⟩ := Option.map_eq_some_iff.1 hdoc.symm
    exact ⟨text, ⟨e, he, htext⟩, hd.symm⟩
  · cases hnone

/-- Documents at two points of two histories are the same if both are missing, or
    if the texts of their last edits differ in nothing but how their breaks are
    written. -/
theorem Current.eq_iff {d d' : Option Document} (hd : Current past h i d)
    (hd' : Current history g j d') :
    d = d' ↔ (Current past h i none ∧ Current history g j none) ∨
      ∃ text text', LastText past h i text ∧ LastText history g j text' ∧
        text.replace "\r\n" "\n" = text'.replace "\r\n" "\n" := by
  constructor
  · intro heq
    subst heq
    cases d with
    | none => exact Or.inl ⟨hd, hd'⟩
    | some d =>
      obtain ⟨text, ht, hspelled⟩ := hd.exists_lastText
      obtain ⟨text', ht', hspelled'⟩ := hd'.exists_lastText
      have hsame : Document.ofText text = .ofText text' := hspelled.symm.trans hspelled'
      exact Or.inr ⟨text, text', ht, ht', (Document.ofText_eq_iff_replace _ _).1 hsame⟩
  · intro h
    rcases h with ⟨hnone, hnone'⟩ | ⟨text, text', ht, ht', hreplace⟩
    · rw [hd.unique hnone, hd'.unique hnone']
    · have hsame := (Document.ofText_eq_iff_replace text text').2 hreplace
      rw [hd.unique ht.current, hd'.unique ht'.current, hsame]

end text

/-! ### Steps and snapshots -/

section step
variable {s : Handles} {h : Nat} {live : Store} {name : String}

theorem store?_eq_none_iff : s.store? h = none ↔ s.targets[h]? = none := by
  constructor
  · intro hs
    by_contra hne
    have hlt : h < s.targets.length := by
      by_contra hle
      exact hne (List.getElem?_eq_none (Nat.le_of_not_lt hle))
    obtain ⟨live, hlive⟩ := exists_store?_of_lt hlt
    rw [hs] at hlive
    cases hlive
  · intro ht
    rw [store?, ht]
    rfl

/-- The snapshots after a step: only taking one adds to them, and what it keeps
    is what the store holds. -/
theorem snapshots_step (hs : s.store? h = some live) (a : Step) :
    (s.step h a).1.snapshots =
      match a with
      | .takeSnapshot id name => (name, live.get? id) :: s.snapshots
      | _ => s.snapshots := by
  obtain ⟨t, ht, hlive⟩ := Option.bind_eq_some_iff.1 hs
  obtain ⟨hlt, rfl⟩ := List.getElem?_eq_some_iff.1 hlive
  cases a <;> simp [step, ht, hlt, editAt]

/-- What a step is answered with. -/
theorem reply_step (hs : s.store? h = some live) (a : Step) :
    (s.step h a).2 =
      match a with
      | .edit _ => .done
      | .query q => .answered (live.answer q)
      | .clone => .handle s.targets.length
      | .fresh => .handle s.targets.length
      | .takeSnapshot id _ => .kept (live.isOpen id)
      | .readSnapshot name id =>
        .compared (s.snapshot name) (s.snapshot name = id.bind live.get?) := by
  obtain ⟨t, ht, hlive⟩ := Option.bind_eq_some_iff.1 hs
  obtain ⟨hlt, rfl⟩ := List.getElem?_eq_some_iff.1 hlive
  cases a <;> simp [step, ht, hlt]

theorem snapshot_step_take (hs : s.store? h = some live) (name : String) (id : DocumentId) :
    (s.step h (.takeSnapshot id name)).1.snapshot name = live.get? id := by
  unfold snapshot
  rw [snapshots_step hs]
  simp

/-- A step that does not use the name leaves the snapshot as it is. -/
theorem snapshot_step (s : Handles) (h : Nat) {a : Step} (ha : ∀ id, a ≠ .takeSnapshot id name) :
    (s.step h a).1.snapshot name = s.snapshot name := by
  cases hlive : s.store? h with
  | none => rw [step_of_missing (store?_eq_none_iff.1 hlive)]
  | some live =>
    unfold snapshot
    rw [snapshots_step hlive]
    cases a with
    | takeSnapshot id other =>
      have hne : name ≠ other := by
        intro heq
        exact ha id (heq ▸ rfl)
      show (((other, live.get? id) :: s.snapshots).lookup name).join = _
      rw [List.lookup_cons, beq_eq_false_iff_ne.2 hne]
    | edit e => rfl
    | query q => rfl
    | clone => rfl
    | fresh => rfl
    | readSnapshot other id => rfl

theorem snapshot_runState (s : Handles) {steps : List (Nat × Step)}
    (hsteps : ∀ k id, (k, Step.takeSnapshot id name) ∉ steps) :
    (s.runState steps).snapshot name = s.snapshot name := by
  induction steps generalizing s with
  | nil => rfl
  | cons first rest ih =>
    obtain ⟨k, a⟩ := first
    have hrest : ∀ k id, (k, Step.takeSnapshot id name) ∉ rest := by
      intro k' id hmem
      exact hsteps k' id (List.mem_cons_of_mem _ hmem)
    have hfirst : ∀ id, a ≠ .takeSnapshot id name := by
      intro id heq
      exact hsteps k id (heq ▸ List.mem_cons_self)
    show ((s.step k a).1.runState rest).snapshot name = s.snapshot name
    rw [ih _ hrest, snapshot_step s k hfirst]

end step

/-! ### Comparing later -/

/-- A snapshot shows for ever the document that was read when it was taken,
    whatever is done through any handle. Compared with a document later on, it
    is the same exactly if both are missing, or if the text that the one had
    then and the text that the other has now are the same once every break is a
    single line feed. -/
theorem snapshots_compare_by_text {past later : History} {h g : Nat} {name : String}
    (i j : DocumentId) (rest : History) (hh : h < handleCount past)
    (hname : ∀ k id, (k, Step.takeSnapshot id name) ∉ later)
    (hg : g < handleCount (past ++ (h, .takeSnapshot i name) :: later)) :
    let now := past ++ (h, .takeSnapshot i name) :: later
    ∃ d equal,
      replyAfter past rest h (.query (.document i)) =
        some (.answered (.ok (.documentIfOpen d))) ∧
      replyAfter now rest g (.readSnapshot name (some j)) = some (.compared d equal) ∧
      (equal = true ↔
        (Current past h i none ∧ Current now g j none) ∨
        ∃ text text', LastText past h i text ∧ LastText now g j text' ∧
          text.replace "\r\n" "\n" = text'.replace "\r\n" "\n") := by
  intro now
  rw [← length_targets_after] at hh hg
  obtain ⟨old, hold⟩ := exists_store?_of_lt hh
  obtain ⟨live, hlive⟩ := exists_store?_of_lt hg
  have hkept : (after now).snapshot name = old.get? i := by
    have hstate : after now = ((after past).step h (.takeSnapshot i name)).1.runState later :=
      runState_append initial past ((h, .takeSnapshot i name) :: later)
    rw [hstate, snapshot_runState _ hname, snapshot_step_take hold]
  -- The history says what either store holds, at its own point of the run.
  have hthen : Current past h i (old.get? i) := current_get? hold i
  have hnow : Current now g j (live.get? j) := current_get? hlive j
  refine ⟨old.get? i, decide (old.get? i = live.get? j), ?_, ?_, ?_⟩
  · exact replyAfter_query hold rest (.document i)
  · have hreply : ((after now).step g (.readSnapshot name (some j))).2 =
        .compared ((after now).snapshot name) ((after now).snapshot name = live.get? j) :=
      reply_step hlive _
    rw [hkept] at hreply
    rw [replyAfter, getElem?_run, Option.map_some]
    exact congrArg some hreply
  · rw [decide_eq_true_iff]
    exact hthen.eq_iff hnow

/-- A document that is changed and opened again is the same as its snapshot of
    old, since its text is but for the breaks. Right after the change it is
    not. -/
theorem snapshots_compare_by_text_reopened :
    let a : DocumentId := ⟨"a"⟩
    let past : History := [(0, .edit (.openText a "x\ny")), (0, .clone)]
    let changed : History := [(0, .edit (.changeText a "z"))]
    let reopened : History := changed ++ [(1, .edit (.openText a "x\r\ny"))]
    let now := past ++ (1, .takeSnapshot a "s") :: reopened
    1 < handleCount past ∧ (∀ k id, (k, Step.takeSnapshot id "s") ∉ reopened) ∧
    0 < handleCount now ∧
    replyAfter (past ++ (1, .takeSnapshot a "s") :: changed) [] 0 (.readSnapshot "s" (some a)) =
      some (.compared (some (.ofText "x\ny")) false) ∧
    replyAfter now [] 0 (.readSnapshot "s" (some a)) =
      some (.compared (some (.ofText "x\ny")) true) ∧
    ∃ text text', LastText past 1 a text ∧ LastText now 0 a text' ∧
      text.replace "\r\n" "\n" = text'.replace "\r\n" "\n" := by
  intro a past changed reopened now
  have hh : 1 < handleCount past := by decide
  have hname : ∀ k id, (k, Step.takeSnapshot id "s") ∉ reopened := by
    intro k id
    simp [reopened, changed]
  have hg : 0 < handleCount now := by decide
  have hchanged : replyAfter (past ++ (1, .takeSnapshot a "s") :: changed) [] 0
      (.readSnapshot "s" (some a)) = some (.compared (some (.ofText "x\ny")) false) := rfl
  have hreply : replyAfter now [] 0 (.readSnapshot "s" (some a)) =
      some (.compared (some (.ofText "x\ny")) true) := by rfl
  obtain ⟨d, equal, hread, hcompared, hequal⟩ :=
    snapshots_compare_by_text a a [] hh hname hg
  obtain ⟨rfl, rfl⟩ : some (Document.ofText "x\ny") = d ∧ true = equal := by
    simpa using hreply.symm.trans hcompared
  refine ⟨hh, hname, hg, hchanged, hreply, ?_⟩
  rcases hequal.1 rfl with ⟨hnone, -⟩ | htexts
  · -- The document was open when the snapshot was taken.
    have hstore : (after past).store? 1 = some (after past).stores[0] := rfl
    have hopen : Current past 1 a (some (.ofText "x\ny")) := current_get? hstore a
    cases hnone.unique hopen
  · exact htexts

end Handles

end DocSync
