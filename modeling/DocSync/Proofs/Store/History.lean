import DocSync.Proofs.Store.Sharing
import Mathlib.Data.List.Induction

/-! # Histories of shared stores

  A history is the list of the steps taken so far. It says by itself which
  handles there are, which of them descend from the same new store, and which
  edit of a document was the last one through any of those:

  - `Descends`: a handle was made from another by clones.
  - `Related`: two handles descend from the handle of one new store.
  - `Current`: the document that the last edit through a related handle left.

  None of these looks at a store. `related_iff_shares` and `current_get?` tie
  them to the states of a run, step by step, and `reads_show_last_edit` states
  what every read through every handle gives.
-/

namespace DocSync.Handles

/-- The steps taken so far, each with the handle it went through. -/
abbrev History := List (Nat × Step)

/-! ### What a history says -/

def Step.makesHandle : Step → Bool
  | .clone => true
  | .fresh => true
  | _ => false

theorem Step.makesHandle_iff (a : Step) : a.makesHandle ↔ a = .clone ∨ a = .fresh := by
  cases a <;> simp [makesHandle]

/-- The number of handles after a history. A step through a handle that does not
    exist makes none. -/
def handleCount (history : History) : Nat :=
  history.foldl (fun n a => if a.1 < n ∧ a.2.makesHandle then n + 1 else n) 1

/-- A step was taken through an existing handle right after `past`. -/
def Taken (history past : History) (h : Nat) (a : Step) : Prop :=
  past ++ [(h, a)] <+: history ∧ h < handleCount past

/-- The handle `g` is a clone of `h`. -/
def Cloned (history : History) (h g : Nat) : Prop :=
  ∃ past, Taken history past h .clone ∧ g = handleCount past

/-- The handle was made together with a new store. -/
def Created (history : History) (h : Nat) : Prop :=
  h = 0 ∨ ∃ past g, Taken history past g .fresh ∧ h = handleCount past

/-- The handle was made from `root` by any number of clones. -/
inductive Descends (history : History) (root : Nat) : Nat → Prop where
  | refl : Descends history root root
  | clone {h g : Nat} : Descends history root h → Cloned history h g → Descends history root g

/-- Two handles descend from the handle of one new store. -/
def Related (history : History) (h g : Nat) : Prop :=
  ∃ root, Created history root ∧ Descends history root h ∧ Descends history root g

/-- Right after `past`, an edit of the document `id` went through a handle
    related to `h`. -/
def EditOf (history past : History) (h : Nat) (id : DocumentId) (e : Store.Edit) : Prop :=
  e.id = id ∧ ∃ g, Taken history past g (.edit e) ∧ Related history g h

/-- No edit of the document through a related handle came after this one. -/
def LastEdit (history : History) (h : Nat) (id : DocumentId) (e : Store.Edit) : Prop :=
  ∃ past, EditOf history past h id e ∧
    ∀ past' e', EditOf history past' h id e' → past'.length ≤ past.length

/-- What is open under `id` through `h`: what the last edit left, and nothing if
    there was no edit. -/
def Current (history : History) (h : Nat) (id : DocumentId) (d : Option Document) : Prop :=
  (∃ e, LastEdit history h id e ∧ d = e.document?) ∨
    ((∀ past e, ¬ EditOf history past h id e) ∧ d = none)

/-! ### One more step -/

theorem handleCount_concat (history : History) (g : Nat) (a : Step) :
    handleCount (history ++ [(g, a)]) =
      if g < handleCount history ∧ a.makesHandle then handleCount history + 1
      else handleCount history := by
  rw [handleCount, List.foldl_append]
  rfl

/-- A handle that a step brings about is the next one, made by a clone or
    together with a new store. -/
theorem new_handle_cases {history : History} {h k : Nat} {a : Step}
    (hold : ¬ h < handleCount history) (hnew : h < handleCount (history ++ [(k, a)])) :
    h = handleCount history ∧ k < handleCount history ∧ (a = .clone ∨ a = .fresh) := by
  rw [handleCount_concat] at hnew
  split at hnew
  · next hmade => exact ⟨by omega, hmade.1, a.makesHandle_iff.1 hmade.2⟩
  · exact absurd hnew hold

theorem taken_nil (past : History) (h : Nat) (a : Step) : ¬ Taken [] past h a := by
  rintro ⟨hpast, -⟩
  simp at hpast

theorem taken_concat_iff (history past : History) (g h : Nat) (b a : Step) :
    Taken (history ++ [(g, b)]) past h a ↔
      Taken history past h a ∨ (past = history ∧ h = g ∧ a = b ∧ g < handleCount history) := by
  rw [Taken, Taken, List.prefix_concat_iff]
  constructor
  · rintro ⟨heq | hpast, hlt⟩
    · obtain ⟨rfl, hlast⟩ := List.append_inj' heq rfl
      obtain ⟨rfl, rfl⟩ : h = g ∧ a = b := by simpa using hlast
      exact Or.inr ⟨rfl, rfl, rfl, hlt⟩
    · exact Or.inl ⟨hpast, hlt⟩
  · rintro (⟨hpast, hlt⟩ | ⟨rfl, rfl, rfl, hlt⟩)
    · exact ⟨Or.inr hpast, hlt⟩
    · exact ⟨Or.inl rfl, hlt⟩

theorem Taken.concat {history past : History} {h : Nat} {a : Step}
    (ht : Taken history past h a) (b : Nat × Step) : Taken (history ++ [b]) past h a :=
  ⟨ht.1.trans (List.prefix_append _ _), ht.2⟩

theorem cloned_concat_iff (history : History) (k : Nat) (b : Step) (h g : Nat) :
    Cloned (history ++ [(k, b)]) h g ↔
      Cloned history h g ∨
        (b = .clone ∧ h = k ∧ k < handleCount history ∧ g = handleCount history) := by
  simp only [Cloned, taken_concat_iff]
  constructor
  · rintro ⟨past, hold | ⟨rfl, rfl, rfl, hlt⟩, hg⟩
    · exact Or.inl ⟨past, hold, hg⟩
    · exact Or.inr ⟨rfl, rfl, hlt, hg⟩
  · rintro (⟨past, hold, hg⟩ | ⟨rfl, rfl, hlt, hg⟩)
    · exact ⟨past, Or.inl hold, hg⟩
    · exact ⟨history, Or.inr ⟨rfl, rfl, rfl, hlt⟩, hg⟩

theorem created_concat_iff (history : History) (k : Nat) (b : Step) (h : Nat) :
    Created (history ++ [(k, b)]) h ↔
      Created history h ∨ (b = .fresh ∧ k < handleCount history ∧ h = handleCount history) := by
  simp only [Created, taken_concat_iff]
  constructor
  · rintro (hzero | ⟨past, g, hold | ⟨rfl, rfl, rfl, hlt⟩, hh⟩)
    · exact Or.inl (Or.inl hzero)
    · exact Or.inl (Or.inr ⟨past, g, hold, hh⟩)
    · exact Or.inr ⟨rfl, hlt, hh⟩
  · rintro ((hzero | ⟨past, g, hold, hh⟩) | ⟨rfl, hlt, hh⟩)
    · exact Or.inl hzero
    · exact Or.inr ⟨past, g, Or.inl hold, hh⟩
    · exact Or.inr ⟨history, k, Or.inr ⟨rfl, rfl, rfl, hlt⟩, hh⟩

theorem Descends.concat {history : History} {root h : Nat} (hd : Descends history root h)
    (b : Nat × Step) : Descends (history ++ [b]) root h := by
  induction hd with
  | refl => exact .refl
  | clone _ hc ih =>
    obtain ⟨past, ht, hg⟩ := hc
    exact .clone ih ⟨past, ht.concat b, hg⟩

/-! ### Handles and their stores -/

/-- The state that a history leads to. -/
def after (history : History) : Handles := initial.runState history

theorem after_concat (history : History) (g : Nat) (a : Step) :
    after (history ++ [(g, a)]) = ((after history).step g a).1 :=
  runState_concat _ _ _ _

theorem length_targets_after (history : History) :
    (after history).targets.length = handleCount history := by
  induction history using List.reverseRecOn with
  | nil => rfl
  | append_singleton history b ih =>
    obtain ⟨g, a⟩ := b
    rw [after_concat, handleCount_concat, ← ih]
    by_cases hg : g < (after history).targets.length
    · have ht : (after history).targets[g]? = some (after history).targets[g] :=
        List.getElem?_eq_getElem hg
      rw [targets_step ht]
      cases a <;> simp [Step.makesHandle, hg]
    · rw [step_of_missing (List.getElem?_eq_none (Nat.le_of_not_lt hg))]
      simp [hg]

theorem shares_of_cloned {history : History} {h g : Nat} (hc : Cloned history h g) :
    (after history).Shares h g := by
  induction history using List.reverseRecOn with
  | nil =>
    obtain ⟨past, ht, -⟩ := hc
    exact absurd ht (taken_nil _ _ _)
  | append_singleton history b ih =>
    obtain ⟨k, a⟩ := b
    rw [after_concat]
    rcases (cloned_concat_iff _ _ _ _ _).1 hc with hold | ⟨rfl, rfl, hlt, rfl⟩
    · have hs := ih hold
      exact (shares_step_iff hs.lt.1 hs.lt.2 k a).2 hs
    · rw [← length_targets_after] at hlt ⊢
      exact shares_step_clone hlt

theorem lt_of_created {history : History} {h : Nat} (hc : Created history h) :
    h < handleCount history := by
  induction history using List.reverseRecOn with
  | nil =>
    rcases hc with rfl | ⟨past, g, ht, -⟩
    · exact Nat.zero_lt_one
    · exact absurd ht (taken_nil _ _ _)
  | append_singleton history b ih =>
    obtain ⟨k, a⟩ := b
    rw [handleCount_concat]
    rcases (created_concat_iff _ _ _ _).1 hc with hold | ⟨rfl, hlt, rfl⟩
    · have hh := ih hold
      split
      · exact Nat.lt_succ_of_lt hh
      · exact hh
    · rw [if_pos ⟨hlt, rfl⟩]
      exact Nat.lt_succ_self _

/-- Clones share with the handle that they descend from. -/
theorem shares_of_descends {history : History} {root h : Nat} (hr : Created history root)
    (hd : Descends history root h) : (after history).Shares root h := by
  induction hd with
  | refl =>
    have hlt := lt_of_created hr
    rw [← length_targets_after] at hlt
    exact ⟨_, List.getElem?_eq_getElem hlt, List.getElem?_eq_getElem hlt⟩
  | clone _ hc ih => exact ih.trans (shares_of_cloned hc)

/-- Every handle descends from that of a new store. -/
theorem exists_root {history : History} {h : Nat} (hh : h < handleCount history) :
    ∃ root, Created history root ∧ Descends history root h := by
  induction history using List.reverseRecOn generalizing h with
  | nil =>
    obtain rfl : h = 0 := Nat.lt_one_iff.1 hh
    exact ⟨0, Or.inl rfl, .refl⟩
  | append_singleton history b ih =>
    obtain ⟨k, a⟩ := b
    by_cases hold : h < handleCount history
    · -- An old handle keeps its descent.
      obtain ⟨root, hr, hd⟩ := ih hold
      exact ⟨root, (created_concat_iff _ _ _ _).2 (Or.inl hr), hd.concat _⟩
    · obtain ⟨rfl, hk, rfl | rfl⟩ := new_handle_cases hold hh
      · obtain ⟨root, hr, hd⟩ := ih hk
        have hc : Cloned (history ++ [(k, .clone)]) k (handleCount history) :=
          (cloned_concat_iff _ _ _ _ _).2 (Or.inr ⟨rfl, rfl, hk, rfl⟩)
        exact ⟨root, (created_concat_iff _ _ _ _).2 (Or.inl hr), .clone (hd.concat _) hc⟩
      · exact ⟨_, (created_concat_iff _ _ _ _).2 (Or.inr ⟨rfl, hk, rfl⟩), .refl⟩

/-- Handles of different new stores never share. -/
theorem eq_of_created {history : History} {r q : Nat} (hr : Created history r)
    (hq : Created history q) (hs : (after history).Shares r q) : r = q := by
  induction history using List.reverseRecOn with
  | nil =>
    have hr0 := lt_of_created hr
    have hq0 := lt_of_created hq
    exact (Nat.lt_one_iff.1 hr0).trans (Nat.lt_one_iff.1 hq0).symm
  | append_singleton history b ih =>
    obtain ⟨k, a⟩ := b
    rw [after_concat] at hs
    rcases (created_concat_iff _ _ _ _).1 hr with hr | ⟨rfl, hk, rfl⟩
    · have hrlt := length_targets_after history ▸ lt_of_created hr
      rcases (created_concat_iff _ _ _ _).1 hq with hq | ⟨rfl, hk, rfl⟩
      · have hqlt := length_targets_after history ▸ lt_of_created hq
        exact ih hr hq ((shares_step_iff hrlt hqlt _ _).1 hs)
      · -- An old handle does not reach the store that has just been made.
        rw [← length_targets_after] at hk hs
        exact absurd hs (not_shares_step_fresh hk hrlt)
    · rcases (created_concat_iff _ _ _ _).1 hq with hq | ⟨-, -, rfl⟩
      · have hqlt := length_targets_after history ▸ lt_of_created hq
        rw [← length_targets_after] at hk hs
        exact absurd hs.symm (not_shares_step_fresh hk hqlt)
      · rfl

/-- Handles are related by their history exactly if they reach the same store. -/
theorem related_iff_shares (history : History) (h g : Nat) :
    Related history h g ↔ (after history).Shares h g := by
  constructor
  · rintro ⟨root, hr, hh, hg⟩
    exact (shares_of_descends hr hh).symm.trans (shares_of_descends hr hg)
  · intro hs
    obtain ⟨r, hr, hrh⟩ := exists_root (length_targets_after history ▸ hs.lt.1)
    obtain ⟨q, hq, hqg⟩ := exists_root (length_targets_after history ▸ hs.lt.2)
    have hrq : (after history).Shares r q :=
      ((shares_of_descends hr hrh).trans hs).trans (shares_of_descends hq hqg).symm
    -- Both handles descend from new stores that are reached together, hence from one.
    obtain rfl := eq_of_created hr hq hrq
    exact ⟨r, hr, hrh, hqg⟩

theorem Related.lt {history : History} {h g : Nat} (hr : Related history h g) :
    h < handleCount history ∧ g < handleCount history := by
  rw [← length_targets_after]
  exact ((related_iff_shares _ _ _).1 hr).lt

/-- No step relates or separates handles that there were before it. -/
theorem related_concat_iff {history : History} {h g : Nat} (hh : h < handleCount history)
    (hg : g < handleCount history) (k : Nat) (a : Step) :
    Related (history ++ [(k, a)]) h g ↔ Related history h g := by
  rw [← length_targets_after] at hh hg
  rw [related_iff_shares, related_iff_shares, after_concat]
  exact shares_step_iff hh hg k a

/-! ### Edits of a document -/

theorem Taken.lt {history past : History} {g : Nat} {a : Step} (ht : Taken history past g a) :
    g < handleCount history := by
  induction history using List.reverseRecOn with
  | nil => exact absurd ht (taken_nil _ _ _)
  | append_singleton history b ih =>
    obtain ⟨k, c⟩ := b
    have hold : g < handleCount history := by
      rcases (taken_concat_iff _ _ _ _ _ _).1 ht with hold | ⟨-, rfl, -, hlt⟩
      · exact ih hold
      · exact hlt
    rw [handleCount_concat]
    split <;> omega

/-- Only an edit of the document through a related handle adds to its edits. -/
theorem editOf_concat_iff {history : History} {h : Nat} (hh : h < handleCount history) (k : Nat)
    (a : Step) (past : History) (id : DocumentId) (e : Store.Edit) :
    EditOf (history ++ [(k, a)]) past h id e ↔
      EditOf history past h id e ∨
        (past = history ∧ a = .edit e ∧ e.id = id ∧ Related history k h) := by
  constructor
  · rintro ⟨hid, g, ht, hrel⟩
    rcases (taken_concat_iff _ _ _ _ _ _).1 ht with hold | ⟨rfl, rfl, rfl, hlt⟩
    · exact Or.inl ⟨hid, g, hold, (related_concat_iff hold.lt hh _ _).1 hrel⟩
    · exact Or.inr ⟨rfl, rfl, hid, (related_concat_iff hlt hh _ _).1 hrel⟩
  · rintro (⟨hid, g, ht, hrel⟩ | ⟨rfl, rfl, hid, hrel⟩)
    · exact ⟨hid, g, ht.concat _, (related_concat_iff ht.lt hh _ _).2 hrel⟩
    · have hk := hrel.lt.1
      exact ⟨hid, k, (taken_concat_iff _ _ _ _ _ _).2 (Or.inr ⟨rfl, rfl, rfl, hk⟩),
        (related_concat_iff hk hh _ _).2 hrel⟩

/-- The edits of a document through a clone are those through its origin. -/
theorem editOf_concat_clone_iff {history : History} {k : Nat} (hk : k < handleCount history)
    (past : History) (id : DocumentId) (e : Store.Edit) :
    EditOf (history ++ [(k, .clone)]) past (handleCount history) id e ↔
      EditOf history past k id e := by
  have hclone : Related (history ++ [(k, .clone)]) k (handleCount history) := by
    have hc : Cloned (history ++ [(k, .clone)]) k (handleCount history) :=
      (cloned_concat_iff _ _ _ _ _).2 (Or.inr ⟨rfl, rfl, hk, rfl⟩)
    exact (related_iff_shares _ _ _).2 (shares_of_cloned hc)
  have hshift (g : Nat) : Related (history ++ [(k, .clone)]) g (handleCount history) ↔
      Related (history ++ [(k, .clone)]) g k := by
    rw [related_iff_shares] at hclone ⊢
    rw [related_iff_shares]
    exact ⟨fun hs => hs.trans hclone.symm, fun hs => hs.trans hclone⟩
  have hsame : EditOf (history ++ [(k, .clone)]) past (handleCount history) id e ↔
      EditOf (history ++ [(k, .clone)]) past k id e := by
    simp only [EditOf, hshift]
  rw [hsame, editOf_concat_iff hk]
  simp

/-- No edit went through a handle that reaches a new store. -/
theorem not_editOf_concat_fresh {history : History} {k : Nat} (hk : k < handleCount history)
    (past : History) (id : DocumentId) (e : Store.Edit) :
    ¬ EditOf (history ++ [(k, .fresh)]) past (handleCount history) id e := by
  rintro ⟨-, g, ht, hrel⟩
  rcases (taken_concat_iff _ _ _ _ _ _).1 ht with hold | ⟨-, -, hstep, -⟩
  · have hg := hold.lt
    rw [related_iff_shares, after_concat] at hrel
    rw [← length_targets_after] at hk hg hrel
    exact not_shares_step_fresh hk hg hrel
  · cases hstep

theorem length_lt_of_editOf {history past : History} {h : Nat} {id : DocumentId}
    {e : Store.Edit} (he : EditOf history past h id e) : past.length < history.length := by
  obtain ⟨-, g, ht, -⟩ := he
  have hlen := ht.1.length_le
  rw [List.length_append, List.length_singleton] at hlen
  exact hlen

/-- Two edits of a document after the same steps are one edit. -/
theorem editOf_unique {history past past' : History} {h : Nat} {id : DocumentId}
    {e e' : Store.Edit} (he : EditOf history past h id e) (he' : EditOf history past' h id e')
    (hlen : past.length = past'.length) : e = e' := by
  obtain ⟨-, g, ht, -⟩ := he
  obtain ⟨-, g', ht', -⟩ := he'
  -- Both are prefixes of the history, and of one length.
  have hsame : past ++ [(g, Step.edit e)] = past' ++ [(g', Step.edit e')] := by
    have hlen' : (past ++ [(g, Step.edit e)]).length = (past' ++ [(g', Step.edit e')]).length := by
      simp [hlen]
    have hpast := List.prefix_of_prefix_length_le ht.1 ht'.1 (Nat.le_of_eq hlen')
    exact hpast.eq_of_length hlen'
  have hlast := (List.append_inj' hsame rfl).2
  simpa using (congrArg (List.map Prod.snd) hlast)

/-! ### The document that is open -/

theorem Current.unique {history : History} {h : Nat} {id : DocumentId} {d d' : Option Document}
    (hd : Current history h id d) (hd' : Current history h id d') : d = d' := by
  rcases hd with ⟨e, ⟨past, he, hlast⟩, rfl⟩ | ⟨hno, rfl⟩
  · rcases hd' with ⟨e', ⟨past', he', hlast'⟩, rfl⟩ | ⟨hno', -⟩
    · have hlen := Nat.le_antisymm (hlast' past e he) (hlast past' e' he')
      rw [editOf_unique he he' hlen]
    · exact absurd he (hno' past e)
  · rcases hd' with ⟨e', ⟨past', he', -⟩, -⟩ | ⟨-, rfl⟩
    · exact absurd he' (hno past' e')
    · rfl

theorem current_congr {history later : History} {h g : Nat} {id : DocumentId}
    (hedits : ∀ past e, EditOf later past g id e ↔ EditOf history past h id e)
    (d : Option Document) : Current later g id d ↔ Current history h id d := by
  simp only [Current, LastEdit, hedits]

/-- An edit that has just been made is the last one. -/
theorem current_concat_edit {history : History} {h k : Nat} {e : Store.Edit}
    (hrel : Related history k h) :
    Current (history ++ [(k, .edit e)]) h e.id e.document? := by
  left
  refine ⟨e, ⟨history, ?_, ?_⟩, rfl⟩
  · exact (editOf_concat_iff hrel.lt.2 _ _ _ _ _).2 (Or.inr ⟨rfl, rfl, rfl, hrel⟩)
  · intro past' e' he'
    have hlt := length_lt_of_editOf he'
    simp only [List.length_append, List.length_singleton] at hlt
    omega

/-- A step that is no edit of the document through a related handle changes
    nothing about what is open. -/
theorem current_concat_of_no_edit {history : History} {h k : Nat} {a : Step} {id : DocumentId}
    (hh : h < handleCount history)
    (hno : ∀ e, a = .edit e → e.id = id → ¬ Related history k h) (d : Option Document) :
    Current (history ++ [(k, a)]) h id d ↔ Current history h id d := by
  apply current_congr
  intro past e
  rw [editOf_concat_iff hh]
  constructor
  · rintro (hold | ⟨-, hedit, hid, hrel⟩)
    · exact hold
    · exact absurd hrel (hno e hedit hid)
  · exact Or.inl

/-- The store behind a handle holds what the history says is open. The
    induction follows the history: a handle that was there before sees an edit
    only through a related one, and a new handle sees the store of its origin or
    an empty one. -/
theorem current_get? {history : History} {h : Nat} {live : Store}
    (hs : (after history).store? h = some live) (id : DocumentId) :
    Current history h id (live.get? id) := by
  induction history using List.reverseRecOn generalizing h live with
  | nil =>
    right
    refine ⟨fun past e => fun ⟨_, g, ht, _⟩ => taken_nil past g _ ht, ?_⟩
    cases h with
    | zero =>
      obtain rfl : Store.empty = live := Option.some.inj hs
      rfl
    | succ h => cases hs
  | append_singleton history b ih =>
    obtain ⟨k, a⟩ := b
    have hlt : h < handleCount (history ++ [(k, a)]) := by
      rw [← length_targets_after]
      obtain ⟨t, ht, -⟩ := Option.bind_eq_some_iff.1 hs
      exact (List.getElem?_eq_some_iff.1 ht).1
    rw [after_concat] at hs
    by_cases hold : h < handleCount history
    · by_cases hrel : ∃ e, a = .edit e ∧ Related history k h
      -- The store behind the handle has been edited, maybe under another identifier.
      · obtain ⟨e, rfl, hrel⟩ := hrel
        rw [store?_step_edit ((related_iff_shares _ _ _).1 hrel)] at hs
        obtain ⟨before, hbefore, rfl⟩ := Option.map_eq_some_iff.1 hs
        rw [Store.get?_edit]
        by_cases hid : id = e.id
        · rw [if_pos hid, hid]
          exact current_concat_edit hrel
        · rw [if_neg hid]
          refine (current_concat_of_no_edit hold ?_ _).2 (ih hbefore)
          rintro _ ⟨⟩ hsame
          exact absurd hsame.symm hid
      -- The store behind the handle is as it was before the step.
      · have hno : ∀ e, a = .edit e → ¬ Related history k h := fun e he hr => hrel ⟨e, he, hr⟩
        rw [store?_step_of_not_shares (length_targets_after history ▸ hold)
          fun e he => mt (related_iff_shares _ _ _).2 (hno e he)] at hs
        exact (current_concat_of_no_edit hold (fun e he _ => hno e he) _).2 (ih hs)
    · obtain ⟨rfl, hk, rfl | rfl⟩ := new_handle_cases hold hlt
      · rw [← length_targets_after] at hk hs
        rw [store?_step_clone (List.getElem?_eq_getElem hk)] at hs
        rw [length_targets_after] at hk
        exact (current_congr (fun past e => editOf_concat_clone_iff hk past id e) _).2 (ih hs)
      · right
        refine ⟨fun past e => not_editOf_concat_fresh hk past id e, ?_⟩
        rw [← length_targets_after] at hk hs
        rw [store?_step_fresh (List.getElem?_eq_getElem hk)] at hs
        obtain rfl : Store.empty = live := Option.some.inj hs
        rfl

/-! ### What reads give -/

/-- The reply that a run gives to the step it takes after `past`. -/
def replyAfter (past later : History) (h : Nat) (a : Step) : Option Reply :=
  (initial.run (past ++ (h, a) :: later))[past.length]?.map Prod.snd

theorem replyAfter_query {past : History} {h : Nat} {live : Store}
    (hs : (after past).store? h = some live) (later : History) (q : Store.Query) :
    replyAfter past later h (.query q) = some (.answered (live.answer q)) := by
  rw [replyAfter, getElem?_run, Option.map_some]
  exact congrArg some (reply_query hs q)

theorem exists_text_of_current {history : History} {h : Nat} {id : DocumentId} {d : Document}
    (hd : Current history h id (some d)) : ∃ text, d = .ofText text := by
  rcases hd with ⟨e, -, he⟩ | ⟨-, hnone⟩
  · cases e with
    | openText _ text => exact ⟨text, Option.some.inj he⟩
    | changeText _ text => exact ⟨text, Option.some.inj he⟩
    | close _ => cases he
  · cases hnone

/-- At every point of every run and through every handle there is, a document
    read is what the last edit of its identifier through any related handle
    left, and the identifiers that are open are exactly those whose last edit
    gave them a text. No other step shows: no edit through an unrelated handle
    or of another identifier, and no read, refused or not. -/
theorem reads_show_last_edit (past later : History) (h : Nat) (hh : h < handleCount past) :
    (∀ id, ∃ d, replyAfter past later h (.query (.document id)) =
          some (.answered (.ok (.documentIfOpen d))) ∧
        ∀ d', Current past h id d' ↔ d' = d) ∧
    (∃ ids, replyAfter past later h (.query .ids) = some (.answered (.ok (.ids ids))) ∧
        replyAfter past later h (.query .size) = some (.answered (.ok (.number ids.length))) ∧
        ids.Nodup ∧ ∀ id, id ∈ ids ↔ ∃ text, Current past h id (some (.ofText text))) ∧
    ∀ id g a, (∀ e, a = .edit e → e.id = id → ¬ Related past g h) →
      replyAfter (past ++ [(g, a)]) later h (.query (.document id)) =
        replyAfter past later h (.query (.document id)) := by
  have hlt : h < (after past).targets.length := length_targets_after past ▸ hh
  obtain ⟨live, hs⟩ := exists_store?_of_lt hlt
  have hcurrent : ∀ id d, Current past h id d ↔ d = live.get? id := by
    intro id d
    constructor
    · intro hd
      exact hd.unique (current_get? hs id)
    · rintro rfl
      exact current_get? hs id
  refine ⟨?_, ?_, ?_⟩
  · intro id
    exact ⟨live.get? id, replyAfter_query hs later _, hcurrent id⟩
  · refine ⟨live.ids, replyAfter_query hs later _, ?_, live.nodup_ids, ?_⟩
    · rw [replyAfter_query hs later, Store.answer, Store.size_eq_length_ids]
    · intro id
      rw [Store.mem_ids_iff, Option.isSome_iff_exists]
      constructor
      · rintro ⟨d, hd⟩
        have hopen : Current past h id (some d) := (hcurrent id _).2 hd.symm
        obtain ⟨text, rfl⟩ := exists_text_of_current hopen
        exact ⟨text, hopen⟩
      · rintro ⟨text, hopen⟩
        exact ⟨_, ((hcurrent id _).1 hopen).symm⟩
  · intro id g a hno
    obtain ⟨next, hnext⟩ : ∃ next, (after (past ++ [(g, a)])).store? h = some next := by
      apply exists_store?_of_lt
      rw [after_concat]
      exact Nat.lt_of_lt_of_le hlt ((after past).targets_prefix_step g a).length_le
    have hsame : next.get? id = live.get? id :=
      (hcurrent id _).1 ((current_concat_of_no_edit hh hno _).1 (current_get? hnext id))
    rw [replyAfter_query hnext later, replyAfter_query hs later, Store.answer, Store.answer, hsame]

/-- A clone made after the document was opened shows it, whatever the other
    store holds under the same identifier and whatever is closed there. -/
theorem reads_show_last_edit_clone :
    let past : History :=
      [(0, .edit (.openText ⟨"a"⟩ "x\r\n")), (0, .clone), (0, .fresh),
        (2, .edit (.openText ⟨"a"⟩ "y")), (1, .edit (.changeText ⟨"b"⟩ "z")),
        (1, .query (.line ⟨"a"⟩ 7))]
    1 < handleCount past ∧ ¬ Related past 2 1 ∧
    Current past 1 ⟨"a"⟩ (some (.ofText "x\r\n")) ∧
    replyAfter (past ++ [(2, .edit (.close ⟨"a"⟩))]) [] 1 (.query (.document ⟨"a"⟩)) =
      replyAfter past [] 1 (.query (.document ⟨"a"⟩)) := by
  intro past
  have hh : 1 < handleCount past := by decide
  have hrel : ¬ Related past 2 1 := by
    rw [related_iff_shares]
    rintro ⟨t, hfresh, hclone⟩
    obtain rfl : 1 = t := Option.some.inj hfresh
    cases hclone
  obtain ⟨hread, -, hunrelated⟩ := reads_show_last_edit past [] 1 hh
  obtain ⟨d, hreply, hcurrent⟩ := hread ⟨"a"⟩
  have hdocument : replyAfter past [] 1 (.query (.document ⟨"a"⟩)) =
      some (.answered (.ok (.documentIfOpen (some (.ofText "x\r\n"))))) := rfl
  have hd : some (Document.ofText "x\r\n") = d := by
    simpa only [Option.some.injEq, Reply.answered.injEq, Except.ok.injEq,
      Store.Answer.documentIfOpen.injEq] using hdocument.symm.trans hreply
  exact ⟨hh, hrel, (hcurrent _).2 hd, hunrelated ⟨"a"⟩ 2 _ fun _ _ _ => hrel⟩

end DocSync.Handles
