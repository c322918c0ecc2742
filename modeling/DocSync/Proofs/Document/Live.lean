import DocSync.Proofs.Document.Content
import DocSync.Proofs.Rpc.Traffic
import DocSync.Proofs.Store.Reads
import DocSync.Proofs.Store.Snapshots

/-! # Documents that can be seen

  A store is worked on in three ways, and a workspace allows all of them on the
  same stores and in any order:

  - `step`: a step through a handle.
  - `call`: a call of the server that keeps its documents behind a handle.
  - `value`: a value that a client sends to that server. How far the connection
    is then, the workspace knows for each handle.

  A document is `Live` if after some actions a store holds it, a snapshot keeps
  it or a reply shows it. `Sound` is the invariant of every workspace: all these
  documents are spelled by texts. `live_documents_known_by_content` draws the
  conclusions.
-/

namespace DocSync

/-! ### Workspaces -/

/-- The handles with another store behind one of them. -/
def Handles.replace (s : Handles) (h : Nat) (live : Store) : Handles :=
  match s.targets[h]? with
  | none => s
  | some t =>
    { s with
      stores := s.stores.set t live
      targets_lt := by simpa using s.targets_lt }

def Handles.Reply.document? : Handles.Reply → Option Document
  | .answered (.ok (.documentIfOpen d)) => d
  | .compared d _ => d
  | _ => none

/-- Stores behind handles, and how far the connection to the server at each
    handle is. -/
structure Workspace where
  handles : Handles
  stages : Nat → Rpc.Lifecycle

namespace Workspace

/-- One handle to one empty store, and no connection has begun. -/
def initial : Workspace := ⟨.initial, fun _ => .uninitialized⟩

/-- What can be done with the store behind a handle. -/
inductive Action where
  /-- A step of the handle. -/
  | step (a : Handles.Step)
  /-- A call of the server that keeps its documents there. -/
  | call (c : Server.Call)
  /-- A value that a client sends to that server. -/
  | value (v : Json)

/-- One action at a handle. -/
def act (w : Workspace) (h : Nat) : Action → Workspace
  | .step a => { w with handles := (w.handles.step h a).1 }
  | .call c =>
    match w.handles.store? h with
    | none => w
    | some live => { w with handles := w.handles.replace h (Server.handle live c).1 }
  | .value v =>
    match w.handles.store? h with
    | none => w
    | some live =>
      let c := (Rpc.Connection.receiveValue ⟨w.stages h, live⟩ v).1
      ⟨w.handles.replace h c.store, fun g => if g = h then c.lifecycle else w.stages g⟩

/-- The workspace after any actions, each at a handle. -/
def after (actions : List (Nat × Action)) : Workspace :=
  actions.foldl (fun w a => w.act a.1 a.2) initial

end Workspace

/-- After some actions the document can be seen. -/
inductive Live (d : Document) : Prop where
  /-- A store holds it. -/
  | stored {actions : List (Nat × Workspace.Action)} {h : Nat} {live : Store} {id : DocumentId}
      (hs : (Workspace.after actions).handles.store? h = some live)
      (hd : live.get? id = some d) : Live d
  /-- It is kept as a snapshot. -/
  | kept {actions : List (Nat × Workspace.Action)} {name : String}
      (hd : (Workspace.after actions).handles.snapshot name = some d) : Live d
  /-- The reply to a step shows it. -/
  | shown {actions : List (Nat × Workspace.Action)} {h : Nat} {a : Handles.Step}
      (hd : ((Workspace.after actions).handles.step h a).2.document? = some d) : Live d

/-! ### What no action brings about -/

theorem Store.Spelled.apply {s : Store} (h : s.Spelled) (c : Server.Call) :
    (c.apply s).Spelled := by
  unfold Server.Call.apply
  split
  · exact h.edit _
  · exact h

/-- Whatever a client sends, and at whatever stage of the connection. -/
theorem Store.Spelled.receiveValue {c : Rpc.Connection} (h : c.store.Spelled) (v : Json) :
    (c.receiveValue v).1.store.Spelled := by
  unfold Rpc.Connection.receiveValue
  cases Rpc.Message.ofJson? v with
  | none => exact h
  | some m =>
    show (c.receive m).1.store.Spelled
    cases hdue : m.due? c.lifecycle with
    | none =>
      rw [(Rpc.Connection.receive_of_not_due hdue).1]
      exact h
    | some call =>
      obtain ⟨outcome, -, hmakes⟩ := Rpc.Connection.receive_of_due hdue
      have hstore : (c.receive m).1.store = call.apply c.store := hmakes.store
      rw [hstore]
      exact h.apply call

/-- Every document that the handles reach or keep is spelled by a text. -/
structure Handles.Sound (s : Handles) : Prop where
  stores : ∀ live ∈ s.stores, live.Spelled
  snapshots : ∀ kept ∈ s.snapshots, ∀ d, kept.2 = some d → ∃ text, d = .ofText text

namespace Handles

theorem sound_initial : initial.Sound := by
  refine ⟨?_, ?_⟩
  · intro live hlive
    obtain rfl := List.mem_singleton.1 hlive
    exact Store.spelled_empty
  · intro kept hkept
    cases hkept

section sound
variable {s : Handles} {h : Nat} {live : Store}

theorem mem_stores_of_store? (hs : s.store? h = some live) : live ∈ s.stores := by
  obtain ⟨t, -, hlive⟩ := Option.bind_eq_some_iff.1 hs
  exact List.mem_of_getElem? hlive

theorem Sound.step (hs : s.Sound) (h : Nat) (a : Step) : (s.step h a).1.Sound := by
  refine ⟨spelled_step hs.stores h a, ?_⟩
  cases hlive : s.store? h with
  | none =>
    rw [step_of_missing (store?_eq_none_iff.1 hlive)]
    exact hs.snapshots
  | some live =>
    rw [snapshots_step hlive]
    cases a with
    | takeSnapshot id name =>
      intro kept hkept d hd
      rcases List.mem_cons.1 hkept with rfl | hold
      · exact hs.stores live (mem_stores_of_store? hlive) id d hd
      · exact hs.snapshots kept hold d hd
    | edit e => exact hs.snapshots
    | query q => exact hs.snapshots
    | clone => exact hs.snapshots
    | fresh => exact hs.snapshots
    | readSnapshot name id => exact hs.snapshots

theorem Sound.replace (hs : s.Sound) (h : Nat) (hlive : live.Spelled) :
    (s.replace h live).Sound := by
  unfold Handles.replace
  split
  · exact hs
  · refine ⟨?_, hs.snapshots⟩
    intro other hother
    rcases List.mem_or_eq_of_mem_set hother with hold | rfl
    · exact hs.stores other hold
    · exact hlive

theorem Sound.snapshot (hs : s.Sound) {name : String} {d : Document}
    (hd : s.snapshot name = some d) : ∃ text, d = .ofText text := by
  have hlookup : s.snapshots.lookup name = some (some d) := by
    unfold Handles.snapshot at hd
    cases hl : s.snapshots.lookup name with
    | none =>
      rw [hl] at hd
      cases hd
    | some kept =>
      rw [hl] at hd
      exact congrArg some hd
  obtain ⟨before, later, hsnapshots, -⟩ := List.lookup_eq_some_iff.1 hlookup
  exact hs.snapshots (name, some d) (by simp [hsnapshots]) d rfl

/-- An answer shows no document but one that the store holds. -/
theorem exists_get?_of_answered {q : Store.Query} {d : Document}
    (hd : (Reply.answered (live.answer q)).document? = some d) :
    ∃ id, live.get? id = some d := by
  cases q with
  | document id => exact ⟨id, hd⟩
  | line id n =>
    cases hl : live.line id n <;> simp [Store.answer, hl, Except.map, Reply.document?] at hd
  | content id =>
    cases hc : live.content id <;> simp [Store.answer, hc, Except.map, Reply.document?] at hd
  | count id =>
    cases hc : live.count id <;> simp [Store.answer, hc, Except.map, Reply.document?] at hd
  | isOpen id => cases hd
  | lineCount id => cases hd
  | ids => cases hd
  | size => cases hd
  | isEmpty => cases hd

/-- A reply shows nothing but what a store holds or a snapshot keeps. -/
theorem Sound.reply (hs : s.Sound) {a : Step} {d : Document}
    (hd : (s.step h a).2.document? = some d) : ∃ text, d = .ofText text := by
  cases hlive : s.store? h with
  | none =>
    rw [step_of_missing (store?_eq_none_iff.1 hlive)] at hd
    cases hd
  | some live =>
    rw [reply_step hlive] at hd
    cases a with
    | query q =>
      obtain ⟨id, hid⟩ := exists_get?_of_answered hd
      exact hs.stores live (mem_stores_of_store? hlive) id d hid
    | readSnapshot name id => exact hs.snapshot hd
    | edit e => cases hd
    | clone => cases hd
    | fresh => cases hd
    | takeSnapshot id name => cases hd

end sound

end Handles

/-! ### Runs -/

namespace Workspace

/-- No action brings in a document that no text spells. -/
theorem sound_act {w : Workspace} (hw : w.handles.Sound) (h : Nat) (a : Action) :
    (w.act h a).handles.Sound := by
  cases a with
  | step a => exact hw.step h a
  | call c =>
    unfold act
    cases hlive : w.handles.store? h with
    | none => exact hw
    | some live =>
      have hspelled : live.Spelled := hw.stores live (Handles.mem_stores_of_store? hlive)
      exact hw.replace h (hspelled.apply c)
  | value v =>
    unfold act
    cases hlive : w.handles.store? h with
    | none => exact hw
    | some live =>
      have hspelled : live.Spelled := hw.stores live (Handles.mem_stores_of_store? hlive)
      have hnext := Store.Spelled.receiveValue (c := ⟨w.stages h, live⟩) hspelled v
      exact hw.replace h hnext

theorem sound_after (actions : List (Nat × Action)) : (after actions).handles.Sound := by
  unfold after
  have hinitial : initial.handles.Sound := Handles.sound_initial
  -- The invariant is carried through the fold from any sound workspace.
  generalize initial = w at hinitial ⊢
  induction actions generalizing w with
  | nil => exact hinitial
  | cons a rest ih => exact ih (w.act a.1 a.2) (sound_act hinitial a.1 a.2)

end Workspace

/-! ### Live documents -/

theorem Live.exists_text {d : Document} (hd : Live d) : ∃ text, d = .ofText text := by
  cases hd with
  | @stored actions h live id hs hd =>
    have hsound := Workspace.sound_after actions
    exact hsound.stores live (Handles.mem_stores_of_store? hs) id d hd
  | @kept actions name hd => exact (Workspace.sound_after actions).snapshot hd
  | @shown actions h a hd => exact (Workspace.sound_after actions).reply hd

theorem Live.wellFormed {d : Document} (hd : Live d) : d.WellFormed := by
  obtain ⟨text, rfl⟩ := hd.exists_text
  exact Document.wellFormed_ofText text

/-- Every document that can be seen has a line, and no line of it contains a line
    feed. Its content shows how many lines there are, and which document it is
    among all that can be seen. The document without lines is never one of them,
    though its content is that of the document that the empty text spells. -/
theorem live_documents_known_by_content {d d' : Document} (hd : Live d) (hd' : Live d') :
    1 ≤ d.lineCount ∧ (∀ line ∈ d.lines, '\n' ∉ line.toList) ∧
    d.lineCount = 1 + d.content.toList.count '\n' ∧
    (d = d' ↔ d.content = d'.content) ∧
    ¬ Live .blank ∧ Document.blank.content = (Document.ofText "").content ∧
    Document.blank ≠ .ofText "" := by
  have hwf := hd.wellFormed
  refine ⟨List.length_pos_iff.2 hwf.lines_ne_nil, hwf.not_mem_line, hwf.lineCount_eq,
    hwf.eq_iff_content_eq hd'.wellFormed, ?_, by decide, by decide⟩
  intro hblank
  exact Document.not_wellFormed_blank hblank.wellFormed

/-- A document that a client opened over a connection and then changed is the one
    of a snapshot in another store, since their contents are the same. -/
theorem live_documents_known_by_content_changed :
    let id : DocumentId := ⟨"file:///a"⟩
    let changed : List (Nat × Workspace.Action) :=
      [(0, .value Rpc.sampleStartup), (0, .value Rpc.sampleOpening),
        (0, .call (.didChange ⟨"file:///a", rfl⟩ 2 [⟨"x\r\ny", none⟩]))]
    let snapped : List (Nat × Workspace.Action) :=
      [(0, .step .fresh), (1, .step (.edit (.openText id "x\ny"))),
        (1, .step (.takeSnapshot id "s")), (1, .step (.edit (.close id)))]
    ((Workspace.after changed).handles.store? 0).bind (·.get? id) =
        some (.ofText "x\r\ny") ∧
      (Workspace.after snapped).handles.snapshot "s" = some (.ofText "x\ny") ∧
      Live (.ofText "x\r\ny") ∧ Live (.ofText "x\ny") ∧
      Document.ofText "x\r\ny" = .ofText "x\ny" := by
  intro id changed snapped
  have hchanged : ((Workspace.after changed).handles.store? 0).bind (·.get? id) =
      some (.ofText "x\r\ny") := by rfl
  have hsnapped : (Workspace.after snapped).handles.snapshot "s" = some (.ofText "x\ny") := by rfl
  obtain ⟨live, hs, hget⟩ := Option.bind_eq_some_iff.1 hchanged
  have hd : Live (.ofText "x\r\ny") := .stored hs hget
  have hd' : Live (.ofText "x\ny") := .kept hsnapped
  obtain ⟨-, -, -, heq, -⟩ := live_documents_known_by_content hd hd'
  exact ⟨hchanged, hsnapped, hd, hd', heq.2 (by decide)⟩

end DocSync
