import DocSync.Proofs.Rpc.Traffic
import Mathlib.Data.Finmap

/-! # The log as an audit of the store

  What a server logs while it handles calls can be read again. `audit` goes
  through the events in order and keeps, for the text of each URI, a number of
  lines:

  - `Opened document` and `Changed document` set the number at the URI of their
    innermost span to that of their field `lines`.
  - `Closed document` takes the URI away.
  - Every other event changes nothing.

  `log_audits_documents` says that this ledger is in step with the store after
  every call. A call that edits a document is told by exactly one such event.
-/

namespace DocSync

/-! ### Reading an event -/

namespace Log.Event

/-- What an event says. -/
def wording? (e : Event) : Option String := e.message?.map Value.shown

def field? (e : Event) (name : String) : Option Value := e.fields.lookup name

/-- The URI that the innermost span of an event names. -/
def uri? (e : Event) : Option String :=
  e.spans.getLast?.bind fun span => (span.fields.lookup "uri").map Value.shown

/-- Tells whether an event says that a document has a new text. -/
def tellsText (e : Event) : Bool :=
  e.wording? = some "Opened document" || e.wording? = some "Changed document"

def tellsClosing (e : Event) : Bool := e.wording? = some "Closed document"

def tellsDocument (e : Event) : Bool := e.tellsText || e.tellsClosing

/-- An event has a field `lines` just if it tells of a text, and then the number
    is there. -/
def Counted (e : Event) : Prop :=
  if e.tellsText then ∃ n, e.field? "lines" = some (.count (some n)) else e.field? "lines" = none

end Log.Event

namespace Server

open Log (Event)

/-- The number of lines of each document, by the text of its URI. -/
abbrev Ledger := Finmap fun _ : String => Nat

def Ledger.record (m : Ledger) (e : Event) : Ledger :=
  match e.uri? with
  | none => m
  | some uri =>
    if e.tellsText then
      match e.field? "lines" with
      | some (.count (some n)) => m.insert uri n
      | _ => m
    else if e.tellsClosing then m.erase uri
    else m

/-- The ledger that events make of another. -/
def Ledger.recordAll (m : Ledger) (events : List Event) : Ledger := events.foldl Ledger.record m

/-- The ledger that events make of none at all. -/
def audit (events : List Event) : Ledger := Ledger.recordAll ∅ events

/-- All that a server logs that starts with nothing open. -/
def log (calls : List Call) : List Event := (run .empty calls).flatMap Prod.snd

/-- The ledger has the documents that are open, each with its number of lines,
    and no others. -/
structure Tells (m : Ledger) (s : Store) : Prop where
  lookup : ∀ key, m.lookup key = s.lineCount? ⟨key⟩
  size : m.keys.card = s.size

/-! ### Ledgers and edits -/

section ledger
variable {m : Ledger} {s : Store}

/-- As many keys as open documents follow from the numbers of lines. -/
theorem tells_iff : Tells m s ↔ ∀ key, m.lookup key = s.lineCount? ⟨key⟩ := by
  constructor
  · intro h
    exact h.lookup
  · intro h
    refine ⟨h, ?_⟩
    have hkeys : m.keys = (s.ids.map DocumentId.text).toFinset := by
      ext key
      rw [Finmap.mem_keys, ← Finmap.lookup_isSome, h, Store.lineCount?, Option.isSome_map,
        ← Store.mem_ids_iff, List.mem_toFinset, List.mem_map]
      constructor
      · intro hmem
        exact ⟨⟨key⟩, hmem, rfl⟩
      · rintro ⟨id, hmem, rfl⟩
        exact hmem
    have hnodup : (s.ids.map DocumentId.text).Nodup := by
      refine s.nodup_ids.map ?_
      intro a b hab
      cases a
      cases b
      exact congrArg DocumentId.mk hab
    rw [hkeys, List.toFinset_card_of_nodup hnodup, List.length_map, s.size_eq_length_ids]

theorem tells_empty : Tells ∅ .empty := by
  rw [tells_iff]
  intro key
  rfl

theorem lineCount?_edit (s : Store) (e : Store.Edit) (id : DocumentId) :
    (s.edit e).lineCount? id =
      if id = e.id then e.document?.map Document.lineCount else s.lineCount? id := by
  unfold Store.lineCount?
  rw [Store.get?_edit]
  split <;> rfl

/-- A ledger is in step with an edit if it changes at the document of the edit
    only. -/
theorem Tells.edit (h : Tells m s) {e : Store.Edit} {m' : Ledger}
    (hsame : m'.lookup e.id.text = e.document?.map Document.lineCount)
    (hother : ∀ key, key ≠ e.id.text → m'.lookup key = m.lookup key) : Tells m' (s.edit e) := by
  rw [tells_iff]
  intro key
  rw [lineCount?_edit]
  by_cases hkey : key = e.id.text
  · rw [hkey, if_pos rfl]
    exact hsame
  · have hid : (⟨key⟩ : DocumentId) ≠ e.id := by
      intro heq
      exact hkey (congrArg DocumentId.text heq)
    rw [if_neg hid, hother key hkey]
    exact h.lookup key

/-- An edit that gives a document a text is told by its number of lines. -/
theorem Tells.insert (h : Tells m s) {e : Store.Edit} {d : Document} (he : e.document? = some d) :
    Tells (m.insert e.id.text d.lineCount) (s.edit e) := by
  refine h.edit ?_ ?_
  · rw [Finmap.lookup_insert, he]
    rfl
  · intro key hkey
    exact Finmap.lookup_insert_of_ne m hkey

/-- An edit that closes a document is told by taking it away. -/
theorem Tells.erase (h : Tells m s) {e : Store.Edit} (he : e.document? = none) :
    Tells (m.erase e.id.text) (s.edit e) := by
  refine h.edit ?_ ?_
  · rw [Finmap.lookup_erase, he]
    rfl
  · intro key hkey
    exact Finmap.lookup_erase_ne hkey

end ledger

/-! ### Ledgers and events -/

section record
variable {m : Ledger} {e : Event} {uri : String}

theorem record_of_text {n : Nat} (huri : e.uri? = some uri) (htext : e.tellsText = true)
    (hlines : e.field? "lines" = some (.count (some n))) : m.record e = m.insert uri n := by
  unfold Ledger.record
  simp only [huri, htext, hlines, if_true]

theorem record_of_closing (huri : e.uri? = some uri) (htext : e.tellsText = false)
    (hclosing : e.tellsClosing = true) : m.record e = m.erase uri := by
  unfold Ledger.record
  simp [huri, htext, hclosing]

theorem record_of_other (h : e.tellsDocument = false) : m.record e = m := by
  obtain ⟨htext, hclosing⟩ : e.tellsText = false ∧ e.tellsClosing = false := by
    simpa [Event.tellsDocument] using h
  unfold Ledger.record
  split
  · rfl
  · simp [htext, hclosing]

theorem recordAll_of_other {events : List Event} (h : ∀ e ∈ events, e.tellsDocument = false) :
    m.recordAll events = m := by
  induction events with
  | nil => rfl
  | cons e rest ih =>
    have hrest := ih fun other hother => h other (List.mem_cons_of_mem _ hother)
    show (m.record e).recordAll rest = m
    rw [record_of_other (h e List.mem_cons_self), hrest]

theorem recordAll_append (m : Ledger) (events later : List Event) :
    m.recordAll (events ++ later) = (m.recordAll events).recordAll later :=
  List.foldl_append

end record

/-! ### Events of a call -/

/-- An event that is not about a document says nothing about lines. -/
def Aside (e : Event) : Prop := e.tellsDocument = false ∧ e.field? "lines" = none

/-- What the events of a call tell, where `s` is the store after it. Without an
    edit they are all asides. An edit is told by the last of them only, with the
    number of lines where the edit gives a text. -/
inductive Telling (s : Store) (c : Call) : List Event → Prop where
  | silent {events : List Event} : c.edit? = none → (∀ e ∈ events, Aside e) → Telling s c events
  | edited {others : List Event} {last : Event} {edit : Store.Edit} : c.edit? = some edit →
      (∀ e ∈ others, Aside e) → last.uri? = some edit.id.text →
      last.tellsText = edit.document?.isSome → last.tellsClosing = edit.document?.isNone →
      last.field? "lines" = (edit.document?.map fun _ => .count (s.lineCount? edit.id)) →
      Telling s c (others ++ [last])

theorem mem_changeRemarks {span : Log.Span} {version : Int} {first : Change}
    {others : List Change} {e : Event} (h : e ∈ Call.changeRemarks span version first others) :
    e = Call.event .debug [span] "Ranged change applied as whole text"
        [("version", .integer version)] ∨
      e = Call.event .debug [span] "Only the first change is applied"
        [("version", .integer version), ("ignored", .integer others.length)] := by
  unfold Call.changeRemarks at h
  rcases List.mem_append.1 h with h | h
  · split at h
    · exact Or.inl (List.mem_singleton.1 h)
    · cases h
  · split at h
    · cases h
    · exact Or.inr (List.mem_singleton.1 h)

theorem telling_events (s : Store) (c : Call) : Telling s c (c.events s) := by
  have hsingle {e : Event} (he : Aside e) : ∀ e' ∈ [e], Aside e' := by
    intro e' hmem
    rw [List.mem_singleton.1 hmem]
    exact he
  have hnone : ∀ e ∈ ([] : List Event), Aside e := by simp
  cases c with
  | startup client => exact .silent rfl (hsingle ⟨rfl, rfl⟩)
  | initialized => exact .silent rfl (hsingle ⟨rfl, rfl⟩)
  | shutdown => exact .silent rfl (hsingle ⟨rfl, rfl⟩)
  | didOpen uri language version text =>
    exact .edited rfl hnone rfl rfl rfl rfl
  | didClose uri => exact .edited rfl hnone rfl rfl rfl rfl
  | didChange uri version changes =>
    cases changes with
    | nil => exact .silent rfl (hsingle ⟨rfl, rfl⟩)
    | cons first others =>
      refine .edited rfl ?_ rfl rfl rfl rfl
      intro e hmem
      rcases mem_changeRemarks hmem with rfl | rfl
      · exact ⟨rfl, rfl⟩
      · exact ⟨rfl, rfl⟩

/-- A document that an edit gives is counted in the store after it. -/
theorem lineCount?_apply {s : Store} {c : Call} {edit : Store.Edit} (h : c.edit? = some edit) :
    (c.apply s).lineCount? edit.id = edit.document?.map Document.lineCount := by
  rw [Call.apply, h]
  exact (lineCount?_edit s edit edit.id).trans (if_pos rfl)

/-- Recording the events of a call brings the ledger in step with its edit. -/
theorem Tells.handle {m : Ledger} {s : Store} (h : Tells m s) (c : Call) :
    Tells (m.recordAll (Server.handle s c).2) (Server.handle s c).1 := by
  show Tells (m.recordAll (c.events (c.apply s))) (c.apply s)
  have htelling := telling_events (c.apply s) c
  generalize c.events (c.apply s) = events at htelling ⊢
  cases htelling with
  | silent hedit hasides =>
    rw [recordAll_of_other fun e he => (hasides e he).1, Call.apply, hedit]
    exact h
  | @edited others last edit hedit hasides huri htext hclosing hlines =>
    rw [lineCount?_apply hedit] at hlines
    have happly : c.apply s = s.edit edit := by rw [Call.apply, hedit]
    -- The asides leave the ledger as it is; the last event makes the edit.
    rw [recordAll_append, recordAll_of_other fun e he => (hasides e he).1, happly]
    show Tells (m.record last) (s.edit edit)
    cases hdocument : edit.document? with
    | some d =>
      rw [hdocument] at htext hlines
      rw [record_of_text huri htext hlines]
      exact h.insert hdocument
    | none =>
      rw [hdocument] at htext hclosing
      rw [record_of_closing huri htext hclosing]
      exact h.erase hdocument

theorem Aside.counted {e : Event} (h : Aside e) : e.Counted := by
  have htext : e.tellsText = false := (Bool.or_eq_false_iff.1 h.1).1
  unfold Event.Counted
  rw [htext]
  exact h.2

/-- The number of lines is read after the edit, so it is there. -/
theorem counted_of_mem_handle {s : Store} {c : Call} {e : Event} (he : e ∈ (handle s c).2) :
    e.Counted := by
  have htelling := telling_events (c.apply s) c
  change e ∈ c.events (c.apply s) at he
  generalize c.events (c.apply s) = events at htelling he
  cases htelling with
  | silent _ hasides => exact (hasides e he).counted
  | @edited others last edit hedit hasides _ htext _ hlines =>
    rcases List.mem_append.1 he with hother | hlast
    · exact (hasides e hother).counted
    · rw [List.mem_singleton.1 hlast, Event.Counted, htext, hlines, lineCount?_apply hedit]
      cases edit.document? with
      | none => exact rfl
      | some d => exact ⟨d.lineCount, rfl⟩

/-- Only the call `shutdown` says that the server shuts down, with the number of
    open documents. -/
theorem events_of_shutting_down {s : Store} {c : Call} {e : Event} (he : e ∈ c.events s)
    (hwording : e.wording? = some "Shutting down") :
    c.events s = [e] ∧ c.edit? = none ∧ e.field? "open_documents" = some (.integer s.size) := by
  have hsaid {e' : Event} {text : String} (heq : e = e') (htext : e'.wording? = some text) :
      text = "Shutting down" := by
    rw [heq, htext] at hwording
    exact Option.some.inj hwording
  cases c with
  | shutdown =>
    rw [List.mem_singleton.1 he]
    exact ⟨rfl, rfl, rfl⟩
  | startup client => exact absurd (hsaid (List.mem_singleton.1 he) rfl) (by decide)
  | initialized => exact absurd (hsaid (List.mem_singleton.1 he) rfl) (by decide)
  | didOpen uri language version text =>
    exact absurd (hsaid (List.mem_singleton.1 he) rfl) (by decide)
  | didClose uri => exact absurd (hsaid (List.mem_singleton.1 he) rfl) (by decide)
  | didChange uri version changes =>
    cases changes with
    | nil => exact absurd (hsaid (List.mem_singleton.1 he) rfl) (by decide)
    | cons first others =>
      rcases List.mem_append.1 he with hremark | hlast
      · rcases mem_changeRemarks hremark with hranged | hothers
        · exact absurd (hsaid hranged rfl) (by decide)
        · exact absurd (hsaid hothers rfl) (by decide)
      · exact absurd (hsaid (List.mem_singleton.1 hlast) rfl) (by decide)

/-! ### What a call accounts for -/

/-- What a call does to a document, in the words of the log, and the text of the
    document's URI. -/
def Call.told : Call → List (String × String)
  | .didOpen uri _ _ _ => [("Opened document", uri.text)]
  | .didChange uri _ (_ :: _) => [("Changed document", uri.text)]
  | .didClose uri => [("Closed document", uri.text)]
  | _ => []

def Call.changes : Call → List Change
  | .didChange _ _ changes => changes
  | _ => []

/-- Tells whether a call is a change without changes. -/
def Call.isEmptyChange : Call → Bool
  | .didChange _ _ [] => true
  | _ => false

/-- Events account for a call. -/
structure Accounts (c : Call) (events : List Event) : Prop where
  /-- What happens to a document is told once, at its URI. -/
  told : ((events.filter Event.tellsDocument).map fun e => (e.wording?, e.uri?)) =
    c.told.map fun said => (some said.1, some said.2)
  /-- There is a warning of a change without changes, and no other. -/
  warnings : (events.countP fun e => e.severity = .warn) = if c.isEmptyChange then 1 else 0
  /-- The number of changes that are ignored is told if there are any. -/
  ignored : (events.filterMap fun e => e.field? "ignored") =
    if 1 < c.changes.length then [.integer (c.changes.length - 1 : Nat)] else []

theorem accounts_events (s : Store) (c : Call) : Accounts c (c.events s) := by
  cases c with
  | startup client => exact ⟨rfl, rfl, rfl⟩
  | initialized => exact ⟨rfl, rfl, rfl⟩
  | shutdown => exact ⟨rfl, rfl, rfl⟩
  | didOpen uri language version text => exact ⟨rfl, rfl, rfl⟩
  | didClose uri => exact ⟨rfl, rfl, rfl⟩
  | didChange uri version changes =>
    cases changes with
    | nil => exact ⟨rfl, rfl, rfl⟩
    | cons first others =>
      -- Each remark is there or not, whatever the other is.
      obtain ⟨text, range⟩ := first
      cases range <;> cases others <;> exact ⟨rfl, rfl, rfl⟩

/-! ### Runs -/

theorem storeAfter_concat (calls : List Call) (c : Call) :
    storeAfter (calls ++ [c]) = (handle (storeAfter calls) c).1 :=
  List.foldl_concat _ _ _ _

theorem flatMap_run_append (s : Store) (calls later : List Call) :
    (run s (calls ++ later)).flatMap Prod.snd =
      (run s calls).flatMap Prod.snd ++
        (run (calls.foldl (fun s c => (handle s c).1) s) later).flatMap Prod.snd := by
  induction calls generalizing s with
  | nil => rfl
  | cons c rest ih =>
    show (handle s c).2 ++ (run (handle s c).1 (rest ++ later)).flatMap Prod.snd =
      ((handle s c).2 ++ (run (handle s c).1 rest).flatMap Prod.snd) ++ _
    rw [ih, List.append_assoc]
    rfl

/-- A further call logs its own events after all others. -/
theorem log_concat (calls : List Call) (c : Call) :
    log (calls ++ [c]) = log calls ++ (handle (storeAfter calls) c).2 := by
  unfold log
  rw [flatMap_run_append]
  exact congrArg _ (List.append_nil _)

/-- What is told of the documents is in step with them, after any calls. -/
theorem tells_log (calls : List Call) : Tells (audit (log calls)) (storeAfter calls) := by
  induction calls using List.reverseRecOn with
  | nil => exact tells_empty
  | append_singleton calls c ih =>
    rw [log_concat, storeAfter_concat, audit, recordAll_append]
    exact ih.handle c

theorem counted_of_mem_log {calls : List Call} {e : Event} (he : e ∈ log calls) : e.Counted := by
  induction calls using List.reverseRecOn with
  | nil => cases he
  | append_singleton calls c ih =>
    rw [log_concat] at he
    rcases List.mem_append.1 he with hbefore | hnow
    · exact ih hbefore
    · exact counted_of_mem_handle hnow

/-- The number of open documents at the end is the size of the ledger by then. -/
theorem shutting_down_tells_size {calls : List Call} {before after : List Event} {e : Event}
    (hlog : log calls = before ++ e :: after) (hwording : e.wording? = some "Shutting down") :
    e.field? "open_documents" = some (.integer (audit before).keys.card) := by
  induction calls using List.reverseRecOn generalizing after with
  | nil => exact absurd hlog (by simp [log, run])
  | append_singleton calls c ih =>
    rw [log_concat] at hlog
    -- If the event is one of the last call, that call is `shutdown` and logs nothing else.
    have hlast {early : List Event} (hbefore : before = log calls ++ early)
        (hnow : (handle (storeAfter calls) c).2 = early ++ e :: after) :
        e.field? "open_documents" = some (.integer (audit before).keys.card) := by
      have he : e ∈ c.events (c.apply (storeAfter calls)) := by
        show e ∈ (handle (storeAfter calls) c).2
        rw [hnow]
        exact List.mem_append_right _ List.mem_cons_self
      obtain ⟨hevents, hedit, hsize⟩ := events_of_shutting_down he hwording
      have hearly : early = [] := by
        have hsingle : [e] = early ++ e :: after := hevents.symm.trans hnow
        rcases List.singleton_eq_append_iff.1 hsingle with ⟨hnil, -⟩ | ⟨-, hcons⟩
        · exact hnil
        · cases hcons
      have happly : c.apply (storeAfter calls) = storeAfter calls := by rw [Call.apply, hedit]
      rw [hsize, happly, hbefore, hearly, List.append_nil, (tells_log calls).size]
    rcases List.append_eq_append_iff.1 hlog with ⟨early, hbefore, hnow⟩ | ⟨late, hpast, hlate⟩
    · exact hlast hbefore hnow
    · cases late with
      | nil =>
        rw [List.append_nil] at hpast
        exact hlast (hpast.symm.trans (List.append_nil _).symm) hlate.symm
      | cons first rest =>
        obtain ⟨rfl, -⟩ := List.cons.inj hlate
        exact ih hpast

/-- The events that a server logs from its start are an audit of its documents.
    Read in order they give the ledger of what is open after every call, with
    the number of lines of each document. That number is never missing, and the
    end of the server is logged with the size of the ledger. A further call adds
    its own events to the log, and they account for it. -/
theorem log_audits_documents (calls : List Call) :
    Tells (audit (log calls)) (storeAfter calls) ∧
    (∀ e ∈ log calls, e.Counted) ∧
    (∀ before e after, log calls = before ++ e :: after → e.wording? = some "Shutting down" →
      e.field? "open_documents" = some (.integer (audit before).keys.card)) ∧
    ∀ c, log (calls ++ [c]) = log calls ++ (handle (storeAfter calls) c).2 ∧
      Accounts c (handle (storeAfter calls) c).2 :=
  ⟨tells_log calls, fun _ => counted_of_mem_log, fun _ _ _ => shutting_down_tells_size,
    fun c => ⟨log_concat calls c, accounts_events _ c⟩⟩

/-- A document is opened with two lines and changed to one, with a second change
    that is ignored. -/
theorem log_audits_documents_session :
    let uri : Uri := ⟨"file:///a", rfl⟩
    let opened : List Call := [.didOpen uri "gauge" 1 "x\ny"]
    let change : Call := .didChange uri 2 [⟨"z", none⟩, ⟨"w", none⟩]
    (audit (log opened)).lookup "file:///a" = some 2 ∧
    (audit (log (opened ++ [change]))).lookup "file:///a" = some 1 ∧
    ((handle (storeAfter opened) change).2.filterMap fun e => e.field? "ignored") =
      [.integer 1] ∧
    (∀ e ∈ log (opened ++ [change]), e.Counted) ∧
    ∃ before e, log (opened ++ [.shutdown]) = before ++ [e] ∧
      e.wording? = some "Shutting down" ∧ e.field? "open_documents" = some (.integer 1) ∧
      (audit before).keys.card = 1 := by
  intro uri opened change
  refine ⟨((log_audits_documents opened).1.lookup _).trans (by rfl),
    ((log_audits_documents _).1.lookup _).trans (by rfl),
    ((log_audits_documents opened).2.2.2 change).2.ignored,
    (log_audits_documents _).2.1, log opened, _, log_concat opened .shutdown, rfl, ?_, ?_⟩
  · exact ((log_audits_documents _).2.2.1 _ _ [] (log_concat opened .shutdown) rfl).trans (by
      rw [(log_audits_documents opened).1.size]
      rfl)
  · exact (log_audits_documents opened).1.size

end Server

end DocSync
