import DocSync.Proofs.Rpc.Acceptance
import Mathlib.Data.List.Induction
import Mathlib.Data.Option.Basic

/-! # What traffic does to the documents

  A client may send any values in any order. This file reads off from the values
  alone which of them count: the notifications about documents that come in the
  right form after the first `initialize` that succeeds, and before a `shutdown`
  in any form and before any `exit`.

  - `stage` is how far the values have brought a connection, and `documentCalls`
    are the calls that count; `Connection.receiveAll_initial` says that the
    connection is there and holds the documents of a server on which just these
    calls are made.
  - `traffic_drives_documents` adds what a single value does, and that a value
    which is not accepted leaves no trace.
  - `shutdown_ends_in_any_form`: also a `shutdown` that is passed over or refused
    ends what counts.
-/

namespace DocSync

/-- The documents of a server on which calls are made, from none at all. -/
def Server.storeAfter (calls : List Server.Call) : Store :=
  calls.foldl (fun s c => (Server.handle s c).1) .empty

namespace Rpc

/-! ### Reading a history -/

/-- The messages after the first `initialize` that succeeds. -/
def sinceStartup? (past : List Message) : Option (List Message) :=
  match past.dropWhile (fun m => m.startup?.isNone) with
  | [] => none
  | _ :: later => some later

def heard (values : List Json) : List Message := values.filterMap Message.ofJson?

/-- How far the messages have brought a connection. `exit` ends everything at any
    time. A `shutdown` shuts down once the startup has succeeded, in whatever
    form it comes: without an identifier it is not answered, and with parameters
    it is refused, but the connection is shut down all the same. -/
def stage (past : List Message) : Lifecycle :=
  if past.any (·.method = "exit") then .exited
  else match sinceStartup? past with
    | none => .uninitialized
    | some later => if later.any (·.method = "shutdown") then .shutDown else .initialized

/-- The call on a document that counts: it comes in the right form, after the
    first startup that succeeds, and before the first shutdown after that and
    before any exit. -/
def documentCall? (past : List Message) (m : Message) : Option Server.Call :=
  if stage past = .initialized then m.document? else none

/-- The calls on documents that count, of the messages that follow `past`. -/
def documentCallsFrom (past : List Message) : List Message → List Server.Call
  | [] => []
  | m :: rest => (documentCall? past m).toList ++ documentCallsFrom (past ++ [m]) rest

/-- The calls on documents that count. -/
def documentCalls (messages : List Message) : List Server.Call := documentCallsFrom [] messages

/-! ### One more message -/

theorem sinceStartup?_concat (past : List Message) (m : Message) :
    sinceStartup? (past ++ [m]) =
      match sinceStartup? past with
      | none => if m.startup?.isSome then some [] else none
      | some later => some (later ++ [m]) := by
  rw [sinceStartup?, sinceStartup?, List.dropWhile_append]
  cases hpast : past.dropWhile (fun m => m.startup?.isNone) with
  | nil => cases hm : m.startup? <;> simp [hm]
  | cons first later => rfl

/-- A message moves the stage on as it moves a connection. -/
theorem stage_concat (past : List Message) (m : Message) :
    stage (past ++ [m]) = m.next (stage past) := by
  -- Asked in turn: whether there was an exit, a startup, and a shutdown since.
  by_cases hexited : past.any (·.method = "exit")
  · simp [stage, hexited, Message.next]
  · by_cases hexit : m.method = "exit"
    · have hend : stage (past ++ [m]) = .exited := by simp [stage, hexit]
      rw [hend]
      cases stage past <;> simp [Message.next, hexit]
    · have hnone : (past ++ [m]).any (·.method = "exit") = false := by simp_all
      rw [stage, stage, sinceStartup?_concat, hnone, Bool.not_eq_true _ |>.mp hexited]
      cases hsince : sinceStartup? past with
      | none => cases hm : m.startup? <;> simp [Message.next, hexit, hm]
      | some later =>
        by_cases hshut : later.any (·.method = "shutdown")
        · simp [Message.next, hexit, hshut]
        · by_cases hlast : m.method = "shutdown" <;> simp [Message.next, hexit, hshut, hlast]

theorem documentCallsFrom_concat (past messages : List Message) (m : Message) :
    documentCallsFrom past (messages ++ [m]) =
      documentCallsFrom past messages ++ (documentCall? (past ++ messages) m).toList := by
  induction messages generalizing past with
  | nil => simp [documentCallsFrom]
  | cons first rest ih =>
    rw [List.cons_append, documentCallsFrom, documentCallsFrom, ih, List.append_assoc,
      List.append_assoc]
    rfl

theorem documentCalls_concat (messages : List Message) (m : Message) :
    documentCalls (messages ++ [m]) =
      documentCalls messages ++ (documentCall? messages m).toList :=
  documentCallsFrom_concat [] messages m

/-! ### Calls that do not edit -/

section calls
variable {m : Message} {call : Server.Call}

theorem exists_startup_of_params {v : Json} (h : Params.startup? v = some call) :
    ∃ client, call = .startup client := by
  unfold Params.startup? at h
  split at h
  · cases h
  · obtain ⟨client, -, h⟩ := Option.bind_eq_some_iff.1 h
    split at h
    · obtain ⟨name, -, h⟩ := Option.bind_eq_some_iff.1 h
      exact ⟨_, (Option.some.inj h).symm⟩
    · exact ⟨_, (Option.some.inj h).symm⟩

theorem Message.edit?_of_startup? (h : m.startup? = some call) : call.edit? = none := by
  obtain ⟨-, -, hcall⟩ := callOf?_eq_some_iff.1 h
  unfold Params.call? at hcall
  split at hcall <;> simp_all
  obtain ⟨client, rfl⟩ := exists_startup_of_params hcall
  rfl

theorem Message.edit?_of_initialized? (h : m.initialized? = some call) : call.edit? = none := by
  obtain ⟨-, -, hcall⟩ := callOf?_eq_some_iff.1 h
  have hinitialized : call = .initialized := by
    unfold Params.call? at hcall
    split at hcall <;> simp_all
  rw [hinitialized]
  rfl

theorem Message.edit?_of_shutdown? (h : m.shutdown? = some call) : call.edit? = none := by
  obtain ⟨-, -, hcall⟩ := callOf?_eq_some_iff.1 h
  have hshutdown : call = .shutdown := by
    unfold Params.call? at hcall
    split at hcall <;> simp_all
  rw [hshutdown]
  rfl

/-- A call on a document is due while the connection is initialized. -/
theorem Message.due?_of_document? (h : m.document? = some call) :
    m.due? .initialized = some call := by
  have hname : m.method ≠ "initialized" ∧ m.method ≠ "shutdown" := by
    simp only [document?, Option.orElse_eq_some, callOf?_eq_some_iff] at h
    rcases h with ⟨h, -⟩ | ⟨-, ⟨h, -⟩ | ⟨-, h, -⟩⟩ <;> rw [h] <;> decide
  have hinitialized : m.initialized? = none := by simp [initialized?, callOf?, hname]
  have hshutdown : m.shutdown? = none := by simp [shutdown?, callOf?, hname]
  rw [due?, hinitialized, hshutdown, h]
  rfl

/-- What else is due makes no edit. -/
theorem Message.edit?_of_due? {stage : Lifecycle} (h : m.due? stage = some call)
    (hdocument : (if stage = .initialized then m.document? else none) = none) :
    call.edit? = none := by
  cases stage with
  | shutDown => cases h
  | exited => cases h
  | uninitialized => exact edit?_of_startup? h
  | initialized =>
    -- Three calls may be due; the one on a document is not, by `hdocument`.
    rw [if_pos rfl] at hdocument
    rw [due?, hdocument] at h
    cases hinitialized : m.initialized? with
    | some other =>
      rw [hinitialized] at h
      obtain rfl := Option.some.inj h
      exact edit?_of_initialized? hinitialized
    | none =>
      cases hshutdown : m.shutdown? with
      | some other =>
        rw [hinitialized, hshutdown] at h
        obtain rfl := Option.some.inj h
        exact edit?_of_shutdown? hshutdown
      | none =>
        rw [hinitialized, hshutdown] at h
        cases h

theorem Server.Call.apply_of_edit? (h : call.edit? = none) (s : Store) : call.apply s = s := by
  rw [Server.Call.apply, h]

end calls

/-! ### The documents of a connection -/

namespace Connection

/-- What a message does to the documents, read off from the history. -/
theorem store_receive {c : Connection} {past : List Message} (hstage : c.lifecycle = stage past)
    (m : Message) :
    (c.receive m).1.store =
      ((documentCall? past m).map fun call => (Server.handle c.store call).1).getD c.store := by
  rw [documentCall?, ← hstage]
  cases hdocument : if c.lifecycle = .initialized then m.document? else none with
  | some call =>
    have hdue : m.due? c.lifecycle = some call := by
      split at hdocument
      · next hl =>
        rw [hl]
        exact Message.due?_of_document? hdocument
      · cases hdocument
    obtain ⟨outcome, -, hmakes⟩ := receive_of_due hdue
    exact hmakes.store
  | none =>
    cases hdue : m.due? c.lifecycle with
    | none => exact (receive_of_not_due hdue).1
    | some call =>
      obtain ⟨outcome, -, hmakes⟩ := receive_of_due hdue
      have hedit : call.edit? = none := Message.edit?_of_due? hdue hdocument
      exact hmakes.store.trans (Server.Call.apply_of_edit? hedit c.store)

theorem receiveAll_concat (c : Connection) (messages : List Message) (m : Message) :
    c.receiveAll (messages ++ [m]) = ((c.receiveAll messages).receive m).1 := by
  rw [receiveAll, List.foldl_append]
  rfl

/-- A connection is where its history says, and holds the documents of a server
    on which the calls that count were made. -/
theorem receiveAll_initial (messages : List Message) :
    (initial.receiveAll messages).lifecycle = stage messages ∧
      (initial.receiveAll messages).store = Server.storeAfter (documentCalls messages) := by
  induction messages using List.reverseRecOn with
  | nil => exact ⟨rfl, rfl⟩
  | append_singleton messages m ih =>
    obtain ⟨hstage, hstore⟩ := ih
    rw [receiveAll_concat, stage_concat, documentCalls_concat]
    constructor
    · rw [lifecycle_receive, hstage]
    · rw [store_receive hstage, hstore, Server.storeAfter, Server.storeAfter, List.foldl_append]
      cases documentCall? messages m <;> rfl

/-! ### Any values -/

/-- Receives a value, which may be no message at all. -/
def receiveValue (c : Connection) (v : Json) : Connection × Option Outcome :=
  match Message.ofJson? v with
  | some m => c.receive m
  | none => (c, none)

def afterValues (values : List Json) : Connection :=
  values.foldl (fun c v => (c.receiveValue v).1) initial

/-- What a value gets logged. -/
def logged (c : Connection) (v : Json) : List Log.Event :=
  ((c.receiveValue v).2.map Outcome.events).getD []

/-- What a value is answered with. -/
def answered (c : Connection) (v : Json) : Option Response :=
  (c.receiveValue v).2.bind Outcome.response

/-- Values that are no messages do nothing. -/
theorem afterValues_eq (values : List Json) :
    afterValues values = initial.receiveAll (heard values) := by
  rw [afterValues]
  generalize initial = c
  induction values generalizing c with
  | nil => rfl
  | cons v rest ih =>
    rw [List.foldl_cons, ih]
    cases hv : Message.ofJson? v with
    | none => simp [receiveValue, heard, hv]
    | some m => simp [receiveValue, heard, hv, receiveAll]

end Connection

/-- The call on a document that a value makes after others, if it counts. -/
def documentCallOf? (past : List Json) (v : Json) : Option Server.Call :=
  (Message.ofJson? v).bind (documentCall? (heard past))

/-- The call that a value makes after others. A value without one is refused,
    dropped or ignored. -/
def accepted? (past : List Json) (v : Json) : Option Server.Call :=
  (Message.ofJson? v).bind (·.due? (stage (heard past)))

/-- A call on a document that counts is one that is accepted. -/
theorem accepted?_of_documentCallOf? {past : List Json} {v : Json} {call : Server.Call}
    (h : documentCallOf? past v = some call) : accepted? past v = some call := by
  obtain ⟨m, hm, hcall⟩ := Option.bind_eq_some_iff.1 h
  rw [accepted?, hm, Option.bind_some]
  rw [documentCall?] at hcall
  split at hcall
  · next hstage =>
    rw [hstage]
    exact Message.due?_of_document? hcall
  · cases hcall

section value
variable {c : Connection} {past : List Json} {v : Json} {call : Server.Call}

theorem Connection.store_receiveValue (hstage : c.lifecycle = stage (heard past)) (v : Json) :
    (c.receiveValue v).1.store =
      ((documentCallOf? past v).map fun call => (Server.handle c.store call).1).getD c.store := by
  rw [receiveValue, documentCallOf?]
  cases Message.ofJson? v with
  | none => rfl
  | some m => exact store_receive hstage m

theorem Connection.logged_of_accepted (hstage : c.lifecycle = stage (heard past))
    (h : accepted? past v = some call) :
    c.logged v = (Server.handle c.store call).2 ∧
      ∀ r, c.answered v = some r → ∃ result, r.outcome = .ok result := by
  obtain ⟨m, hm, hdue⟩ := Option.bind_eq_some_iff.1 h
  rw [← hstage] at hdue
  obtain ⟨outcome, houtcome, hmakes⟩ := receive_of_due hdue
  have hvalue : (c.receiveValue v).2 = some outcome := by rw [receiveValue, hm, houtcome]
  rw [logged, answered, hvalue]
  exact ⟨hmakes.events, hmakes.ok_of_response⟩

theorem Connection.logged_of_not_accepted (hstage : c.lifecycle = stage (heard past))
    (h : accepted? past v = none) :
    c.logged v = [] ∧ ∀ r, c.answered v = some r → ∃ e, r.outcome = .error e := by
  rw [logged, answered]
  cases houtcome : (c.receiveValue v).2 with
  | none => exact ⟨rfl, fun _ hr => by cases hr⟩
  | some outcome =>
    cases hm : Message.ofJson? v with
    | none =>
      rw [receiveValue, hm] at houtcome
      cases houtcome
    | some m =>
      rw [accepted?, hm, Option.bind_some, ← hstage] at h
      rw [receiveValue, hm] at houtcome
      have hquiet := (receive_of_not_due h).2 outcome houtcome
      exact ⟨hquiet.events, hquiet.error_of_response⟩

end value

/-- After any values the documents are those of a server on which just the
    calls that count were made, and the next value changes them only by such a
    call. A value that is accepted gets logged what its call logs, and its
    answer is no error; one that is refused, dropped or ignored gets nothing
    logged, and its answer, if there is one, is an error. -/
theorem traffic_drives_documents (past : List Json) (v : Json) :
    let c := Connection.afterValues past
    c.store = Server.storeAfter (documentCalls (heard past)) ∧
    (∀ call, documentCallOf? past v = some call →
      ((c.receiveValue v).1.store, c.logged v) = Server.handle c.store call) ∧
    (documentCallOf? past v = none → (c.receiveValue v).1.store = c.store) ∧
    (∀ call, accepted? past v = some call →
      c.logged v = (Server.handle c.store call).2 ∧
        ∀ r, c.answered v = some r → ∃ result, r.outcome = .ok result) ∧
    (accepted? past v = none →
      c.logged v = [] ∧ ∀ r, c.answered v = some r → ∃ e, r.outcome = .error e) := by
  intro c
  have hc : c = Connection.initial.receiveAll (heard past) := Connection.afterValues_eq past
  obtain ⟨hstage, hstore⟩ := Connection.receiveAll_initial (heard past)
  rw [← hc] at hstage hstore
  have hnext := Connection.store_receiveValue hstage v
  refine ⟨hstore, ?_, ?_, ?_, ?_⟩
  · intro call hcall
    have hlogged := (Connection.logged_of_accepted hstage (accepted?_of_documentCallOf? hcall)).1
    rw [hcall] at hnext
    rw [hnext, hlogged]
    rfl
  · intro hcall
    rw [hcall] at hnext
    exact hnext
  · intro call hcall
    exact Connection.logged_of_accepted hstage hcall
  · intro hcall
    exact Connection.logged_of_not_accepted hstage hcall

/-! ### Some values -/

/-- An `initialize` that succeeds. -/
def sampleStartup : Json := .object [("jsonrpc", .string "2.0"), ("id", .integer 1),
  ("method", .string "initialize"), ("params", .object [("capabilities", .object [])])]

/-- A `shutdown` without an identifier, which is not answered. -/
def namelessShutdown : Json := .object [("jsonrpc", .string "2.0"), ("method", .string "shutdown")]

/-- A `shutdown` with parameters, which is refused. -/
def refusedShutdown : Json := .object [("jsonrpc", .string "2.0"), ("id", .integer 2),
  ("method", .string "shutdown"), ("params", .object [])]

/-- A notification that opens a document. -/
def sampleOpening : Json := .object [("jsonrpc", .string "2.0"),
  ("method", .string "textDocument/didOpen"),
  ("params", .object [("textDocument", .object [("uri", .string "file:///a"),
    ("languageId", .string "gauge"), ("version", .integer 1), ("text", .string "x")])])]

/-- A document is opened too early, and a value that is no message comes in
    between; once the startup has succeeded the same value opens the document.
    After a shutdown it does nothing any more. -/
theorem traffic_drives_documents_opening :
    let started := [sampleOpening, .null, sampleStartup]
    let ended := [sampleOpening, .null, sampleStartup, namelessShutdown]
    let opened : Server.Call := .didOpen ⟨"file:///a", rfl⟩ "gauge" 1 "x"
    let c := Connection.afterValues started
    let d := Connection.afterValues ended
    (documentCallOf? started sampleOpening = some opened ∧
      accepted? started sampleOpening = some opened ∧
      ((c.receiveValue sampleOpening).1.store, c.logged sampleOpening) =
        Server.handle c.store opened ∧
      c.logged sampleOpening = (Server.handle c.store opened).2) ∧
    documentCallOf? ended sampleOpening = none ∧ accepted? ended sampleOpening = none ∧
      (d.receiveValue sampleOpening).1.store = d.store ∧ d.logged sampleOpening = [] := by
  intro started ended opened c d
  have hcall : documentCallOf? started sampleOpening = some opened := rfl
  have haccepted : accepted? started sampleOpening = some opened := rfl
  have hlate : documentCallOf? ended sampleOpening = none := rfl
  have hrefused : accepted? ended sampleOpening = none := rfl
  have hstarted := traffic_drives_documents started sampleOpening
  have hended := traffic_drives_documents ended sampleOpening
  exact ⟨⟨hcall, haccepted, hstarted.2.1 opened hcall, (hstarted.2.2.2.1 opened haccepted).1⟩,
    hlate, hrefused, hended.2.2.1 hlate, (hended.2.2.2.2 hrefused).1⟩

/-- The calls on documents that come after the first startup that succeeds and
    before any exit and any `shutdown` that is a request and is not refused. -/
def callsBeforeAccepted (messages : List Message) : List Server.Call :=
  let later := (sinceStartup? (messages.takeWhile (·.method ≠ "exit"))).getD []
  (later.takeWhile (·.shutdown?.isNone)).filterMap Message.document?

/-- A `shutdown` need not be a request, and as a request it may be refused, to
    keep later calls from counting. -/
theorem shutdown_ends_in_any_form :
    let passedOver := [sampleStartup, namelessShutdown, sampleOpening]
    let refused := [sampleStartup, refusedShutdown, sampleOpening]
    (accepted? [sampleStartup] namelessShutdown = none ∧
      (Connection.afterValues passedOver).store ≠
        Server.storeAfter (callsBeforeAccepted (heard passedOver))) ∧
    accepted? [sampleStartup] refusedShutdown = none ∧
      (Connection.afterValues refused).store ≠
        Server.storeAfter (callsBeforeAccepted (heard refused)) := by
  intro passedOver refused
  -- Nothing is open, where one document would be.
  have hpassedOver : (Connection.afterValues passedOver).store.size ≠
      (Server.storeAfter (callsBeforeAccepted (heard passedOver))).size := by decide
  have hrefused : (Connection.afterValues refused).store.size ≠
      (Server.storeAfter (callsBeforeAccepted (heard refused))).size := by decide
  exact ⟨⟨rfl, ne_of_apply_ne Store.size hpassedOver⟩, rfl, ne_of_apply_ne Store.size hrefused⟩

end Rpc

end DocSync
