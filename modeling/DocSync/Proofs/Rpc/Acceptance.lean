import DocSync.Rpc.Connection

/-! # What a connection accepts

  A message has an effect only if it is due at the stage that the connection has
  reached, carries an identifier exactly if its method is a request, and has
  parameters that fit. `Message.due?` gives the call that such a message makes,
  from the name of its method alone.

  - `receive_of_due`: a message that is due makes its call, and is answered
    without an error if at all.
  - `receive_of_not_due`: any other message leaves the documents alone, logs
    nothing, and is answered with an error if at all.
  - `lifecycle_receive`: how a message moves the connection on.
-/

namespace DocSync.Rpc

/-! ### Methods and their names -/

/-- The name of a method that the lifecycle or the store has to do with. -/
def Method.name? : Method → Option String
  | .startup => some "initialize"
  | .initialized => some "initialized"
  | .shutdown => some "shutdown"
  | .exit => some "exit"
  | .cancel => some "$/cancelRequest"
  | .didOpen => some "textDocument/didOpen"
  | .didChange => some "textDocument/didChange"
  | .didClose => some "textDocument/didClose"
  | .otherRequest _ => none
  | .otherNotification => none

theorem Method.ofName?_name {method : Method} {own : String} (h : method.name? = some own) :
    ofName? own = some method := by
  cases method <;> first | (obtain rfl := Option.some.inj h; rfl) | cases h

/-- A method that has a name of its own is known by it, and by no other. -/
theorem Method.ofName?_eq_some_iff {method : Method} {own : String}
    (h : method.name? = some own) (name : String) :
    ofName? name = some method ↔ name = own := by
  constructor
  · intro hname
    unfold ofName? at hname
    split at hname
    -- Any other name stands for a method without a name of its own.
    case h_9 =>
      split at hname
      · obtain rfl := Option.some.inj hname
        cases h
      · split at hname
        · obtain rfl := Option.some.inj hname
          cases h
        · cases hname
    all_goals
      obtain rfl := Option.some.inj hname
      exact Option.some.inj h
  · rintro rfl
    exact Method.ofName?_name h

/-! ### Calls that are due -/

namespace Message

/-- The call of a message with this name that is sent in the right form: with an
    identifier if it is a request and without one otherwise, and with parameters
    that fit. -/
def callOf? (m : Message) (name : String) (isRequest : Bool) (method : Method) :
    Option Server.Call :=
  if m.method = name ∧ m.id.isSome = isRequest then Params.call? method m.params else none

/-- The call of an `initialize` that can succeed. -/
def startup? (m : Message) : Option Server.Call := m.callOf? "initialize" true .startup

def initialized? (m : Message) : Option Server.Call :=
  m.callOf? "initialized" false .initialized

def shutdown? (m : Message) : Option Server.Call := m.callOf? "shutdown" true .shutdown

/-- The call of a notification about a document. -/
def document? (m : Message) : Option Server.Call :=
  m.callOf? "textDocument/didOpen" false .didOpen <|>
    m.callOf? "textDocument/didChange" false .didChange <|>
    m.callOf? "textDocument/didClose" false .didClose

/-- The call that a message makes at a stage of the lifecycle. -/
def due? (m : Message) : Lifecycle → Option Server.Call
  | .uninitialized => m.startup?
  | .initialized => m.initialized? <|> m.shutdown? <|> m.document?
  | .shutDown => none
  | .exited => none

/-- The stage after a message. `exit` is due at any time. A `shutdown` that is
    due ends the service whatever its form, which decides on its answer only. -/
def next (m : Message) : Lifecycle → Lifecycle
  | .exited => .exited
  | stage =>
    if m.method = "exit" then .exited
    else match stage with
      | .uninitialized => if m.startup?.isSome then .initialized else .uninitialized
      | .initialized => if m.method = "shutdown" then .shutDown else .initialized
      | stage => stage

end Message

/-- Tells whether a method may be called at a stage. -/
def Method.isDue : Method → Lifecycle → Bool
  | .startup, .uninitialized => true
  | .initialized, .initialized => true
  | .shutdown, .initialized => true
  | .didOpen, .initialized => true
  | .didChange, .initialized => true
  | .didClose, .initialized => true
  | _, _ => false

section calls
variable {m : Message} {method : Method} {own : String}

theorem Message.callOf?_of_method (hm : Method.ofName? m.method = some method)
    (hown : method.name? = some own) :
    m.callOf? own (decide (method.kind = .request)) method = m.call? method := by
  have hname : m.method = own := (Method.ofName?_eq_some_iff hown _).1 hm
  rw [callOf?, call?]
  cases hk : method.kind <;> cases hid : m.id <;> simp [hname]

theorem Message.callOf?_of_other (hm : Method.ofName? m.method ≠ some method)
    (hown : method.name? = some own) (isRequest : Bool) :
    m.callOf? own isRequest method = none := by
  have hname : m.method ≠ own := fun h => hm ((Method.ofName?_eq_some_iff hown _).2 h)
  rw [callOf?, if_neg (fun h => hname h.1)]

theorem Message.callOf?_eq_some_iff {isRequest : Bool} {call : Server.Call} :
    m.callOf? own isRequest method = some call ↔
      m.method = own ∧ m.id.isSome = isRequest ∧ Params.call? method m.params = some call := by
  rw [callOf?]
  simp [and_assoc]

/-- What is due at a stage is the call of the method, if that is due. -/
theorem Message.due?_of_method (hm : Method.ofName? m.method = some method) (stage : Lifecycle) :
    m.due? stage = if method.isDue stage then m.call? method else none := by
  have hother (other : Method) {own : String} (h : other.name? = some own) (isRequest : Bool)
      (hne : some method ≠ some other) : m.callOf? own isRequest other = none :=
    callOf?_of_other (hm ▸ hne) h isRequest
  have hstartup := hother .startup rfl true
  have hinitialized := hother .initialized rfl false
  have hshutdown := hother .shutdown rfl true
  have hopen := hother .didOpen rfl false
  have hchange := hother .didChange rfl false
  have hclose := hother .didClose rfl false
  cases stage with
  | shutDown => cases method <;> rfl
  | exited => cases method <;> rfl
  | uninitialized =>
    cases method
    case startup => exact callOf?_of_method hm rfl
    all_goals exact hstartup (by simp)
  | initialized =>
    -- Of the five methods that are due, at most one has the name of the message.
    simp only [due?, initialized?, shutdown?, document?]
    cases method
    case initialized | shutdown | didOpen | didChange | didClose =>
      have hown := callOf?_of_method hm rfl
      simp_all [Method.isDue, Method.kind]
    all_goals simp_all [Method.isDue]

/-- No call of an unknown method is due. -/
theorem Message.due?_of_unknown (hm : Method.ofName? m.method = none) (stage : Lifecycle) :
    m.due? stage = none := by
  have hother (other : Method) {own : String} (h : other.name? = some own) (isRequest : Bool) :
      m.callOf? own isRequest other = none :=
    callOf?_of_other (by simp [hm]) h isRequest
  cases stage with
  | shutDown => rfl
  | exited => rfl
  | uninitialized => exact hother .startup rfl true
  | initialized =>
    simp only [due?, initialized?, shutdown?, document?, hother .initialized rfl,
      hother .shutdown rfl, hother .didOpen rfl,
      hother .didChange rfl, hother .didClose rfl]
    rfl

theorem Message.next_of_unknown (hm : Method.ofName? m.method = none) (stage : Lifecycle) :
    m.next stage = stage := by
  have hother (other : Method) {own : String} (h : other.name? = some own) : m.method ≠ own := by
    rw [Ne, ← Method.ofName?_eq_some_iff h, hm]
    exact fun heq => by cases heq
  have hexit := hother .exit rfl
  have hshutdown := hother .shutdown rfl
  have hstartup : m.startup? = none := due?_of_unknown hm .uninitialized
  cases stage <;> simp [next, hexit, hshutdown, hstartup]

/-- A method without a reader of its parameters makes no call. -/
theorem Message.call?_eq_none (h : ∀ params, Params.call? method params = none) :
    m.call? method = none := by
  rw [call?]
  split
  · exact h _
  · exact h _
  · rfl

/-! ### Answers -/

/-- A message that makes a call is not answered with an error. -/
theorem Message.ok_of_answer {call : Server.Call} (hcall : m.call? method = some call)
    {r : Response} (hr : m.answer method = some r) : ∃ result, r.outcome = .ok result := by
  rw [call?] at hcall
  rw [answer] at hr
  cases hkind : method.kind <;> cases hid : m.id <;> simp only [hkind, hid, respond] at hcall hr
  case request.none => cases hcall
  case request.some id =>
    obtain rfl := Option.some.inj hr
    cases method
    case otherRequest => cases hcall
    all_goals
      simp only [requestOutcome, hcall]
      exact ⟨_, rfl⟩
  case notification.none => cases hr
  case notification.some => cases hcall

/-- A message that makes no call is answered with an error, if at all. -/
theorem Message.error_of_answer (hcall : m.call? method = none) {r : Response}
    (hr : m.answer method = some r) : ∃ e, r.outcome = .error e := by
  rw [call?] at hcall
  rw [answer] at hr
  cases hkind : method.kind <;> cases hid : m.id <;> simp only [hkind, hid, respond] at hcall hr
  case request.none => cases hr
  case request.some id =>
    obtain rfl := Option.some.inj hr
    cases method
    case otherRequest shape =>
      simp only [requestOutcome]
      split
      · exact ⟨_, rfl⟩
      · exact ⟨_, rfl⟩
    all_goals
      simp only [requestOutcome, hcall]
      exact ⟨_, rfl⟩
  case notification.none => cases hr
  case notification.some =>
    obtain rfl := Option.some.inj hr
    exact ⟨_, rfl⟩

end calls

/-! ### Receiving a message -/

namespace Connection

/-- Nothing happens to the documents and nothing is logged. An answer, if there
    is one, is an error. -/
structure Quiet (c : Connection) (result : Connection × Outcome) : Prop where
  store : result.1.store = c.store
  events : result.2.events = []
  error_of_response : ∀ r, result.2.response = some r → ∃ e, r.outcome = .error e

/-- A call is made of the server, and what it logs is logged. An answer, if
    there is one, is no error. -/
structure Makes (c : Connection) (call : Server.Call) (result : Connection × Outcome) : Prop where
  store : result.1.store = (Server.handle c.store call).1
  events : result.2.events = (Server.handle c.store call).2
  ok_of_response : ∀ r, result.2.response = some r → ∃ v, r.outcome = .ok v

section receive
variable {c : Connection} {m : Message} {method : Method} {call : Server.Call}

theorem quiet_ignore : c.Quiet c.ignore := ⟨rfl, rfl, fun _ hr => by cases hr⟩

theorem quiet_refuse (e : Error) : c.Quiet (c.refuse m e) := by
  refine ⟨rfl, rfl, ?_⟩
  intro r hr
  obtain ⟨id, -, rfl⟩ := Option.map_eq_some_iff.1 hr
  exact ⟨e, rfl⟩

theorem quiet_serve (hcall : m.call? method = none) : c.Quiet (c.serve m method) := by
  rw [serve, hcall]
  exact ⟨rfl, rfl, fun _ hr => Message.error_of_answer hcall hr⟩

theorem makes_serve (hcall : m.call? method = some call) : c.Makes call (c.serve m method) := by
  rw [serve, hcall]
  exact ⟨rfl, rfl, fun _ hr => Message.ok_of_answer hcall hr⟩

theorem lifecycle_serve : (c.serve m method).1.lifecycle = c.lifecycle := by
  rw [serve]
  cases m.call? method <;> rfl

theorem quiet_serveStartup (hcall : m.call? .startup = none) : c.Quiet (c.serveStartup m) := by
  have hquiet : c.Quiet (c.serve m .startup) := quiet_serve hcall
  rw [serveStartup, hcall]
  exact hquiet

theorem makes_serveStartup (hcall : m.call? .startup = some call) :
    c.Makes call (c.serveStartup m) := by
  obtain ⟨hstore, hevents, hok⟩ : c.Makes call (c.serve m .startup) := makes_serve hcall
  rw [serveStartup, hcall]
  exact ⟨hstore, hevents, hok⟩

/-- Acting on a message of a method that is due makes its call. -/
theorem makes_dispatch (hdue : method.isDue c.lifecycle) (hcall : m.call? method = some call) :
    c.Makes call (c.dispatch m method) := by
  cases hl : c.lifecycle with
  | shutDown => cases method <;> simp [Method.isDue, hl] at hdue
  | exited => cases method <;> simp [Method.isDue, hl] at hdue
  | uninitialized =>
    cases method
    case startup =>
      simp only [dispatch, hl]
      exact makes_serveStartup hcall
    all_goals simp [Method.isDue, hl] at hdue
  | initialized =>
    cases method
    case initialized | didOpen | didChange | didClose =>
      simp only [dispatch, hl]
      exact makes_serve hcall
    case shutdown =>
      simp only [dispatch, hl]
      obtain ⟨hstore, hevents, hok⟩ := makes_serve (c := { c with lifecycle := .shutDown }) hcall
      exact ⟨hstore, hevents, hok⟩
    all_goals simp [Method.isDue, hl] at hdue

/-- Nothing else that a connection does with a message shows. -/
theorem quiet_dispatch (h : (if method.isDue c.lifecycle then m.call? method else none) = none) :
    c.Quiet (c.dispatch m method) := by
  cases method
  case exit => exact ⟨rfl, rfl, fun _ hr => by cases hr⟩
  case cancel => exact quiet_serve (Message.call?_eq_none fun _ => rfl)
  case startup =>
    cases hl : c.lifecycle <;> rw [hl] at h <;> simp only [dispatch, hl]
    case uninitialized => exact quiet_serveStartup h
    all_goals exact quiet_refuse _
  case initialized | didOpen | didChange | didClose =>
    cases hl : c.lifecycle <;> rw [hl] at h <;> simp only [dispatch, hl]
    case initialized => exact quiet_serve h
    all_goals exact quiet_refuse _
  case shutdown =>
    cases hl : c.lifecycle <;> rw [hl] at h <;> simp only [dispatch, hl]
    case initialized =>
      obtain ⟨hstore, hevents, herror⟩ := quiet_serve (c := { c with lifecycle := .shutDown }) h
      exact ⟨hstore, hevents, herror⟩
    all_goals exact quiet_refuse _
  case otherRequest | otherNotification =>
    cases hl : c.lifecycle <;> simp only [dispatch, hl]
    case initialized => exact quiet_serve (Message.call?_eq_none fun _ => rfl)
    all_goals exact quiet_refuse _

theorem lifecycle_serveStartup :
    (c.serveStartup m).1.lifecycle =
      if (m.call? .startup).isSome then .initialized else c.lifecycle := by
  rw [serveStartup]
  cases hcall : m.call? .startup with
  | none => exact lifecycle_serve
  | some call => rfl

/-- A connection moves on by the name of the message and, at the start, by
    whether it makes its call. -/
theorem lifecycle_dispatch (hm : Method.ofName? m.method = some method)
    (hl : c.lifecycle ≠ .exited) :
    (c.dispatch m method).1.lifecycle = m.next c.lifecycle := by
  have hname (other : Method) (own : String) (h : other.name? = some own) :
      m.method = own ↔ some method = some other := by
    rw [← Method.ofName?_eq_some_iff h, hm]
  have hexit := hname .exit "exit" rfl
  have hshutdown := hname .shutdown "shutdown" rfl
  have hstartup : m.startup? = if method.isDue .uninitialized then m.call? method else none :=
    Message.due?_of_method hm .uninitialized
  cases method
  case exit =>
    cases hc : c.lifecycle <;> simp [dispatch, Message.next, hexit]
  case cancel =>
    rw [dispatch, lifecycle_serve]
    cases hc : c.lifecycle <;> simp_all [Message.next, Method.isDue]
  case startup =>
    cases hc : c.lifecycle <;> simp only [dispatch, hc]
    case uninitialized =>
      rw [lifecycle_serveStartup]
      simp_all [Message.next, Method.isDue]
    all_goals simp_all [Message.next, refuse]
  all_goals
    cases hc : c.lifecycle <;> simp only [dispatch, hc]
    case initialized => simp_all [Message.next, lifecycle_serve]
    all_goals simp_all [Message.next, refuse, Method.isDue]

/-! ### Receiving a message -/

/-- A connection that has been left does nothing any more. -/
theorem receive_of_exited (h : c.lifecycle = .exited) (m : Message) : c.receive m = (c, none) := by
  rw [receive, h]

theorem receive_of_method (h : c.lifecycle ≠ .exited)
    (hm : Method.ofName? m.method = some method) :
    c.receive m = ((c.dispatch m method).1, some (c.dispatch m method).2) := by
  rw [receive]
  cases hl : c.lifecycle with
  | exited => exact absurd hl h
  | _ => simp only [hm]

theorem receive_of_unknown (h : c.lifecycle ≠ .exited) (hm : Method.ofName? m.method = none) :
    ∃ outcome, c.receive m = (c, some outcome) ∧ c.Quiet (c, outcome) := by
  rw [receive]
  cases hl : c.lifecycle with
  | exited => exact absurd hl h
  | _ =>
    simp only [hm]
    split
    · exact ⟨_, rfl, quiet_ignore⟩
    · exact ⟨_, rfl, quiet_refuse _⟩

/-- A message that is due makes its call. -/
theorem receive_of_due (h : m.due? c.lifecycle = some call) :
    ∃ outcome, (c.receive m).2 = some outcome ∧ c.Makes call ((c.receive m).1, outcome) := by
  have hl : c.lifecycle ≠ .exited := by
    intro hl
    rw [hl] at h
    cases h
  cases hm : Method.ofName? m.method with
  | none =>
    rw [Message.due?_of_unknown hm] at h
    cases h
  | some method =>
    rw [Message.due?_of_method hm] at h
    obtain ⟨hdue, hcall⟩ : method.isDue c.lifecycle ∧ m.call? method = some call := by
      split at h
      · next hdue => exact ⟨hdue, h⟩
      · cases h
    rw [receive_of_method hl hm]
    exact ⟨_, rfl, makes_dispatch hdue hcall⟩

/-- Any other message leaves no trace but maybe an answer that is an error. -/
theorem receive_of_not_due (h : m.due? c.lifecycle = none) :
    (c.receive m).1.store = c.store ∧
      ∀ outcome, (c.receive m).2 = some outcome → c.Quiet ((c.receive m).1, outcome) := by
  by_cases hl : c.lifecycle = .exited
  · rw [receive_of_exited hl]
    exact ⟨rfl, fun _ ho => by cases ho⟩
  · cases hm : Method.ofName? m.method with
    | none =>
      obtain ⟨outcome, hreceive, hquiet⟩ := receive_of_unknown hl hm
      rw [hreceive]
      refine ⟨rfl, ?_⟩
      rintro _ ⟨⟩
      exact hquiet
    | some method =>
      rw [Message.due?_of_method hm] at h
      have hquiet : c.Quiet (c.dispatch m method) := quiet_dispatch h
      rw [receive_of_method hl hm]
      refine ⟨hquiet.store, ?_⟩
      rintro _ ⟨⟩
      exact hquiet

theorem lifecycle_receive (c : Connection) (m : Message) :
    (c.receive m).1.lifecycle = m.next c.lifecycle := by
  by_cases hl : c.lifecycle = .exited
  · rw [receive_of_exited hl, hl]
    rfl
  · cases hm : Method.ofName? m.method with
    | none =>
      obtain ⟨outcome, hreceive, -⟩ := receive_of_unknown hl hm
      rw [hreceive, Message.next_of_unknown hm]
    | some method =>
      rw [receive_of_method hl hm]
      exact lifecycle_dispatch hm hl

end receive

end Connection

end DocSync.Rpc
