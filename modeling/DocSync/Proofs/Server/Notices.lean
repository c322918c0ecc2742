import DocSync.Log.Notice
import DocSync.Proofs.Rpc.Traffic

/-! # What the client is told

  While a server handles calls it sends notices to the client, as far as the
  configured level lets them through. Of a call they show no more than its shape
  (`Call.shape`): which method it is, and of a change whether there are changes,
  whether the first has a range and whether there are others. Texts, URIs, numbers
  and names stay out of them, and so does everything that is open.

  - `announced` are the notices at any level but `debug`, `detailed` those at
    `debug`, which has further ones of the kind `log` in between.
  - `notices_events` is the one place where the events of calls are looked at; all
    about runs follows from it.
-/

namespace DocSync.Server

open Log (Level Notice)

/-! ### Shapes -/

/-- What of a call may show in the notices. -/
inductive Shape where
  | startup
  | initialized
  | shutdown
  | didOpen
  /-- A change without changes. -/
  | emptyChange
  | didChange (isRanged hasOthers : Bool)
  | didClose
  deriving DecidableEq, Repr

def Call.shape : Call → Shape
  | .startup _ => .startup
  | .initialized => .initialized
  | .shutdown => .shutdown
  | .didOpen _ _ _ _ => .didOpen
  | .didChange _ _ [] => .emptyChange
  | .didChange _ _ (first :: others) => .didChange first.range.isSome (!others.isEmpty)
  | .didClose _ => .didClose

namespace Shape

/-- The notices of a call at any level but `debug`: one for each call that starts or
    ends the work of the server, and a warning of a change without changes. -/
def announced : Shape → List Notice
  | .startup => [⟨.info, "Initializing server"⟩]
  | .initialized => [⟨.info, "Server received initialized notification"⟩]
  | .shutdown => [⟨.info, "Shutting down"⟩]
  | .emptyChange => [⟨.warning, "Change notification without content changes"⟩]
  | .didOpen | .didChange _ _ | .didClose => []

/-- The notices of a call at the level `debug`. -/
def detailed : Shape → List Notice
  | .didOpen => [⟨.log, "Opened document"⟩]
  | .didClose => [⟨.log, "Closed document"⟩]
  | .didChange isRanged hasOthers =>
    (if isRanged then [⟨.log, "Ranged change applied as whole text"⟩] else []) ++
      (if hasOthers then [⟨.log, "Only the first change is applied"⟩] else []) ++
      [⟨.log, "Changed document"⟩]
  | shape => shape.announced

def notices (level : Level) (shape : Shape) : List Notice :=
  if level = .debug then shape.detailed else shape.announced

/-- The level `debug` adds notices of the kind `log` and no others. -/
theorem filter_detailed (shape : Shape) :
    (shape.detailed.filter fun n => n.kind ≠ .log) = shape.announced := by
  cases shape with
  | didChange isRanged hasOthers => cases isRanged <;> cases hasOthers <;> rfl
  | _ => rfl

end Shape

/-! ### One call -/

/-- What the client is told of a call is up to the level and the shape of the call. -/
theorem notices_events (level : Level) (s : Store) (c : Call) :
    level.notices (c.events s) = c.shape.notices level := by
  have hchange : ∀ (uri : Uri) (version : Int) (first : Change) (others : List Change),
      level.notices (Call.events s (.didChange uri version (first :: others))) =
        (Call.shape (.didChange uri version (first :: others))).notices level := by
    intro uri version first others
    -- Each remark is there or not, whatever the other is.
    obtain ⟨text, range⟩ := first
    cases range <;> cases others <;> cases level <;> rfl
  cases c with
  | startup client => cases level <;> rfl
  | initialized => cases level <;> rfl
  | shutdown => cases level <;> rfl
  | didOpen uri language version text => cases level <;> rfl
  | didClose uri => cases level <;> rfl
  | didChange uri version changes =>
    cases changes with
    | nil => cases level <;> rfl
    | cons first others => exact hchange uri version first others

/-- What a call gives back to its caller; notifications give nothing. -/
def Call.result? : Call → Option Json
  | .startup _ => some introduction
  | .shutdown => some .null
  | _ => none

/-- The result of a call is the answer to a message that makes it. -/
theorem answer_eq_result {m : Rpc.Message} {method : Rpc.Method} {c : Call}
    (hcall : m.call? method = some c) :
    m.answer method = c.result?.bind fun result => m.respond (.ok result) := by
  rw [Rpc.Message.call?] at hcall
  rw [Rpc.Message.answer]
  cases hkind : method.kind with
  | request =>
    cases hid : m.id with
    | none => simp only [hkind, hid] at hcall; cases hcall
    | some id =>
      simp only [hkind, hid] at hcall
      simp only [Rpc.Message.requestOutcome, hcall]
      unfold Rpc.Params.call? at hcall
      split at hcall
      case h_1 v =>
        obtain ⟨client, rfl⟩ := Rpc.exists_startup_of_params hcall
        rfl
      case h_4 | h_5 =>
        obtain rfl := Option.some.inj hcall
        rfl
      case h_9 => cases hcall
      -- The other methods with calls are notifications.
      all_goals cases hkind
  | notification =>
    -- A notification with an identifier makes no call.
    cases hid : m.id with
    | none =>
      simp only [Rpc.Message.respond, hid, Option.map_none]
      cases c.result? <;> rfl
    | some id => simp only [hkind, hid] at hcall; cases hcall

/-! ### Runs at a level -/

/-- What can be seen of a call after it. -/
structure Sight where
  store : Store
  result : Option Json
  events : List Log.Event
  notices : List Notice

/-- What can be seen of each call of a sequence, at a configured level. -/
def sights (level : Level) (s : Store) : List Call → List Sight
  | [] => []
  | c :: rest =>
    let (after, events) := handle s c
    ⟨after, c.result?, events, level.notices events⟩ :: sights level after rest

theorem notices_sights (level : Level) (s : Store) (calls : List Call) :
    (sights level s calls).map Sight.notices = calls.map fun c => c.shape.notices level := by
  induction calls generalizing s with
  | nil => rfl
  | cons c rest ih =>
    show level.notices (c.events (c.apply s)) :: (sights level (c.apply s) rest).map Sight.notices =
      c.shape.notices level :: _
    rw [notices_events, ih]

/-- Apart from the notices, nothing that can be seen is up to the level. -/
theorem sights_eq (level : Level) (s : Store) (calls : List Call) :
    ((sights level s calls).map fun v => (v.store, v.result, v.events)) =
      (run s calls).zipWith (fun r c => (r.1, c.result?, r.2)) calls := by
  induction calls generalizing s with
  | nil => rfl
  | cons c rest ih => exact congrArg _ (ih (handle s c).1)

/-- Calls of the same shapes are told to the client alike, one by one, whatever else
    is in them and whatever is open. At any level but `debug` the client is told of
    the start and the end of the server and warned of changes without changes, and
    of nothing else; the level `debug` adds notices of the kind `log`. Nothing else
    that can be seen depends on the level. -/
theorem notices_by_shape (level : Level) (s s' : Store) (calls calls' : List Call)
    (h : calls.map Call.shape = calls'.map Call.shape) :
    (sights level s calls).map Sight.notices = (sights level s' calls').map Sight.notices ∧
    (level ≠ .debug →
      (sights level s calls).map Sight.notices = calls.map fun c => c.shape.announced) ∧
    (((sights .debug s calls).map Sight.notices).map fun told =>
      told.filter fun n => n.kind ≠ .log) = (calls.map fun c => c.shape.announced) ∧
    ∀ level', ((sights level s calls).map fun v => (v.store, v.result, v.events)) =
      (sights level' s calls).map fun v => (v.store, v.result, v.events) := by
  refine ⟨?_, ?_, ?_, ?_⟩
  · calc (sights level s calls).map Sight.notices
        = (calls.map Call.shape).map (Shape.notices level) := by
          rw [notices_sights, List.map_map]; rfl
      _ = (calls'.map Call.shape).map (Shape.notices level) := by rw [h]
      _ = (sights level s' calls').map Sight.notices := by
          rw [notices_sights, List.map_map]; rfl
  · intro hlevel
    rw [notices_sights]
    refine List.map_congr_left ?_
    intro c _
    rw [Shape.notices, if_neg hlevel]
  · rw [notices_sights, List.map_map]
    refine List.map_congr_left ?_
    intro c _
    exact c.shape.filter_detailed
  · intro level'
    rw [sights_eq, sights_eq]

/-- Two clients that differ in names, texts, numbers and URIs, the second of which finds
    its document open. -/
theorem notices_by_shape_alike :
    let a : Uri := ⟨"file:///a", by decide +kernel⟩
    let b : Uri := ⟨"file:///b", by decide +kernel⟩
    let calls : List Call := [.startup none, .didOpen a "gauge" 1 "x",
      .didChange a 2 [⟨"y", none⟩, ⟨"z", none⟩], .didChange a 3 [], .shutdown]
    let calls' : List Call := [.startup (some "editor"), .didOpen b "markdown" 7 "",
      .didChange b 9 [⟨"secret", none⟩, ⟨"", some ⟨⟨0, 0⟩, ⟨0, 1⟩⟩⟩], .didChange a (-1) [],
      .shutdown]
    let opened := Store.empty.edit (.openText (.ofUri b) "secret")
    calls.map Call.shape = calls'.map Call.shape ∧
    (sights .debug .empty calls).map Sight.notices =
      (sights .debug opened calls').map Sight.notices ∧
    (sights .warning opened calls').map Sight.notices =
      [[⟨.info, "Initializing server"⟩], [], [],
        [⟨.warning, "Change notification without content changes"⟩],
        [⟨.info, "Shutting down"⟩]] := by
  intro a b calls calls' opened
  have hshapes : calls.map Call.shape = calls'.map Call.shape := by rfl
  obtain ⟨hdebug, -⟩ := notices_by_shape .debug .empty opened calls calls' hshapes
  obtain ⟨-, hwarning, -⟩ := notices_by_shape .warning opened .empty calls' calls hshapes.symm
  exact ⟨hshapes, hdebug, hwarning (by decide)⟩

end DocSync.Server
