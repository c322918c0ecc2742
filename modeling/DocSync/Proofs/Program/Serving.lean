import DocSync.Program
import Mathlib.Data.List.Basic

/-! # What comes of serving

  A server acts text by text: it offers each event to the log and to the client, and
  then sends the answer, if there is one. This file says what all the actions of a run
  amount to.

  - `Setup.receiveAll_eq`: the actions are those about the outcomes of the stream.
  - `run_of_prepare`: so the log and the client each get, in order, what is theirs of
    all events, and the client gets the answers.
-/

namespace DocSync.Program

/-- All events of serving a client. -/
def events (setup : Setup) (outcomes : List Rpc.Outcome) : List Log.Event :=
  started setup.root (setup.settings.logFile setup.root) ::
    outcomes.flatMap Rpc.Outcome.events ++ [stopped]

namespace Setup
variable (setup : Setup)

/-! ### Offering events -/

/-- An event gives at most one line of the log and one notice, in this order. -/
theorem filterMap_offer {γ : Type} (view : Action → Option γ) (e : Log.Event) :
    (setup.offer e).filterMap view =
      ((setup.filter.logged? e).bind fun line => view (.log line)).toList ++
        ((setup.settings.logLevel.notice? e).bind fun n => view (.send (.notice n))).toList := by
  rw [offer, List.filterMap_eq_flatMap_toList, List.flatMap_append]
  congr 1
  · cases setup.filter.logged? e <;> simp
  · cases setup.settings.logLevel.notice? e <;> simp

theorem event?_offer (e : Log.Event) :
    (setup.offer e).filterMap Action.event? = (setup.filter.logged? e).toList := by
  simp [filterMap_offer, Action.event?]

theorem notice?_offer (e : Log.Event) :
    (setup.offer e).filterMap Action.notice? = (setup.settings.logLevel.notice? e).toList := by
  simp [filterMap_offer, Action.notice?]

/-- No answer is given to an event. -/
theorem response?_offer (e : Log.Event) :
    (setup.offer e).filterMap Action.response? = (none : Option Rpc.Response).toList := by
  simp [filterMap_offer, Action.response?]

/-- What is known of the actions about each event is known of those about many. -/
theorem filterMap_flatMap_offer {γ : Type} {view : Action → Option γ}
    {share : Log.Event → Option γ}
    (h : ∀ e, (setup.offer e).filterMap view = (share e).toList) (events : List Log.Event) :
    (events.flatMap setup.offer).filterMap view = events.filterMap share := by
  rw [List.filterMap_flatMap, List.filterMap_eq_flatMap_toList]
  simp only [h]

/-! ### Serving texts -/

/-- The actions about texts are those about their outcomes. -/
theorem receiveAll_eq (stream : Rpc.Stream) (texts : List String) :
    setup.receiveAll stream texts = (stream.receiveAll texts).flatMap setup.react := by
  induction texts generalizing stream with
  | nil => rfl
  | cons text rest ih =>
    show setup.react _ ++ setup.receiveAll _ rest = _
    rw [ih]
    rfl

/-- A share in the events alone is a share in all events, from the first to the last. -/
theorem filterMap_serve {γ : Type} {view : Action → Option γ} {share : Log.Event → Option γ}
    (h : ∀ e, (setup.offer e).filterMap view = (share e).toList)
    (hanswer : ∀ r, view (.send (.response r)) = none) (texts : List String) :
    (setup.serve texts).filterMap view =
      (events setup (Rpc.Stream.initial.receiveAll texts)).filterMap share := by
  have hreact (outcome : Rpc.Outcome) :
      (setup.react outcome).filterMap view = outcome.events.filterMap share := by
    rw [react, List.filterMap_append, setup.filterMap_flatMap_offer h, List.filterMap_map]
    cases outcome.response with
    | none => simp
    | some r => simp [hanswer]
  rw [serve, List.filterMap_append, List.filterMap_append, receiveAll_eq, atStart, atEnd, h, h,
    List.filterMap_flatMap, events, List.filterMap_append, List.filterMap_cons,
    List.filterMap_flatMap]
  simp only [hreact]
  -- The first and the last event have no outcome that they belong to.
  cases share (started setup.root (setup.settings.logFile setup.root)) <;>
    cases hlast : share stopped <;> simp [hlast]

/-- The answers are those of the outcomes. -/
theorem responses_serve (texts : List String) :
    (setup.serve texts).filterMap Action.response? =
      (Rpc.Stream.initial.receiveAll texts).filterMap Rpc.Outcome.response := by
  have hreact (outcome : Rpc.Outcome) :
      (setup.react outcome).filterMap Action.response? = outcome.response.toList := by
    rw [react, List.filterMap_append, setup.filterMap_flatMap_offer setup.response?_offer]
    cases outcome.response <;> simp [Action.response?]
  rw [serve, List.filterMap_append, List.filterMap_append, receiveAll_eq, atStart, atEnd,
    response?_offer, response?_offer, List.filterMap_flatMap, List.filterMap_eq_flatMap_toList]
  simp only [hreact]
  simp

end Setup

/-! ### Runs -/

/-- What is left of a run that serves. -/
theorem run_of_prepare {s : Situation} {tree : File.Tree} {setup : Setup}
    (h : prepare s = (tree, .ok setup)) (texts : List String) :
    let outcomes := Rpc.Stream.initial.receiveAll texts
    run s texts = ⟨some 0, "", "", outcomes.filterMap Rpc.Outcome.response,
      (events setup outcomes).filterMap setup.filter.logged?,
      setup.settings.logLevel.notices (events setup outcomes), tree⟩ := by
  intro outcomes
  have hlogged : (setup.serve texts).filterMap Action.event? = _ :=
    setup.filterMap_serve setup.event?_offer (fun _ => rfl) texts
  have htold : (setup.serve texts).filterMap Action.notice? = _ :=
    setup.filterMap_serve setup.notice?_offer (fun _ => rfl) texts
  rw [run, h]
  simp only [hlogged, htold, setup.responses_serve]
  rfl

/-- What is left of a run that ends before it serves. -/
theorem run_of_error {s : Situation} {tree : File.Tree} {halt : Halt}
    (h : prepare s = (tree, .error halt)) (texts : List String) :
    run s texts = ⟨halt.exitCode?, halt.output, halt.report, [], [], [], tree⟩ := by
  rw [run, h]

end DocSync.Program
