import DocSync.Log.Notice
import Mathlib.Data.List.Forall2
import Mathlib.Data.List.Induction

/-! # Events and the notices of them

  Events reach the client one by one, as notices. This file says which events get a
  notice (`Level.Forwards`) and what the notice of an event is (`Event.ToldBy`):

  - its number is that of the severity, from 1 for `error` to 4 for `debug`;
  - its text is what the event says, a plain text as it is and anything else as it
    is written out (`Value.Reads`), whatever fields stand beside it.

  `said_concat` is what one more field does to what an event says, and
  `notice?_eq_some_iff` what becomes of one event. `forwarded_events_told` follows for
  any number of them.
-/

namespace DocSync.Log

/-! ### What an event says -/

/-- A value reads as a text. -/
inductive Value.Reads : Value → String → Prop where
  | text (s : String) : Reads (.text s) s
  | formatted (s : String) : Reads (.formatted s) s
  | quoted (s : String) : Reads (.quoted s) (Text.Quoted.quote s)
  /-- A number that is not negative reads as its digits. -/
  | natural (n : Nat) : Reads (.integer n) (String.ofList (Nat.toDigits 10 n))
  | negative (n : Nat) : 0 < n → Reads (.integer (-n)) ("-" ++ String.ofList (Nat.toDigits 10 n))
  | yes : Reads (.flag true) "true"
  | no : Reads (.flag false) "false"
  | some (n : Nat) : Reads (.count (some n)) ("Some(" ++ String.ofList (Nat.toDigits 10 n) ++ ")")
  | none : Reads (.count none) "None"

theorem Value.reads_shown (value : Value) : value.Reads value.shown := by
  cases value with
  | text s => exact .text s
  | formatted s => exact .formatted s
  | quoted s => exact .quoted s
  | integer n =>
    cases n with
    | ofNat n => exact .natural n
    | negSucc n => exact .negative (n + 1) n.succ_pos
  | flag b => cases b with
    | false => exact .no
    | true => exact .yes
  | count n => cases n with
    | none => exact .none
    | some n => exact .some n

theorem Value.reads_iff {value : Value} {text : String} :
    value.Reads text ↔ value.shown = text := by
  constructor
  · intro h
    cases h with
    | natural n => rfl
    | negative n hn =>
      obtain ⟨m, rfl⟩ := Nat.exists_eq_add_of_lt hn
      rfl
    | _ => rfl
  · rintro rfl
    exact value.reads_shown

/-- What fields say: the value of the last one that is a message. -/
def said (fields : List Field) : Option Value := fields.reverse.lookup messageField

/-- A further field is what is said if it is a message, and else changes nothing. -/
theorem said_concat (fields : List Field) (field : Field) :
    said (fields ++ [field]) = if field.1 = messageField then some field.2 else said fields := by
  obtain ⟨name, value⟩ := field
  rw [said, List.reverse_append, List.reverse_singleton, List.singleton_append]
  by_cases hname : name = messageField
  · rw [if_pos hname, hname, List.lookup_cons_self]
  · have hne : (messageField == name) = false := beq_false_of_ne (Ne.symm hname)
    rw [if_neg hname, List.lookup_cons, hne]
    rfl

/-- Fields that are no message have no part in what is said. -/
theorem said_filter (fields : List Field) :
    said (fields.filter fun field => field.1 = messageField) = said fields := by
  induction fields using List.reverseRecOn with
  | nil => rfl
  | append_singleton fields field ih =>
    rw [List.filter_append, said_concat]
    by_cases hfield : field.1 = messageField
    · rw [if_pos hfield, List.filter_cons_of_pos (by simp [hfield]), List.filter_nil, said_concat,
        if_pos hfield]
    · rw [if_neg hfield, List.filter_cons_of_neg (by simp [hfield]), List.filter_nil,
        List.append_nil, ih]

theorem said_eq_some_iff {fields : List Field} {value : Value} :
    said fields = some value ↔
      ∃ before after, fields = before ++ (messageField, value) :: after ∧
        ∀ field ∈ after, field.1 ≠ messageField := by
  rw [said, List.lookup_eq_some_iff]
  constructor
  · rintro ⟨after, before, hfields, hafter⟩
    refine ⟨before.reverse, after.reverse, ?_, ?_⟩
    · rw [← List.reverse_inj, hfields]
      simp
    · intro field hfield
      have hne := hafter field (List.mem_reverse.1 hfield)
      exact (bne_iff_ne.1 hne).symm
  · rintro ⟨before, after, rfl, hafter⟩
    refine ⟨after.reverse, before.reverse, by simp, ?_⟩
    intro field hfield
    exact bne_iff_ne.2 (hafter field (List.mem_reverse.1 hfield)).symm

theorem said_isSome_iff {fields : List Field} :
    (said fields).isSome = true ↔ messageField ∈ fields.map Prod.fst := by
  induction fields using List.reverseRecOn with
  | nil => simp [said]
  | append_singleton fields field ih =>
    rw [said_concat, List.map_append, List.mem_append, ← ih]
    by_cases hfield : field.1 = messageField
    · simp [hfield]
    · simp [hfield, Ne.symm hfield]

/-- An event says what its last message reads as. -/
def Event.Says (e : Event) (text : String) : Prop :=
  ∃ before value after, e.fields = before ++ (messageField, value) :: after ∧
    (∀ field ∈ after, field.1 ≠ messageField) ∧ value.Reads text

theorem Event.message?_eq_said (e : Event) : e.message? = said e.fields := rfl

theorem Event.says_iff {e : Event} {text : String} :
    e.Says text ↔ e.message?.map Value.shown = some text := by
  rw [message?_eq_said, Option.map_eq_some_iff]
  constructor
  · rintro ⟨before, value, after, hfields, hafter, hreads⟩
    exact ⟨value, said_eq_some_iff.2 ⟨before, after, hfields, hafter⟩, Value.reads_iff.1 hreads⟩
  · rintro ⟨value, hsaid, hshown⟩
    obtain ⟨before, after, hfields, hafter⟩ := said_eq_some_iff.1 hsaid
    exact ⟨before, value, after, hfields, hafter, Value.reads_iff.2 hshown⟩

/-! ### The notice of an event -/

/-- Tells whether an event gets a notice: it has a message, and it is at least of
    severity `info`, or `debug` at that level. -/
def Level.Forwards (level : Level) (e : Event) : Prop :=
  messageField ∈ e.fields.map Prod.fst ∧
    (e.severity ∈ [.error, .warn, .info] ∨ e.severity = .debug ∧ level = .debug)

instance (level : Level) (e : Event) : Decidable (level.Forwards e) :=
  inferInstanceAs (Decidable (_ ∧ _))

/-- A notice tells of an event. -/
structure Event.ToldBy (e : Event) (n : Notice) : Prop where
  number : (e.severity, n.kind.number) ∈ [(Severity.error, 1), (.warn, 2), (.info, 3), (.debug, 4)]
  text : e.Says n.text

theorem kind?_eq_some_iff {s : Severity} {kind : NoticeKind} :
    Notice.kind? s = some kind ↔
      (s, kind.number) ∈ [(Severity.error, 1), (.warn, 2), (.info, 3), (.debug, 4)] := by
  cases s <;> cases kind <;> decide

theorem reaches_clientLimit_iff {level : Level} {s : Severity} :
    s.reaches level.clientLimit = true ↔
      s ∈ [.error, .warn, .info] ∨ s = .debug ∧ level = .debug := by
  cases level <;> cases s <;> decide

theorem ofEvent?_eq_some_iff {e : Event} {n : Notice} :
    Notice.ofEvent? e = some n ↔ e.ToldBy n := by
  obtain ⟨kind, text⟩ := n
  have htold : e.ToldBy ⟨kind, text⟩ ↔
      Notice.kind? e.severity = some kind ∧ e.message?.map Value.shown = some text := by
    rw [kind?_eq_some_iff, ← Event.says_iff]
    exact ⟨fun h => ⟨h.number, h.text⟩, fun h => ⟨h.1, h.2⟩⟩
  rw [htold, Notice.ofEvent?]
  cases Notice.kind? e.severity <;> cases e.message? <;> simp

/-- What becomes of an event: its notice, if it gets one. -/
theorem notice?_eq_some_iff {level : Level} {e : Event} {n : Notice} :
    level.notice? e = some n ↔ level.Forwards e ∧ e.ToldBy n := by
  rw [Level.notice?, Level.Forwards, ← reaches_clientLimit_iff, Option.ite_none_right_eq_some,
    ofEvent?_eq_some_iff]
  -- The client is told of nothing that has no message, so `Forwards` may ask for one.
  have hmessage : e.ToldBy n → messageField ∈ e.fields.map Prod.fst := by
    rintro ⟨-, htext⟩
    rw [← said_isSome_iff, ← Event.message?_eq_said, ← Option.isSome_map, Event.says_iff.1 htext]
    rfl
  tauto

theorem exists_notice?_of_forwards {level : Level} {e : Event} (h : level.Forwards e) :
    ∃ n, level.notice? e = some n := by
  obtain ⟨hmessage, hseverity⟩ := h
  obtain ⟨value, hvalue⟩ := Option.isSome_iff_exists.1 (said_isSome_iff.2 hmessage)
  obtain ⟨kind, hkind⟩ : ∃ kind, Notice.kind? e.severity = some kind := by
    cases hgrade : e.severity with
    | trace => simp [hgrade] at hseverity
    | _ => exact ⟨_, rfl⟩
  rw [Level.notice?, if_pos (reaches_clientLimit_iff.2 hseverity), Notice.ofEvent?, hkind,
    Event.message?_eq_said, hvalue]
  exact ⟨_, rfl⟩

/-! ### Notices of events -/

/-- The events that get a notice get one each, in order. -/
theorem forall₂_toldBy (level : Level) (events : List Event) :
    List.Forall₂ Event.ToldBy (events.filter fun e => level.Forwards e) (level.notices events) := by
  induction events with
  | nil => exact .nil
  | cons e rest ih =>
    rw [Level.notices] at ih ⊢
    by_cases he : level.Forwards e
    · obtain ⟨n, hn⟩ := exists_notice?_of_forwards he
      rw [List.filter_cons_of_pos (by simpa using he), List.filterMap_cons_some hn]
      exact .cons (notice?_eq_some_iff.1 hn).2 ih
    · have hnone : level.notice? e = none := by
        cases hn : level.notice? e with
        | none => rfl
        | some n => exact absurd (notice?_eq_some_iff.1 hn).1 he
      rw [List.filter_cons_of_neg (by simpa using he), List.filterMap_cons_none hnone]
      exact ih

/-- Without a level the client is told what it is told at `debug`. -/
theorem filterMap_ofEvent? (events : List Event) :
    events.filterMap Notice.ofEvent? = Level.debug.notices events := by
  refine List.filterMap_congr fun e _ => ?_
  unfold Level.notice?
  -- The level holds back `trace` only, which has no kind of notice anyway.
  cases hgrade : e.severity with
  | trace => simp [Notice.ofEvent?, hgrade, Notice.kind?]
  | _ => rfl

theorem Event.ToldBy.number_eq_four_iff {e : Event} {n : Notice} (h : e.ToldBy n) :
    n.kind.number = 4 ↔ e.severity = .debug := by
  have hnumber := h.number
  cases hgrade : e.severity <;> simp [hgrade] at hnumber ⊢ <;> omega

/-- At other levels the client is not told of the severity `debug`, and nothing else
    is missing. -/
theorem filter_notices_debug {level : Level} (h : level ≠ .debug) (events : List Event) :
    ((Level.debug.notices events).filter fun n => n.kind.number ≠ 4) = level.notices events := by
  unfold Level.notices
  rw [List.filter_filterMap]
  refine List.filterMap_congr fun e _ => Option.ext fun n => ?_
  rw [Option.filter_eq_some_iff, notice?_eq_some_iff, notice?_eq_some_iff, decide_eq_true_eq]
  constructor
  · rintro ⟨⟨⟨hmessage, hseverity⟩, htold⟩, hnumber⟩
    have hdebug : e.severity ≠ .debug := mt htold.number_eq_four_iff.2 hnumber
    exact ⟨⟨hmessage, hseverity.imp_right fun hgrade => absurd hgrade.1 hdebug⟩, htold⟩
  · rintro ⟨⟨hmessage, hseverity⟩, htold⟩
    have hgrave : e.severity ∈ [.error, .warn, .info] :=
      hseverity.resolve_right fun hgrade => h hgrade.2
    refine ⟨⟨⟨hmessage, .inl hgrave⟩, htold⟩, mt htold.number_eq_four_iff.1 ?_⟩
    intro hdebug
    simp [hdebug] at hgrave

/-- Events of the same severity with the same messages, whatever else they have. -/
structure Event.SaysAlike (e e' : Event) : Prop where
  severity : e.severity = e'.severity
  messages : (e.fields.filter fun field => field.1 = messageField) =
    e'.fields.filter fun field => field.1 = messageField

theorem notice?_congr {e e' : Event} (h : e.SaysAlike e') (level : Level) :
    level.notice? e = level.notice? e' := by
  have hmessage : e.message? = e'.message? := by
    rw [Event.message?_eq_said, ← said_filter, h.messages, said_filter, Event.message?_eq_said]
  rw [Level.notice?, Level.notice?, Notice.ofEvent?, Notice.ofEvent?, h.severity, hmessage]

theorem notices_congr {events others : List Event} (h : List.Forall₂ Event.SaysAlike events others)
    (level : Level) : level.notices events = level.notices others := by
  unfold Level.notices
  induction h with
  | nil => rfl
  | cons he _ ih => rw [List.filterMap_cons, List.filterMap_cons, notice?_congr he, ih]

/-- The client is told of just the events that have a message and are grave enough,
    once each and in order, with the number of the severity and the text of the
    message. Other fields have no part in it. The levels but `debug` make no
    difference, `debug` adds the notices with the number 4, and without any level
    the client is told what it is told at `debug`. -/
theorem forwarded_events_told (level : Level) (events : List Event) :
    List.Forall₂ Event.ToldBy (events.filter fun e => level.Forwards e) (level.notices events) ∧
    (∀ others, List.Forall₂ Event.SaysAlike events others →
      level.notices events = level.notices others) ∧
    (level ≠ .debug →
      level.notices events = (Level.debug.notices events).filter fun n => n.kind.number ≠ 4) ∧
    events.filterMap Notice.ofEvent? = Level.debug.notices events :=
  ⟨forall₂_toldBy level events, fun _ h => notices_congr h level,
    fun h => (filter_notices_debug h events).symm, filterMap_ofEvent? events⟩

/-- Fields before and after the message, messages of several kinds, an event that says
    nothing, and two that are not grave enough. -/
theorem forwarded_events_told_warning :
    let events : List Event :=
      [⟨.error, "s", [("uri", .text "u"), (messageField, .text "broken"), ("n", .flag true)], []⟩,
        ⟨.warn, "s", [(messageField, .quoted "odd")], []⟩,
        ⟨.info, "s", [("uri", .text "u")], []⟩,
        ⟨.info, "s", [(messageField, .integer (-7))], []⟩,
        ⟨.debug, "s", [(messageField, .flag true)], []⟩,
        ⟨.trace, "s", [(messageField, .text "noise")], []⟩]
    let bare : List Event := events.map fun e =>
      { e with fields := e.fields.filter fun field => field.1 = messageField }
    Level.warning.notices events = [⟨.error, "broken"⟩, ⟨.warning, "\"odd\""⟩, ⟨.info, "-7"⟩] ∧
    Level.warning.notices events = Level.warning.notices bare ∧
    Level.warning.notices events =
      (Level.debug.notices events).filter fun n => n.kind.number ≠ 4 := by
  intro events bare
  obtain ⟨-, hbare, hdebug, -⟩ := forwarded_events_told .warning events
  refine ⟨by decide +kernel, hbare bare ?_, hdebug (by decide)⟩
  exact List.forall₂_map_right_iff.2 (List.forall₂_same.2 fun e _ => ⟨rfl, by simp⟩)

end DocSync.Log
