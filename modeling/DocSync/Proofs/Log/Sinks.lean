import DocSync.Proofs.Config.Layers
import DocSync.Proofs.Program.Preparing
import DocSync.Proofs.Program.Serving
import Mathlib.Data.List.Induction

/-! # The two sinks of events

  Every event is offered to the log file and to the client. The log file has the
  filter that the environment asks for, or else that of the configured level; the
  client has a limit, on which the level alone decides. Neither of the two looks
  at what the other lets through.

  - `Filter.ofEnvironment?_eq_some_iff` says which filter is in force.
  - `Sinks.offerAll_filter` says what becomes of any events.
  - `Program.groundwork_otherVariables` says that the filter that is asked for has no
    part in anything else that is prepared.
  - `sinks_filtered_apart` puts these together, for one run and for two.
-/

namespace DocSync

namespace Log

/-! ### The filter in force -/

namespace Filter
variable {env : Environment} {level : Level} {f : Filter}

/-- What the environment asks for as the filter, if it gives a text for it. -/
def asked? (env : Environment) : Option (Except Fault Filter) :=
  ((env.get? variableName).bind Text.Utf8.decode?).map read

/-- A filter is in force: the one that the environment spells, or where it spells
    none the one that the directive of the level spells. -/
def InForce (env : Environment) (level : Level) (f : Filter) : Prop :=
  asked? env = some (.ok f) ∨
    (∀ g, asked? env ≠ some (.ok g)) ∧ read level.directive = .ok f

theorem read_directive (level : Level) : read level.directive = .ok (upTo level.severity) := by
  cases level <;> rfl

theorem admits_upTo (s : Severity) (e : Event) : (upTo s).admits e = e.severity.reaches s := by
  have hspans : e.spans.any ((upTo s).admitsWithin e.target e.severity) = false := by
    rw [List.any_eq_false]
    intro span _ hadmits
    -- There are no directives about spans.
    cases hadmits
  rw [admits, hspans]
  rfl

theorem ofEnvironment?_eq_none_iff :
    ofEnvironment? env level = none ↔ asked? env = some (.error .splitsCharacter) := by
  unfold ofEnvironment? asked?
  cases (env.get? variableName).bind Text.Utf8.decode? with
  | none => simp
  | some text =>
    cases hread : read text with
    | ok g => simp [hread]
    | error fault => cases fault <;> simp [hread]

theorem ofEnvironment?_eq_some_iff :
    ofEnvironment? env level = some f ↔
      asked? env ≠ some (.error .splitsCharacter) ∧ InForce env level f := by
  unfold ofEnvironment? asked? InForce asked?
  rw [read_directive]
  cases (env.get? variableName).bind Text.Utf8.decode? with
  | none => simp
  | some text =>
    cases hread : read text with
    | ok g => simp [hread]
    | error fault => cases fault <;> simp [hread]

theorem InForce.eq_of_asked (h : InForce env level f) {g : Filter}
    (hg : asked? env = some (.ok g)) : f = g := by
  obtain hasked | ⟨hnone, -⟩ := h
  · exact Except.ok.inj (Option.some.inj (hasked.symm.trans hg))
  · exact absurd hg (hnone g)

end Filter

/-! ### Events at the sinks -/

def Filter.trimmed (f : Filter) (e : Event) : Event :=
  { e with spans := e.spans.filter (f.shows e.target) }

/-- Tells whether the client is told of an event: the configured level lets it
    through, there is a kind of notice for it and it says something. -/
def Level.tells (level : Level) (e : Event) : Bool :=
  e.severity.reaches level.clientLimit && (Notice.kind? e.severity).isSome && e.message?.isSome

/-- The two sinks, by what decides for them. -/
structure Sinks where
  level : Level
  filter : Filter

/-- What has come out of the two sinks. -/
structure Output where
  logged : List Event
  told : List Notice

namespace Sinks

def offer (k : Sinks) (out : Output) (e : Event) : Output :=
  ⟨out.logged ++ (k.filter.logged? e).toList, out.told ++ (k.level.notice? e).toList⟩

/-- Offers events to both sinks, one after another. -/
def offerAll (k : Sinks) (events : List Event) : Output := events.foldl k.offer ⟨[], []⟩

theorem offerAll_concat (k : Sinks) (events : List Event) (e : Event) :
    k.offerAll (events ++ [e]) = k.offer (k.offerAll events) e := by
  unfold offerAll
  rw [List.foldl_concat]

end Sinks

theorem Filter.logged?_eq (f : Filter) (e : Event) :
    f.logged? e = if f.admits e then some (f.trimmed e) else none := rfl

theorem Level.notice?_eq (level : Level) (e : Event) :
    level.notice? e = if level.tells e then Notice.ofEvent? e else none := by
  unfold notice? tells Notice.ofEvent?
  cases e.severity.reaches level.clientLimit <;> cases Notice.kind? e.severity <;>
    cases e.message? <;> rfl

theorem Level.exists_notice_of_tells {level : Level} {e : Event} (h : level.tells e = true) :
    ∃ n, Notice.ofEvent? e = some n := by
  unfold tells at h
  simp only [Bool.and_eq_true, Option.isSome_iff_exists] at h
  obtain ⟨⟨-, kind, hkind⟩, value, hvalue⟩ := h
  exact ⟨⟨kind, value.shown⟩, by rw [Notice.ofEvent?, hkind, hvalue]⟩

namespace Sinks

/-- Each sink gets the events that its own filter lets through, in order. -/
theorem offerAll_filter (k : Sinks) (events : List Event) :
    (k.offerAll events).logged = (events.filter k.filter.admits).map k.filter.trimmed ∧
      (k.offerAll events).told.map some = (events.filter k.level.tells).map Notice.ofEvent? := by
  induction events using List.reverseRecOn with
  | nil => exact ⟨rfl, rfl⟩
  | append_singleton events e ih =>
    obtain ⟨hlogged, htold⟩ := ih
    rw [offerAll_concat, List.filter_append, List.map_append, List.filter_append, List.map_append]
    constructor
    · show (k.offerAll events).logged ++ (k.filter.logged? e).toList = _
      rw [hlogged, Filter.logged?_eq]
      cases hadmits : k.filter.admits e <;> simp [hadmits]
    · show ((k.offerAll events).told ++ (k.level.notice? e).toList).map some = _
      rw [List.map_append, htold, Level.notice?_eq]
      cases htells : k.level.tells e with
      | false => simp [htells]
      | true =>
        obtain ⟨n, hn⟩ := Level.exists_notice_of_tells htells
        simp [htells, hn]

/-- What comes out of the two sinks is what the program leaves behind. -/
theorem offerAll_eq (k : Sinks) (events : List Event) :
    k.offerAll events = ⟨events.filterMap k.filter.logged?, k.level.notices events⟩ := by
  induction events using List.reverseRecOn with
  | nil => rfl
  | append_singleton events e ih =>
    rw [offerAll_concat, ih, Level.notices, Level.notices, List.filterMap_append,
      List.filterMap_append]
    cases hlogged : k.filter.logged? e <;> cases hnotice : k.level.notice? e <;>
      simp [offer, hlogged, hnotice]

end Sinks

/-- The client is told the same at all levels but `debug`. -/
theorem Level.notices_eq {level level' : Level} (h : level ≠ .debug) (h' : level' ≠ .debug)
    (events : List Event) : level.notices events = level'.notices events := by
  have hlimit : level.clientLimit = level'.clientLimit := by
    cases level <;> cases level' <;> first | rfl | contradiction
  unfold notices notice?
  rw [hlimit]

end Log

namespace Program
open Log (Filter Sinks Output)

/-! ### The environment without the filter -/

/-- The environment without the variable that the filter is taken from. -/
def otherVariables (env : Environment) : Environment :=
  env.filter fun v => v.1 ≠ Text.Utf8.encode Filter.variableName

theorem configured?_variableName :
    Environment.configured? (Text.Utf8.encode Filter.variableName) = none := by
  decide +kernel

theorem settings_otherVariables (env : Environment) :
    (otherVariables env).settings = env.settings := by
  unfold otherVariables Environment.settings
  rw [List.filterMap_filter]
  refine List.filterMap_congr ?_
  intro v _
  by_cases hv : v.1 = Text.Utf8.encode Filter.variableName
  · simp [hv, configured?_variableName]
  · simp [hv]

theorem get?_otherVariables (env : Environment) {name : String}
    (h : Text.Utf8.encode name ≠ Text.Utf8.encode Filter.variableName) :
    (otherVariables env).get? name = env.get? name :=
  Config.Value.lookup_filter_ne h env

theorem userDirectory?_otherVariables (env : Environment) :
    Config.userDirectory? (otherVariables env) = Config.userDirectory? env := by
  unfold Config.userDirectory?
  rw [get?_otherVariables env (by decide), get?_otherVariables env (by decide)]

theorem sourceFiles_otherVariables (t : File.Tree) (start : File.Place) (env : Environment)
    (root : String) :
    Config.sourceFiles t start (otherVariables env) root = Config.sourceFiles t start env root := by
  unfold Config.sourceFiles Config.filePaths
  rw [userDirectory?_otherVariables]

theorem load_otherVariables (files : List Config.SourceFile) (env : Environment) :
    Config.load files (otherVariables env) = Config.load files env := by
  unfold Config.load Config.gather Config.environmentMembers
  rw [settings_otherVariables]

/-- What is asked for as the filter has no part in the groundwork. -/
theorem groundwork_otherVariables (s : Situation) :
    groundwork { s with environment := otherVariables s.environment } = groundwork s := by
  have hdecided : decided { s with environment := otherVariables s.environment } = decided s := by
    unfold decided settings
    simp only [sourceFiles_otherVariables, load_otherVariables]
    rfl
  unfold groundwork
  rw [hdecided]

/-! ### Runs -/

/-- The stores of a stream after each text. -/
def stores (s : Rpc.Stream) : List String → List Store
  | [] => []
  | text :: rest =>
    let after := (s.receive text).1
    after.connection.store :: stores after rest

/-- The documents of a run after each text; there are none where it does not serve. -/
def documents (s : Situation) (texts : List String) : List Store :=
  match (prepare s).2 with
  | .error _ => []
  | .ok _ => stores .initial texts

/-- Two results that differ in nothing but the log. -/
def SameButLog (r r' : Result) : Prop := r = { r' with logged := r.logged }

/-- What is left of a run that serves is what comes out of the two sinks. -/
theorem run_eq_offerAll {s : Situation} {tree : File.Tree} {setup : Setup}
    (h : prepare s = (tree, .ok setup)) (texts : List String) :
    let outcomes := Rpc.Stream.initial.receiveAll texts
    let out := Sinks.offerAll ⟨setup.settings.logLevel, setup.filter⟩ (events setup outcomes)
    run s texts =
      ⟨some 0, "", "", outcomes.filterMap Rpc.Outcome.response, out.logged, out.told, tree⟩ := by
  intro outcomes out
  have hout : out = _ := Sinks.offerAll_eq _ _
  rw [run_of_prepare h, hout]

/-- With the same groundwork two runs differ in nothing but the log, if neither is
    asked for a filter that splits a character. -/
theorem sameButLog_of_groundwork {s s' : Situation} (h : groundwork s = groundwork s')
    (hs : Filter.asked? s.environment ≠ some (.error .splitsCharacter))
    (hs' : Filter.asked? s'.environment ≠ some (.error .splitsCharacter)) (texts : List String) :
    SameButLog (run s texts) (run s' texts) ∧ documents s texts = documents s' texts := by
  cases hground : groundwork s with
  | mk tree opened =>
    have hground' : groundwork s' = (tree, opened) := by rw [← h, hground]
    cases opened with
    | error halt =>
      have hprepare := prepare_of_halt hground
      have hprepare' := prepare_of_halt hground'
      unfold SameButLog documents
      rw [run_of_error hprepare, run_of_error hprepare', hprepare, hprepare']
      exact ⟨rfl, rfl⟩
    | ok ground =>
      obtain ⟨root, settings, place⟩ := ground
      have hfilter (env : Environment)
          (henv : Filter.asked? env ≠ some (.error .splitsCharacter)) :
          ∃ f, Filter.ofEnvironment? env settings.logLevel = some f :=
        Option.ne_none_iff_exists'.1 (mt Filter.ofEnvironment?_eq_none_iff.1 henv)
      obtain ⟨f, hf⟩ := hfilter s.environment hs
      obtain ⟨f', hf'⟩ := hfilter s'.environment hs'
      have hprepare := prepare_of_groundwork hground hf
      have hprepare' := prepare_of_groundwork hground' hf'
      unfold SameButLog documents
      rw [run_of_prepare hprepare, run_of_prepare hprepare', hprepare, hprepare']
      -- The events are the same, and the client's share of them is up to the settings.
      exact ⟨rfl, rfl⟩

theorem inForce_of_prepare {s : Situation} {setup : Setup} (h : (prepare s).2 = .ok setup) :
    Filter.InForce s.environment setup.settings.logLevel setup.filter :=
  (Filter.ofEnvironment?_eq_some_iff.1 (filter_of_prepare h)).2

/-- The events of a run are not up to the level or the filter. -/
theorem events_eq {setup setup' : Setup} (hroot : setup.root = setup'.root)
    (hdirectory : setup.settings.logsDirectory = setup'.settings.logsDirectory)
    (outcomes : List Rpc.Outcome) : events setup outcomes = events setup' outcomes := by
  unfold events Settings.logFile Settings.logsDir
  rw [hroot, hdirectory]

/-- With the same filter and at levels other than `debug`, two runs for the same
    root and directory leave the same log behind and tell the client the same. -/
theorem run_eq_of_filter {s s' : Situation} {setup setup' : Setup}
    (hprepare : (prepare s).2 = .ok setup) (hprepare' : (prepare s').2 = .ok setup')
    (hfilter : setup.filter = setup'.filter) (hroot : setup.root = setup'.root)
    (hdirectory : setup.settings.logsDirectory = setup'.settings.logsDirectory)
    (hlevel : setup.settings.logLevel ≠ .debug) (hlevel' : setup'.settings.logLevel ≠ .debug)
    (texts : List String) :
    (run s texts).logged = (run s' texts).logged ∧
      (run s texts).notices = (run s' texts).notices := by
  rw [run_of_prepare (prepare_of_snd hprepare), run_of_prepare (prepare_of_snd hprepare'),
    events_eq hroot hdirectory]
  exact ⟨by rw [hfilter], Log.Level.notices_eq hlevel hlevel' _⟩

/-- The log file and the client are filtered apart. Unless the filter that the
    environment asks for splits a character, there is a filter in force at every
    level: the one that is asked for if it can be read, and otherwise that of the
    level. Of any events, the log gets those that the filter admits and the client
    is told of those that say something and that the level admits, whatever becomes
    of them in the log. So what is asked for as the filter changes nothing but the
    log; and with the same readable filter, levels other than `debug` make no
    difference to the log or to what the client is told. -/
theorem sinks_filtered_apart (s : Situation) (texts : List String)
    (h : Filter.asked? s.environment ≠ some (.error .splitsCharacter)) :
    (∀ level, ∃ f, Filter.ofEnvironment? s.environment level = some f ∧
      Filter.InForce s.environment level f ∧
      ((∀ g, Filter.asked? s.environment ≠ some (.ok g)) →
        ∀ e, f.admits e = e.severity.reaches level.severity) ∧
      ∀ events, let out := Sinks.offerAll ⟨level, f⟩ events
        out.logged = (events.filter f.admits).map f.trimmed ∧
        out.told.map some = (events.filter level.tells).map Log.Notice.ofEvent?) ∧
    (∀ tree setup, prepare s = (tree, .ok setup) →
      let outcomes := Rpc.Stream.initial.receiveAll texts
      let out := Sinks.offerAll ⟨setup.settings.logLevel, setup.filter⟩ (events setup outcomes)
      Filter.ofEnvironment? s.environment setup.settings.logLevel = some setup.filter ∧
      run s texts =
        ⟨some 0, "", "", outcomes.filterMap Rpc.Outcome.response, out.logged, out.told, tree⟩) ∧
    (∀ env, otherVariables env = otherVariables s.environment →
      Filter.asked? env ≠ some (.error .splitsCharacter) →
      let s' : Situation := { s with environment := env }
      SameButLog (run s texts) (run s' texts) ∧ documents s texts = documents s' texts) ∧
    ∀ s' f setup setup', Filter.asked? s.environment = some (.ok f) →
      Filter.asked? s'.environment = some (.ok f) →
      (prepare s).2 = .ok setup → (prepare s').2 = .ok setup' → setup.root = setup'.root →
      setup.settings.logsDirectory = setup'.settings.logsDirectory →
      setup.settings.logLevel ≠ .debug → setup'.settings.logLevel ≠ .debug →
      (run s texts).logged = (run s' texts).logged ∧
        (run s texts).notices = (run s' texts).notices := by
  refine ⟨?_, ?_, ?_, ?_⟩
  · intro level
    have hsome : Filter.ofEnvironment? s.environment level ≠ none :=
      mt Filter.ofEnvironment?_eq_none_iff.1 h
    obtain ⟨f, hf⟩ := Option.ne_none_iff_exists'.1 hsome
    obtain ⟨-, hforce⟩ := Filter.ofEnvironment?_eq_some_iff.1 hf
    refine ⟨f, hf, hforce, ?_, fun events => Sinks.offerAll_filter ⟨level, f⟩ events⟩
    intro hnone e
    obtain hasked | ⟨-, hread⟩ := hforce
    · exact absurd hasked (hnone f)
    · rw [Filter.read_directive] at hread
      rw [← Except.ok.inj hread]
      exact Filter.admits_upTo _ e
  · intro tree setup hprepare
    exact ⟨filter_of_prepare (by rw [hprepare]), run_eq_offerAll hprepare texts⟩
  · intro env henv hasked s'
    have hground : groundwork s = groundwork s' := by
      rw [← groundwork_otherVariables s, ← groundwork_otherVariables s', henv]
    exact sameButLog_of_groundwork hground h hasked texts
  · intro s' f setup setup' hasked hasked' hprepare hprepare' hroot hdirectory hlevel hlevel'
    have hfilter : setup.filter = f := (inForce_of_prepare hprepare).eq_of_asked hasked
    have hfilter' : setup'.filter = f := (inForce_of_prepare hprepare').eq_of_asked hasked'
    exact run_eq_of_filter hprepare hprepare' (hfilter.trans hfilter'.symm) hroot hdirectory
      hlevel hlevel' texts

/-- A server at the level `error` that is to log nothing, one whose filter cannot be
    read, so that its level counts, and one at another level. -/
theorem sinks_filtered_apart_off :
    let project : File.Name := Text.Utf8.encode "p"
    let tree : File.Tree := ⟨[([project], .directory false)], by decide +kernel⟩
    let asking (level filter : String) : Environment :=
      [(Text.Utf8.encode "GLS_LOG_LEVEL", Text.Utf8.encode level),
        (Text.Utf8.encode "RUST_LOG", Text.Utf8.encode filter)]
    let s (level filter : String) : Situation :=
      ⟨[Text.Utf8.encode "serve"], asking level filter, [project], tree, "2026-01-01"⟩
    let texts := ["no message"]
    (∃ f, Filter.InForce (asking "error" "off") .error f ∧
      ∀ events, (Sinks.offerAll ⟨.error, f⟩ events).logged =
        (events.filter f.admits).map f.trimmed) ∧
      (run (s "error" "off") texts).exitCode = some 0 ∧
      SameButLog (run (s "error" "off") texts) (run (s "error" "no filter") texts) ∧
      (run (s "error" "off") texts).logged = (run (s "warning" "off") texts).logged ∧
      (run (s "error" "off") texts).notices = (run (s "warning" "off") texts).notices := by
  intro project tree asking s texts
  have hread : ∀ level ∈ ["error", "warning"],
      (Filter.asked? (asking level "off")).map Except.toOption =
        some (some ⟨[⟨none, none, [], none⟩]⟩) := by decide +kernel
  have hasked (level : String) (hlevel : level ∈ ["error", "warning"]) :
      Filter.asked? (asking level "off") = some (.ok ⟨[⟨none, none, [], none⟩]⟩) := by
    obtain ⟨f, hf, hfilter⟩ := Option.map_eq_some_iff.1 (hread level hlevel)
    rw [hf, eq_ok_of_toOption hfilter]
  have hserves : ∀ level ∈ ["error", "warning"],
      (prepare (s level "off")).2.toOption.map (fun g => (g.root, g.settings)) =
        some ("/p", ⟨if level = "error" then .error else .warning, none⟩) := by decide +kernel
  have hsetup (level : String) (hlevel : level ∈ ["error", "warning"]) :
      ∃ setup, (prepare (s level "off")).2 = .ok setup ∧ setup.root = "/p" ∧
        setup.settings = ⟨if level = "error" then .error else .warning, none⟩ := by
    obtain ⟨setup, hprepare, hground⟩ := Option.map_eq_some_iff.1 (hserves level hlevel)
    obtain ⟨hroot, hsettings⟩ := Prod.mk.inj hground
    exact ⟨setup, eq_ok_of_toOption hprepare, hroot, hsettings⟩
  have hf := hasked "error" (by simp)
  have hf' := hasked "warning" (by simp)
  obtain ⟨setup, hprepare, hroot, hsettings⟩ := hsetup "error" (by simp)
  obtain ⟨setup', hprepare', hroot', hsettings'⟩ := hsetup "warning" (by simp)
  have hnofilter : Filter.asked? (asking "error" "no filter") ≠ some (.error .splitsCharacter) := by
    have hsome : Filter.ofEnvironment? (asking "error" "no filter") .error ≠ none := by
      decide +kernel
    exact mt Filter.ofEnvironment?_eq_none_iff.2 hsome
  obtain ⟨hforce, hrun, henvironment, hlevel⟩ :=
    sinks_filtered_apart (s "error" "off") texts (by rw [hf]; simp)
  obtain ⟨filter, -, hforce, -, hevents⟩ := hforce .error
  obtain ⟨-, hrun⟩ := hrun _ setup (prepare_of_snd hprepare)
  refine ⟨⟨filter, hforce, fun events => (hevents events).1⟩, by rw [hrun],
    (henvironment (asking "error" "no filter") (by decide) hnofilter).1, ?_⟩
  exact hlevel (s "warning" "off") _ setup setup' hf hf' hprepare hprepare'
    (hroot.trans hroot'.symm) (by rw [hsettings, hsettings']) (by rw [hsettings]; decide)
    (by rw [hsettings']; decide)

/-- The client is not told of an event that says nothing, however grave. A filter
    that splits a character breaks the program off, so that nothing is answered and
    it does not end of itself. -/
theorem silent_event_untold :
    let silent : Log.Event := ⟨.error, target, [("uri", .formatted "file:///a")], []⟩
    let project : File.Name := Text.Utf8.encode "p"
    let tree : File.Tree := ⟨[([project], .directory false)], by decide +kernel⟩
    let env : Environment := [(Text.Utf8.encode "RUST_LOG", Text.Utf8.encode " é=info")]
    let s : Situation := ⟨[Text.Utf8.encode "serve"], env, [project], tree, "2026-01-01"⟩
    let s' : Situation := { s with environment := [] }
    (silent.severity.reaches Log.Level.info.clientLimit = true ∧
      Log.Notice.kind? silent.severity = some .error ∧ Log.Level.info.notice? silent = none) ∧
    otherVariables s.environment = otherVariables s'.environment ∧
      (run s ["no message"]).exitCode = none ∧ (run s ["no message"]).responses.length = 0 ∧
      (run s' ["no message"]).exitCode = some 0 ∧ (run s' ["no message"]).responses.length = 1 ∧
      ¬ SameButLog (run s ["no message"]) (run s' ["no message"]) := by
  intro silent project tree env s s'
  have hanswers : (run s ["no message"]).responses.length = 0 := by decide +kernel
  have hanswers' : (run s' ["no message"]).responses.length = 1 := by decide +kernel
  refine ⟨⟨rfl, rfl, rfl⟩, by decide, by decide +kernel, hanswers, by decide +kernel, hanswers', ?_⟩
  intro hsame
  -- The answers are no part of the log, and there is one more of them without the filter.
  have hlengths : (run s ["no message"]).responses.length =
      (run s' ["no message"]).responses.length := by
    unfold SameButLog at hsame
    rw [hsame]
  rw [hanswers, hanswers'] at hlengths
  cases hlengths

end Program
end DocSync
