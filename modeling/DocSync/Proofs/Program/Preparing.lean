import DocSync.Program
import Mathlib.Data.List.Basic

/-! # What is prepared

  Preparations go through the command line, the settings, the log file and the filter,
  each step from what the one before has come to.

  - `prepare_eq_ok_iff` says what all of them have come to where none has failed.
  - `decided_congr`: the settings are up to what there is on the paths at which they
    are looked for, whatever else the tree holds.
-/

namespace DocSync

namespace File.Tree
variable {t other : Tree} {p next : Place}

/-! ### Places on the way -/

theorem mem_placesOn_self (start : Place) (path : List Path.Component) :
    start ∈ placesOn start path := by
  cases path <;> simp [placesOn]

theorem eq_nextPlace_of_follow {c : Path.Component} (h : t.follow p c = .ok next) :
    next = nextPlace p c := by
  unfold follow at h
  cases hnode : t.node? p with
  | none => simp [hnode] at h
  | some n =>
    cases n with
    | file contents => simp [hnode] at h
    | directory isSealed =>
      rw [hnode] at h
      cases c with
      | root | here | up => exact (Except.ok.inj h).symm
      | name text =>
        simp only at h
        split at h
        · cases h
        · split at h
          · exact (Except.ok.inj h).symm
          · cases h

/-- Only a place and the next one have a part in the way from the one to the other. -/
theorem follow_congr {c : Path.Component} (hp : t.node? p = other.node? p)
    (hnext : t.node? (nextPlace p c) = other.node? (nextPlace p c)) :
    t.follow p c = other.follow p c := by
  unfold follow
  rw [hp]
  cases c with
  | root | here | up => rfl
  | name text =>
    rw [nextPlace] at hnext
    simp only [hnext]

/-- Only the places on the way along a path have a part in where it leads to. -/
theorem locate_congr {start : Place} {path : List Path.Component}
    (h : ∀ p ∈ placesOn start path, t.node? p = other.node? p) :
    t.locate start path = other.locate start path := by
  induction path generalizing start with
  | nil => rfl
  | cons c rest ih =>
    -- The rest of the way starts at the next place, which is all that the step looks at.
    have hrest (p : Place) (hp : p ∈ placesOn (nextPlace start c) rest) :
        t.node? p = other.node? p := h p (List.mem_cons_of_mem _ hp)
    have hfollow : t.follow start c = other.follow start c :=
      follow_congr (h start (mem_placesOn_self _ _)) (hrest _ (mem_placesOn_self _ _))
    show (t.follow start c >>= fun p => t.locate p rest) =
      (other.follow start c >>= fun p => other.locate p rest)
    rw [hfollow]
    cases hnext : other.follow start c with
    | error fault => rfl
    | ok next =>
      obtain rfl := eq_nextPlace_of_follow hnext
      exact ih hrest

/-- A path leads to a place on its way. -/
theorem mem_placesOn_of_locate {start : Place} {path : List Path.Component}
    (h : t.locate start path = .ok p) : p ∈ placesOn start path := by
  induction path generalizing start with
  | nil =>
    obtain rfl := Except.ok.inj h
    exact mem_placesOn_self _ _
  | cons c rest ih =>
    have hsteps : (t.follow start c >>= fun q => t.locate q rest) = .ok p := h
    cases hnext : t.follow start c with
    | error fault =>
      rw [hnext] at hsteps
      cases hsteps
    | ok next =>
      rw [hnext] at hsteps
      obtain rfl := eq_nextPlace_of_follow hnext
      exact List.mem_cons_of_mem _ (ih hsteps)

theorem read?_congr {start : Place} {path : String}
    (h : ∀ p ∈ placesOn start (Path.components path), t.node? p = other.node? p) :
    t.read? start path = other.read? start path := by
  unfold read?
  rw [locate_congr h]
  cases hlocate : other.locate start (Path.components path) with
  | error fault => rfl
  | ok p =>
    have hp : t.node? p = other.node? p := h p (mem_placesOn_of_locate hlocate)
    simp only [hp]

end File.Tree

namespace Program
open Log (Filter)

/-! ### Steps of preparing -/

/-- The settings are up to the tree only on the paths at which they are looked for. -/
theorem decided_congr {s : Situation} {tree : File.Tree}
    (h : ∀ path ∈ sourcePaths s, ∀ p ∈ File.Tree.placesOn s.workingDirectory
      (File.Path.components path), tree.node? p = s.tree.node? p) :
    decided { s with tree := tree } = decided s := by
  -- What is asked for is not up to the tree, so both look for settings on the same paths.
  have hasked : asked { s with tree := tree } = asked s := rfl
  unfold decided
  rw [hasked]
  cases hroot : asked s with
  | error halt => rfl
  | ok pair =>
    obtain ⟨o, root⟩ := pair
    have hfiles : Config.sourceFiles tree s.workingDirectory s.environment root =
        Config.sourceFiles s.tree s.workingDirectory s.environment root := by
      unfold Config.sourceFiles
      refine List.filterMap_congr fun path hpath => ?_
      have hread (candidate : String) (hcandidate : candidate ∈ Config.candidates path) :
          tree.read? s.workingDirectory candidate = s.tree.read? s.workingDirectory candidate := by
        refine File.Tree.read?_congr (h candidate ?_)
        simp only [sourcePaths, hroot]
        exact List.mem_flatMap.2 ⟨path, hpath, hcandidate⟩
      simp only [Config.sourceFile?, Config.candidates, List.findSome?_cons, List.findSome?_nil,
        hread path (by simp [Config.candidates]),
        hread (path ++ ".toml") (by simp [Config.candidates])]
    simp only [bind, Except.bind, hfiles]

theorem groundwork_eq_ok_iff {s : Situation} {tree : File.Tree} {root : String}
    {settings : Settings} {place : File.Place} :
    groundwork s = (tree, .ok (root, settings, place)) ↔ decided s = .ok (root, settings) ∧
      Log.Appender.openLog (settings.logFile root) s.date s.tree s.workingDirectory =
        (tree, .ok place) := by
  unfold groundwork
  cases decided s with
  | error halt => simp
  | ok pair =>
    obtain ⟨root', settings'⟩ := pair
    simp only [Except.ok.injEq, Prod.mk.injEq]
    constructor
    · intro h
      cases hopen : Log.Appender.openLog (settings'.logFile root') s.date s.tree
          s.workingDirectory with
      | mk opened result =>
        rw [hopen] at h
        cases result with
        | error f => simp at h
        | ok place' =>
          simp only [Except.ok.injEq, Prod.mk.injEq] at h
          obtain ⟨rfl, rfl, rfl, rfl⟩ := h
          exact ⟨⟨rfl, rfl⟩, hopen⟩
    · rintro ⟨⟨rfl, rfl⟩, hopen⟩
      simp only [hopen]

/-- Where the groundwork fails, nothing more is prepared. -/
theorem prepare_of_halt {s : Situation} {tree : File.Tree} {halt : Halt}
    (h : groundwork s = (tree, .error halt)) : prepare s = (tree, .error halt) := by
  rw [prepare, h]

theorem prepare_of_groundwork {s : Situation} {tree : File.Tree} {root : String}
    {settings : Settings} {place : File.Place} {filter : Filter}
    (h : groundwork s = (tree, .ok (root, settings, place)))
    (hfilter : Filter.ofEnvironment? s.environment settings.logLevel = some filter) :
    prepare s = (tree, .ok ⟨root, settings, filter, place⟩) := by
  rw [prepare, h]
  simp only [hfilter]

/-- What preparations have come to where none has failed. -/
theorem prepare_eq_ok_iff {s : Situation} {tree : File.Tree} {setup : Setup} :
    prepare s = (tree, .ok setup) ↔ decided s = .ok (setup.root, setup.settings) ∧
      Log.Appender.openLog (setup.settings.logFile setup.root) s.date s.tree
        s.workingDirectory = (tree, .ok setup.logPlace) ∧
      Filter.ofEnvironment? s.environment setup.settings.logLevel = some setup.filter := by
  rw [← and_assoc, ← groundwork_eq_ok_iff, prepare]
  cases groundwork s with
  | mk opened result =>
    cases result with
    | error halt => simp
    | ok ground =>
      obtain ⟨root, settings, place⟩ := ground
      simp only [Except.ok.injEq, Prod.mk.injEq]
      cases hfilter : Filter.ofEnvironment? s.environment settings.logLevel with
      | none =>
        constructor
        · intro h
          simp at h
        · rintro ⟨⟨-, -, rfl, -⟩, hsome⟩
          rw [hfilter] at hsome
          cases hsome
      | some filter =>
        simp only [Except.ok.injEq, Prod.mk.injEq]
        constructor
        · rintro ⟨rfl, rfl⟩
          exact ⟨⟨rfl, rfl, rfl, rfl⟩, hfilter⟩
        · rintro ⟨⟨rfl, rfl, rfl, rfl⟩, hsome⟩
          rw [hfilter] at hsome
          obtain rfl := Option.some.inj hsome
          exact ⟨rfl, rfl⟩

theorem prepare_of_snd {s : Situation} {setup : Setup} (h : (prepare s).2 = .ok setup) :
    prepare s = ((prepare s).1, .ok setup) := by
  rw [← h]

theorem filter_of_prepare {s : Situation} {setup : Setup} (h : (prepare s).2 = .ok setup) :
    Filter.ofEnvironment? s.environment setup.settings.logLevel = some setup.filter :=
  (prepare_eq_ok_iff.1 (prepare_of_snd h)).2.2

/-- What is decided for a command line that asks to serve. -/
theorem decided_eq {s : Situation} {o : Command.Options} (h : options s.args = .ok o) :
    decided s = match projectRoot o (pathOf s.workingDirectory) with
      | .error f => .error (.failed f)
      | .ok root =>
        match settings o root (Config.sourceFiles s.tree s.workingDirectory s.environment root)
            s.environment with
        | .error f => .error (.failed f)
        | .ok settings => .ok (root, settings) := by
  unfold decided asked
  rw [h]
  simp only [bind, Except.bind, Except.mapError]
  cases projectRoot o (pathOf s.workingDirectory) with
  | error f => simp only
  | ok root =>
    simp only [pure, Except.pure]
    cases settings o root (Config.sourceFiles s.tree s.workingDirectory s.environment root)
        s.environment with
    | error f => simp only
    | ok settings => simp only

end Program
end DocSync
