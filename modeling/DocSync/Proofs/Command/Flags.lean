import DocSync.Proofs.Command.Exclusion
import Mathlib.Data.List.Induction

/-! # Flags on either side of the command

  `--quiet` and `--verbose` may stand before the word `serve`, after it, and before
  or after the options that take a value. A line means the same wherever they stand:
  the options of the line without them, quiet if `--quiet` is among them and as
  verbose as they say, up to 255.

  - `Progress.read_flags` says what reading flags comes to, on either side.
  - `Progress.finish_given` says what reading an option comes to, in either spelling.
    A value may be taken only when more has been read; `Settles` is about the steps
    that take it then.
  - `read_command_flags_givens`, `read_flags_command_givens` and
    `read_command_givens_flags` say what is read of the three kinds of lines: in each
    case the options that they mean (`Means`).
-/

namespace DocSync.Command

/-! ### Flags and options as they are written -/

/-- The switches that may be given before and after the command. -/
inductive Global where
  | quiet
  | verbose
  deriving DecidableEq, Repr

namespace Global

def switch : Global → Switch
  | .quiet => .quiet
  | .verbose => .verbose

def name : Global → String
  | .quiet => "quiet"
  | .verbose => "verbose"

def letter : Global → Char
  | .quiet => 'q'
  | .verbose => 'v'

end Global

/-- An argument that names such switches: one by its long name, or any number of
    them, but at least one, by their letters. -/
inductive Flag where
  | long (g : Global)
  | cluster (first : Global) (others : List Global)
  deriving DecidableEq, Repr

namespace Flag

def argument : Flag → Argument
  | .long g => .ofText ("--" ++ g.name)
  | .cluster first others => .ofText (String.ofList ('-' :: (first :: others).map Global.letter))

def globals : Flag → List Global
  | .long g => [g]
  | .cluster first others => first :: others

end Flag

/-- The name of an option that takes a value. -/
def Setting.name : Setting → String
  | .logLevel => "log-level"
  | .projectRoot => "project-root"

/-- An option with its value, which stands behind an equals sign or is an argument
    of its own. -/
structure Given where
  setting : Setting
  value : Argument
  isJoined : Bool
  deriving DecidableEq, Repr

namespace Given

def arguments (g : Given) : List Argument :=
  if g.isJoined then [.ofText ("--" ++ g.setting.name ++ "=") ++ g.value]
  else [.ofText ("--" ++ g.setting.name), g.value]

/-- A value that is an argument of its own has to be a word. -/
def Proper (g : Given) : Prop := g.isJoined = false → g.value.IsWord

end Given

/-- The word that is the command. -/
def command : Argument := .ofText "serve"

/-- Options with these switches and no others. -/
def Options.pressing (o : Options) (gs : List Global) : Options :=
  { o with
    quiet := decide (.quiet ∈ gs)
    verbose := min 255 (gs.count .verbose) }

theorem Options.pressing_quiet (o : Options) (gs : List Global) :
    o.pressing (gs ++ [.quiet]) = { o.pressing gs with quiet := true } := by
  simp [pressing, List.count_append]

theorem Options.pressing_verbose (o : Options) (gs : List Global) :
    o.pressing (gs ++ [.verbose]) =
      { o.pressing gs with verbose := min 255 ((o.pressing gs).verbose + 1) } := by
  simp [pressing, List.count_append]
  omega

/-! ### Tokens -/

theorem Token.of_long (g : Global) :
    Token.of (Flag.long g).argument = .long (.ofText g.name) none := by
  cases g <;> rfl

theorem Token.of_cluster (first : Global) (others : List Global) :
    Token.of (Flag.cluster first others).argument =
      .cluster ((first :: others).map fun g => some g.letter) := by
  have hargument : (Flag.cluster first others).argument =
      some '-' :: some first.letter :: others.map fun g => some g.letter := by
    simp [Flag.argument, Argument.ofText]
  rw [hargument]
  cases first <;> rfl

theorem Token.of_name (s : Setting) :
    Token.of (.ofText ("--" ++ s.name)) = .long (.ofText s.name) none := by
  cases s <;> rfl

theorem Token.of_joined (s : Setting) (value : Argument) :
    Token.of (.ofText ("--" ++ s.name ++ "=") ++ value) = .long (.ofText s.name) (some value) := by
  cases s <;> rfl

theorem Side.long?_global (side : Side) (g : Global) :
    side.long? (.ofText g.name) = some (.switch g.switch) := by
  cases g <;> cases side <;> rfl

theorem Side.short?_global (side : Side) (g : Global) :
    side.short? (some g.letter) = some g.switch := by
  cases g <;> cases side <;> rfl

theorem Side.long?_setting (s : Setting) :
    Side.serve.long? (.ofText s.name) = some (.setting s) := by
  cases s <;> rfl

theorem Token.ne_nil_of_cluster {a names : Argument} (h : Token.of a = .cluster names) :
    names ≠ [] := by
  unfold Token.of at h
  split at h
  · cases h
  · cases h
  · rw [← Token.cluster.inj h]
    exact List.cons_ne_nil _ _
  · cases h

/-! ### Reading flags -/

namespace Progress

theorem read_of_long {side : Side} {a name : Argument} {value : Option Argument}
    (h : Token.of a = .long name value) (p : Progress) (rest : List Argument) :
    p.read side (a :: rest) = (p.named side name value >>= fun q => q.read side rest) := by
  rw [read.eq_def]
  simp only [h]

theorem read_of_cluster {side : Side} {a names : Argument} (h : Token.of a = .cluster names)
    (p : Progress) (rest : List Argument) :
    p.read side (a :: rest) = (p.pressAll side names >>= fun q => q.read side rest) := by
  rw [read.eq_def]
  simp only [h]

/-- Presses switches one after another. -/
def pressEach (side : Side) (p : Progress) (gs : List Global) : Except Stop Progress :=
  gs.foldlM (fun q g => q.press side g.switch) p

theorem pressEach_append (side : Side) (p : Progress) (gs later : List Global) :
    p.pressEach side (gs ++ later) = (p.pressEach side gs >>= fun q => q.pressEach side later) := by
  unfold pressEach
  rw [List.foldlM_append]

theorem pressAll_letters (side : Side) (p : Progress) (gs : List Global) :
    p.pressAll side (gs.map fun g => some g.letter) = p.pressEach side gs := by
  unfold pressEach
  induction gs generalizing p with
  | nil => rfl
  | cons g rest ih =>
    rw [List.map_cons, pressAll, Side.short?_global, List.foldlM_cons]
    exact bind_congr fun q => ih q

theorem read_flag (side : Side) (p : Progress) (f : Flag) (rest : List Argument) :
    p.read side (f.argument :: rest) =
      (p.pressEach side f.globals >>= fun q => q.read side rest) := by
  cases f with
  | long g =>
    have hnamed : p.named side (.ofText g.name) none = p.pressEach side [g] := by
      simp only [named, Side.long?_global, pressEach, List.foldlM_cons, List.foldlM_nil, bind_pure]
    rw [read_of_long (Token.of_long g), hnamed]
    rfl
  | cluster first others =>
    rw [read_of_cluster (Token.of_cluster first others), pressAll_letters]
    rfl

/-- Flags press their switches one after another. -/
theorem read_flags (side : Side) (p : Progress) (flags : List Flag) (rest : List Argument) :
    p.read side (flags.map Flag.argument ++ rest) =
      (p.pressEach side (flags.flatMap Flag.globals) >>= fun q => q.read side rest) := by
  induction flags generalizing p with
  | nil => rfl
  | cons f others ih =>
    rw [List.map_cons, List.cons_append, read_flag, List.flatMap_cons, pressEach_append, bind_assoc]
    exact bind_congr fun q => ih q

theorem press_pressing (side : Side) (o : Options) {gs : List Global} (g : Global)
    (h : gs.count .quiet ≤ 1) :
    press side ⟨o.pressing gs, none⟩ g.switch =
      if (gs ++ [g]).count .quiet ≤ 1 then .ok ⟨o.pressing (gs ++ [g]), none⟩
      else .error .conflict := by
  rw [List.count_append]
  cases g with
  | quiet =>
    have hone : [Global.quiet].count .quiet = 1 := rfl
    rw [Options.pressing_quiet, hone]
    -- A second `--quiet` is refused, and whether this is one can be seen from the options.
    show (if (o.pressing gs).quiet = true then _ else _) = _
    by_cases hmem : Global.quiet ∈ gs
    · have hquiet : (o.pressing gs).quiet = true := decide_eq_true hmem
      have hpos : 0 < gs.count .quiet := List.count_pos_iff.2 hmem
      rw [if_pos hquiet, if_neg (by omega)]
    · have hquiet : ¬ (o.pressing gs).quiet = true := by simpa [Options.pressing] using hmem
      have hzero : gs.count .quiet = 0 := List.count_eq_zero.2 hmem
      rw [if_neg hquiet, if_pos (by omega)]
      rfl
  | verbose =>
    have hnone : [Global.verbose].count .quiet = 0 := rfl
    rw [Options.pressing_verbose, hnone, Nat.add_zero, if_pos h]
    rfl

/-- What pressing comes to where no switch has been pressed and no option waits. -/
theorem pressEach_eq (side : Side) (o : Options) (gs : List Global) :
    pressEach side ⟨o.pressing [], none⟩ gs =
      if gs.count .quiet ≤ 1 then .ok ⟨o.pressing gs, none⟩ else .error .conflict := by
  induction gs using List.reverseRecOn with
  | nil => rfl
  | append_singleton gs g ih =>
    have hone (q : Progress) : q.pressEach side [g] = q.press side g.switch := by
      unfold pressEach
      rw [List.foldlM_cons]
      exact bind_pure _
    rw [pressEach_append, ih, bind_congr hone]
    by_cases h : gs.count .quiet ≤ 1
    · rw [if_pos h]
      exact press_pressing side o g h
    · have hmore : ¬ (gs ++ [g]).count .quiet ≤ 1 := by
        rw [List.count_append]
        omega
      rw [if_neg h, if_neg hmore]
      rfl

/-! ### Taking what waits -/

/-- A step that refuses whatever has been read before, or that first of all takes the
    option that waits. -/
def Settles {α : Type} (step : Progress → Except Stop α) : Prop :=
  (∃ stop, ∀ p, step p = .error stop) ∨ ∃ f, ∀ p : Progress, step p = (p.settle >>= f)

theorem Settles.bind {α β : Type} {step : Progress → Except Stop α} (h : Settles step)
    (next : α → Except Stop β) : Settles fun p => step p >>= next := by
  rcases h with ⟨stop, hstop⟩ | ⟨f, hf⟩
  · exact .inl ⟨stop, fun p => congrArg (· >>= next) (hstop p)⟩
  · refine .inr ⟨fun o => f o >>= next, fun p => ?_⟩
    show (step p >>= next) = _
    rw [hf, bind_assoc]

/-- Such a step does the same where the option has been taken before. -/
theorem Settles.eq_ok_iff {α : Type} {step : Progress → Except Stop α} (h : Settles step)
    {p : Progress} {result : α} :
    step p = .ok result ↔ ∃ o, p.settle = .ok o ∧ step ⟨o, none⟩ = .ok result := by
  rcases h with ⟨stop, hstop⟩ | ⟨f, hf⟩
  · simp [hstop]
  · rw [hf, bind_eq_ok_iff]
    have htaken (o : Options) : step ⟨o, none⟩ = f o := hf _
    simp only [htaken]

theorem settles_press (side : Side) (s : Switch) : Settles fun p => p.press side s :=
  .inr ⟨_, fun _ => rfl⟩

theorem settles_named (side : Side) (name : Argument) (value : Option Argument) :
    Settles fun p => p.named side name value := by
  unfold named
  cases side.long? name with
  | none => exact .inl ⟨_, fun _ => rfl⟩
  | some meaning =>
    cases meaning with
    | switch s =>
      cases value with
      | none => exact settles_press side s
      | some value => exact .inl ⟨_, fun _ => rfl⟩
    | setting s =>
      cases value with
      | none => exact .inr ⟨_, fun _ => rfl⟩
      | some value => exact .inr ⟨_, fun _ => rfl⟩

theorem settles_pressAll (side : Side) {names : Argument} (h : names ≠ []) :
    Settles fun p => p.pressAll side names := by
  cases names with
  | nil => exact absurd rfl h
  | cons c rest =>
    unfold pressAll
    cases side.short? c with
    | none => exact .inl ⟨_, fun _ => rfl⟩
    | some s => exact (settles_press side s).bind _

/-- Reads the rest of the side after the command, and takes what waits at its end. -/
def finish (p : Progress) (args : List Argument) : Except Stop Options :=
  p.read .serve args >>= fun r => r.1.settle

/-- Only a word is taken for the value of an option that waits for one. -/
theorem settles_finish_cons {a : Argument} (h : ¬ a.IsWord) (rest : List Argument) :
    Settles fun p => p.finish (a :: rest) := by
  unfold finish
  cases ha : Token.of a with
  | separator =>
    cases rest with
    | nil =>
      refine .inr ⟨.ok, fun p => ?_⟩
      simp only [read.eq_def, ha]
      exact (bind_pure _).symm
    | cons next others =>
      refine .inl ⟨afterSeparator .serve next, fun p => ?_⟩
      simp only [read.eq_def, ha]
      rfl
  | long name value =>
    simp only [read_of_long ha]
    exact ((settles_named _ _ _).bind _).bind _
  | cluster names =>
    simp only [read_of_cluster ha]
    exact ((settles_pressAll _ (Token.ne_nil_of_cluster ha)).bind _).bind _
  | word word => exact absurd ⟨word, ha⟩ h

/-- A word is the value of an option that waits for one. -/
theorem finish_word_waiting {a : Argument} (h : a.IsWord) (o : Options) (s : Setting)
    (rest : List Argument) :
    finish ⟨o, some (s, none)⟩ (a :: rest) = finish ⟨o, some (s, some a)⟩ rest := by
  obtain ⟨word, hword⟩ := h
  rw [finish, read.eq_def]
  simp only [hword, Token.eq_of_word hword]
  rfl

/-- Where no option waits for its value, a word is refused. -/
theorem finish_word_stray {a : Argument} (h : a.IsWord) {p : Progress}
    (hp : ∀ s, p.pending ≠ some (s, none)) (rest : List Argument) :
    p.finish (a :: rest) = .error .unknownArgument := by
  obtain ⟨word, hword⟩ := h
  rw [finish, read.eq_def]
  simp only [hword]
  rfl

/-- An option whose value has been read is taken sooner or later. -/
theorem finish_pending_eq_ok_iff {o o' : Options} {s : Setting} {value : Argument}
    {args : List Argument} :
    finish ⟨o, some (s, some value)⟩ args = .ok o' ↔
      ∃ taken, take o s value = .ok taken ∧ finish ⟨taken, none⟩ args = .ok o' := by
  -- A word is refused here, and after any other argument the option is taken first.
  cases args with
  | nil =>
    have hsettles : Settles fun p => p.finish [] := .inr ⟨.ok, fun p => (bind_pure _).symm⟩
    exact hsettles.eq_ok_iff
  | cons a rest =>
    by_cases ha : a.IsWord
    · simp [finish_word_stray ha]
    · exact (settles_finish_cons ha rest).eq_ok_iff

/-! ### Reading options -/

theorem finish_joined (o : Options) (s : Setting) (value : Argument) (rest : List Argument) :
    finish ⟨o, none⟩ ((.ofText ("--" ++ s.name ++ "=") ++ value) :: rest) =
      (take o s value >>= fun taken => finish ⟨taken, none⟩ rest) := by
  have hnamed : named .serve ⟨o, none⟩ (.ofText s.name) (some value) =
      (take o s value >>= fun taken => .ok ⟨taken, none⟩) := by
    simp only [named, Side.long?_setting]
    rfl
  rw [finish, read_of_long (Token.of_joined s value), hnamed, bind_assoc, bind_assoc]
  rfl

theorem finish_name (o : Options) (s : Setting) (rest : List Argument) :
    finish ⟨o, none⟩ (.ofText ("--" ++ s.name) :: rest) = finish ⟨o, some (s, none)⟩ rest := by
  have hnamed : named .serve ⟨o, none⟩ (.ofText s.name) none = .ok ⟨o, some (s, none)⟩ := by
    simp only [named, Side.long?_setting]
    rfl
  rw [finish, read_of_long (Token.of_name s), hnamed]
  rfl

/-- An option is taken with its value, in either spelling. -/
theorem finish_given {o o' : Options} (g : Given) (rest : List Argument) :
    finish ⟨o, none⟩ (g.arguments ++ rest) = .ok o' ↔
      g.Proper ∧ ∃ taken, take o g.setting g.value = .ok taken ∧
        finish ⟨taken, none⟩ rest = .ok o' := by
  obtain ⟨s, value, isJoined⟩ := g
  cases isJoined with
  | true =>
    have hproper : Given.Proper ⟨s, value, true⟩ := nofun
    show finish _ (_ :: rest) = _ ↔ _
    rw [finish_joined, bind_eq_ok_iff, and_iff_right hproper]
  | false =>
    show finish _ (_ :: value :: rest) = _ ↔ _
    rw [finish_name]
    by_cases hword : value.IsWord
    · -- The value waits until the next argument has been read.
      have hproper : Given.Proper ⟨s, value, false⟩ := fun _ => hword
      rw [finish_word_waiting hword, finish_pending_eq_ok_iff, and_iff_right hproper]
    · -- The option is taken before its value is there.
      have hproper : ¬ Given.Proper ⟨s, value, false⟩ := fun h => hword (h rfl)
      rw [(settles_finish_cons hword rest).eq_ok_iff]
      simp [hproper, settle]

/-- Takes options one after another. Where a value is an argument of its own it has
    to be a word. -/
inductive Takes : Options → List Given → Options → Prop where
  | nil {o : Options} : Takes o [] o
  | cons {o taken o' : Options} {g : Given} {rest : List Given} : g.Proper →
      take o g.setting g.value = .ok taken → Takes taken rest o' → Takes o (g :: rest) o'

/-- Options are taken one after another, whatever follows them. -/
theorem finish_givens {o o' : Options} (given : List Given) (rest : List Argument) :
    finish ⟨o, none⟩ (given.flatMap Given.arguments ++ rest) = .ok o' ↔
      ∃ taken, Takes o given taken ∧ finish ⟨taken, none⟩ rest = .ok o' := by
  induction given generalizing o with
  | nil =>
    constructor
    · intro h
      exact ⟨o, .nil, h⟩
    · rintro ⟨taken, htakes, h⟩
      cases htakes
      exact h
  | cons g others ih =>
    rw [List.flatMap_cons, List.append_assoc, finish_given]
    simp only [ih]
    constructor
    · rintro ⟨hproper, first, hfirst, taken, htakes, h⟩
      exact ⟨taken, .cons hproper hfirst htakes, h⟩
    · rintro ⟨taken, htakes, h⟩
      cases htakes with
      | cons hproper hfirst htakes => exact ⟨hproper, _, hfirst, taken, htakes, h⟩

/-! ### Options and switches -/

theorem take_pressing {o taken : Options} {s : Setting} {value : Argument}
    (h : take o s value = .ok taken) (gs : List Global) :
    take (o.pressing gs) s value = .ok (taken.pressing gs) := by
  cases s
  all_goals
    simp only [take] at h ⊢
    split at h
    · cases h
    · next hfirst =>
      rw [if_neg (by exact hfirst)]
      split at h
      · obtain rfl := Except.ok.inj h
        rfl
      · cases h

/-- Options are taken whatever switches have been pressed. -/
theorem Takes.pressing {o taken : Options} {given : List Given} (h : Takes o given taken)
    (gs : List Global) : Takes (o.pressing gs) given (taken.pressing gs) := by
  induction h with
  | nil => exact .nil
  | cons hproper hfirst _ ih => exact .cons hproper (take_pressing hfirst gs) ih

theorem Takes.switches {o taken : Options} {given : List Given} (h : Takes o given taken) :
    taken.quiet = o.quiet ∧ taken.verbose = o.verbose := by
  induction h with
  | nil => exact ⟨rfl, rfl⟩
  | cons _ hfirst _ ih =>
    obtain ⟨hquiet, hverbose⟩ := take_switches hfirst
    exact ⟨ih.1.trans hquiet, ih.2.trans hverbose⟩

/-- Nothing is pressed by options. -/
theorem Takes.eq_pressing {taken : Options} {given : List Given}
    (h : Takes start.given given taken) : taken.pressing [] = taken := by
  obtain ⟨hquiet, hverbose⟩ := h.switches
  obtain ⟨quiet, verbose, logLevel, projectRoot⟩ := taken
  obtain rfl : quiet = false := hquiet
  obtain rfl : verbose = 0 := hverbose
  rfl

theorem finish_flags (o : Options) (flags : List Flag) (rest : List Argument) :
    finish ⟨o.pressing [], none⟩ (flags.map Flag.argument ++ rest) =
      if (flags.flatMap Flag.globals).count .quiet ≤ 1 then
        finish ⟨o.pressing (flags.flatMap Flag.globals), none⟩ rest
      else .error .conflict := by
  rw [finish, read_flags, pressEach_eq]
  split
  · rfl
  · rfl

theorem finish_givens_eq_ok_iff {o o' : Options} (given : List Given) :
    finish ⟨o, none⟩ (given.flatMap Given.arguments) = .ok o' ↔ Takes o given o' := by
  rw [← List.append_nil (given.flatMap Given.arguments), finish_givens]
  constructor
  · rintro ⟨taken, htakes, htaken⟩
    rwa [← Except.ok.inj htaken]
  · intro h
    exact ⟨o', h, rfl⟩

theorem start_eq : start = ⟨start.given.pressing [], none⟩ := rfl

/-- What a side of flags and options yields: what its options come to, with the
    switches of its flags, of which `--quiet` may be there once. -/
def Yields (gs : List Global) (given : List Given) (o : Options) : Prop :=
  gs.count .quiet ≤ 1 ∧ ∃ p, Takes start.given given p ∧ o = p.pressing gs

theorem finish_flags_givens {o : Options} (flags : List Flag) (given : List Given) :
    start.finish (flags.map Flag.argument ++ given.flatMap Given.arguments) = .ok o ↔
      Yields (flags.flatMap Flag.globals) given o := by
  rw [start_eq, finish_flags, Yields]
  by_cases hcount : (flags.flatMap Flag.globals).count .quiet ≤ 1
  · rw [if_pos hcount, finish_givens_eq_ok_iff, and_iff_right hcount]
    constructor
    · intro h
      -- The options are the same without the switches.
      obtain ⟨hquiet, hverbose⟩ := h.switches
      refine ⟨o.pressing [], h.pressing [], ?_⟩
      obtain ⟨quiet, verbose, logLevel, projectRoot⟩ := o
      obtain rfl : quiet = _ := hquiet
      obtain rfl : verbose = _ := hverbose
      rfl
    · rintro ⟨p, htakes, rfl⟩
      exact htakes.pressing _
  · simp [hcount]

theorem finish_givens_flags {o : Options} (flags : List Flag) (given : List Given) :
    start.finish (given.flatMap Given.arguments ++ flags.map Flag.argument) = .ok o ↔
      Yields (flags.flatMap Flag.globals) given o := by
  have hflags {p : Options} (h : Takes start.given given p) :
      finish ⟨p, none⟩ (flags.map Flag.argument) = .ok o ↔
        (flags.flatMap Flag.globals).count .quiet ≤ 1 ∧
          o = p.pressing (flags.flatMap Flag.globals) := by
    have hfinish := finish_flags p flags []
    rw [List.append_nil, h.eq_pressing] at hfinish
    rw [hfinish]
    by_cases hcount : (flags.flatMap Flag.globals).count .quiet ≤ 1
    · rw [if_pos hcount, and_iff_right hcount]
      show Except.ok _ = Except.ok o ↔ _
      rw [Except.ok.injEq, eq_comm]
    · simp [hcount]
  rw [Yields]
  refine (finish_givens given (flags.map Flag.argument)).trans ?_
  constructor
  · rintro ⟨p, htakes, h⟩
    obtain ⟨hcount, ho⟩ := (hflags htakes).1 h
    exact ⟨hcount, p, htakes, ho⟩
  · rintro ⟨hcount, p, htakes, ho⟩
    exact ⟨p, htakes, (hflags htakes).2 ⟨hcount, ho⟩⟩

/-- Before the command, flags are all there is. -/
theorem read_flags_command (flags : List Flag) (rest : List Argument) :
    start.read .program (flags.map Flag.argument ++ command :: rest) =
      if (flags.flatMap Flag.globals).count .quiet ≤ 1 then
        .ok (⟨start.given.pressing (flags.flatMap Flag.globals), none⟩, some rest)
      else .error .conflict := by
  rw [read_flags, start_eq, pressEach_eq]
  split
  · rfl
  · rfl

end Progress

/-! ### Reading a line -/

theorem exclusive_eq_ok_iff {o : Options} :
    exclusive o = .ok () ↔ ¬ (o.quiet = true ∧ 0 < o.verbose) := by
  unfold exclusive
  split
  · next h => simp [h]
  · next h => simp [h]

/-- A line is accepted if both of its sides are. -/
theorem read_eq_ok_iff {line args : List Argument} {outer : Progress} {o : Options}
    (h : Progress.start.read .program line = .ok (outer, some args)) :
    read line = .ok o ↔ ∃ inner, Progress.start.finish args = .ok inner ∧
      ¬ (inner.quiet = true ∧ 0 < inner.verbose) ∧
      ¬ (outer.given.quiet = true ∧ 0 < outer.given.verbose) ∧ o = combine outer.given inner := by
  have hread : read line = (Progress.start.finish args >>= fun inner => exclusive inner >>= fun _ =>
      exclusive outer.given >>= fun _ => .ok (combine outer.given inner)) := by
    rw [read, h, Progress.finish, bind_assoc]
    rfl
  rw [hread, bind_eq_ok_iff]
  simp only [bind_eq_ok_iff, ← exclusive_eq_ok_iff, Except.ok.injEq]
  constructor
  · rintro ⟨inner, hinner, ⟨⟩, hboth, ⟨⟩, hboth', rfl⟩
    exact ⟨inner, hinner, hboth, hboth', rfl⟩
  · rintro ⟨inner, hinner, hboth, hboth', rfl⟩
    exact ⟨inner, hinner, (), hboth, (), hboth', rfl⟩

theorem combine_start (o : Options) : combine Progress.start.given o = o := by
  obtain ⟨quiet, verbose, logLevel, projectRoot⟩ := o
  cases quiet <;> cases verbose <;> rfl

theorem read_command_eq_ok_iff {args : List Argument} {o : Options} :
    read (command :: args) = .ok o ↔
      Progress.start.finish args = .ok o ∧ ¬ (o.quiet = true ∧ 0 < o.verbose) := by
  have hprogram : Progress.start.read .program (command :: args) =
      .ok (Progress.start, some args) := rfl
  have hstart : ¬ (Progress.start.given.quiet = true ∧ 0 < Progress.start.given.verbose) := by
    decide
  rw [read_eq_ok_iff hprogram]
  simp only [hstart, not_false_eq_true, true_and, combine_start]
  constructor
  · rintro ⟨inner, hinner, hboth, rfl⟩
    exact ⟨hinner, hboth⟩
  · rintro ⟨ho, hboth⟩
    exact ⟨o, ho, hboth, rfl⟩

theorem both_pressing_iff (o : Options) (gs : List Global) :
    (o.pressing gs).quiet = true ∧ 0 < (o.pressing gs).verbose ↔ .quiet ∈ gs ∧ .verbose ∈ gs := by
  have hverbose : 0 < (o.pressing gs).verbose ↔ .verbose ∈ gs := by
    rw [← List.count_pos_iff]
    show 0 < min 255 _ ↔ _
    omega
  rw [hverbose, Options.pressing, decide_eq_true_eq]

/-- Switches that one side admits: `--quiet` once at most, and not beside `--verbose`. -/
def Compatible (gs : List Global) : Prop :=
  gs.count .quiet ≤ 1 ∧ ¬ (.quiet ∈ gs ∧ .verbose ∈ gs)

/-- Verbose options ask for the level `debug` if they ask for no level by name. -/
theorem effectiveLevel_pressing {o : Options} {gs : List Global} (h : Compatible gs)
    (hverbose : .verbose ∈ gs) (hlevel : o.logLevel = none) (configured : Log.Level) :
    (o.pressing gs).effectiveLevel configured = .debug := by
  have hquiet : (o.pressing gs).quiet = false :=
    decide_eq_false fun hquiet => h.2 ⟨hquiet, hverbose⟩
  have hcount : 0 < (o.pressing gs).verbose := by
    have hpos : 0 < gs.count .verbose := List.count_pos_iff.2 hverbose
    show 0 < min 255 _
    omega
  have hnone : (o.pressing gs).logLevel = none := hlevel
  simp [Options.effectiveLevel, hnone, hquiet, hcount]

/-- Options are what flags and options on a line mean: those that the options come to,
    with the switches of the flags, which have to be compatible. -/
def Means (flags : List Flag) (given : List Given) (o : Options) : Prop :=
  Compatible (flags.flatMap Flag.globals) ∧
    ∃ p, Progress.Takes Progress.start.given given p ∧ o = p.pressing (flags.flatMap Flag.globals)

theorem means_iff_yields {flags : List Flag} {given : List Given} {o : Options} :
    Means flags given o ↔ Progress.Yields (flags.flatMap Flag.globals) given o ∧
      ¬ (o.quiet = true ∧ 0 < o.verbose) := by
  constructor
  · rintro ⟨⟨hcount, hboth⟩, p, htakes, rfl⟩
    exact ⟨⟨hcount, p, htakes, rfl⟩, mt (both_pressing_iff p _).1 hboth⟩
  · rintro ⟨⟨hcount, p, htakes, rfl⟩, hboth⟩
    exact ⟨⟨hcount, mt (both_pressing_iff p _).2 hboth⟩, p, htakes, rfl⟩

section lines
variable (flags : List Flag) (given : List Given) {o : Options}

theorem read_command_flags_givens :
    read (command :: (flags.map Flag.argument ++ given.flatMap Given.arguments)) = .ok o ↔
      Means flags given o := by
  rw [read_command_eq_ok_iff, Progress.finish_flags_givens, means_iff_yields]

theorem read_command_givens_flags :
    read (command :: (given.flatMap Given.arguments ++ flags.map Flag.argument)) = .ok o ↔
      Means flags given o := by
  rw [read_command_eq_ok_iff, Progress.finish_givens_flags, means_iff_yields]

theorem read_command_givens :
    read (command :: given.flatMap Given.arguments) = .ok o ↔
      Progress.Takes Progress.start.given given o := by
  rw [read_command_eq_ok_iff, Progress.start_eq, Progress.finish_givens_eq_ok_iff]
  refine and_iff_left_of_imp fun htakes => ?_
  rintro ⟨hquiet, -⟩
  rw [htakes.switches.1] at hquiet
  cases hquiet

theorem read_flags_command_givens :
    read (flags.map Flag.argument ++ command :: given.flatMap Given.arguments) = .ok o ↔
      Means flags given o := by
  have hprogram := Progress.read_flags_command flags (given.flatMap Given.arguments)
  by_cases hcount : (flags.flatMap Flag.globals).count .quiet ≤ 1
  · rw [if_pos hcount] at hprogram
    rw [read_eq_ok_iff hprogram, both_pressing_iff, Means, Compatible, and_iff_right hcount]
    constructor
    · rintro ⟨p, hfinish, -, hboth, rfl⟩
      -- Nothing is pressed after the command, so all switches are those before it.
      have htakes := (Progress.finish_givens_eq_ok_iff given).1 hfinish
      refine ⟨hboth, p, htakes, ?_⟩
      rw [← htakes.eq_pressing]
      rfl
    · rintro ⟨hboth, p, htakes, rfl⟩
      have hp := (read_command_givens given).2 htakes
      obtain ⟨hfinish, hboth'⟩ := read_command_eq_ok_iff.1 hp
      refine ⟨p, hfinish, hboth', hboth, ?_⟩
      rw [← htakes.eq_pressing]
      rfl
  · rw [if_neg hcount] at hprogram
    constructor
    · intro h
      rw [read, hprogram] at h
      cases h
    · rintro ⟨⟨hcount', -⟩, -⟩
      exact absurd hcount' hcount

end lines

/-- Flags mean the same before the command, after it and after its options: a line
    with flags is accepted if the line without them is and they are compatible, and
    then it means the same but for its switches. It is quiet if `--quiet` is among
    the flags, and as verbose as they say it is, up to 255. So however often
    `--verbose` is given, the level is `debug` unless the line asks for another. -/
theorem flags_on_either_side (flags : List Flag) (given : List Given) :
    let a := flags.map Flag.argument
    let b := given.flatMap Given.arguments
    let gs := flags.flatMap Flag.globals
    (∀ o, read (command :: (a ++ b)) = .ok o ↔
      Compatible gs ∧ ∃ p, read (command :: b) = .ok p ∧
        o = { p with quiet := decide (.quiet ∈ gs), verbose := min 255 (gs.count .verbose) }) ∧
    (∀ o, read (a ++ command :: b) = .ok o ↔ read (command :: (a ++ b)) = .ok o) ∧
    (∀ o, read (command :: (b ++ a)) = .ok o ↔ read (command :: (a ++ b)) = .ok o) ∧
    ∀ o, read (command :: (a ++ b)) = .ok o → o.verbose = min 255 (gs.count .verbose) ∧
      (0 < gs.count .verbose → o.logLevel = none →
        ∀ configured, o.effectiveLevel configured = .debug) := by
  intro a b gs
  have hmeans (o : Options) : read (command :: (a ++ b)) = .ok o ↔ Means flags given o :=
    read_command_flags_givens flags given
  refine ⟨?_, ?_, ?_, ?_⟩
  · intro o
    simp only [hmeans, b, read_command_givens]
    rfl
  · intro o
    rw [hmeans]
    exact read_flags_command_givens flags given
  · intro o
    rw [hmeans]
    exact read_command_givens_flags flags given
  · intro o ho
    obtain ⟨hcompatible, p, -, rfl⟩ := (hmeans o).1 ho
    refine ⟨rfl, ?_⟩
    intro hcount hlevel configured
    exact effectiveLevel_pressing hcompatible (List.count_pos_iff.1 hcount) hlevel configured

/-- A count that does not go on past its limit, with an option in between. -/
theorem flags_on_either_side_limit :
    let flags :=
      Flag.long .verbose :: List.replicate 85 (Flag.cluster .verbose [.verbose, .verbose])
    let a := flags.map Flag.argument
    let b := ["--project-root", "/p"].map Argument.ofText
    let o : Options := ⟨false, 255, none, some "/p"⟩
    (flags.flatMap Flag.globals).count .verbose = 256 ∧
      read (command :: (a ++ b)) = .ok o ∧ read (a ++ command :: b) = .ok o ∧
      read (command :: (b ++ a)) = .ok o ∧ o.effectiveLevel .error = .debug := by
  intro flags a b o
  have hcount : (flags.flatMap Flag.globals).count .verbose = 256 := by decide +kernel
  have hcompatible : Compatible (flags.flatMap Flag.globals) := by
    unfold Compatible
    decide +kernel
  obtain ⟨hread, hbefore, hafter, hlevel⟩ :=
    flags_on_either_side flags [⟨.projectRoot, .ofText "/p", false⟩]
  have ho : read (command :: (a ++ b)) = .ok o :=
    (hread o).2 ⟨hcompatible, ⟨false, 0, none, some "/p"⟩, rfl, by decide +kernel⟩
  exact ⟨hcount, ho, (hbefore o).2 ho, (hafter o).2 ho,
    (hlevel o ho).2 (by rw [hcount]; decide) rfl .error⟩

end DocSync.Command
