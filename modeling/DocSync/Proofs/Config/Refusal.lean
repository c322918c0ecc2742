import DocSync.Proofs.Config.Precedence
import DocSync.Proofs.Text.LowerCase
import Mathlib.Data.List.Induction

/-! # When settings cannot be loaded

  Three things keep settings from being loaded: a file that is no document, a
  variable whose value is no text, and a list or table where the text of a key
  belongs. `load_eq` says what comes of loading in each case, and which fault is
  reported where there are several.

  A file or a variable counts even if nothing that it gives would matter in the
  end. What is at a key, on the other hand, is up to the last of all sources to
  say something about the key (`kind?_member_lay`): it is replaced by a text, and
  made a list or a table by a name that leads into it.

  - `configured?_isSome_iff` says which variables count.
  - `load_fails_iff` puts the reasons together.
-/

namespace DocSync

/-! ### Variables that configure -/

/-- A variable counts if its name is a text that starts with `GLS_`, whatever the
    case of the letters. -/
theorem Environment.configured?_isSome_iff (name : List UInt8) :
    (configured? name).isSome ↔ ∃ text, Text.Utf8.decode? name = some text ∧
      (text.toList.take 4).map Char.toLower = ['g', 'l', 's', '_'] := by
  unfold configured?
  cases hname : Text.Utf8.decode? name with
  | none => simp
  | some text =>
    have hprefix : (namePrefix.toList.isPrefixOf (Text.lower text).toList) = true ↔
        (text.toList.take 4).map Char.toLower = ['g', 'l', 's', '_'] := by
      have hplain : ∀ d ∈ ['g', 'l', 's', '_'], Text.isPlainLower d :=
        List.all_eq_true.1 (by decide)
      rw [List.isPrefixOf_iff_prefix, Text.lower, String.toList_ofList]
      exact Text.isPrefix_lowerFrom_iff hplain [] text.toList
    simp only [Option.bind_eq_bind, Option.bind_some, Option.some.injEq, exists_eq_left', ← hprefix]
    split <;> simp_all

namespace Config

/-! ### What is at a key -/

namespace Value

/-- What a value is instead of a text. -/
def kind? : Value → Option Kind
  | .list _ _ => some .list
  | .table _ => some .table
  | _ => none

theorem kind?_merge (old new : Value) : (merge old new).kind? = new.kind? := by
  cases new with
  | absent => rw [merge.eq_def]
  | scalar text origin => rw [merge.eq_def]
  | list items origin => rw [merge.eq_def]
  | table later => rw [merge]; rfl

end Value

/-- What a value that is given under a name makes of the key that the name
    concerns. A name with further steps makes it something with parts. -/
def kindGiven (name : String) (v : Value) : Option Kind :=
  match (Path.ofName name).steps with
  | [] => v.kind?
  | .member _ :: _ => some .table
  | .index _ :: _ => some .list

/-- The last of some members to say something about a key. -/
def lastAbout? (key : String) (source : Members) : Option (String × Value) :=
  source.reverse.find? fun m => (Path.ofName m.1).root = key

theorem kind?_modify_steps (name : String) (v old : Value) :
    (Value.modify (Value.merge · v) (Path.ofName name).steps old).kind? = kindGiven name v := by
  unfold kindGiven
  cases (Path.ofName name).steps with
  | nil => exact Value.kind?_merge old v
  | cons step rest =>
    cases step with
    | member part => rw [Value.modify]; rfl
    | index i => rw [Value.modify]; rfl

/-- Whatever was at a key before, the last to say something about it decides
    whether a list or a table is there. -/
theorem kind?_member_lay (all source : Members) (key : String) :
    (Value.member (lay all source) key).kind? =
      match lastAbout? key source with
      | some (name, v) => kindGiven name v
      | none => (Value.member all key).kind? := by
  induction source using List.reverseRecOn with
  | nil => rfl
  | append_singleton source m ih =>
    obtain ⟨name, v⟩ := m
    have hlay : lay all (source ++ [(name, v)]) =
        Value.set (lay all source) (Path.ofName name) v := List.foldl_concat _ _ _ _
    have hlast : lastAbout? key (source ++ [(name, v)]) =
        if (Path.ofName name).root = key then some (name, v) else lastAbout? key source := by
      unfold lastAbout?
      rw [List.reverse_append, List.reverse_singleton, List.singleton_append, List.find?_cons]
      by_cases hroot : (Path.ofName name).root = key
      · simp [hroot]
      · simp [hroot]
    rw [hlay, hlast]
    by_cases hroot : (Path.ofName name).root = key
    · rw [if_pos hroot, ← hroot, Value.set, Value.member, Value.lookup_put, if_pos rfl]
      exact kind?_modify_steps name v _
    · rw [if_neg hroot, Value.member_set_of_ne hroot]
      exact ih

/-! ### What is merged -/

/-- What a file gives. One that is no document gives nothing. -/
def SourceFile.given (f : SourceFile) : Members := Value.ofMembers f.path (f.table?.getD [])

/-- What the environment gives, a later variable replacing an earlier one. -/
def environmentGiven (env : Environment) : Members :=
  (env.settings.map fun m => (m.1, valueOf m.2)).foldl (fun all m => Value.put all m.1 m.2) []

/-- All that is given, in the order in which it is merged. -/
def given (files : List SourceFile) (env : Environment) : Members :=
  files.flatMap SourceFile.given ++ environmentGiven env

def merged (files : List SourceFile) (env : Environment) : Members := lay [] (given files env)

theorem lay_append (all source later : Members) :
    lay all (source ++ later) = lay (lay all source) later :=
  List.foldl_append

/-! ### What comes of loading -/

theorem SourceFile.members_eq (f : SourceFile) :
    f.members = if f.table?.isNone then .error (.notDocument f.path) else .ok f.given := by
  unfold members given
  cases htable : f.table? with
  | none =>
    rw [show Toml.read? _ = none from htable]
    rfl
  | some table =>
    rw [show Toml.read? _ = some table from htable]
    rfl

/-- Files are laid over one another up to the first that is no document. -/
theorem foldlM_lay_eq (files : List SourceFile) (all : Members) :
    files.foldlM (fun all f => return lay all (← f.members)) all =
      match files.find? (·.table?.isNone) with
      | some f => Except.error (.notDocument f.path)
      | none => .ok (lay all (files.flatMap SourceFile.given)) := by
  induction files generalizing all with
  | nil => rfl
  | cons f rest ih =>
    rw [List.foldlM_cons, f.members_eq, List.find?_cons]
    cases f.table?.isNone with
    | true => rfl
    | false =>
      rw [List.flatMap_cons, lay_append]
      exact ih (lay all f.given)

/-- Reading one element after another stops at the first that cannot be read. -/
theorem mapM_eq_of_find? {α β ε : Type} {read : α → Except ε β} (bad : α → Bool) (fault : α → ε)
    (value : α → β) (hread : ∀ a, read a = if bad a then .error (fault a) else .ok (value a))
    (l : List α) :
    l.mapM read =
      match l.find? bad with
      | some a => .error (fault a)
      | none => .ok (l.map value) := by
  induction l with
  | nil => rfl
  | cons a rest ih =>
    rw [List.mapM_cons, hread, List.find?_cons, ih]
    cases bad a with
    | true => rfl
    | false => cases rest.find? bad <;> rfl

theorem environmentMembers_eq (env : Environment) :
    environmentMembers env =
      match env.settings.find? fun m => (Text.Utf8.decode? m.2).isNone with
      | some m => .error (.notEncoded m.1 m.2)
      | none => .ok (environmentGiven env) := by
  unfold environmentMembers
  rw [mapM_eq_of_find? (fun m => (Text.Utf8.decode? m.2).isNone)
    (fun m => .notEncoded m.1 m.2) (fun m => (m.1, valueOf m.2))]
  · cases env.settings.find? _ <;> rfl
  · intro m
    unfold valueOf
    cases hvalue : Text.Utf8.decode? m.2 with
    | none => simp [hvalue]
    | some text => simp [hvalue]

/-- The first file that is no document is reported, or else the first variable
    that is no text. Without either it is up to what comes of merging. -/
theorem load_eq (files : List SourceFile) (env : Environment) :
    load files env =
      match files.find? (·.table?.isNone) with
      | some f => .error (.notDocument f.path)
      | none =>
        match env.settings.find? fun m => (Text.Utf8.decode? m.2).isNone with
        | some m => .error (.notEncoded m.1 m.2)
        | none => settings (merged files env) := by
  unfold load gather
  rw [foldlM_lay_eq, environmentMembers_eq]
  cases files.find? (·.table?.isNone) with
  | some f => rfl
  | none =>
    cases env.settings.find? fun m => (Text.Utf8.decode? m.2).isNone with
    | some m => rfl
    | none =>
      rw [merged, given, lay_append]
      rfl

/-! ### Settings out of what is merged -/

/-- The file of a list, as far as it comes from a single one. -/
def Value.origin? : Value → Option String
  | .list _ origin => origin
  | _ => none

theorem text?_eq_error_iff (all : Members) (key : String) (e : Error) :
    text? all key = .error e ↔ ∃ kind, (Value.member all key).kind? = some kind ∧
      e = .notText kind key (Value.member all key).origin? := by
  unfold text?
  cases Value.member all key <;> simp [Value.kind?, Value.origin?, eq_comm]

theorem exists_error_text?_iff (all : Members) (key : String) :
    (∃ e, text? all key = .error e) ↔ (Value.member all key).kind?.isSome := by
  rw [Option.isSome_iff_exists]
  constructor
  · rintro ⟨e, he⟩
    obtain ⟨kind, hkind, -⟩ := (text?_eq_error_iff all key e).1 he
    exact ⟨kind, hkind⟩
  · rintro ⟨kind, hkind⟩
    exact ⟨_, (text?_eq_error_iff all key _).2 ⟨kind, hkind, rfl⟩⟩

/-- The level is read first. -/
theorem settings_eq_error_iff (all : Members) (e : Error) :
    settings all = .error e ↔ text? all levelKey = .error e ∨
      ((∃ level, text? all levelKey = .ok level) ∧ text? all directoryKey = .error e) := by
  unfold settings
  cases text? all levelKey with
  | error e' => simp [bind, Except.bind]
  | ok level =>
    cases text? all directoryKey with
    | error e' => simp [bind, Except.bind]
    | ok directory => simp [bind, Except.bind, pure, Except.pure]

theorem exists_error_settings_iff (all : Members) :
    (∃ e, settings all = .error e) ↔ ∃ key ∈ keys, (Value.member all key).kind?.isSome := by
  simp only [settings_eq_error_iff, keys, List.mem_cons, List.not_mem_nil, or_false,
    exists_eq_or_imp, exists_eq_left, ← exists_error_text?_iff, exists_or]
  constructor
  · rintro (hlevel | ⟨e, -, hdirectory⟩)
    · exact Or.inl hlevel
    · exact Or.inr ⟨e, hdirectory⟩
  · rintro (hlevel | ⟨e, hdirectory⟩)
    · exact Or.inl hlevel
    · cases hlevel : text? all levelKey with
      | error e' => exact Or.inl ⟨e', rfl⟩
      | ok level => exact Or.inr ⟨e, ⟨level, rfl⟩, hdirectory⟩

/-! ### Reasons -/

/-- What an error says is so of the sources. -/
def Error.Holds (files : List SourceFile) (env : Environment) : Error → Prop
  | .notDocument path => ∃ f ∈ files, f.path = path ∧ f.table? = none
  | .notEncoded key value => (key, value) ∈ env.settings ∧ Text.Utf8.decode? value = none
  | .notText kind key origin =>
    key ∈ keys ∧ (Value.member (merged files env) key).kind? = some kind ∧
      (Value.member (merged files env) key).origin? = origin

/-- An error that is reported says what is so. -/
theorem holds_of_load {files : List SourceFile} {env : Environment} {e : Error}
    (h : load files env = .error e) : e.Holds files env := by
  rw [load_eq] at h
  split at h
  · next f hf =>
    obtain rfl := Except.error.inj h
    have htable : f.table?.isNone := List.find?_some (p := fun g : SourceFile => g.table?.isNone) hf
    exact ⟨f, List.mem_of_find?_eq_some hf, rfl, Option.isNone_iff_eq_none.1 htable⟩
  · split at h
    · next m hm =>
      obtain rfl := Except.error.inj h
      have hvalue : (Text.Utf8.decode? m.2).isNone :=
        List.find?_some (p := fun m : String × List UInt8 => (Text.Utf8.decode? m.2).isNone) hm
      exact ⟨List.mem_of_find?_eq_some hm, Option.isNone_iff_eq_none.1 hvalue⟩
    · rcases (settings_eq_error_iff _ e).1 h with htext | ⟨-, htext⟩
      · obtain ⟨kind, hkind, rfl⟩ := (text?_eq_error_iff _ _ e).1 htext
        exact ⟨by simp [keys], hkind, rfl⟩
      · obtain ⟨kind, hkind, rfl⟩ := (text?_eq_error_iff _ _ e).1 htext
        exact ⟨by simp [keys], hkind, rfl⟩

theorem exists_error_load_iff (files : List SourceFile) (env : Environment) :
    (∃ e, load files env = .error e) ↔
      (∃ f ∈ files, f.table? = none) ∨
      (∃ m ∈ env.settings, Text.Utf8.decode? m.2 = none) ∨
      ∃ key ∈ keys, (Value.member (merged files env) key).kind?.isSome := by
  constructor
  · rintro ⟨e, he⟩
    have hholds := holds_of_load he
    cases e with
    | notDocument path =>
      obtain ⟨f, hf, -, htable⟩ := hholds
      exact Or.inl ⟨f, hf, htable⟩
    | notEncoded key value =>
      obtain ⟨hmem, hvalue⟩ := hholds
      exact Or.inr (Or.inl ⟨_, hmem, hvalue⟩)
    | notText kind key origin =>
      obtain ⟨hkey, hkind, -⟩ := hholds
      exact Or.inr (Or.inr ⟨key, hkey, Option.isSome_iff_exists.2 ⟨kind, hkind⟩⟩)
  · intro h
    rw [load_eq]
    cases hfile : files.find? (·.table?.isNone) with
    | some f => exact ⟨_, rfl⟩
    | none =>
      cases hvariable : env.settings.find? fun m => (Text.Utf8.decode? m.2).isNone with
      | some m => exact ⟨_, rfl⟩
      | none =>
        -- Every file and every variable can be read, so the reason is what is merged.
        rw [List.find?_eq_none] at hfile hvariable
        rcases h with ⟨f, hf, htable⟩ | ⟨m, hm, hvalue⟩ | hkind
        · exact absurd (Option.isNone_iff_eq_none.2 htable) (hfile f hf)
        · exact absurd (Option.isNone_iff_eq_none.2 hvalue) (hvariable m hm)
        · exact (exists_error_settings_iff _).2 hkind

/-! ### Where files and variables come from -/

/-- The file that a path stands for holds what is read at the path, or else at the
    path with the extension once more. -/
theorem contents_sourceFile? (t : File.Tree) (start : File.Place) (path : String) :
    (sourceFile? t start path).map SourceFile.contents =
      (t.read? start path).or (t.read? start (path ++ ".toml")) := by
  unfold sourceFile? candidates
  rw [List.findSome?_cons]
  cases t.read? start path with
  | some contents => rfl
  | none => cases hlonger : t.read? start (path ++ ".toml") <;> simp [hlonger]

theorem exists_mem_sourceFiles_iff (t : File.Tree) (start : File.Place) (env : Environment)
    (root : String) (p : List UInt8 → Prop) :
    (∃ f ∈ sourceFiles t start env root, p f.contents) ↔
      ∃ path ∈ filePaths env root, ∃ contents,
        (t.read? start path).or (t.read? start (path ++ ".toml")) = some contents ∧ p contents := by
  simp only [sourceFiles, List.mem_filterMap, ← contents_sourceFile?, Option.map_eq_some_iff]
  constructor
  · rintro ⟨f, ⟨path, hpath, hf⟩, hp⟩
    exact ⟨path, hpath, f.contents, ⟨f, hf, rfl⟩, hp⟩
  · rintro ⟨path, hpath, contents, ⟨f, hf, rfl⟩, hp⟩
    exact ⟨f, ⟨path, hpath, hf⟩, hp⟩

theorem exists_mem_settings_iff (env : Environment) (p : List UInt8 → Prop) :
    (∃ m ∈ env.settings, p m.2) ↔
      ∃ m ∈ env, (Environment.configured? m.1).isSome ∧ p m.2 := by
  simp only [Environment.settings, List.mem_filterMap, Option.map_eq_some_iff]
  constructor
  · rintro ⟨-, ⟨m, hm, key, hkey, rfl⟩, hp⟩
    exact ⟨m, hm, Option.isSome_iff_exists.2 ⟨key, hkey⟩, hp⟩
  · rintro ⟨m, hm, hkey, hp⟩
    obtain ⟨key, hkey⟩ := Option.isSome_iff_exists.1 hkey
    exact ⟨(key, m.2), ⟨m, hm, key, hkey, rfl⟩, hp⟩

/-- Settings cannot be loaded just if one of the configuration files that there are
    is no document, or the value of a variable that counts is no text, or a list or
    a table is at one of the two keys once all sources are merged. Nothing that
    another source gives makes up for the first two. What is at a key is decided by
    the last to say something about it. Every error says what is so, beneath the
    same message. -/
theorem load_fails_iff (t : File.Tree) (start : File.Place) (env : Environment)
    (root : String) :
    let files := sourceFiles t start env root
    ((∃ e, load files env = .error e) ↔
      (∃ path ∈ filePaths env root, ∃ contents,
        (t.read? start path).or (t.read? start (path ++ ".toml")) = some contents ∧
        Toml.read? (Text.Utf8.decodeLossy (SourceFile.unmarked contents)) = none) ∨
      (∃ m ∈ env, (∃ name, Text.Utf8.decode? m.1 = some name ∧
        (name.toList.take 4).map Char.toLower = ['g', 'l', 's', '_']) ∧
        Text.Utf8.decode? m.2 = none) ∨
      ∃ key ∈ keys, (Value.member (merged files env) key).kind?.isSome) ∧
    (∀ key, (Value.member (merged files env) key).kind? =
      (lastAbout? key (given files env)).bind fun m => kindGiven m.1 m.2) ∧
    ∀ e, load files env = .error e → e.Holds files env ∧
      e.failure = ⟨"Configuration build/deserialize error", [e.message]⟩ := by
  intro files
  refine ⟨?_, ?_, ?_⟩
  · rw [exists_error_load_iff, exists_mem_settings_iff env (Text.Utf8.decode? · = none)]
    simp only [Environment.configured?_isSome_iff]
    exact or_congr_left (exists_mem_sourceFiles_iff t start env root
      fun contents => Toml.read? (Text.Utf8.decodeLossy (SourceFile.unmarked contents)) = none)
  · intro key
    rw [merged, kind?_member_lay]
    cases lastAbout? key (given files env) <;> rfl
  · intro e he
    exact ⟨holds_of_load he, rfl⟩

/-- A broken `.gls.toml` counts although `gls.toml` gives both keys, and its error
    is the one that is reported. Where `.gls.toml` makes a table of the level,
    `gls.toml` mends it, and a variable can break it again. -/
theorem load_fails_iff_layered :
    let project : File.Name := Text.Utf8.encode "p"
    let tree (hidden : String) : File.Tree :=
      ⟨[([project], .directory false),
        ([project, Text.Utf8.encode ".gls.toml"], .file (Text.Utf8.encode hidden)),
        ([project, Text.Utf8.encode "gls.toml"],
          .file (Text.Utf8.encode "log_level = \"debug\"\nlogs_directory = \"out\""))], by
        show List.Nodup ([[project], [project, Text.Utf8.encode ".gls.toml"],
          [project, Text.Utf8.encode "gls.toml"]] : List File.Place)
        decide +kernel⟩
    let files (hidden : String) := sourceFiles (tree hidden) [project] [] "/p"
    let override : Environment := [(Text.Utf8.encode "Gls_Log_Level.x", Text.Utf8.encode "error")]
    (∃ e, load (files "log_level = = nope") [] = .error e ∧
      e.Holds (files "log_level = = nope") []) ∧
    (∃ s, load (files "[log_level]") [] = .ok s) ∧
    ∃ e, load (files "[log_level]") override = .error e := by
  intro project tree files override
  have hbroken : ∃ e, load (files "log_level = = nope") [] = .error e := by
    refine (load_fails_iff (tree "log_level = = nope") [project] [] "/p").1.2 (Or.inl ?_)
    exact ⟨"/p/.gls.toml", by decide +kernel, Text.Utf8.encode "log_level = = nope",
      by decide +kernel, by decide +kernel⟩
  obtain ⟨e, he⟩ := hbroken
  refine ⟨⟨e, he, ((load_fails_iff _ _ _ _).2.2 e he).1⟩, ?_, ?_⟩
  · cases hload : load (files "[log_level]") [] with
    | ok s => exact ⟨s, rfl⟩
    | error e =>
      -- Of the three reasons none is there.
      rcases (load_fails_iff (tree "[log_level]") [project] [] "/p").1.1 ⟨e, hload⟩ with
        hfile | ⟨m, hm, -⟩ | hkind
      · exact absurd ((exists_mem_sourceFiles_iff _ _ _ _ _).2 hfile) (by decide +kernel)
      · cases hm
      · exact absurd hkind (by decide +kernel)
  · refine (load_fails_iff (tree "[log_level]") [project] override "/p").1.2 (Or.inr (Or.inr ?_))
    exact ⟨levelKey, by decide, by decide +kernel⟩

/-- Bytes that are no text do no harm in a comment, where they are read as
    replacement characters. And with no file at any of the paths there may still be
    one that counts: `gls.toml.toml`. -/
theorem sources_read_leniently :
    let project : File.Name := Text.Utf8.encode "p"
    let tree (name : String) (contents : List UInt8) : File.Tree :=
      ⟨[([project], .directory false), ([project, Text.Utf8.encode name], .file contents)], by
        have hne : ([project] : File.Place) ≠ [project, Text.Utf8.encode name] := by simp
        simp [hne]⟩
    let commented := tree "gls.toml" [0x23, 0xFF, 0x0A]
    let longer := tree "gls.toml.toml" (Text.Utf8.encode "= nope")
    ((∃ path ∈ filePaths [] "/p", ∃ contents,
        commented.read? [project] path = some contents ∧ Text.Utf8.decode? contents = none) ∧
      ∃ s, load (sourceFiles commented [project] [] "/p") [] = .ok s) ∧
    (∀ path ∈ filePaths [] "/p", longer.read? [project] path = none) ∧
    (∀ key ∈ keys, (Value.member (merged [] []) key).kind? = none) ∧
    ∃ e, load (sourceFiles longer [project] [] "/p") [] = .error e := by
  intro project tree commented longer
  have hloaded : (load (sourceFiles commented [project] [] "/p") []).toOption =
      some ⟨.info, none⟩ := by decide +kernel
  have hrefused : (load (sourceFiles longer [project] [] "/p") []).toOption = none := by
    decide +kernel
  refine ⟨⟨⟨"/p/gls.toml", by decide +kernel, [0x23, 0xFF, 0x0A], by decide +kernel,
    by decide +kernel⟩, ?_⟩, by decide +kernel, by decide +kernel, ?_⟩
  · exact ⟨_, eq_ok_of_toOption hloaded⟩
  · cases hload : load (sourceFiles longer [project] [] "/p") [] with
    | ok s => rw [hload] at hrefused; cases hrefused
    | error e => exact ⟨e, rfl⟩

end Config

end DocSync
