import DocSync.Config.Load
import DocSync.Proofs.Toml.Names

/-! # Sources laid over one another

  What a key is in the end depends, of each source, only on what it says about
  this key: a source that gives the key a text decides, and one that does not
  mention the key leaves it as it is (`text?_lay`). All else that the sources
  hold is merged along without effect on the key.

  This takes that no source gives the key a list or a table and that no name
  leads into the key by further steps: `SourceFile.Plain` and `Path.Direct` say
  so of a file and of the variables, for one key at a time. `exists_gather` is
  the outcome for all sources.
-/

namespace DocSync

/-- Tells whether a value of a document is neither a list nor a table. -/
def Toml.isScalar : Toml → Bool
  | .scalar _ => true
  | _ => false

theorem Toml.eq_scalar_of_isScalar {v : Option Toml} (h : v.all isScalar) :
    v = none ∨ ∃ s, v = some (.scalar s) := by
  cases v with
  | none => exact .inl rfl
  | some v =>
    cases v with
    | scalar s => exact .inr ⟨s, rfl⟩
    | array items => cases h
    | table members => cases h

theorem eq_ok_of_toOption {ε α : Type} {x : Except ε α} {a : α} (h : x.toOption = some a) :
    x = .ok a := by
  cases x with
  | error e => cases h
  | ok b => rw [Option.some.inj h]

namespace Config

/-! ### Names that are no paths -/

namespace Path

theorem eq_nil_of_steps? {fuel : Nat} {text : List Char} (h : steps? fuel text = some []) :
    text = [] := by
  unfold steps? at h
  split at h
  · rfl
  · obtain ⟨_, -, h⟩ := Option.bind_eq_some_iff.mp h
    obtain ⟨_, -, h⟩ := Option.bind_eq_some_iff.mp h
    cases h
  · obtain ⟨_, -, h⟩ := Option.bind_eq_some_iff.mp h
    obtain ⟨_, -, h⟩ := Option.bind_eq_some_iff.mp h
    cases h
  · cases h

/-- A name without further steps stands for itself. -/
theorem root_of_steps_nil {name : String} (h : (ofName name).steps = []) :
    (ofName name).root = name := by
  unfold ofName at h ⊢
  cases hread : read? name with
  | none => rfl
  | some path =>
    rw [hread] at h
    obtain ⟨⟨root, rest⟩, hroot, hread⟩ := Option.bind_eq_some_iff.mp hread
    obtain ⟨steps, hsteps, hread⟩ := Option.bind_eq_some_iff.mp hread
    obtain rfl := Option.some.inj hread
    obtain rfl : steps = [] := h
    have hrest : rest = [] := eq_nil_of_steps? hsteps
    unfold name? at hroot
    dsimp only at hroot
    split at hroot
    · cases hroot
    · obtain ⟨rfl, hdrop⟩ := Prod.mk.inj (Option.some.inj hroot)
      have hall : name.toList.takeWhile isNameChar = name.toList := by
        have happend := List.takeWhile_append_dropWhile (p := isNameChar) (l := name.toList)
        rwa [hdrop, hrest, List.append_nil] at happend
      show String.ofList (name.toList.takeWhile isNameChar) = name
      rw [hall, String.ofList_toList]

/-- No name leads into a key by further steps. -/
def Direct (key : String) (names : List String) : Prop :=
  ∀ name ∈ names, (ofName name).root = key → (ofName name).steps = []

instance (key : String) (names : List String) : Decidable (Direct key names) :=
  inferInstanceAs (Decidable (∀ name ∈ names, _ → _))

/-- A name that concerns a key is the key. -/
theorem Direct.eq_of_root {key : String} {names : List String} (h : Direct key names)
    {name : String} (hname : name ∈ names) (hroot : (ofName name).root = key) : name = key := by
  have hsteps : (ofName name).steps = [] := h name hname hroot
  rw [← hroot, root_of_steps_nil hsteps]

end Path

/-! ### Members -/

namespace Value
variable {key : String} {members : Members}

theorem lookup_filter_ne {α β : Type} [DecidableEq α] [BEq α] [LawfulBEq α] {name key : α}
    (h : key ≠ name) (members : List (α × β)) :
    (members.filter (fun m => m.1 ≠ name)).lookup key = members.lookup key := by
  induction members with
  | nil => rfl
  | cons m rest ih =>
    obtain ⟨other, w⟩ := m
    by_cases hother : other = name
    · have hne : (key == other) = false := by
        rw [hother]
        exact beq_eq_false_iff_ne.mpr h
      rw [List.filter_cons_of_neg (by simpa using hother), List.lookup_cons, hne]
      exact ih
    · rw [List.filter_cons_of_pos (by simpa using hother), List.lookup_cons, List.lookup_cons, ih]

theorem lookup_put (members : Members) (name key : String) (v : Value) :
    (put members name v).lookup key = if key = name then some v else members.lookup key := by
  unfold put
  by_cases hkey : key = name
  · rw [if_pos hkey, hkey, List.lookup_cons_self]
  · rw [if_neg hkey, List.lookup_cons, beq_eq_false_iff_ne.mpr hkey]
    exact lookup_filter_ne hkey members

theorem distinct_put (h : Toml.Distinct members) (name : String) (v : Value) :
    Toml.Distinct (put members name v) := by
  show ((put members name v).map Prod.fst).Nodup
  unfold put
  rw [List.map_cons, List.nodup_cons]
  constructor
  · intro hname
    obtain ⟨m, hm, hname⟩ := List.mem_map.mp hname
    simp [hname] at hm
  · exact List.Nodup.sublist (List.filter_sublist.map _) h

/-- What is set elsewhere leaves a key alone. -/
theorem member_set_of_ne {path : Path} (h : path.root ≠ key) (all : Members) (v : Value) :
    member (set all path v) key = member all key := by
  rw [set, member, lookup_put, if_neg (Ne.symm h)]
  rfl

/-- A text that a key is set to replaces whatever was there. -/
theorem member_set_scalar (key : String) (all : Members) (text : String)
    (origin : Option String) :
    member (set all ⟨key, []⟩ (.scalar text origin)) key = .scalar text origin := by
  rw [set, member, lookup_put, if_pos rfl, modify, merge.eq_def]
  rfl

def isScalar : Value → Bool
  | .scalar _ _ => true
  | _ => false

theorem eq_scalar_of_isScalar {v : Option Value} (h : v.all isScalar) :
    v = none ∨ ∃ text origin, v = some (.scalar text origin) := by
  cases v with
  | none => exact .inl rfl
  | some v =>
    cases v with
    | scalar text origin => exact .inr ⟨text, origin, rfl⟩
    | absent => cases h
    | list items origin => cases h
    | table members => cases h

end Value

section lay
variable {key : String} {source : Members}

/-- A source that says something about a key decides; any other leaves it as it is. -/
theorem member_lay (hkey : Path.ofName key = ⟨key, []⟩) (hdistinct : Toml.Distinct source)
    (hdirect : Path.Direct key (source.map Prod.fst))
    (hscalar : (source.lookup key).all Value.isScalar) (all : Members) :
    Value.member (lay all source) key = (source.lookup key).getD (Value.member all key) := by
  -- What stands in front of the key's own member is set elsewhere, and so is the rest.
  induction source generalizing all with
  | nil => rfl
  | cons m rest ih =>
    obtain ⟨name, v⟩ := m
    obtain ⟨hfresh, hrest⟩ := List.nodup_cons.mp hdistinct
    have hdirect' : Path.Direct key (rest.map Prod.fst) :=
      fun other hother => hdirect other (List.mem_cons_of_mem _ hother)
    show Value.member (lay (Value.set all (Path.ofName name) v) rest) key = _
    by_cases hname : key = name
    · subst hname
      have hnone : rest.lookup key = none := by
        rw [← Option.not_isSome_iff_eq_none, Toml.lookup_isSome_iff_mem]
        exact hfresh
      rw [List.lookup_cons_self] at hscalar ⊢
      obtain hv | ⟨text, origin, hv⟩ := Value.eq_scalar_of_isScalar hscalar
      · cases hv
      · obtain rfl := Option.some.inj hv
        rw [ih hrest hdirect' (by rw [hnone]; rfl), hnone, hkey]
        exact Value.member_set_scalar key all text origin
    · have hroot : (Path.ofName name).root ≠ key := fun hroot =>
        hname (hdirect.eq_of_root List.mem_cons_self hroot).symm
      rw [List.lookup_cons, beq_eq_false_iff_ne.mpr hname] at hscalar ⊢
      rw [ih hrest hdirect' hscalar, Value.member_set_of_ne hroot]

/-- The text that members give a key. -/
def given? (source : Members) (key : String) : Option String :=
  match source.lookup key with
  | some (.scalar text _) => some text
  | _ => none

/-- A source gives a key this text, or none, and has nothing else to do with it. -/
structure Gives (source : Members) (key : String) (text : Option String) : Prop where
  distinct : Toml.Distinct source
  direct : Path.Direct key (source.map Prod.fst)
  scalar : (source.lookup key).all Value.isScalar
  given : given? source key = text

theorem text?_lay (hkey : Path.ofName key = ⟨key, []⟩) {text : Option String}
    (h : Gives source key text) {all : Members} {old : Option String}
    (hold : text? all key = .ok old) : text? (lay all source) key = .ok (text.or old) := by
  have hmember := member_lay hkey h.distinct h.direct h.scalar all
  rw [← h.given, given?]
  obtain hnone | ⟨text, origin, hsome⟩ := Value.eq_scalar_of_isScalar h.scalar
  · rw [hnone, Option.getD_none] at hmember
    rw [hnone, Config.text?, hmember]
    exact hold
  · rw [hsome, Option.getD_some] at hmember
    rw [hsome, Config.text?, hmember]
    rfl

end lay

/-! ### Files -/

/-- Values may be changed before or after one of them is looked up. -/
theorem lookup_map {α β : Type} (change : α → β) (key : String) (members : List (String × α)) :
    (members.map (fun m => (m.1, change m.2))).lookup key = (members.lookup key).map change := by
  induction members with
  | nil => rfl
  | cons m rest ih =>
    rw [List.map_cons, List.lookup_cons, List.lookup_cons, ih]
    cases key == m.1 <;> rfl

namespace Value

theorem ofMembers_eq_map (origin : String) (table : List (String × Toml)) :
    ofMembers origin table = table.map (fun m => (m.1, ofToml origin m.2)) := by
  induction table with
  | nil => rfl
  | cons m rest ih =>
    obtain ⟨name, v⟩ := m
    rw [ofMembers, ih]
    rfl

theorem names_ofMembers (origin : String) (table : List (String × Toml)) :
    (ofMembers origin table).map Prod.fst = table.map Prod.fst := by
  rw [ofMembers_eq_map, List.map_map]
  rfl

end Value

namespace SourceFile

/-- The table that a file spells, if it spells one. -/
def table? (f : SourceFile) : Option (List (String × Toml)) :=
  Toml.read? (Text.Utf8.decodeLossy (unmarked f.contents))

/-- The text that a file gives a key: that of a text, number, truth value or date. -/
def text? (f : SourceFile) (key : String) : Option String :=
  match f.table?.bind (·.lookup key) with
  | some (.scalar s) => some s.shown
  | _ => none

/-- A file gives a key no list and no table, and leads nowhere into it. -/
structure Plain (f : SourceFile) (key : String) : Prop where
  scalar : (f.table?.bind (·.lookup key)).all Toml.isScalar
  direct : Path.Direct key ((f.table?.getD []).map Prod.fst)

instance (f : SourceFile) (key : String) : Decidable (f.Plain key) :=
  decidable_of_iff ((f.table?.bind (·.lookup key)).all Toml.isScalar ∧
    Path.Direct key ((f.table?.getD []).map Prod.fst)) ⟨fun h => ⟨h.1, h.2⟩, fun h => ⟨h.1, h.2⟩⟩

/-- A file that spells a table is a source, which says of a key what the file does. -/
theorem exists_members {f : SourceFile} (h : f.table?.isSome) :
    ∃ source, f.members = .ok source ∧
      ∀ key, f.Plain key → Gives source key (f.text? key) := by
  obtain ⟨table, htable⟩ := Option.isSome_iff_exists.mp h
  refine ⟨Value.ofMembers f.path table, ?_, ?_⟩
  · unfold members
    rw [show Toml.read? _ = some table from htable]
  · intro key hplain
    obtain ⟨hscalar, hdirect⟩ := hplain
    rw [htable, Option.bind_some] at hscalar
    rw [htable, Option.getD_some] at hdirect
    have hlookup : (Value.ofMembers f.path table).lookup key =
        (table.lookup key).map (Value.ofToml f.path) := by
      rw [Value.ofMembers_eq_map, lookup_map]
    constructor
    · show ((Value.ofMembers f.path table).map Prod.fst).Nodup
      rw [Value.names_ofMembers]
      exact Toml.distinct_of_read? htable
    · rw [Value.names_ofMembers]
      exact hdirect
    · obtain htoml | ⟨s, htoml⟩ := Toml.eq_scalar_of_isScalar hscalar
      · rw [hlookup, htoml]
        rfl
      · rw [hlookup, htoml, Option.map_some, Value.ofToml]
        rfl
    · rw [given?, hlookup, text?, htable, Option.bind_some]
      obtain htoml | ⟨s, htoml⟩ := Toml.eq_scalar_of_isScalar hscalar
      · rw [htoml]
        rfl
      · rw [htoml, Option.map_some, Value.ofToml]

end SourceFile

/-! ### The environment -/

/-- The text that the environment gives a key: that of the last variable of
    this meaning. -/
def environmentText? (env : Environment) (key : String) : Option String :=
  (env.settings.reverse.lookup key).bind Text.Utf8.decode?

theorem lookup_foldl_put (key : String) (given all : Members) :
    (given.foldl (fun all m => Value.put all m.1 m.2) all).lookup key =
      (given.reverse.lookup key).or (all.lookup key) := by
  induction given generalizing all with
  | nil => rfl
  | cons m rest ih =>
    obtain ⟨name, v⟩ := m
    rw [List.foldl_cons, ih, List.reverse_cons, List.lookup_append, Value.lookup_put,
      List.lookup_cons, List.lookup_nil, Option.or_assoc]
    by_cases hkey : key = name
    · rw [if_pos hkey, beq_iff_eq.mpr hkey]
      rfl
    · rw [if_neg hkey, beq_eq_false_iff_ne.mpr hkey]
      rfl

theorem distinct_foldl_put (given : Members) {all : Members} (h : Toml.Distinct all) :
    Toml.Distinct (given.foldl (fun all m => Value.put all m.1 m.2) all) := by
  induction given generalizing all with
  | nil => exact h
  | cons m rest ih => exact ih (Value.distinct_put h m.1 m.2)

/-- The value that a variable gives, as far as it is a text. -/
def valueOf (value : List UInt8) : Value := .scalar ((Text.Utf8.decode? value).getD "") none

theorem mapM_eq_ok_map {α β ε : Type} {read : α → Except ε β} {f : α → β} {l : List α}
    (h : ∀ a ∈ l, read a = .ok (f a)) : l.mapM read = .ok (l.map f) := by
  induction l with
  | nil => rfl
  | cons a rest ih =>
    rw [List.mapM_cons, h a List.mem_cons_self, ih fun b hb => h b (List.mem_cons_of_mem _ hb)]
    rfl

/-- An environment of texts is a source, which says of a key what its last
    variable does. -/
theorem exists_environmentMembers {env : Environment}
    (h : ∀ m ∈ env.settings, (Text.Utf8.decode? m.2).isSome) :
    ∃ source, environmentMembers env = .ok source ∧
      ∀ key, Path.Direct key (env.settings.map Prod.fst) →
        Gives source key (environmentText? env key) := by
  let given : Members := env.settings.map (fun m => (m.1, valueOf m.2))
  let source : Members := given.foldl (fun all m => Value.put all m.1 m.2) []
  have hread : environmentMembers env = .ok source := by
    unfold environmentMembers
    rw [mapM_eq_ok_map (f := fun m => (m.1, valueOf m.2))]
    · rfl
    · intro m hm
      obtain ⟨text, htext⟩ := Option.isSome_iff_exists.mp (h m hm)
      simp only [htext, valueOf, Option.getD_some]
  refine ⟨source, hread, ?_⟩
  intro key hdirect
  have hlookup (name : String) :
      source.lookup name = (env.settings.reverse.lookup name).map valueOf := by
    rw [lookup_foldl_put, ← List.map_reverse, lookup_map, List.lookup_nil, Option.or_none]
  constructor
  · exact distinct_foldl_put given List.nodup_nil
  · -- A name of the source is one of the environment.
    intro name hname
    rw [← Toml.lookup_isSome_iff_mem, hlookup, Option.isSome_map,
      Toml.lookup_isSome_iff_mem, List.map_reverse, List.mem_reverse] at hname
    exact hdirect name hname
  · rw [hlookup]
    cases env.settings.reverse.lookup key <;> rfl
  · rw [given?, hlookup, environmentText?]
    cases hvalue : env.settings.reverse.lookup key with
    | none => rfl
    | some value =>
      have hmem : (key, value) ∈ env.settings.reverse := by
        obtain ⟨before, after, hsplit, -⟩ := List.lookup_eq_some_iff.mp hvalue
        rw [hsplit]
        exact List.mem_append_right before List.mem_cons_self
      obtain ⟨text, htext⟩ := Option.isSome_iff_exists.mp (h _ (List.mem_reverse.mp hmem))
      rw [Option.map_some, Option.bind_some, valueOf, htext]
      rfl

/-! ### All sources -/

/-- The text that files, in order, give a key: that of the last one to give it. -/
def fileText? (files : List SourceFile) (key : String) : Option String :=
  files.reverse.findSome? (·.text? key)

theorem exists_foldlM_lay {files : List SourceFile} (h : ∀ f ∈ files, f.table?.isSome)
    (all : Members) :
    ∃ later, files.foldlM (fun all f => return lay all (← f.members)) all = Except.ok later ∧
      ∀ key old, Path.ofName key = ⟨key, []⟩ → (∀ f ∈ files, f.Plain key) →
        text? all key = .ok old → text? later key = .ok ((fileText? files key).or old) := by
  induction files generalizing all with
  | nil => exact ⟨all, rfl, fun key old _ _ hold => hold⟩
  | cons f rest ih =>
    obtain ⟨source, hsource, hgives⟩ := SourceFile.exists_members (h f List.mem_cons_self)
    obtain ⟨later, hlater, htext⟩ :=
      ih (fun g hg => h g (List.mem_cons_of_mem _ hg)) (lay all source)
    refine ⟨later, ?_, ?_⟩
    · rw [List.foldlM_cons, hsource]
      exact hlater
    · -- The first file lies lowest, so it is asked last.
      intro key old hkey hplain hold
      have hfirst := text?_lay hkey (hgives key (hplain f List.mem_cons_self)) hold
      have hrest := htext key _ hkey (fun g hg => hplain g (List.mem_cons_of_mem _ hg)) hfirst
      rw [hrest, ← Option.or_assoc, fileText?, fileText?, List.reverse_cons,
        List.findSome?_append]
      simp

/-- Sources that can be read can be laid over one another. A key is then what
    the environment gives it, or else the last file that gives it a text. -/
theorem exists_gather {files : List SourceFile} {env : Environment}
    (hfiles : ∀ f ∈ files, f.table?.isSome)
    (henv : ∀ m ∈ env.settings, (Text.Utf8.decode? m.2).isSome) :
    ∃ all, gather files env = .ok all ∧
      ∀ key, Path.ofName key = ⟨key, []⟩ → (∀ f ∈ files, f.Plain key) →
        Path.Direct key (env.settings.map Prod.fst) →
        text? all key = .ok ((environmentText? env key).or (fileText? files key)) := by
  obtain ⟨below, hbelow, hfile⟩ := exists_foldlM_lay hfiles []
  obtain ⟨source, hsource, hgives⟩ := exists_environmentMembers henv
  refine ⟨lay below source, ?_, ?_⟩
  · unfold gather
    rw [hbelow, hsource]
    rfl
  · intro key hkey hplain hdirect
    have htext := hfile key none hkey hplain rfl
    rw [Option.or_none] at htext
    exact text?_lay hkey (hgives key hdirect) htext

end Config

end DocSync
