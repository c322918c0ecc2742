import DocSync.Toml

/-! # Configured values

  Values from several sources, laid over one another. Where two tables meet,
  their members are merged; in every other case the later value replaces the
  earlier one. A scalar is kept as its text.

  A value may be set at a path. What is missing on the way is made; what is no
  table, or no list, where the path needs one gives way to it. A value that is
  made or merged in this way has no single origin.
-/

namespace DocSync.Config

/-- A value, with the file it comes from as far as there is one. -/
inductive Value where
  /-- A gap in a list. -/
  | absent
  | scalar (text : String) (origin : Option String)
  | list (items : List Value) (origin : Option String)
  | table (members : List (String × Value))
  deriving Repr, Inhabited

/-- A step from a value into one of its parts. -/
inductive Step where
  | member (name : String)
  /-- A position in a list, counted from the end if negative. -/
  | index (i : Int)
  deriving DecidableEq, Repr

/-- The way to a value: the name of a member of the whole, and further steps. -/
structure Path where
  root : String
  steps : List Step
  deriving DecidableEq, Repr

abbrev Members := List (String × Value)

namespace Value

/-! ### From a document -/

mutual

def ofToml (origin : String) : Toml → Value
  | .scalar s => .scalar s.shown (some origin)
  | .array items => .list (ofItems origin items) (some origin)
  | .table members => .table (ofMembers origin members)

def ofItems (origin : String) : List Toml → List Value
  | [] => []
  | v :: rest => ofToml origin v :: ofItems origin rest

def ofMembers (origin : String) : List (String × Toml) → Members
  | [] => []
  | (name, v) :: rest => (name, ofToml origin v) :: ofMembers origin rest

end

/-! ### Merging -/

/-- The members of a table; any other value has none. -/
def members : Value → Members
  | .table members => members
  | _ => []

/-- The member of a name, or a gap. -/
def member (members : Members) (name : String) : Value := (members.lookup name).getD .absent

/-- The members with one replaced, or added. -/
def put (members : Members) (name : String) (v : Value) : Members :=
  (name, v) :: members.filter (fun m => m.1 ≠ name)

mutual

/-- A later value laid over an earlier one. -/
def merge (old : Value) : Value → Value
  | .table later => .table (mergeMembers old.members later)
  | new => new

/-- Later members laid over earlier ones. -/
def mergeMembers (old : Members) : Members → Members
  | [] => old
  | (name, v) :: rest => mergeMembers (put old name (merge (member old name) v)) rest

end

/-! ### Setting a value at a path -/

/-- The list of a value, and its origin; any other value is like an empty list. -/
def asList : Value → List Value × Option String
  | .list items origin => (items, origin)
  | _ => ([], none)

/-- A list made long enough for a position, and the position counted from its
    front. A negative position beyond the front makes the list longer there. -/
def reach (items : List Value) (i : Int) : List Value × Nat :=
  if 0 ≤ i then
    (items ++ List.replicate (i.toNat + 1 - items.length) .absent, i.toNat)
  else if i.natAbs ≤ items.length then (items, items.length - i.natAbs)
  else (List.replicate (i.natAbs - items.length) .absent ++ items, 0)

/-- A change to the part of a value that some steps lead to. -/
def modify (change : Value → Value) : List Step → Value → Value
  | [], v => change v
  | .member name :: rest, v =>
    .table (put v.members name (modify change rest (member v.members name)))
  | .index i :: rest, v =>
    let (items, origin) := v.asList
    let (items, n) := reach items i
    .list (items.modify n (modify change rest)) origin

/-- A value laid over whatever is at a path. -/
def set (all : Members) (path : Path) (v : Value) : Members :=
  put all path.root (modify (merge · v) path.steps (member all path.root))

end Value

end DocSync.Config
