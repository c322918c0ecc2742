import DocSync.Toml

/-! # Growing the tables of a document

  The lines of a document say where a table starts and what its members are.
  Whether they may say so depends on how the tables on the way were made: by a
  header of their own, only as part of a longer header, or by a name with
  points. A table has one header at most; names with points reach into no table
  that a header has made; and what is written as a value is complete.
-/

namespace DocSync.Toml

/-- How a table was made. -/
inductive Form where
  /-- By a header of its own. -/
  | header
  /-- As part of a longer header. -/
  | passing
  /-- By a name with points. -/
  | pointed
  deriving DecidableEq, Repr

/-- A table or value that may still grow. -/
inductive Node where
  /-- A complete value. -/
  | value (v : Toml)
  | table (form : Form) (members : List (String × Node))
  /-- Tables that share a header in double brackets. -/
  | tables (elements : List (List (String × Node)))

namespace Node

abbrev Members := List (String × Node)

/-- The members with one replaced, or added at the end. -/
def put (members : Members) (name : String) (node : Node) : Members :=
  if (members.lookup name).isSome then
    members.map (fun (key, old) => (key, if key = name then node else old))
  else members ++ [(name, node)]

/-- A change to a table, given how it was made. -/
abbrev Change := Form → Members → Option Members

/-- Makes a change at the table that a path leads to. Tables on the way are
    made where they are missing, and of several the last is entered. -/
def descend (made : Form) (change : Change) : List String → Change
  | [] => change
  | name :: rest => fun _ members =>
    match members.lookup name with
    | none =>
      (descend made change rest made []).map (fun inner => put members name (.table made inner))
    | some (.table form inner) =>
      if made = .pointed ∧ form = .header then none
      else (descend made change rest form inner).map
        (fun inner => put members name (.table form inner))
    | some (.tables elements) => do
      let inner ← descend made change rest .header (← elements.getLast?)
      return put members name (.tables (elements.dropLast ++ [inner]))
    | some (.value _) => none

/-- Gives a table its header. -/
def openTable (name : String) : Change := fun _ members =>
  match members.lookup name with
  | none => some (put members name (.table .header []))
  | some (.table .passing inner) => some (put members name (.table .header inner))
  | some _ => none

/-- Adds a table to those that share a header. -/
def addTable (name : String) : Change := fun _ members =>
  match members.lookup name with
  | none => some (put members name (.tables [[]]))
  | some (.tables elements) => some (put members name (.tables (elements ++ [[]])))
  | some _ => none

/-- Adds a member. A plain name does not go into a table made by names with
    points, and a name with points goes into no other. -/
def addMember (plain : Bool) (name : String) (v : Toml) : Change := fun form members =>
  if plain = (form == .pointed) then none
  else if (members.lookup name).isSome then none
  else some (members ++ [(name, .value v)])

/-- Adds a member under a name that may have points. -/
def assign (names : List String) (v : Toml) : Change := fun form members => do
  let add := addMember (names.length == 1) (← names.getLast?) v
  descend .pointed add names.dropLast form members

mutual

/-- The value that has been grown. -/
def finish : Node → Toml
  | .value v => v
  | .table _ members => .table (finishMembers members)
  | .tables elements => .array (finishTables elements)

/-- The members that have been grown. -/
def finishMembers : List (String × Node) → List (String × Toml)
  | [] => []
  | (name, node) :: rest => (name, finish node) :: finishMembers rest

/-- The tables that have been grown. -/
def finishTables : List (List (String × Node)) → List Toml
  | [] => []
  | members :: rest => .table (finishMembers members) :: finishTables rest

end

end Node

end DocSync.Toml
