import DocSync.File.Path
import DocSync.Text.Utf8

/-! # Directory trees

  A tree of directories and files, in the order in which they were made. Names
  are sequences of bytes. Paths are followed from a working directory, one
  component after another, through directories that have to be there.

  `node?` is the view of a tree; `add`, `remove` and `append` change it at one
  place.
-/

namespace DocSync.File

abbrev Name := List UInt8

/-- The way to a file or directory from the root. -/
abbrev Place := List Name

/-- What there is at a place. -/
inductive Node where
  /-- A directory. A sealed one admits nothing new. -/
  | directory (isSealed : Bool)
  | file (contents : List UInt8)
  deriving DecidableEq, Repr

/-- What is there below the root, in the order in which it was made. -/
structure Tree where
  entries : List (Place × Node)
  nodup : (entries.map Prod.fst).Nodup

/-! ### Faults -/

/-- Why something cannot be done in a tree. -/
inductive Fault where
  | notFound
  | exists
  | notDirectory
  | isDirectory
  | nameTooLong
  /-- A character that no name may have. -/
  | badName
  deriving DecidableEq, Repr

def Fault.message : Fault → String
  | .notFound => "No such file or directory (os error 2)"
  | .exists => "File exists (os error 17)"
  | .notDirectory => "Not a directory (os error 20)"
  | .isDirectory => "Is a directory (os error 21)"
  | .nameTooLong => "File name too long (os error 36)"
  | .badName => "file name contained an unexpected NUL byte"

namespace Tree

/-- The tree in which there is nothing but the root. -/
def empty : Tree := ⟨[], List.nodup_nil⟩

/-- What there is at a place; the root is a directory. -/
def node? (t : Tree) (p : Place) : Option Node :=
  if p = [] then some (.directory false) else t.entries.lookup p

def isDirectoryAt (t : Tree) (p : Place) : Bool :=
  match t.node? p with
  | some (.directory _) => true
  | _ => false

/-! ### Changing a tree -/

/-- Something new at a place, unless there is something already. -/
def add (t : Tree) (p : Place) (n : Node) : Tree :=
  if h : p ∈ t.entries.map Prod.fst then t
  else ⟨t.entries ++ [(p, n)], by
    rw [List.map_append, List.nodup_append]
    refine ⟨t.nodup, by simp, ?_⟩
    intro a ha b hb
    simp only [List.map_cons, List.map_nil, List.mem_singleton] at hb
    exact fun e => h (hb ▸ e ▸ ha)⟩

/-- Nothing at some places. -/
def remove (t : Tree) (places : List Place) : Tree :=
  ⟨t.entries.filter (fun entry => entry.1 ∉ places),
    t.nodup.sublist (List.filter_sublist.map _)⟩

/-- Bytes at the end of a file. -/
def append (t : Tree) (p : Place) (bytes : List UInt8) : Tree :=
  ⟨t.entries.map (fun entry =>
      (entry.1, match entry.2 with
        | .file contents => if entry.1 = p then .file (contents ++ bytes) else .file contents
        | directory => directory)),
    by simpa [Function.comp_def] using t.nodup⟩

/-! ### Following paths -/

def maxName : Nat := 255

def maxPath : Nat := 4095

def follow (t : Tree) (p : Place) (c : Path.Component) : Except Fault Place :=
  match t.node? p with
  | none => .error .notFound
  | some (.file _) => .error .notDirectory
  | some (.directory _) =>
    match c with
    | .root => .ok []
    | .here => .ok p
    | .up => .ok p.dropLast
    | .name text =>
      let name := Text.Utf8.encode text
      if maxName < name.length then .error .nameTooLong
      else if (t.node? (p ++ [name])).isSome then .ok (p ++ [name])
      else .error .notFound

def locate (t : Tree) (start : Place) (path : List Path.Component) : Except Fault Place :=
  path.foldlM t.follow start

/-- The place after another on the way along a component. -/
def nextPlace (p : Place) : Path.Component → Place
  | .root => []
  | .here => p
  | .up => p.dropLast
  | .name text => p ++ [Text.Utf8.encode text]

/-- The places on the way along some components, if all of them are there. -/
def placesOn (start : Place) : List Path.Component → List Place
  | [] => [start]
  | c :: rest => start :: placesOn (nextPlace start c) rest

def isDirectory (t : Tree) (start : Place) (path : List Path.Component) : Bool :=
  match t.locate start path with
  | .ok p => t.isDirectoryAt p
  | .error _ => false

/-- The contents of the file that a path leads to, if it leads to one. -/
def read? (t : Tree) (start : Place) (path : String) : Option (List UInt8) :=
  match t.locate start (Path.components path) with
  | .ok p =>
    match t.node? p with
    | some (.file contents) => some contents
    | _ => none
  | .error _ => none

/-! ### Making directories and files -/

/-- A place for something new in a directory. -/
def newPlace (t : Tree) (dir : Place) (name : Name) : Except Fault Place :=
  match t.node? dir with
  | none => .error .notFound
  | some (.file _) => .error .notDirectory
  | some (.directory isSealed) =>
    if maxName < name.length then .error .nameTooLong
    else if (t.node? (dir ++ [name])).isSome then .error .exists
    else if isSealed then .error .notFound
    else .ok (dir ++ [name])

/-- Makes the directory that some components lead to, within one that is there.
    The components are given from the last to the first. -/
def makeDirectory (t : Tree) (start : Place) : List Path.Component → Except Fault Tree
  | [] => .error .notFound
  | .name text :: before => do
    let dir ← t.locate start before.reverse
    let p ← t.newPlace dir (Text.Utf8.encode text)
    return t.add p (.directory false)
  | _ :: before => do
    let _ ← t.locate start before.reverse
    .error .exists

/-- Makes the directory that some components lead to, and whatever is missing on
    the way. It does no harm if it is there already. Gives the tree as far as it
    is made, and the fault that stopped it. -/
def makeDirectories (t : Tree) (start : Place) : List Path.Component → Tree × Option Fault
  | [] => (t, none)
  | last :: before =>
    match t.makeDirectory start (last :: before) with
    | .ok made => (made, none)
    | .error .notFound =>
      -- Something on the way is missing: it is made first, and then one more attempt.
      match t.makeDirectories start before with
      | (made, some fault) => (made, some fault)
      | (made, none) =>
        match made.makeDirectory start (last :: before) with
        | .ok complete => (complete, none)
        | .error fault =>
          (made, if made.isDirectory start (last :: before).reverse then none else some fault)
    -- Any other fault is none if the directory is there after all.
    | .error fault =>
      (t, if t.isDirectory start (last :: before).reverse then none else some fault)

/-- What is wrong with a path as a text. -/
def pathFault? (path : String) : Option Fault :=
  if path.toList.contains '\x00' then some .badName
  else if maxPath < (Text.Utf8.encode path).length then some .nameTooLong
  else none

/-- Makes a directory and whatever is missing on the way to it. -/
def ensureDirectory (t : Tree) (start : Place) (path : String) : Tree × Option Fault :=
  match pathFault? path with
  | some fault => (t, some fault)
  | none => t.makeDirectories start (Path.components path).reverse

/-- Opens a file for writing at its end, and makes it if it is not there. -/
def openFile (t : Tree) (start : Place) (path : String) : Except Fault (Tree × Place) :=
  match pathFault? path with
  | some fault => .error fault
  | none =>
    match (Path.components path).reverse with
    | .name text :: before => do
      let dir ← t.locate start before.reverse
      let name := Text.Utf8.encode text
      match t.newPlace dir name with
      | .ok p => return (t.add p (.file []), p)
      | .error .exists =>
        match t.node? (dir ++ [name]) with
        | some (.file _) => return (t, dir ++ [name])
        | _ => .error .isDirectory
      | .error fault => .error fault
    | _ => .error .isDirectory

/-- The files in a directory and their names, in the order in which they were made. -/
def filesIn (t : Tree) (dir : Place) : List (Place × Name) :=
  t.entries.filterMap (fun (p, n) =>
    match n, p.getLast? with
    | .file _, some name => if p.dropLast = dir then some (p, name) else none
    | _, _ => none)

end Tree

end DocSync.File
