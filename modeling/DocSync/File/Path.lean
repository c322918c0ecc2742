import DocSync.Text.Split

/-! # Paths as texts

  A path is a text in which slashes stand between names. Nothing is normalized
  when paths are joined. When a path is taken apart, repeated slashes and the
  segments that are a single point are passed over, except for a point at the
  very front of a relative path.

  `join` works on the text alone, `components` on what the text means, and
  `parent?` and `fileName?` take the last component off.
-/

namespace DocSync.File.Path

/-- A path that starts at the root. -/
def isAbsolute (path : String) : Bool := path.toList.head? = some '/'

/-- A path seen from a directory. An absolute path stays as it is; otherwise a
    slash is put in between, unless the directory is empty or ends in one. -/
def join (dir path : String) : String :=
  if isAbsolute path then path
  else
    let base := dir.toList
    if base = [] ∨ base.getLast? = some '/' then dir ++ path
    else dir ++ "/" ++ path

/-! ### Taking paths apart -/

inductive Component where
  | root
  /-- The point at the front of a relative path. -/
  | here
  | up
  | name (text : String)
  deriving DecidableEq, Repr

/-- The front of a path that is no name: the root, the leading point, or nothing. -/
def head : List Char → List Char
  | '/' :: _ => ['/']
  | ['.'] => ['.']
  | '.' :: '/' :: _ => ['.']
  | _ => []

/-- The segments after the front of a path. -/
def segments (path : List Char) : List (List Char) :=
  Text.split '/' (path.drop (head path).length)

/-- The segments that mean nothing. -/
def isIdle (segment : List Char) : Bool := segment = [] ∨ segment = ['.']

def Component.ofSegment (segment : List Char) : Component :=
  if segment = ['.', '.'] then .up else .name (String.ofList segment)

/-- The components of a path, from left to right. -/
def components (path : String) : List Component :=
  let front := match head path.toList with
    | ['/'] => [Component.root]
    | ['.'] => [Component.here]
    | _ => []
  front ++ ((segments path.toList).filter (!isIdle ·)).map .ofSegment

/-- The segments without the idle ones at the end. -/
def dropIdle (segs : List (List Char)) : List (List Char) :=
  (segs.reverse.dropWhile isIdle).reverse

/-- The path without its last component. The root and the empty path have none. -/
def parent? (path : String) : Option String :=
  let front := head path.toList
  match dropIdle (segments path.toList) with
  | [] => if front = ['.'] then some "" else none
  | segs => some (String.ofList (front ++ Text.join '/' (dropIdle segs.dropLast)))

/-- The last component of a path, if it is a name. -/
def fileName? (path : String) : Option String :=
  match (components path).getLast? with
  | some (.name text) => some text
  | _ => none

end DocSync.File.Path
