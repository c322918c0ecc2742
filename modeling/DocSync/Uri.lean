/-! # Resource identifiers

  Recognises the URIs of RFC 3986 that start with a scheme, and says where and
  why a text is not one. Such a URI is plain ASCII; nothing about it is
  normalized, so its text is all there is to know.

  Reading keeps a `Cursor`: how far it is, and what is left. Everything that a
  cursor passes is ASCII, so that its position counts bytes as well as
  characters.
-/

namespace DocSync

namespace Uri

/-! ### Why a text is not a URI -/

/-- What is wrong with a text. -/
inductive Fault where
  /-- A character that the grammar does not allow there, or the end of the text. -/
  | unexpectedChar
  /-- A percent sign that two hexadecimal digits do not follow. -/
  | invalidEncodedOctet
  /-- An address in brackets that is no IPv6 address. -/
  | invalidAddress
  deriving DecidableEq, Repr

/-- A fault and the byte at which it is found. -/
structure Error where
  fault : Fault
  index : Nat
  deriving DecidableEq, Repr

def Error.message (e : Error) : String :=
  (match e.fault with
    | .unexpectedChar => "unexpected character"
    | .invalidEncodedOctet => "invalid percent-encoded octet"
    | .invalidAddress => "invalid IPv6 address") ++
  " at index " ++ toString e.index

/-! ### Character classes -/

/-- Letters, digits and the four marks that never need encoding. -/
def isUnreserved (c : Char) : Bool :=
  c.isAlphanum || c == '-' || c == '.' || c == '_' || c == '~'

/-- The marks that may separate parts within a component. -/
def isSubDelim (c : Char) : Bool :=
  c == '!' || c == '$' || c == '&' || c == '\'' || c == '(' || c == ')' ||
    c == '*' || c == '+' || c == ',' || c == ';' || c == '='

def isSchemeChar (c : Char) : Bool :=
  c.isAlphanum || c == '+' || c == '-' || c == '.'

/-- The characters of a host name. -/
def isNameChar (c : Char) : Bool := isUnreserved c || isSubDelim c

/-- The characters before the at sign of an authority. -/
def isUserChar (c : Char) : Bool := isNameChar c || c == ':'

def isPathChar (c : Char) : Bool := isUserChar c || c == '@' || c == '/'

def isQueryChar (c : Char) : Bool := isPathChar c || c == '?'

def isHexDigit (c : Char) : Bool :=
  c.isDigit || ('a' ≤ c && c ≤ 'f') || ('A' ≤ c && c ≤ 'F')

/-! ### Reading -/

/-- A place in a text: the number of characters before it, and those after. -/
structure Cursor where
  pos : Nat
  rest : List Char
  deriving DecidableEq, Repr

namespace Cursor

/-- Passes a number of characters. -/
def skip (here : Cursor) (n : Nat) : Cursor := ⟨here.pos + n, here.rest.drop n⟩

/-- Passes the characters of a class as far as they go. -/
def skipWhile (here : Cursor) (p : Char → Bool) : Cursor :=
  here.skip (here.rest.takeWhile p).length

/-- Passes one given character, if it comes next. -/
def skipChar? (here : Cursor) (c : Char) : Option Cursor :=
  if here.rest.head? = some c then some (here.skip 1) else none

/-- The error at this place. -/
def fail {α : Type} (here : Cursor) (fault : Fault) : Except Error α :=
  .error ⟨fault, here.pos⟩

end Cursor

/-- Passes the characters of a class, and encoded octets, as far as they go. -/
def skipEncoded (p : Char → Bool) : Nat → List Char → Except Error Cursor
  | pos, [] => .ok ⟨pos, []⟩
  | pos, '%' :: a :: b :: rest =>
    if isHexDigit a && isHexDigit b then skipEncoded p (pos + 3) rest
    else .error ⟨.invalidEncodedOctet, pos⟩
  | pos, c :: rest =>
    if c == '%' then .error ⟨.invalidEncodedOctet, pos⟩
    else if p c then skipEncoded p (pos + 1) rest
    else .ok ⟨pos, c :: rest⟩

/-- Passes a component in which octets may be encoded. -/
def Cursor.component (here : Cursor) (p : Char → Bool) : Except Error Cursor :=
  skipEncoded p here.pos here.rest

/-! ### Addresses in brackets -/

/-- One number of a dotted address: at most 255 and without leading zeros. -/
def octet? (here : Cursor) : Option Cursor :=
  let digits := (here.rest.take 3).takeWhile Char.isDigit
  match digits with
  | [] => none
  | '0' :: _ => some (here.skip 1)
  | _ =>
    let value := digits.foldl (fun n c => 10 * n + (c.toNat - '0'.toNat)) 0
    if value ≤ 255 then some (here.skip digits.length) else none

/-- Four numbers with points between them. -/
def dotted? (here : Cursor) : Option Cursor := do
  let here ← octet? here
  let here ← octet? (← here.skipChar? '.')
  let here ← octet? (← here.skipChar? '.')
  octet? (← here.skipChar? '.')

/-- What comes next in an IPv6 address. -/
inductive Group where
  /-- Up to four hexadecimal digits, after a colon or not. -/
  | digits (afterColon : Bool)
  /-- Two colons. -/
  | elision
  /-- The start of a dotted address, after a colon or not. -/
  | dotted (afterColon : Bool)
  /-- A colon with nothing that may follow it. -/
  | loneColon
  /-- Nothing that belongs to an address. -/
  | finish
  deriving DecidableEq, Repr

/-- The next group of an address, and the place after it. A dotted address is
    only announced. -/
def group (start : Cursor) : Group × Cursor :=
  let afterColon := start.rest.head? = some ':'
  let here := if afterColon then start.skip 1 else start
  let digits := (here.rest.take 4).takeWhile isHexDigit
  if digits.isEmpty then
    if !afterColon then (.finish, here)
    else if here.rest.head? = some ':' then (.elision, here.skip 1)
    else (.loneColon, here)
  else
    let after := here.skip digits.length
    -- A short group at the very end of the text is not closed by a bracket.
    if digits.length < 4 && after.rest.isEmpty then (.finish, after)
    else if digits.length < 4 && after.rest.head? = some '.' then (.dotted afterColon, here)
    else (.digits afterColon, after)

/-- Reads the groups of an address. `count` groups of sixteen bits are read, and
    `elided` is where two colons stood. Gives whether the groups make an
    address, and the place that reading reached. Two colons occur once at most,
    so that ten rounds are enough for the eight groups. -/
def groups : Nat → Nat → Option Nat → Cursor → Bool × Cursor
  | 0, _, _, here => (false, here)
  | fuel + 1, count, elided, here =>
    let complete := if elided.isSome then count ≠ 8 else count = 8
    if 8 ≤ count then (complete, here)
    else match group here with
      | (.digits afterColon, next) =>
        -- Every group follows a colon, but the first one and one right after two colons.
        if afterColon == (count == 0 || elided == some count) then (false, next)
        else groups fuel (count + 1) elided next
      | (.elision, next) =>
        if elided.isSome then (false, next) else groups fuel count (some count) next
      | (.dotted afterColon, next) =>
        -- A dotted address takes the room of two groups, and nothing follows it.
        if 6 < count || afterColon == (elided == some count) then (false, next)
        else match dotted? next with
          | none => (false, next)
          | some after =>
            let count := count + 2
            (if elided.isSome then count ≠ 8 else count = 8, after)
      | (.loneColon, next) => (false, next)
      | (.finish, next) => (complete, next)

/-- An address of a later version: a version number, a point and a name. -/
def futureAddress (here : Cursor) : Except Error Cursor :=
  if here.rest.head? = some 'v' ∨ here.rest.head? = some 'V' then
    let version := here.skip 1
    let afterVersion := version.skipWhile isHexDigit
    if afterVersion.pos = version.pos then version.fail .unexpectedChar
    else match afterVersion.skipChar? '.' with
      | none => afterVersion.fail .unexpectedChar
      | some name =>
        let afterName := name.skipWhile isUserChar
        if afterName.pos = name.pos then name.fail .unexpectedChar else .ok afterName
  else here.fail .unexpectedChar

/-- An address after its opening bracket. -/
def bracketed (start : Cursor) : Except Error Cursor := do
  let after ← match groups 10 0 none start with
    | (true, after) => .ok after
    | (false, reached) =>
      if reached.pos = start.pos then futureAddress start else start.fail .invalidAddress
  match after.skipChar? ']' with
  | none => after.fail .unexpectedChar
  | some after => .ok after

/-! ### The components -/

/-- A host: an address in brackets, or a name, which may be empty. -/
def host (here : Cursor) : Except Error Cursor :=
  match here.skipChar? '[' with
  | some inside => bracketed inside
  | none => here.component isNameChar

/-- The number after the host, if a colon announces one. -/
def hostNumber (here : Cursor) : Cursor :=
  match here.skipChar? ':' with
  | some digits => digits.skipWhile Char.isDigit
  | none => here

/-- The colons of the first characters of a text, as positions. -/
def colons (here : Cursor) (length : Nat) : List Nat :=
  ((here.rest.take length).zipIdx here.pos).filterMap
    (fun (c, i) => if c == ':' then some i else none)

/-- An authority. What stands before an at sign may hold any number of colons;
    without one, a single colon announces the number after the host. -/
def authority (start : Cursor) : Except Error Cursor := do
  let user ← start.component isUserChar
  match user.skipChar? '@' with
  | some afterUser => return hostNumber (← host afterUser)
  | none =>
    -- Without an at sign, what has been read is a host and maybe a number.
    if user.pos = start.pos then return hostNumber (← host start)
    else match (colons start (user.pos - start.pos)).reverse with
      | [] => return user
      | [colon] =>
        let afterPort := (start.skip (colon + 1 - start.pos)).skipWhile Char.isDigit
        if afterPort.pos < user.pos then afterPort.fail .unexpectedChar else return user
      | last :: _ => .error ⟨.unexpectedChar, last⟩

/-- A query and a fragment, each if announced, up to the end of the text. -/
def queryAndFragment (here : Cursor) : Except Error Unit := do
  let here ← match here.skipChar? '?' with
    | some query => query.component isQueryChar
    | none => .ok here
  let here ← match here.skipChar? '#' with
    | some fragment => fragment.component isQueryChar
    | none => .ok here
  if here.rest.isEmpty then .ok () else here.fail .unexpectedChar

/-- What follows the scheme. After an authority the path is empty or starts
    with a slash. -/
def hierarchy (here : Cursor) : Except Error Unit := do
  if here.rest.take 2 = ['/', '/'] then
    let start ← authority (here.skip 2)
    let afterPath ← start.component isPathChar
    if start.pos < afterPath.pos ∧ start.rest.head? ≠ some '/' then
      start.fail .unexpectedChar
    else queryAndFragment afterPath
  else queryAndFragment (← here.component isPathChar)

/-- Succeeds exactly on the URIs, and otherwise says what is wrong first. -/
def check (text : String) : Except Error Unit :=
  let start : Cursor := ⟨0, text.toList⟩
  let scheme := start.skipWhile isSchemeChar
  match scheme.skipChar? ':' with
  | none => scheme.fail .unexpectedChar
  | some afterScheme =>
    if (start.rest.head?.any Char.isAlpha) && 0 < scheme.pos then hierarchy afterScheme
    else start.fail .unexpectedChar

end Uri

/-- A text that is a URI. -/
structure Uri where
  text : String
  valid : Uri.check text = .ok ()

namespace Uri

/-- Takes a text as a URI, as it stands. -/
def parse (text : String) : Except Error Uri :=
  match h : check text with
  | .ok () => .ok ⟨text, h⟩
  | .error e => .error e

instance : DecidableEq Uri := fun a b =>
  if h : a.text = b.text then
    .isTrue (by cases a; cases b; cases h; rfl)
  else .isFalse (fun e => h (e ▸ rfl))

end Uri

end DocSync
