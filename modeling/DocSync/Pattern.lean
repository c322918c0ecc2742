import DocSync.Text.CharSet

/-! # Patterns of texts

  A pattern describes texts. There may be several ways to go on from a place in
  a text, and they are in an order: of two alternatives the first one comes
  first, and a repetition prefers another round to its end, or the end to
  another round if it is not greedy.

  * `Pattern.ways` are the ways to go on at a place: with a character from a
    set, or not at all since the pattern is done.
  * `Pattern.isAtEnd` searches a text from left to right for the first place at
    which the pattern begins to fit, and takes the first way from there. It
    tells whether that way may be done at the end of the text.

  A way that comes after one that is done is never taken. This is why a pattern
  that fits early in a text, and could only end early, hides a later place at
  which it would fit up to the end.
-/

namespace DocSync

open Text (CharSet)

/-! ### Places -/

/-- A place in a text, by the characters next to it. -/
structure Place where
  before : Option Char
  after : Option Char

/-- What a pattern may ask of a place. -/
inductive Assertion where
  | textStart
  | textEnd
  | lineStart
  | lineEnd
  /-- The start of a line, which may also end with a carriage return. -/
  | anyLineStart
  | anyLineEnd
  | wordBoundary
  | noWordBoundary
  | wordStart
  | wordEnd
  deriving DecidableEq, Repr

namespace Place

/-- Tells whether a character that may be missing is part of a word. -/
def isWord (c : Option Char) : Bool := c.any CharSet.wordChars.contains

def meets (p : Place) : Assertion → Bool
  | .textStart => p.before.isNone
  | .textEnd => p.after.isNone
  | .lineStart => p.before.all (· == '\n')
  | .lineEnd => p.after.all (· == '\n')
  | .anyLineStart => p.before.all (fun c => c == '\n' || (c == '\r' && p.after != some '\n'))
  | .anyLineEnd => p.after.all (fun c => c == '\r' || (c == '\n' && p.before != some '\r'))
  | .wordBoundary => isWord p.before != isWord p.after
  | .noWordBoundary => isWord p.before == isWord p.after
  | .wordStart => !isWord p.before && isWord p.after
  | .wordEnd => isWord p.before && !isWord p.after

end Place

/-! ### Patterns -/

/-- A description of texts. -/
inductive Pattern where
  /-- The empty text. -/
  | empty
  /-- One character. -/
  | one (set : CharSet)
  /-- The empty text, at certain places. -/
  | place (assertion : Assertion)
  | seq (first second : Pattern)
  | either (first second : Pattern)
  | optional (body : Pattern) (isGreedy : Bool)
  /-- One round or more. -/
  | many (body : Pattern) (isGreedy : Bool)
  /-- The rest of a repetition after some round. -/
  | again (body : Pattern) (isGreedy : Bool)
  deriving DecidableEq, Repr

namespace Pattern

def inRow : List Pattern → Pattern
  | [] => .empty
  | [pattern] => pattern
  | pattern :: others => .seq pattern (inRow others)

/-- The first of several patterns that fits. -/
def anyOf : List Pattern → Pattern
  | [] => .empty
  | [pattern] => pattern
  | pattern :: others => .either pattern (anyOf others)

/-! ### Ways to go on -/

/-- A way to go on. -/
inductive Way where
  | done
  | step (set : CharSet) (rest : Pattern)
  deriving DecidableEq, Repr

namespace Way

/-- A way with something to follow after its steps. -/
def followedBy (next : Pattern) : Way → Way
  | .done => .done
  | .step set .empty => .step set next
  | .step set rest => .step set (.seq rest next)

def isDone : Way → Bool
  | .done => true
  | .step _ _ => false

end Way

/-- The ways to go on, with the one to end placed by how greedy a repetition is. -/
def withEnd (isGreedy : Bool) (ways : List Way) : List Way :=
  (if isGreedy then ways ++ [.done] else .done :: ways).eraseDups

/-- The ways to go on at a place. A repetition does not start a round over
    before a character is taken. -/
def ways (p : Place) : Pattern → List Way
  | .empty => [.done]
  | .one set => [.step set .empty]
  | .place assertion => if p.meets assertion then [.done] else []
  | .seq first second =>
    ((ways p first).flatMap (fun way =>
      if way.isDone then ways p second else [way.followedBy second])).eraseDups
  | .either first second => (ways p first ++ ways p second).eraseDups
  | .optional body isGreedy => withEnd isGreedy (ways p body)
  | .many body isGreedy => (ways p body).map (Way.followedBy (.again body isGreedy))
  | .again body isGreedy =>
    withEnd isGreedy (((ways p body).filter (!·.isDone)).map
      (Way.followedBy (.again body isGreedy)))

/-! ### Search -/

/-- What is left to be found after a character. What comes after an end is not
    looked at any more. -/
def advance (c : Char) (ways : List Way) : List Pattern :=
  ((ways.takeWhile (!·.isDone)).filterMap (fun way =>
    match way with
    | .step set rest => if set.contains c then some rest else none
    | .done => none)).eraseDups

/-- Tells whether one of several patterns, the first ones first, is done at the
    end of a text. -/
def endsWith : Option Char → List Pattern → List Char → Bool
  | before, patterns, [] => (patterns.flatMap (ways ⟨before, none⟩)).any Way.isDone
  | before, patterns, c :: rest =>
    endsWith (some c) (advance c (patterns.flatMap (ways ⟨before, some c⟩)).eraseDups) rest

/-- A pattern behind as few other characters as possible. -/
def searched (pattern : Pattern) : Pattern :=
  .seq (.optional (.many (.one .all) false) false) pattern

/-- Tells whether a pattern fits up to the end of a text. -/
def isAtEnd (pattern : Pattern) (text : List Char) : Bool := endsWith none [pattern.searched] text

end Pattern

end DocSync
