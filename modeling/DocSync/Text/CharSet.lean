import DocSync.Text.Borders

/-! # Sets of characters

  A set of characters is kept by its borders, like the tables of properties, so
  that it is plain data: two sets with the same characters up to the last code
  point are equal.
-/

namespace DocSync.Text

/-- A set of characters, by the code points at which it starts and stops. -/
structure CharSet where
  borders : List Nat
  deriving DecidableEq, Repr

namespace CharSet

def contains (s : CharSet) (c : Char) : Bool := holdsWithin s.borders c.toNat

/-! ### Single stretches -/

def empty : CharSet := ⟨[]⟩

def all : CharSet := ⟨[0, 0x110000]⟩

def range (first last : Char) : CharSet := ⟨[first.toNat, last.toNat + 1]⟩

def single (c : Char) : CharSet := range c c

def isEmpty (s : CharSet) : Bool := s.borders.isEmpty

/-- Tells whether all characters of a set are in ASCII. -/
def isAscii (s : CharSet) : Bool := s.borders.all (· ≤ 0x80)

/-! ### Combinations -/

/-- A border in front of others, if something changes there. -/
def border (place : Nat) (before after : Bool) (others : List Nat) : List Nat :=
  if before == after then others else place :: others

/-- The borders of a combination of two sets, of which each either holds or does
    not hold in front of its borders. -/
def merge (op : Bool → Bool → Bool) : Bool → Bool → List Nat → List Nat → List Nat
  | _, _, [], [] => []
  | p, q, x :: xs, [] => border x (op p q) (op (!p) q) (merge op (!p) q xs [])
  | p, q, [], y :: ys => border y (op p q) (op p (!q)) (merge op p (!q) [] ys)
  | p, q, x :: xs, y :: ys =>
    if x < y then border x (op p q) (op (!p) q) (merge op (!p) q xs (y :: ys))
    else if y < x then border y (op p q) (op p (!q)) (merge op p (!q) (x :: xs) ys)
    else border x (op p q) (op (!p) (!q)) (merge op (!p) (!q) xs ys)
termination_by _ _ xs ys => xs.length + ys.length

def union (s t : CharSet) : CharSet := ⟨merge (· || ·) false false s.borders t.borders⟩

def inter (s t : CharSet) : CharSet := ⟨merge (· && ·) false false s.borders t.borders⟩

def diff (s t : CharSet) : CharSet := ⟨merge (· && !·) false false s.borders t.borders⟩

/-- The characters that are in one of two sets only. -/
def symmDiff (s t : CharSet) : CharSet := ⟨merge (· != ·) false false s.borders t.borders⟩

def compl (s : CharSet) : CharSet := all.diff s

def unions (sets : List CharSet) : CharSet := sets.foldl union empty

/-- A set with the other case of each ASCII letter in it. -/
def withBothCases (s : CharSet) : CharSet :=
  let shift (t : CharSet) (move : Nat → Nat) : CharSet := ⟨t.borders.map move⟩
  unions [s, shift (s.inter (range 'A' 'Z')) (· + 32), shift (s.inter (range 'a' 'z')) (· - 32)]

/-! ### ASCII classes -/

def digits : CharSet := range '0' '9'

def letters : CharSet := (range 'A' 'Z').union (range 'a' 'z')

/-- The characters that words are made of. -/
def wordChars : CharSet := unions [letters, digits, single '_']

def blanks : CharSet := (range '\t' '\r').union (single ' ')

/-- The class of a name. -/
def ofName? (name : String) : Option CharSet :=
  match name with
  | "alnum" => some (letters.union digits)
  | "alpha" => some letters
  | "ascii" => some (range '\x00' '\x7f')
  | "blank" => some ((single '\t').union (single ' '))
  | "cntrl" => some ((range '\x00' '\x1f').union (single '\x7f'))
  | "digit" => some digits
  | "graph" => some (range '!' '~')
  | "lower" => some (range 'a' 'z')
  | "print" => some (range ' ' '~')
  | "punct" => some ((range '!' '~').diff (letters.union digits))
  | "space" => some blanks
  | "upper" => some (range 'A' 'Z')
  | "word" => some wordChars
  | "xdigit" => some (unions [digits, range 'A' 'F', range 'a' 'f'])
  | _ => none

end CharSet

end DocSync.Text
