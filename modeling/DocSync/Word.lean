/-! # Numbers of machine size

  The whole numbers that fit so many bits, with a sign or without one.
-/

namespace DocSync

/-- A size of whole numbers. -/
structure Word where
  bits : Nat
  isSigned : Bool
  deriving DecidableEq, Repr

namespace Word

def int32 : Word := ⟨32, true⟩

def nat32 : Word := ⟨32, false⟩

def int64 : Word := ⟨64, true⟩

def nat64 : Word := ⟨64, false⟩

/-- The number of numbers that are not negative. -/
def bound (w : Word) : Nat := Nat.pow 2 (if w.isSigned then w.bits - 1 else w.bits)

/-- Tells whether a number is of a size. -/
def admits (w : Word) (n : Int) : Bool :=
  n < w.bound && (if w.isSigned then -(w.bound : Int) ≤ n else 0 ≤ n)

/-- A number, if it is of a size. -/
def take? (w : Word) (n : Int) : Option Int := if w.admits n then some n else none

end Word

end DocSync
