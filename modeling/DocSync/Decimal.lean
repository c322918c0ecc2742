/-! # Decimal numbers

  A number in decimal notation, as it is read from a text and as it is written
  back: a sign, digits taken as one natural number, and a power of ten. The
  sign is kept apart, so that there is a negative zero.
-/

namespace DocSync

/-- The number `± mantissa * 10 ^ exponent`. -/
structure Decimal where
  negative : Bool
  mantissa : Nat
  exponent : Int
  deriving DecidableEq, Repr

namespace Decimal

def digitCount (n : Nat) : Nat := (Nat.toDigits 10 n).length

def tens (k : Nat) : Nat := Nat.pow 10 k

def digitValue (c : Char) : Nat := c.toNat - '0'.toNat

/-- The number that a row of digits spells. -/
def ofDigits (digits : List Char) : Nat := digits.foldl (fun n c => 10 * n + digitValue c) 0

/-- A number without fraction digits, some fraction digits, and a power of ten. -/
def ofParts (negative : Bool) (whole fraction : List Char) (exponent : Int) : Decimal :=
  ⟨negative, ofDigits (whole ++ fraction), exponent - fraction.length⟩

/-- Digits with a point so many places from the right. -/
def placePoint (digits : List Char) (places : Nat) : List Char :=
  let padded := List.replicate (places + 1 - digits.length) '0' ++ digits
  let whole := padded.take (padded.length - places)
  let fraction := padded.drop (padded.length - places)
  if fraction.isEmpty then whole else whole ++ '.' :: fraction

/-- The number written out without a power of ten. -/
def plain (d : Decimal) : String :=
  let digits := Nat.toDigits 10 d.mantissa
  let body :=
    if d.mantissa = 0 then ['0']
    else if 0 ≤ d.exponent then digits ++ List.replicate d.exponent.toNat '0'
    else placePoint digits (-d.exponent).toNat
  String.ofList (if d.negative then '-' :: body else body)

end Decimal

end DocSync
