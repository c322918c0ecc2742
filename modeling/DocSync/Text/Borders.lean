/-! # Properties of characters

  A property that divides the code points into stretches is given by its
  borders: the code points at which it starts and ceases to hold, alternately
  and in order. The tables of properties follow version 17 of Unicode.
-/

namespace DocSync.Text

/-- Tells whether the property with these borders holds at a code point, which
    is so if the last border not after it is one where the property starts. -/
def holdsWithin (borders : List Nat) (n : Nat) : Bool :=
  (borders.takeWhile (· ≤ n)).length % 2 == 1

end DocSync.Text
