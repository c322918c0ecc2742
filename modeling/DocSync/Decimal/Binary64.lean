import DocSync.Decimal

/-! # Numbers of double precision

  The finite numbers of the binary64 format, the one that is nearest to a
  decimal number, the product of two of them, and the shortest decimal number
  that a given one is nearest to. All of it is exact arithmetic on natural
  numbers.

  A decimal number too great for the format has no nearest number; one too
  small becomes zero.
-/

namespace DocSync

/-- The number `± mantissa * 2 ^ exponent`. -/
structure Binary64 where
  negative : Bool
  mantissa : Nat
  exponent : Int
  deriving DecidableEq, Repr

namespace Binary64

def minExponent : Int := -1074

def maxExponent : Int := 971

def twos (k : Nat) : Nat := Nat.pow 2 k

/-- The least mantissa of full precision, which has 53 bits. -/
def leastFull : Nat := twos 52

/-! ### The nearest number -/

/-- A quotient rounded to the nearest whole number, and to the even one of two
    that are equally near. -/
def roundDiv (num den : Nat) : Nat :=
  let floor := num / den
  let rest := num % den
  if den < 2 * rest ∨ (2 * rest = den ∧ floor % 2 = 1) then floor + 1 else floor

/-- The quotient of two positive numbers, rounded to 53 significant bits. -/
def ofQuotient (negative : Bool) (num den : Nat) : Option Binary64 :=
  let estimate : Int := (num.log2 : Int) - den.log2 - 52
  let scaled (q : Int) : Nat × Nat :=
    if 0 ≤ q then (num, den * twos q.toNat) else (num * twos (-q).toNat, den)
  -- The estimate may be one too great, and too small for the format.
  let (n, d) := scaled estimate
  let q := max minExponent (if n < leastFull * d then estimate - 1 else estimate)
  let (n, d) := scaled q
  -- Rounding up may reach the next power of two.
  let m := roundDiv n d
  let (m, q) := if m = 2 * leastFull then (leastFull, q + 1) else (m, q)
  if maxExponent < q then none else some ⟨negative, m, q⟩

/-- The number nearest to a decimal one, if that is not too great. Numbers from
    `10 ^ 310` on are too great in any case, and those below `10 ^ -330` are
    nearest to zero. -/
def nearest? (d : Decimal) : Option Binary64 :=
  if d.mantissa = 0 then some ⟨d.negative, 0, minExponent⟩
  else
    let top := (Decimal.digitCount d.mantissa : Int) + d.exponent
    if 310 < top then none
    else if top < -330 then some ⟨d.negative, 0, minExponent⟩
    else if 0 ≤ d.exponent then ofQuotient d.negative (d.mantissa * Decimal.tens d.exponent.toNat) 1
    else ofQuotient d.negative d.mantissa (Decimal.tens (-d.exponent).toNat)

/-- The product of two numbers, rounded, if it is not too great. -/
def mul? (x y : Binary64) : Option Binary64 :=
  let negative := x.negative != y.negative
  let m := x.mantissa * y.mantissa
  let q := x.exponent + y.exponent
  if m = 0 then some ⟨negative, 0, minExponent⟩
  else if 0 ≤ q then ofQuotient negative (m * twos q.toNat) 1
  else ofQuotient negative m (twos (-q).toNat)

/-! ### The shortest decimal number -/

/-- A magnitude as a quotient, in units of a quarter of the last place. -/
def quarters (x : Binary64) (count : Nat) : Nat × Nat :=
  let q := x.exponent - 2
  if 0 ≤ q then (count * twos q.toNat, 1) else (count, twos (-q).toNat)

/-- Tells whether `n / d`, a magnitude, is nearer to a number than to its
    neighbours. The ends of the interval belong to it if the mantissa is even. -/
def covers (x : Binary64) (n d : Nat) : Bool :=
  let below := if x.mantissa = leastFull ∧ minExponent < x.exponent then 1 else 2
  let (lowNum, lowDen) := x.quarters (4 * x.mantissa - below)
  let (highNum, highDen) := x.quarters (4 * x.mantissa + 2)
  if x.mantissa % 2 = 0 then lowNum * d ≤ n * lowDen && n * highDen ≤ highNum * d
  else lowNum * d < n * lowDen && n * highDen < highNum * d

/-- The number of digits before the point; for numbers below one, less the
    number of zeros right after it. -/
def magnitude (num den : Nat) : Int :=
  (Decimal.digitCount (num * Decimal.tens 400 / den) : Int) - 400

/-- The decimal number of so many digits at most that is nearest, if it is
    nearer to the given number than to its neighbours. A power of ten that is
    reached from below is written with the digit one. -/
def candidate? (x : Binary64) (digits : Nat) : Option Decimal :=
  let (num, den) := x.quarters (4 * x.mantissa)
  let e := magnitude num den - digits
  let (n, d) :=
    if 0 ≤ e then (num, den * Decimal.tens e.toNat) else (num * Decimal.tens (-e).toNat, den)
  let fits (m : Nat) : Bool :=
    if 0 ≤ e then x.covers (m * Decimal.tens e.toNat) 1
    else x.covers m (Decimal.tens (-e).toNat)
  let floor := n / d
  let near := roundDiv n d
  let far := if near = floor then floor + 1 else floor
  let written (m : Nat) : Decimal :=
    if m = Decimal.tens digits then ⟨x.negative, 1, e + digits⟩ else ⟨x.negative, m, e⟩
  if fits near then some (written near)
  else if fits far then some (written far)
  else none

/-- The decimal number of the fewest digits among those nearer to the given
    number than to its neighbours; seventeen digits are always enough. -/
def shortest (x : Binary64) : Decimal :=
  if x.mantissa = 0 then ⟨x.negative, 0, 0⟩
  else ((List.range 17).findSome? (fun k => x.candidate? (k + 1))).getD ⟨x.negative, 0, 0⟩

end Binary64

end DocSync
