import DocSync.Decimal

/-! # Dates and times

  The moments that TOML knows: a date, a time of day, or both with or without
  an offset. They are read strictly, each part with its number of digits and
  within its range, and written in one fixed form. The seconds may be missing.
  Of the fraction of a second nine digits are kept.
-/

namespace DocSync.Toml

structure Date where
  year : Nat
  month : Nat
  day : Nat
  deriving DecidableEq, Repr

structure Time where
  hour : Nat
  minute : Nat
  second : Option Nat
  /-- Billionths of a second. -/
  fraction : Option Nat
  deriving DecidableEq, Repr

/-- The distance from universal time. -/
inductive Offset where
  | universal
  /-- In minutes. -/
  | minutes (n : Int)
  deriving DecidableEq, Repr

/-- A date, a time, or both. -/
inductive Moment where
  | date (d : Date)
  | time (t : Time)
  | dateTime (d : Date) (t : Time) (offset : Option Offset)
  deriving DecidableEq, Repr

namespace Moment

/-! ### Reading -/

/-- A number of exactly so many digits. -/
def fixed? (count : Nat) (text : List Char) : Option (Nat × List Char) :=
  let row := text.take count
  if row.length = count ∧ row.all Char.isDigit then some (Decimal.ofDigits row, text.drop count)
  else none

/-- A given character. -/
def mark? (c : Char) : List Char → Option (List Char)
  | d :: rest => if c = d then some rest else none
  | [] => none

/-- Tells whether a year has a day more than others. -/
def isLeap (year : Nat) : Bool := (year % 4 = 0 ∧ year % 100 ≠ 0) ∨ year % 400 = 0

def monthLength (year month : Nat) : Nat :=
  if month = 2 then (if isLeap year then 29 else 28)
  else if month = 4 ∨ month = 6 ∨ month = 9 ∨ month = 11 then 30
  else 31

def date? (text : List Char) : Option (Date × List Char) := do
  let (year, rest) ← fixed? 4 text
  let (month, rest) ← fixed? 2 (← mark? '-' rest)
  let (day, rest) ← fixed? 2 (← mark? '-' rest)
  if 1 ≤ month ∧ month ≤ 12 ∧ 1 ≤ day ∧ day ≤ monthLength year month then
    some (⟨year, month, day⟩, rest)
  else none

/-- The fraction of a second after its point. -/
def fraction? (text : List Char) : Option (Nat × List Char) :=
  let row := text.takeWhile Char.isDigit
  if row.isEmpty then none
  else
    let kept := row.take 9
    some (Decimal.ofDigits kept * Decimal.tens (9 - kept.length), text.dropWhile Char.isDigit)

def time? (text : List Char) : Option (Time × List Char) := do
  let (hour, rest) ← fixed? 2 text
  let (minute, rest) ← fixed? 2 (← mark? ':' rest)
  if 23 < hour ∨ 59 < minute then none
  match rest with
  | ':' :: rest =>
    let (second, rest) ← fixed? 2 rest
    if 60 < second then none
    match rest with
    | '.' :: rest =>
      let (fraction, rest) ← fraction? rest
      return (⟨hour, minute, some second, some fraction⟩, rest)
    | rest => return (⟨hour, minute, some second, none⟩, rest)
  | rest => return (⟨hour, minute, none, none⟩, rest)

/-- An offset in hours and minutes, less than a day. -/
def signedOffset? (negative : Bool) (text : List Char) : Option Offset := do
  let (hours, rest) ← fixed? 2 text
  let (minutes, rest) ← fixed? 2 (← mark? ':' rest)
  let total : Int := hours * 60 + minutes
  if rest.isEmpty ∧ hours ≤ 23 ∧ minutes ≤ 59 then
    some (.minutes (if negative then -total else total))
  else none

/-- An offset that is all of a text, if there is one. -/
def offset? : List Char → Option (Option Offset)
  | [] => some none
  | ['Z'] => some (some .universal)
  | ['z'] => some (some .universal)
  | '+' :: rest => (signedOffset? false rest).map some
  | '-' :: rest => (signedOffset? true rest).map some
  | _ => none

/-- Tells whether a character stands between a date and a time. -/
def isDelimiter (c : Char) : Bool := c == 'T' || c == 't' || c == ' '

def read? (text : List Char) : Option Moment :=
  match date? text with
  | some (d, []) => some (.date d)
  | some (d, c :: rest) => do
    if !isDelimiter c then none
    let (t, rest) ← time? rest
    return .dateTime d t (← offset? rest)
  | none =>
    match time? text with
    | some (t, []) => some (.time t)
    | _ => none

/-! ### Writing -/

/-- A number with zeros in front up to a length. -/
def padded (length n : Nat) : List Char :=
  let digits := Nat.toDigits 10 n
  List.replicate (length - digits.length) '0' ++ digits

def dateText (d : Date) : List Char :=
  padded 4 d.year ++ '-' :: padded 2 d.month ++ '-' :: padded 2 d.day

/-- A fraction of a second, without the zeros at its end but for the first. -/
def fractionText (n : Nat) : List Char :=
  let digits := ((padded 9 n).reverse.dropWhile (· == '0')).reverse
  if digits.isEmpty then ['0'] else digits

def timeText (t : Time) : List Char :=
  padded 2 t.hour ++ ':' :: padded 2 t.minute ++
    (match t.second with
      | some second => ':' :: padded 2 second
      | none => []) ++
    (match t.fraction with
      | some fraction => '.' :: fractionText fraction
      | none => [])

/-- An offset with its sign; universal time is a letter. -/
def offsetText : Offset → List Char
  | .universal => ['Z']
  | .minutes n =>
    (if n < 0 then '-' else '+') :: padded 2 (n.natAbs / 60) ++ ':' :: padded 2 (n.natAbs % 60)

/-- A moment, with a letter between date and time. -/
def text : Moment → String
  | .date d => String.ofList (dateText d)
  | .time t => String.ofList (timeText t)
  | .dateTime d t offset =>
    String.ofList (dateText d ++ 'T' :: timeText t ++ (offset.map offsetText).getD [])

end Moment

end DocSync.Toml
