import DocSync.Text.Blank

/-! # Flags of written patterns

  How a written pattern is to be understood depends on flags, which may be
  switched on and off within it. At first only `unicode` is on.
-/

namespace DocSync.Pattern

/-- What may be switched within a written pattern. -/
inductive Flag where
  /-- Letters stand for either case. -/
  | ignoreCase
  /-- The marks for the start and the end are about lines. -/
  | multiLine
  /-- A point stands for a line break too. -/
  | dotAll
  /-- Repetitions are greedy only if they are marked. -/
  | swapGreed
  /-- Characters are code points and not bytes. -/
  | unicode
  /-- Lines may end with a carriage return. -/
  | anyBreaks
  /-- White space and comments do not count. -/
  | spaced
  deriving DecidableEq, Repr

abbrev Flags := List Flag

def Flag.ofChar? : Char → Option Flag
  | 'i' => some .ignoreCase
  | 'm' => some .multiLine
  | 's' => some .dotAll
  | 'U' => some .swapGreed
  | 'u' => some .unicode
  | 'R' => some .anyBreaks
  | 'x' => some .spaced
  | _ => none

namespace Flags

/-- The flags that are on at first. -/
def initial : Flags := [.unicode]

def has (flags : Flags) (f : Flag) : Bool := flags.contains f

def switch (flags : Flags) (f : Flag) (isOn : Bool) : Flags :=
  if isOn then f :: flags else flags.filter (· ≠ f)

/-- Switches flags one after another. -/
def switchAll (flags : Flags) (switches : List (Flag × Bool)) : Flags :=
  switches.foldl (fun flags (f, isOn) => flags.switch f isOn) flags

/-- Reads switches up to a colon or a closing parenthesis, which is given with
    the text after it. Those after a minus sign are switched off; there is one
    such sign at most, and it is not the last one. No flag is named twice. -/
def readSwitches (switches : List (Flag × Bool)) (isOn isAfterSign : Bool) :
    List Char → Option (List (Flag × Bool) × Char × List Char)
  | [] => none
  | c :: rest =>
    if c = ':' ∨ c = ')' then if isAfterSign then none else some (switches, c, rest)
    else if c = '-' then if isOn then readSwitches switches false true rest else none
    else
      match Flag.ofChar? c with
      | none => none
      | some f =>
        if switches.any (·.1 = f) then none
        else readSwitches (switches ++ [(f, isOn)]) isOn false rest

/-! ### Blanks -/

/-- The text without leading white space and comments, which begin with a number
    sign and end with their line. -/
def dropBlanks (isComment : Bool) : List Char → List Char
  | [] => []
  | c :: rest =>
    if isComment then dropBlanks (c != '\n') rest
    else if c = '#' then dropBlanks true rest
    else if Text.isBlank c then dropBlanks false rest
    else c :: rest

/-- The text without what does not count at its start. -/
def skip (flags : Flags) (text : List Char) : List Char :=
  if flags.has .spaced then dropBlanks false text else text

end Flags

end DocSync.Pattern
