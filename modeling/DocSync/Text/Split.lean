/-! # Splitting at a separator

  `split` cuts a text at every occurrence of a character and keeps the empty
  segments, so that even the empty text has one; `join` puts the separator back
  between the segments. `join_split` says that nothing is lost.
-/

namespace DocSync.Text

/-- The segments between the separators. -/
def split (sep : Char) : List Char → List (List Char)
  | [] => [[]]
  | c :: rest =>
    if c = sep then [] :: split sep rest
    else match split sep rest with
      | [] => [[c]]
      | first :: others => (c :: first) :: others

/-- The segments with a separator between each two. -/
def join (sep : Char) : List (List Char) → List Char
  | [] => []
  | [segment] => segment
  | segment :: rest => segment ++ sep :: join sep rest

theorem split_ne_nil (sep : Char) (text : List Char) : split sep text ≠ [] := by
  cases text with
  | nil => simp [split]
  | cons c rest =>
    simp only [split]
    split
    · simp
    · split <;> simp

theorem join_cons {sep : Char} {segment : List Char} {rest : List (List Char)} (h : rest ≠ []) :
    join sep (segment :: rest) = segment ++ sep :: join sep rest := by
  cases rest with
  | nil => exact absurd rfl h
  | cons _ _ => rfl

theorem join_cons_char (sep c : Char) (segment : List Char) (rest : List (List Char)) :
    join sep ((c :: segment) :: rest) = c :: join sep (segment :: rest) := by
  cases rest <;> rfl

/-- Joining the segments of a text gives the text back. -/
theorem join_split (sep : Char) (text : List Char) : join sep (split sep text) = text := by
  induction text with
  | nil => rfl
  | cons c rest ih =>
    simp only [split]
    split
    · next h => rw [join_cons (split_ne_nil sep rest), ih, h]; rfl
    · split
      · next hnil => exact absurd hnil (split_ne_nil sep rest)
      · next first others hcons => rw [join_cons_char, ← hcons, ih]

end DocSync.Text
