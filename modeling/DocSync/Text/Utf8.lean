/-! # Texts as bytes

  Reads UTF-8. A sequence of bytes is cut, from the front, into the encodings
  of characters and into faults. A fault is one byte that starts no encoding,
  or the longest start of an encoding that is then broken off.

  `decode?` gives the text when there is no fault, and `decodeLossy` writes a
  replacement character for each fault.
-/

namespace DocSync.Text.Utf8

/-- What stands for bytes that are no character. -/
def replacement : Char := '\uFFFD'

/-- Takes up to `count` bytes of the form `10xxxxxx`, adding the bits of each to
    `value`. Gives no value if one of them is missing. -/
def following : Nat → Nat → List UInt8 → Option Nat × List UInt8
  | 0, value, bytes => (some value, bytes)
  | _ + 1, _, [] => (none, [])
  | count + 1, value, b :: rest =>
    if 0x80 ≤ b.toNat ∧ b.toNat ≤ 0xBF then
      following count (value * 64 + (b.toNat - 0x80)) rest
    else (none, b :: rest)

/-- How an encoding goes on after its first byte. -/
structure Lead where
  /-- The number of bytes still to come. -/
  count : Nat
  /-- The bits that the first byte gives. -/
  bits : Nat
  /-- The least second byte. -/
  low : Nat
  /-- The greatest second byte. -/
  high : Nat

/-- The meaning of a first byte of several. The bounds on the second byte keep
    out encodings that are too long, surrogates, and what is beyond the last
    code point. -/
def lead? (b : Nat) : Option Lead :=
  if 0xC2 ≤ b ∧ b ≤ 0xDF then some ⟨1, b - 0xC0, 0x80, 0xBF⟩
  else if b = 0xE0 then some ⟨2, 0, 0xA0, 0xBF⟩
  else if b = 0xED then some ⟨2, 0xD, 0x80, 0x9F⟩
  else if 0xE1 ≤ b ∧ b ≤ 0xEF then some ⟨2, b - 0xE0, 0x80, 0xBF⟩
  else if b = 0xF0 then some ⟨3, 0, 0x90, 0xBF⟩
  else if b = 0xF4 then some ⟨3, 4, 0x80, 0x8F⟩
  else if 0xF1 ≤ b ∧ b ≤ 0xF3 then some ⟨3, b - 0xF0, 0x80, 0xBF⟩
  else none

/-- The character or fault that starts with a byte, and the bytes after it. -/
def next (b : UInt8) (rest : List UInt8) : Option Char × List UInt8 :=
  if b.toNat < 0x80 then (some (Char.ofNat b.toNat), rest)
  else match lead? b.toNat with
    | none => (none, rest)
    | some lead =>
      match rest with
      | [] => (none, [])
      | second :: others =>
        if lead.low ≤ second.toNat ∧ second.toNat ≤ lead.high then
          let (value, after) := following lead.count lead.bits (second :: others)
          (value.map Char.ofNat, after)
        else (none, second :: others)

theorem length_following_le (count value : Nat) (bytes : List UInt8) :
    (following count value bytes).2.length ≤ bytes.length := by
  fun_induction following count value bytes <;> grind

theorem length_next_le (b : UInt8) (rest : List UInt8) :
    (next b rest).2.length ≤ rest.length := by
  unfold next
  split
  · exact Nat.le_refl _
  · split
    · exact Nat.le_refl _
    · split
      · exact Nat.le_refl _
      · split
        · exact length_following_le _ _ _
        · exact Nat.le_refl _

/-- The characters and faults of a sequence of bytes; a fault is `none`. -/
def pieces : List UInt8 → List (Option Char)
  | [] => []
  | b :: rest => (next b rest).1 :: pieces (next b rest).2
termination_by bytes => bytes.length
decreasing_by exact Nat.lt_succ_of_le (length_next_le b rest)

/-- The text that the bytes encode, if they do. -/
def decode? (bytes : List UInt8) : Option String :=
  ((pieces bytes).mapM id).map String.ofList

/-- The text that the bytes encode, with a replacement for each fault. -/
def decodeLossy (bytes : List UInt8) : String :=
  String.ofList ((pieces bytes).map (·.getD replacement))

def encode (text : String) : List UInt8 := text.toList.flatMap String.utf8EncodeChar

end DocSync.Text.Utf8
