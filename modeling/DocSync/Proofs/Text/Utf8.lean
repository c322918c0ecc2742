import DocSync.Text.Utf8

/-! # Decoding what is encoded

  The encoding of a character is read back, whatever comes after it, and so is that
  of a text. A character takes one byte, or a lead and up to three bytes that give
  six bits each (`following_cons`); what bounds the second byte keeps none of them out.

  - `next_utf8EncodeChar`: the character at the front of an encoded text.
  - `decode?_encode`: the whole text.
-/

namespace DocSync.Text.Utf8

/-! ### One character -/

/-- A byte that goes on with an encoding gives six bits. -/
theorem following_cons {d : Nat} (h : d < 64) (count value : Nat) (rest : List UInt8) :
    following (count + 1) value (UInt8.ofNat (d + 0x80) :: rest) =
      following count (value * 64 + d) rest := by
  have hbyte : (UInt8.ofNat (d + 0x80)).toNat = d + 0x80 := by
    rw [UInt8.toNat_ofNat']
    omega
  rw [following, if_pos (by omega), hbyte, Nat.add_sub_cancel]

/-- What is read behind a lead, if the second byte is within its bounds. -/
theorem next_of_lead {b d : Nat} {lead : Lead} (hb : 0x80 ≤ b) (hb' : b < 256)
    (hlead : lead? b = some lead) (hd : d < 64) (hlow : lead.low ≤ d + 0x80)
    (hhigh : d + 0x80 ≤ lead.high) (rest : List UInt8) :
    next (UInt8.ofNat b) (UInt8.ofNat (d + 0x80) :: rest) =
      let (value, after) := following lead.count lead.bits (UInt8.ofNat (d + 0x80) :: rest)
      (value.map Char.ofNat, after) := by
  have hbyte : (UInt8.ofNat b).toNat = b := by
    rw [UInt8.toNat_ofNat']
    omega
  have hsecond : (UInt8.ofNat (d + 0x80)).toNat = d + 0x80 := by
    rw [UInt8.toNat_ofNat']
    omega
  rw [next, hbyte, if_neg (by omega), hlead]
  simp only [hsecond]
  rw [if_pos ⟨hlow, hhigh⟩]

/-- The encoding of a character is read back, whatever comes after it. -/
theorem next_utf8EncodeChar (c : Char) (rest : List UInt8) :
    ∃ b bytes, String.utf8EncodeChar c = b :: bytes ∧ next b (bytes ++ rest) = (some c, rest) := by
  have hvalid : c.val.toNat < 0xD800 ∨ 0xDFFF < c.val.toNat ∧ c.val.toNat < 0x110000 := c.valid
  have hchar : Char.ofNat c.val.toNat = c := Char.ofNat_toNat c
  unfold String.utf8EncodeChar
  generalize c.val.toNat = v at hvalid hchar
  simp only
  by_cases hone : v ≤ 0x7F
  · refine ⟨UInt8.ofNat v, [], by rw [if_pos hone], ?_⟩
    have hbyte : (UInt8.ofNat v).toNat = v := by
      rw [UInt8.toNat_ofNat']
      omega
    rw [next, hbyte, if_pos (by omega), hchar, List.nil_append]
  by_cases htwo : v ≤ 0x7FF
  · refine ⟨_, _, by rw [if_neg hone, if_pos htwo], ?_⟩
    have hlead : lead? (v / 64 % 0x20 + 0xC0) = some ⟨1, v / 64 % 0x20, 0x80, 0xBF⟩ := by
      rw [lead?, if_pos (by omega), Nat.add_sub_cancel]
    rw [List.cons_append, next_of_lead (by omega) (by omega) hlead (by omega) (by simp)
      (by simp only; omega), List.nil_append]
    simp only
    rw [following_cons (by omega), following]
    have hvalue : v / 64 % 0x20 * 64 + v % 0x40 = v := by omega
    simp [hvalue, hchar]
  by_cases hthree : v ≤ 0xFFFF
  · refine ⟨_, _, by rw [if_neg hone, if_neg htwo, if_pos hthree], ?_⟩
    -- The two leads with bounds of their own keep out what is too long, and surrogates.
    obtain ⟨lead, hlead, hcount, hbits, hlow, hhigh⟩ :
        ∃ lead, lead? (v / 4096 % 0x10 + 0xE0) = some lead ∧ lead.count = 2 ∧
          lead.bits = v / 4096 % 0x10 ∧ lead.low ≤ v / 64 % 0x40 + 0x80 ∧
          v / 64 % 0x40 + 0x80 ≤ lead.high := by
      rw [lead?, if_neg (by omega)]
      by_cases hfirst : v / 4096 % 0x10 + 0xE0 = 0xE0
      · exact ⟨_, by rw [if_pos hfirst], rfl, by simp only; omega, by simp only; omega,
          by simp only; omega⟩
      rw [if_neg hfirst]
      by_cases hsurrogates : v / 4096 % 0x10 + 0xE0 = 0xED
      · exact ⟨_, by rw [if_pos hsurrogates], rfl, by simp only; omega, by simp only; omega,
          by simp only; omega⟩
      rw [if_neg hsurrogates]
      exact ⟨_, by rw [if_pos (by omega)], rfl, by simp only; omega, by simp only; omega,
        by simp only; omega⟩
    rw [List.cons_append, List.cons_append, next_of_lead (by omega) (by omega) hlead (by omega)
      hlow hhigh, hcount, hbits, List.nil_append]
    rw [following_cons (by omega), following_cons (by omega), following]
    have hvalue : (v / 4096 % 0x10 * 64 + v / 64 % 0x40) * 64 + v % 0x40 = v := by omega
    simp [hvalue, hchar]
  · refine ⟨_, _, by rw [if_neg hone, if_neg htwo, if_neg hthree], ?_⟩
    obtain ⟨lead, hlead, hcount, hbits, hlow, hhigh⟩ :
        ∃ lead, lead? (v / 262144 % 0x08 + 0xF0) = some lead ∧ lead.count = 3 ∧
          lead.bits = v / 262144 % 0x08 ∧ lead.low ≤ v / 4096 % 0x40 + 0x80 ∧
          v / 4096 % 0x40 + 0x80 ≤ lead.high := by
      rw [lead?, if_neg (by omega), if_neg (by omega), if_neg (by omega), if_neg (by omega)]
      by_cases hfirst : v / 262144 % 0x08 + 0xF0 = 0xF0
      · exact ⟨_, by rw [if_pos hfirst], rfl, by simp only; omega, by simp only; omega,
          by simp only; omega⟩
      rw [if_neg hfirst]
      by_cases hlast : v / 262144 % 0x08 + 0xF0 = 0xF4
      · exact ⟨_, by rw [if_pos hlast], rfl, by simp only; omega, by simp only; omega,
          by simp only; omega⟩
      rw [if_neg hlast]
      exact ⟨_, by rw [if_pos (by omega)], rfl, by simp only; omega, by simp only; omega,
        by simp only; omega⟩
    rw [List.cons_append, List.cons_append, List.cons_append, next_of_lead (by omega) (by omega)
      hlead (by omega) hlow hhigh, hcount, hbits, List.nil_append]
    rw [following_cons (by omega), following_cons (by omega), following_cons (by omega), following]
    have hvalue :
        ((v / 262144 % 0x08 * 64 + v / 4096 % 0x40) * 64 + v / 64 % 0x40) * 64 + v % 0x40 = v := by
      omega
    simp [hvalue, hchar]

/-! ### Texts -/

theorem pieces_encode (chars : List Char) :
    pieces (chars.flatMap String.utf8EncodeChar) = chars.map some := by
  induction chars with
  | nil => rw [List.flatMap_nil, pieces, List.map_nil]
  | cons c chars ih =>
    obtain ⟨b, bytes, hbytes, hnext⟩ :=
      next_utf8EncodeChar c (chars.flatMap String.utf8EncodeChar)
    rw [List.flatMap_cons, hbytes, List.cons_append, pieces, hnext, ih, List.map_cons]

/-- An encoded text is decoded to itself. -/
theorem decode?_encode (text : String) : decode? (encode text) = some text := by
  have hall (chars : List Char) : (chars.map some).mapM id = some chars := by
    induction chars with
    | nil => rfl
    | cons c chars ih => simp [ih]
  rw [decode?, encode, pieces_encode, hall, Option.map_some, String.ofList_toList]

end DocSync.Text.Utf8
