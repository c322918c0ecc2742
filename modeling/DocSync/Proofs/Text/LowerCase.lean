import DocSync.Text.LowerCase

/-! # Lower case and ASCII

  A name of ASCII characters is looked for in a text without regard to case, by
  bringing the whole text to its Unicode lower case. Nearly always this finds what
  lower case of the ASCII letters alone would find: beyond ASCII only the Kelvin
  sign and the capital I with a dot have a lower case that starts with an ASCII
  letter. `isPrefix_lowerFrom_iff` says so of names without the letters `k` and `i`.
-/

namespace DocSync.Text

/-! ### One character -/

/-- A row of the table lies within ASCII, or leads from beyond ASCII to characters
    beyond ASCII, or is that of the Kelvin sign. -/
theorem lowerRows_cases : ∀ row ∈ lowerRows,
    row.2.1 < 128 ∨
    (128 ≤ row.1 ∧ 128 ≤ row.1 + row.2.2.2 ∧
      (row.2.1 + row.2.2.2 < 0xD800 ∨
        (0xDFFF < row.1 + row.2.2.2 ∧ row.2.1 + row.2.2.2 < 0x110000))) ∨
    row = (0x212A, 0x212A, 1, -8383) := by
  decide +kernel

theorem toNat_ofNat_of_lt {n : Nat} (h : n < 0xD800 ∨ (0xDFFF < n ∧ n < 0x110000)) :
    (Char.ofNat n).toNat = n := by
  have hvalid : n.isValidChar := h
  rw [Char.ofNat, dif_pos hvalid]
  rfl

/-- Within ASCII the lower case is that of the letters. -/
theorem lowerChar_of_ascii {c : Char} (h : c.toNat < 128) : lowerChar c = c.toLower := by
  have hall : ∀ n < 128, lowerChar (Char.ofNat n) = (Char.ofNat n).toLower := by decide +kernel
  rw [← Char.ofNat_toNat c]
  exact hall c.toNat h

/-- A character beyond ASCII has its lower case there too, the Kelvin sign apart. -/
theorem lowerChar_of_not_ascii {c : Char} (h : 128 ≤ c.toNat) :
    128 ≤ (lowerChar c).toNat ∨ lowerChar c = 'k' := by
  unfold lowerChar
  cases hrow : lowerRow? c.toNat with
  | none => exact Or.inl h
  | some row =>
    obtain ⟨first, last, step, shift⟩ := row
    unfold lowerRow? at hrow
    have hmem : (first, last, step, shift) ∈ lowerRows := List.mem_of_find?_eq_some hrow
    have hwithin := List.find?_some hrow
    simp only [Bool.and_eq_true, decide_eq_true_eq] at hwithin
    obtain ⟨⟨hfirst, hlast⟩, -⟩ := hwithin
    show 128 ≤ (Char.ofNat (c.toNat + shift).toNat).toNat ∨ Char.ofNat (c.toNat + shift).toNat = 'k'
    rcases lowerRows_cases _ hmem with hascii | ⟨-, hbeyond, hvalid⟩ | hkelvin
    · simp only at hascii
      omega
    · left
      simp only at hbeyond hvalid
      rw [toNat_ofNat_of_lt (by omega)]
      omega
    · right
      simp only [Prod.mk.injEq] at hkelvin
      obtain ⟨rfl, rfl, -, rfl⟩ := hkelvin
      have hkelvin : c.toNat = 0x212A := by omega
      rw [hkelvin]
      rfl

/-- A character beyond ASCII is its own lower case as far as ASCII letters go. -/
theorem toLower_of_not_ascii {c : Char} (h : 128 ≤ c.toNat) : c.toLower = c := by
  have hz : 'Z'.val.toNat = 90 := rfl
  have hc : c.val.toNat = c.toNat := rfl
  unfold Char.toLower
  rw [dif_neg]
  rintro ⟨-, hle⟩
  rw [UInt32.le_iff_toNat_le] at hle
  omega

/-! ### The front of a text -/

/-- Tells whether a character is in ASCII and not one of the two letters that
    something beyond ASCII comes to in lower case. -/
def isPlainLower (c : Char) : Bool := c.toNat < 128 && c != 'k' && c != 'i'

/-- The lower case of a text starts with a plain character just if the text starts
    with one of the two spellings of it. -/
theorem lowerFrom_cons_eq_iff {d : Char} (hd : isPlainLower d) (before : List Char) (c : Char)
    (rest tail : List Char) :
    lowerFrom before (c :: rest) = d :: tail ↔
      c.toLower = d ∧ lowerFrom (c :: before) rest = tail := by
  simp only [isPlainLower, Bool.and_eq_true, decide_eq_true_eq, bne_iff_ne] at hd
  obtain ⟨⟨hascii, hk⟩, hi⟩ := hd
  have hbeyond : ∀ {e : Char}, 128 ≤ e.toNat → e ≠ d := by
    intro e he heq
    rw [heq] at he
    omega
  -- The two characters that are not lowered one by one come first.
  by_cases hdot : c = '\u0130'
  · subst hdot
    refine iff_of_false ?_ fun h => hbeyond (by decide) h.1
    intro h
    exact hi (List.cons.inj h).1.symm
  · by_cases hsigma : c = '\u03A3'
    · subst hsigma
      refine iff_of_false ?_ fun h => hbeyond (by decide) h.1
      intro h
      rw [lowerFrom, if_neg hdot, if_pos rfl] at h
      have hhead := (List.cons.inj h).1
      split at hhead
      · exact hbeyond (by decide) hhead
      · exact hbeyond (by decide) hhead
    · rw [lowerFrom, if_neg hdot, if_neg hsigma, List.singleton_append, List.cons.injEq]
      refine and_congr_left fun _ => ?_
      by_cases hc : c.toNat < 128
      · rw [lowerChar_of_ascii hc]
      · have hc : 128 ≤ c.toNat := Nat.le_of_not_lt hc
        rw [toLower_of_not_ascii hc]
        refine iff_of_false ?_ (hbeyond hc)
        intro h
        rcases lowerChar_of_not_ascii hc with hfar | hkelvin
        · exact hbeyond hfar h
        · exact hk (h.symm.trans hkelvin)

theorem isPrefix_lowerFrom_iff {name : List Char} (hname : ∀ d ∈ name, isPlainLower d)
    (before text : List Char) :
    name <+: lowerFrom before text ↔ (text.take name.length).map Char.toLower = name := by
  induction name generalizing before text with
  | nil => simp
  | cons d name ih =>
    have hd : isPlainLower d := hname d List.mem_cons_self
    have hrest : ∀ e ∈ name, isPlainLower e := fun e he => hname e (List.mem_cons_of_mem _ he)
    cases text with
    | nil => simp [lowerFrom]
    | cons c rest =>
      rw [List.length_cons, List.take_succ_cons, List.map_cons, List.cons.injEq,
        ← ih hrest (c :: before) rest]
      constructor
      · rintro ⟨tail, htail⟩
        obtain ⟨hc, hlater⟩ := (lowerFrom_cons_eq_iff hd before c rest _).1 htail.symm
        exact ⟨hc, tail, hlater.symm⟩
      · rintro ⟨hc, tail, htail⟩
        exact ⟨tail, ((lowerFrom_cons_eq_iff hd before c rest _).2 ⟨hc, htail.symm⟩).symm⟩

end DocSync.Text
