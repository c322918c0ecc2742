import DocSync.Text.Blank
import Mathlib.Data.List.Basic
import Mathlib.Data.List.Forall2
import Mathlib.Data.List.TakeWhile

/-! # Trimming and letter case

  A text is trimmed at both ends, one after the other, and ASCII letters are then
  brought to lower case. Both are described here by what they do to a text as a
  whole, whatever is done first.

  - `trim_eq_iff`: what is left of a text is the part between white space that has
    none at its own ends, and there is one such part only.
  - `lowerAscii_eq_iff`: texts have the same lower case if they are the same but for
    the case of their ASCII letters.
-/

namespace DocSync.Text

/-! ### White space at the ends -/

/-- Nothing but white space. -/
def Blank (text : List Char) : Prop := ∀ c ∈ text, isBlank c = true

instance (text : List Char) : Decidable (Blank text) := List.decidableBAll _ text

/-- No white space at either end. -/
structure Tight (text : List Char) : Prop where
  head : ∀ c ∈ text.head?, isBlank c = false
  last : ∀ c ∈ text.getLast?, isBlank c = false

theorem tight_iff {text : List Char} :
    Tight text ↔
      text.head?.all (fun c => !isBlank c) ∧ text.getLast?.all (fun c => !isBlank c) := by
  simp only [Option.all_eq_true, Bool.not_eq_true']
  constructor
  · intro h
    exact ⟨h.head, h.last⟩
  · rintro ⟨hhead, hlast⟩
    exact ⟨hhead, hlast⟩

instance (text : List Char) : Decidable (Tight text) := decidable_of_iff' _ tight_iff

/-- A text has a core, and all around it is white space. -/
def IsCore (text core : List Char) : Prop :=
  ∃ before after, text = before ++ core ++ after ∧ Blank before ∧ Blank after ∧ Tight core

theorem Blank.append {text rest : List Char} (h : Blank text) (hrest : Blank rest) :
    Blank (text ++ rest) := by
  intro c hc
  rcases List.mem_append.1 hc with hc | hc
  · exact h c hc
  · exact hrest c hc

theorem trimLeft_append {before : List Char} (h : Blank before) (text : List Char) :
    trimLeft (before ++ text) = trimLeft text :=
  List.dropWhile_append_of_pos h

theorem trimRight_append {after : List Char} (h : Blank after) (text : List Char) :
    trimRight (text ++ after) = trimRight text := by
  have hreverse : ∀ c ∈ after.reverse, isBlank c = true := fun c hc => h c (List.mem_reverse.1 hc)
  rw [trimRight, List.reverse_append, List.dropWhile_append_of_pos hreverse, trimRight]

theorem trimLeft_eq_self {text : List Char} (h : ∀ c ∈ text.head?, isBlank c = false) :
    trimLeft text = text := by
  cases text with
  | nil => rfl
  | cons c rest =>
    have hc : isBlank c = false := h c rfl
    rw [trimLeft, List.dropWhile_cons_of_neg (by simp [hc])]

theorem trimRight_eq_self {text : List Char} (h : ∀ c ∈ text.getLast?, isBlank c = false) :
    trimRight text = text := by
  rw [← List.head?_reverse] at h
  have hreverse : text.reverse.dropWhile isBlank = text.reverse := trimLeft_eq_self h
  rw [trimRight, hreverse, List.reverse_reverse]

theorem exists_blank_append_trimLeft (text : List Char) :
    ∃ before, text = before ++ trimLeft text ∧ Blank before ∧
      ∀ c ∈ (trimLeft text).head?, isBlank c = false := by
  refine ⟨text.takeWhile isBlank, List.takeWhile_append_dropWhile.symm,
    fun c hc => List.mem_takeWhile_imp hc, ?_⟩
  intro c hc
  have hhead := List.head?_dropWhile_not isBlank text
  rw [trimLeft] at hc
  rw [Option.mem_def.1 hc] at hhead
  exact hhead

theorem exists_trimRight_append_blank (text : List Char) :
    ∃ after, text = trimRight text ++ after ∧ Blank after ∧
      ∀ c ∈ (trimRight text).getLast?, isBlank c = false := by
  obtain ⟨before, htext, hbefore, hhead⟩ := exists_blank_append_trimLeft text.reverse
  refine ⟨before.reverse, ?_, fun c hc => hbefore c (List.mem_reverse.1 hc), ?_⟩
  · rw [trimRight, ← List.reverse_append, ← List.reverse_eq_iff]
    exact htext
  · rw [trimRight, List.getLast?_reverse]
    exact hhead

theorem isCore_trim (text : List Char) : IsCore text (trim text) := by
  obtain ⟨before, htext, hbefore, hhead⟩ := exists_blank_append_trimLeft text
  obtain ⟨after, hleft, hafter, hlast⟩ := exists_trimRight_append_blank (trimLeft text)
  refine ⟨before, after, ?_, hbefore, hafter, ?_, hlast⟩
  · rw [List.append_assoc, trim, ← hleft]
    exact htext
  · intro c hc
    -- The core starts where the text trimmed on its left does.
    refine hhead c ?_
    rw [trim, Option.mem_def] at hc
    rw [hleft, List.head?_append, hc]
    rfl

theorem IsCore.trim_eq {text core : List Char} (h : IsCore text core) : trim text = core := by
  obtain ⟨before, after, rfl, hbefore, hafter, htight⟩ := h
  rw [trim, List.append_assoc, trimLeft_append hbefore]
  -- An empty core does not hold back trimming on the left, which takes all there is.
  by_cases hcore : core = []
  · subst hcore
    have hnone : trimLeft after = [] := List.dropWhile_eq_nil_iff.2 hafter
    rw [List.nil_append, hnone]
    rfl
  · have hhead : ∀ c ∈ (core ++ after).head?, isBlank c = false := by
      rw [List.head?_append_of_ne_nil core hcore]
      exact htight.head
    rw [trimLeft_eq_self hhead, trimRight_append hafter, trimRight_eq_self htight.last]

/-- What is left after trimming is the one core of a text. -/
theorem trim_eq_iff {text core : List Char} : trim text = core ↔ IsCore text core := by
  constructor
  · rintro rfl
    exact isCore_trim text
  · exact IsCore.trim_eq

/-- White space around a text makes no difference once it is trimmed. -/
theorem trim_append_append {before after : List Char} (hbefore : Blank before)
    (hafter : Blank after) (text : List Char) : trim (before ++ text ++ after) = trim text := by
  -- The core of the text is the core of the longer one too.
  obtain ⟨front, back, htext, hfront, hback, htight⟩ := isCore_trim text
  refine IsCore.trim_eq ⟨before ++ front, back ++ after, ?_, hbefore.append hfront,
    hback.append hafter, htight⟩
  nth_rewrite 1 [htext]
  simp only [List.append_assoc]

/-! ### Letter case -/

/-- The same character, or the same ASCII letter in upper and in lower case. -/
def SameLetter (c d : Char) : Prop :=
  c = d ∨ (c.isUpper = true ∧ d.toNat = c.toNat + 32) ∨
    (d.isUpper = true ∧ c.toNat = d.toNat + 32)

instance (c d : Char) : Decidable (SameLetter c d) :=
  inferInstanceAs (Decidable (c = d ∨ (c.isUpper = true ∧ d.toNat = c.toNat + 32) ∨
    (d.isUpper = true ∧ c.toNat = d.toNat + 32)))

theorem isUpper_iff {c : Char} : c.isUpper = true ↔ 65 ≤ c.toNat ∧ c.toNat ≤ 90 := by
  unfold Char.isUpper
  rw [decide_eq_true_eq]
  exact Iff.rfl

theorem toNat_toLower (c : Char) :
    c.toLower.toNat = if 65 ≤ c.toNat ∧ c.toNat ≤ 90 then c.toNat + 32 else c.toNat := by
  have hval : c.val.toNat = c.toNat := rfl
  by_cases h : 65 ≤ c.toNat ∧ c.toNat ≤ 90
  · rw [if_pos h]
    have hlower : c.toLower.toNat = (c.val + 32).toNat := by
      unfold Char.toLower
      rw [dif_pos (by exact h)]
      rfl
    have hstep : (32 : UInt32).toNat = 32 := rfl
    rw [hlower, UInt32.toNat_add, hval, hstep]
    exact Nat.mod_eq_of_lt (by omega)
  · rw [if_neg h]
    unfold Char.toLower
    rw [dif_neg (by exact h)]

theorem toLower_toLower (c : Char) : c.toLower.toLower = c.toLower := by
  rw [← Char.toNat_inj, toNat_toLower, toNat_toLower]
  split
  · rw [if_neg (by omega)]
  · rfl

theorem toLower_eq_iff {c d : Char} : c.toLower = d.toLower ↔ SameLetter c d := by
  rw [SameLetter, isUpper_iff, isUpper_iff, ← Char.toNat_inj, ← Char.toNat_inj, toNat_toLower,
    toNat_toLower]
  split <;> split <;> omega

theorem isAlpha_toLower (c : Char) : c.toLower.isAlpha = c.isAlpha := by
  have hlower (d : Char) : d.isLower = true ↔ 97 ≤ d.toNat ∧ d.toNat ≤ 122 := by
    unfold Char.isLower
    rw [Bool.and_eq_true, decide_eq_true_eq, decide_eq_true_eq]
    exact Iff.rfl
  unfold Char.isAlpha
  rw [Bool.eq_iff_iff, Bool.or_eq_true, Bool.or_eq_true, isUpper_iff, isUpper_iff, hlower, hlower,
    toNat_toLower]
  split <;> omega

theorem isBlank_toLower (c : Char) : isBlank c.toLower = isBlank c := by
  unfold isBlank
  rw [toNat_toLower]
  split
  · next h =>
    -- A letter is no white space in either case.
    rw [Bool.eq_iff_iff]
    simp
    omega
  · rfl

theorem lowerAscii_eq_iff {text other : List Char} :
    lowerAscii text = lowerAscii other ↔ List.Forall₂ SameLetter text other := by
  unfold lowerAscii
  rw [← List.forall₂_eq_eq_eq, List.forall₂_map_left_iff, List.forall₂_map_right_iff]
  simp only [toLower_eq_iff]

theorem lowerAscii_lowerAscii (text : List Char) :
    lowerAscii (lowerAscii text) = lowerAscii text := by
  unfold lowerAscii
  rw [List.map_map]
  exact List.map_congr_left fun c _ => toLower_toLower c

theorem blank_lowerAscii_iff {text : List Char} : Blank (lowerAscii text) ↔ Blank text := by
  simp [Blank, lowerAscii, isBlank_toLower]

theorem tight_lowerAscii_iff {text : List Char} : Tight (lowerAscii text) ↔ Tight text := by
  have hhead : (∀ c ∈ (lowerAscii text).head?, isBlank c = false) ↔
      ∀ c ∈ text.head?, isBlank c = false := by
    simp [lowerAscii, isBlank_toLower]
  have hlast : (∀ c ∈ (lowerAscii text).getLast?, isBlank c = false) ↔
      ∀ c ∈ text.getLast?, isBlank c = false := by
    simp [lowerAscii, isBlank_toLower]
  exact ⟨fun h => ⟨hhead.1 h.head, hlast.1 h.last⟩, fun h => ⟨hhead.2 h.head, hlast.2 h.last⟩⟩

/-- It does not matter whether a text is trimmed or lowered first. -/
theorem trim_lowerAscii (text : List Char) : trim (lowerAscii text) = lowerAscii (trim text) := by
  obtain ⟨before, after, htext, hbefore, hafter, htight⟩ := isCore_trim text
  refine IsCore.trim_eq ⟨lowerAscii before, lowerAscii after, ?_, blank_lowerAscii_iff.2 hbefore,
    blank_lowerAscii_iff.2 hafter, tight_lowerAscii_iff.2 htight⟩
  nth_rewrite 1 [htext]
  simp only [lowerAscii, List.map_append]

theorem trim_trim (text : List Char) : trim (trim text) = trim text := by
  obtain ⟨-, -, -, -, -, htight⟩ := isCore_trim text
  exact IsCore.trim_eq ⟨[], [], by simp, by simp [Blank], by simp [Blank], htight⟩

end DocSync.Text
