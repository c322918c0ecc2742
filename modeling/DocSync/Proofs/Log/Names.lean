import DocSync.Log.Level
import DocSync.Proofs.Text.Blank

/-! # The language of level names

  Configuration names a level by a word that may be written in any case and with
  white space around it. This file says which texts name which level (`Names`), and
  that reading a text finds out just that.

  - `names_iff_normalize_mem`: a text names a level if its normal form is one of the
    level's names.
  - `read_eq_ok_iff` and `eq_of_read_eq_error`: what is read is up to the normal form.
  - `read_names` puts these together.
-/

namespace DocSync.Log.Level
open Text

/-! ### Normal forms -/

theorem toList_normalize (text : String) :
    (normalize text).toList = lowerAscii (trim text.toList) :=
  String.toList_ofList

theorem normalize_normalize (text : String) : normalize (normalize text) = normalize text := by
  rw [← String.toList_inj, toList_normalize, toList_normalize, trim_lowerAscii, trim_trim,
    lowerAscii_lowerAscii]

/-- White space around a text is not in its normal form. -/
theorem normalize_surrounded {before after : List Char} (hbefore : Blank before)
    (hafter : Blank after) (text : String) :
    normalize (String.ofList before ++ text ++ String.ofList after) = normalize text := by
  rw [← String.toList_inj, toList_normalize, toList_normalize, String.toList_append,
    String.toList_append, String.toList_ofList, String.toList_ofList,
    trim_append_append hbefore hafter]

/-- The case of ASCII letters is not in the normal form of a text. -/
theorem normalize_of_sameLetters {text other : String}
    (h : List.Forall₂ SameLetter text.toList other.toList) : normalize text = normalize other := by
  rw [← String.toList_inj, toList_normalize, toList_normalize, ← trim_lowerAscii,
    ← trim_lowerAscii, lowerAscii_eq_iff.2 h]

/-! ### Names -/

/-- The names of a level in configuration. -/
def spellings : Level → List String
  | .debug => ["debug"]
  | .info => ["info"]
  | .warning => ["warning", "warn"]
  | .error => ["error"]

/-- A text names a level: between white space it is one of the level's names, but for
    the case of ASCII letters. -/
def Names (text : String) (level : Level) : Prop :=
  ∃ before word after, text.toList = before ++ word ++ after ∧ Blank before ∧ Blank after ∧
    ∃ name ∈ level.spellings, List.Forall₂ SameLetter word name.toList

/-- Names are written in small ASCII letters. -/
theorem forall_mem_spellings {level : Level} :
    ∀ name ∈ level.spellings, ∀ c ∈ name.toList, c.toLower = c ∧ c.isAlpha = true ∧
      isBlank c = false := by
  have hall : level.spellings.all fun name => name.toList.all fun c =>
      c.toLower = c ∧ c.isAlpha = true ∧ isBlank c = false := by
    cases level <;> decide
  intro name hname c hc
  have hletters := List.all_eq_true.1 hall name hname
  exact of_decide_eq_true (List.all_eq_true.1 hletters c hc)

theorem lowerAscii_of_mem_spellings {level : Level} {name : String} (h : name ∈ level.spellings) :
    lowerAscii name.toList = name.toList := by
  refine (List.map_congr_left fun c hc => ?_).trans (List.map_id _)
  exact (forall_mem_spellings name h c hc).1

theorem tight_of_mem_spellings {level : Level} {name : String} (h : name ∈ level.spellings) :
    Tight name.toList :=
  ⟨fun c hc => (forall_mem_spellings name h c (List.mem_of_head? hc)).2.2,
    fun c hc => (forall_mem_spellings name h c (List.mem_of_getLast? hc)).2.2⟩

/-- A text names a level just if its normal form is a name of it. -/
theorem names_iff_normalize_mem {text : String} {level : Level} :
    Names text level ↔ normalize text ∈ level.spellings := by
  constructor
  · rintro ⟨before, word, after, htext, hbefore, hafter, name, hname, hword⟩
    have hlower : lowerAscii word = name.toList := by
      rw [lowerAscii_eq_iff.2 hword, lowerAscii_of_mem_spellings hname]
    -- So the word is the core of the text: a name has no white space at its ends.
    have htight : Tight word := by
      rw [← tight_lowerAscii_iff, hlower]
      exact tight_of_mem_spellings hname
    have hnormal : normalize text = name := by
      rw [← String.toList_inj, toList_normalize,
        trim_eq_iff.2 ⟨before, after, htext, hbefore, hafter, htight⟩, hlower]
    rwa [hnormal]
  · intro hname
    obtain ⟨before, after, htext, hbefore, hafter, -⟩ := isCore_trim text.toList
    refine ⟨before, trim text.toList, after, htext, hbefore, hafter, _, hname, ?_⟩
    rw [← lowerAscii_eq_iff, toList_normalize, lowerAscii_lowerAscii]

/-! ### Reading -/

theorem read_eq_ok_iff {text : String} {level : Level} :
    read text = .ok level ↔ normalize text ∈ level.spellings := by
  unfold read
  -- One case for each name of a level, and one for any other text.
  split
  case h_6 hdebug hinfo hwarning hwarn herror =>
    cases level <;> simp_all [spellings]
  all_goals
    next hnormal =>
    rw [hnormal]
    cases level <;> simp [spellings]

theorem eq_of_read_eq_error {text : String} {e : Unknown} (h : read text = .error e) :
    e = ⟨normalize text⟩ := by
  unfold read at h
  split at h
  case h_6 => exact (Except.error.inj h).symm
  all_goals cases h

theorem read_eq_error {text : String} (h : ∀ level : Level, normalize text ∉ level.spellings) :
    read text = .error ⟨normalize text⟩ := by
  cases hread : read text with
  | ok level => exact absurd (read_eq_ok_iff.1 hread) (h level)
  | error e => rw [eq_of_read_eq_error hread]

/-- What is read is up to the normal form of a text. -/
theorem read_congr {text other : String} (h : normalize text = normalize other) :
    read text = read other := by
  unfold read
  rw [h]

/-- Nothing but ASCII letters makes up what is read as a level. -/
theorem isAlpha_of_read_eq_ok {text : String} {level : Level} (h : read text = .ok level) :
    ∀ c ∈ trim text.toList, c.isAlpha = true := by
  intro c hc
  have hlower : c.toLower ∈ (normalize text).toList := by
    rw [toList_normalize]
    exact List.mem_map_of_mem hc
  have halpha := (forall_mem_spellings _ (read_eq_ok_iff.1 h) _ hlower).2.1
  rwa [isAlpha_toLower] at halpha

/-- A text is read as a level just if between white space it is a name of that level,
    but for the case of ASCII letters. Any other text is refused with its core in
    lower case, and leniently read as `info`. So white space around a text and the
    case of its ASCII letters make no difference to what is read, the refusal
    included; white space or letters beyond ASCII within the core are never read; and
    the text that a refusal repeats is read as the text itself. -/
theorem read_names (text : String) :
    ∃ core, (∀ other, IsCore text.toList other ↔ other = core) ∧
      let lowered := String.ofList (core.map Char.toLower)
      (∀ level, read text = .ok level ↔ Names text level) ∧
      (∀ level, Names text level → readOrInfo text = level) ∧
      ((∀ level, ¬ Names text level) → ∃ e, read text = .error e ∧
        e.message = "unknown log level: " ++ lowered ∧ readOrInfo text = .info) ∧
      (∀ before after, Blank before → Blank after →
        read (String.ofList before ++ text ++ String.ofList after) = read text) ∧
      (∀ other, List.Forall₂ SameLetter text.toList other.toList → read other = read text) ∧
      ((∃ c ∈ core, c.isAlpha = false) → ∃ e, read text = .error e) ∧
      read lowered = read text := by
  refine ⟨trim text.toList, fun other => trim_eq_iff.symm.trans eq_comm, ?_⟩
  intro lowered
  have hok (level : Level) : read text = .ok level ↔ Names text level :=
    read_eq_ok_iff.trans names_iff_normalize_mem.symm
  refine ⟨hok, ?_, ?_, ?_, ?_, ?_, read_congr (normalize_normalize text)⟩
  · intro level hnames
    rw [readOrInfo, (hok level).2 hnames]
  · intro hnone
    have hread : read text = .error ⟨normalize text⟩ :=
      read_eq_error fun level => mt names_iff_normalize_mem.2 (hnone level)
    refine ⟨_, hread, rfl, ?_⟩
    rw [readOrInfo, hread]
    rfl
  · intro before after hbefore hafter
    exact read_congr (normalize_surrounded hbefore hafter text)
  · intro other hletters
    exact (read_congr (normalize_of_sameLetters hletters)).symm
  · rintro ⟨c, hc, halpha⟩
    cases hread : read text with
    | ok level =>
      rw [isAlpha_of_read_eq_ok hread c hc] at halpha
      cases halpha
    | error e => exact ⟨e, rfl⟩

/-- A name in mixed case after an ideographic space, and one with a letter that only
    looks like its own. -/
theorem read_names_mixed :
    read "\u3000WaRn\t" = .ok .warning ∧
      read (String.ofList ['\n'] ++ "\u3000WaRn\t" ++ String.ofList ['\u00A0']) = .ok .warning ∧
      read "\u3000wArN\t" = .ok .warning ∧
      ∃ e, read "\u0131nfo " = .error e ∧ e.message = "unknown log level: \u0131nfo" ∧
        readOrInfo "\u0131nfo " = .info := by
  obtain ⟨-, -, hok, -, -, hspace, hcase, -, -⟩ := read_names "\u3000WaRn\t"
  have hnames : Names "\u3000WaRn\t" .warning :=
    ⟨['\u3000'], "WaRn".toList, ['\t'], by decide, by decide, by decide, "warn",
      by decide, by decide⟩
  have hread := (hok .warning).2 hnames
  refine ⟨hread, ?_, ?_, ?_⟩
  · rw [hspace ['\n'] ['\u00A0'] (by decide) (by decide), hread]
  · rw [hcase "\u3000wArN\t" (by decide), hread]
  · obtain ⟨core, hcore, hok, -, hnone, -, -, hletters, -⟩ := read_names "\u0131nfo "
    obtain rfl : "\u0131nfo".toList = core :=
      (hcore _).1 ⟨[], [' '], by decide, by decide, by decide, by decide⟩
    obtain ⟨e, hrefused⟩ := hletters ⟨'\u0131', by decide, by decide⟩
    refine hnone fun level hlevel => ?_
    have hread := (hok level).2 hlevel
    rw [hrefused] at hread
    cases hread

end DocSync.Log.Level
