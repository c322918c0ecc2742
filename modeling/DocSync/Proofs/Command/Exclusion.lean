import DocSync.Command.Line
import Mathlib.Data.List.Basic

/-! # Quiet and verbose on a command line

  `--quiet` and `--verbose` exclude each other, and both may stand on either side
  of the word `serve`. The exclusion is checked on each side by itself, before
  the two sides are put together.

  `pressed` lists the switches that the arguments of a side name, in whatever
  spelling. Each step of the reader presses the switches of one argument
  (`Advances`), and a whole side those of all its arguments
  (`advances_of_read`). `quiet_and_verbose_iff_split` follows: the two exclude
  each other on an accepted line unless one stands before `serve` and the other
  after it.
-/

namespace DocSync.Command

/-! ### Switches of arguments -/

/-- The switches that an argument names on a side. -/
def Token.switches (side : Side) : Token → List Switch
  | .long name none =>
    match side.long? name with
    | some (.switch s) => [s]
    | _ => []
  | .cluster names => names.filterMap side.short?
  | _ => []

def pressed (side : Side) (args : List Argument) : List Switch :=
  args.flatMap fun a => (Token.of a).switches side

def Argument.IsWord (a : Argument) : Prop := ∃ text, Token.of a = .word text

theorem Token.eq_of_word {a text : Argument} (h : Token.of a = .word text) : text = a := by
  unfold Token.of at h
  split at h
  · cases h
  · cases h
  · cases h
  · exact (Token.word.inj h).symm

/-- Options show the switches that are pressed: `--quiet` at most once, and how
    often `--verbose` is, up to 255. -/
structure Shows (o : Options) (switches : List Switch) : Prop where
  quiet : o.quiet.toNat = switches.count .quiet
  verbose : o.verbose = min 255 (switches.count .verbose)

namespace Shows
variable {o : Options} {switches : List Switch}

theorem start : Shows Progress.start.given [] := ⟨rfl, rfl⟩

theorem quiet_iff (h : Shows o switches) : o.quiet = true ↔ .quiet ∈ switches := by
  rw [← List.count_pos_iff, ← h.quiet]
  cases o.quiet <;> decide

theorem verbose_iff (h : Shows o switches) : 0 < o.verbose ↔ .verbose ∈ switches := by
  rw [← List.count_pos_iff, h.verbose]
  omega

end Shows

/-! ### Steps of the reader -/

namespace Progress

/-- The reader goes on from one state to another by pressing switches. Before the
    command no option waits for its value. -/
structure Advances (side : Side) (p q : Progress) (switches : List Switch) : Prop where
  shows : ∀ past, Shows p.given past → Shows q.given (past ++ switches)
  pending : side = .program → p.pending = none → q.pending = none

namespace Advances
variable {side : Side} {p q r : Progress} {switches later : List Switch}

/-- Nothing is pressed where the switches stay as they are. -/
theorem of_eq (hquiet : q.given.quiet = p.given.quiet)
    (hverbose : q.given.verbose = p.given.verbose)
    (hpending : side = .program → p.pending = none → q.pending = none) : Advances side p q [] := by
  refine ⟨?_, hpending⟩
  intro past h
  rw [List.append_nil]
  exact ⟨hquiet ▸ h.quiet, hverbose ▸ h.verbose⟩

theorem refl : Advances side p p [] := of_eq rfl rfl fun _ h => h

theorem trans (h : Advances side p q switches) (h' : Advances side q r later) :
    Advances side p r (switches ++ later) := by
  constructor
  · intro past hpast
    rw [← List.append_assoc]
    exact h'.shows _ (h.shows past hpast)
  · intro hside hp
    exact h'.pending hside (h.pending hside hp)

end Advances

section steps
variable {side : Side} {p q : Progress} {o : Options}

/-- An option leaves the switches as they are. -/
theorem take_switches {setting : Setting} {value : Argument} {o' : Options}
    (h : take o setting value = .ok o') : o'.quiet = o.quiet ∧ o'.verbose = o.verbose := by
  cases setting
  all_goals
    simp only [take] at h
    split at h
    · cases h
    · split at h
      · obtain rfl := Except.ok.inj h
        exact ⟨rfl, rfl⟩
      · cases h

theorem settle_switches (h : p.settle = .ok o) :
    o.quiet = p.given.quiet ∧ o.verbose = p.given.verbose := by
  unfold settle at h
  split at h
  · obtain rfl := Except.ok.inj h
    exact ⟨rfl, rfl⟩
  · cases h
  · exact take_switches h

theorem advances_of_press {s : Switch} (h : p.press side s = .ok q) : Advances side p q [s] := by
  obtain ⟨o, hsettle, h⟩ := bind_eq_ok_iff.1 h
  obtain ⟨hquiet, hverbose⟩ := settle_switches hsettle
  cases s with
  | quiet =>
    by_cases ho : o.quiet = true
    · rw [if_pos ho] at h
      cases h
    · rw [if_neg ho] at h
      obtain rfl := Except.ok.inj h
      refine ⟨fun past hpast => ⟨?_, ?_⟩, fun _ _ => rfl⟩
      · -- The switch is refused where it was pressed before, so this is its first time.
        have hnone : past.count .quiet = 0 := by
          rw [← hpast.quiet, ← hquiet, Bool.eq_false_iff.2 ho]
          rfl
        rw [List.count_append, hnone]
        rfl
      · rw [List.count_append]
        exact hverbose.trans hpast.verbose
  | verbose =>
    obtain rfl := Except.ok.inj h
    refine ⟨fun past hpast => ⟨?_, ?_⟩, fun _ _ => rfl⟩
    · rw [List.count_append]
      exact (congrArg Bool.toNat hquiet).trans hpast.quiet
    · have hone : ([.verbose] : List Switch).count .verbose = 1 := rfl
      -- One more than a count that stops at 255 stops there as well.
      show min 255 (o.verbose + 1) = _
      rw [List.count_append, hone, hverbose, hpast.verbose]
      omega
  | help => cases h
  | version => cases h

theorem advances_of_pressAll {names : Argument} (h : p.pressAll side names = .ok q) :
    Advances side p q (names.filterMap side.short?) := by
  induction names generalizing p with
  | nil =>
    obtain rfl := Except.ok.inj h
    exact .refl
  | cons c rest ih =>
    unfold pressAll at h
    cases hc : side.short? c with
    | none => simp only [hc] at h; cases h
    | some s =>
      rw [hc] at h
      obtain ⟨next, hnext, hrest⟩ := bind_eq_ok_iff.1 h
      rw [List.filterMap_cons_some hc]
      exact (advances_of_press hnext).trans (ih hrest)

/-- Options that take a value are known after the command only. -/
theorem side_of_setting {name : Argument} {s : Setting}
    (h : side.long? name = some (.setting s)) : side = .serve := by
  unfold Side.long? at h
  split at h <;> first | rfl | cases h

theorem advances_of_named {name : Argument} {value : Option Argument}
    (h : p.named side name value = .ok q) :
    Advances side p q ((Token.long name value).switches side) := by
  unfold named at h
  split at h
  · cases h
  · cases h
  · next s hname =>
    have hswitches : (Token.long name none).switches side = [s] := by
      simp only [Token.switches, hname]
    rw [hswitches]
    exact advances_of_press h
  · next setting value hname =>
    obtain ⟨o, hsettle, h⟩ := bind_eq_ok_iff.1 h
    obtain ⟨o', htake, h⟩ := bind_eq_ok_iff.1 h
    obtain rfl := Except.ok.inj h
    exact .of_eq ((take_switches htake).1.trans (settle_switches hsettle).1)
      ((take_switches htake).2.trans (settle_switches hsettle).2) fun _ _ => rfl
  · next setting hname =>
    obtain ⟨o, hsettle, h⟩ := bind_eq_ok_iff.1 h
    obtain rfl := Except.ok.inj h
    have hswitches : (Token.long name none).switches side = [] := by
      simp only [Token.switches, hname]
    rw [hswitches]
    refine .of_eq (settle_switches hsettle).1 (settle_switches hsettle).2 ?_
    intro hside
    rw [side_of_setting hname] at hside
    cases hside

end steps

/-! ### Reading a side -/

/-- How far a side goes: to the end of the arguments, or before the first word,
    which is `serve`. -/
inductive Extends (side : Side) (args : List Argument) :
    List Argument → Option (List Argument) → Prop where
  | whole : Extends side args args none
  | command {before after : List Argument} {word : Argument} : side = .program →
      args = before ++ word :: after → word.text? = some "serve" → (∀ a ∈ before, ¬ a.IsWord) →
      Extends side args before (some after)

theorem Extends.cons {side : Side} {a : Argument} {rest own : List Argument}
    {left : Option (List Argument)} (h : Extends side rest own left)
    (ha : side = .program → ¬ a.IsWord) : Extends side (a :: rest) (a :: own) left := by
  cases h with
  | whole => exact .whole
  | @command _ after word hside hrest hword hbefore =>
    refine .command hside (by rw [hrest]; rfl) hword ?_
    intro b hb
    rcases List.mem_cons.1 hb with rfl | hb
    · exact ha hside
    · exact hbefore b hb

/-- A side that is read presses the switches of its arguments. -/
theorem advances_of_read {side : Side} {p q : Progress} {args : List Argument}
    {left : Option (List Argument)} (hpending : side = .program → p.pending = none)
    (h : p.read side args = .ok (q, left)) :
    ∃ own, Extends side args own left ∧ Advances side p q (pressed side own) := by
  induction args generalizing p with
  | nil =>
    obtain ⟨rfl, rfl⟩ := Prod.mk.inj (Except.ok.inj h)
    exact ⟨[], .whole, .refl⟩
  | cons a rest ih =>
    -- What is left to do after an argument that is read by itself.
    have hgoOn {next : Progress} (hnext : Advances side p next ((Token.of a).switches side))
        (ha : side = .program → ¬ a.IsWord) (hrest : next.read side rest = .ok (q, left)) :
        ∃ own, Extends side (a :: rest) own left ∧ Advances side p q (pressed side own) := by
      obtain ⟨own, hown, hlast⟩ := ih (fun hside => hnext.pending hside (hpending hside)) hrest
      exact ⟨a :: own, hown.cons ha, hnext.trans hlast⟩
    unfold read at h
    cases ha : Token.of a with
    | separator =>
      rw [ha] at h
      cases rest with
      | nil =>
        obtain ⟨rfl, rfl⟩ := Prod.mk.inj (Except.ok.inj h)
        refine ⟨[a], .whole, ?_⟩
        have hnone : pressed side [a] = [] := by
          simp [pressed, ha, Token.switches]
        rw [hnone]
        exact .refl
      | cons next others => cases h
    | long name value =>
      rw [ha] at h
      obtain ⟨next, hnamed, hrest⟩ := bind_eq_ok_iff.1 h
      refine hgoOn ?_ ?_ hrest
      · rw [ha]
        exact advances_of_named hnamed
      · rintro - ⟨text, hword⟩
        rw [ha] at hword
        cases hword
    | cluster names =>
      rw [ha] at h
      obtain ⟨next, hcluster, hrest⟩ := bind_eq_ok_iff.1 h
      refine hgoOn ?_ ?_ hrest
      · rw [ha]
        exact advances_of_pressAll hcluster
      · rintro - ⟨text, hword⟩
        rw [ha] at hword
        cases hword
    | word text =>
      simp only [ha] at h
      split at h
      · next setting hwaiting =>
        -- The word is a value, so the side is that after the command.
        have hside : side ≠ .program := by
          intro hprogram
          have hnone := hpending hprogram
          rw [hwaiting] at hnone
          cases hnone
        refine hgoOn ?_ (fun hprogram => absurd hprogram hside) h
        rw [ha]
        exact .of_eq rfl rfl fun hprogram => absurd hprogram hside
      · split at h
        · next hword =>
          obtain ⟨rfl, rfl⟩ := Prod.mk.inj (Except.ok.inj h)
          rw [Token.eq_of_word ha] at hword
          refine ⟨[], .command rfl rfl hword ?_, .refl⟩
          intro b hb
          cases hb
        · cases h
        · cases h

end Progress

/-! ### Reading a command line -/

theorem not_both_of_exclusive {o : Options} (h : exclusive o = .ok ()) :
    ¬ (o.quiet = true ∧ 0 < o.verbose) := by
  intro hboth
  unfold exclusive at h
  rw [if_pos hboth] at h
  cases h

/-- Two sides make a command line with the word `serve` between them. Each has
    options of its own, which are not both quiet and verbose. -/
structure Sides (args before after : List Argument) (outer inner : Options) : Prop where
  args_eq : ∃ command, args = before ++ command :: after ∧ command.text? = some "serve"
  no_word : ∀ a ∈ before, ¬ a.IsWord
  outer : Shows outer (pressed .program before) ∧ ¬ (outer.quiet = true ∧ 0 < outer.verbose)
  inner : Shows inner (pressed .serve after) ∧ ¬ (inner.quiet = true ∧ 0 < inner.verbose)

theorem sides_of_read {args : List Argument} {o : Options} (h : read args = .ok o) :
    ∃ before after outer inner, Sides args before after outer inner ∧ o = combine outer inner := by
  obtain ⟨⟨p, left⟩, hprogram, h⟩ := bind_eq_ok_iff.1 h
  obtain ⟨before, hbefore, hpressed⟩ := Progress.advances_of_read (fun _ => rfl) hprogram
  cases hbefore with
  | whole =>
    simp only at h
    split at h
    · cases h
    · cases h
  | @command _ after command _ hargs hcommand hwords =>
    obtain ⟨⟨q, rest⟩, hserve, hrest⟩ := bind_eq_ok_iff.1 h
    obtain ⟨inner, hsettle, hrest⟩ := bind_eq_ok_iff.1 hrest
    obtain ⟨_, hinner, hrest⟩ := bind_eq_ok_iff.1 hrest
    obtain ⟨_, houter, hcombine⟩ := bind_eq_ok_iff.1 hrest
    obtain ⟨own, hown, hpressed'⟩ := Progress.advances_of_read (by simp) hserve
    cases hown with
    | command hside => cases hside
    | whole =>
      -- The last option is taken only now, and leaves the switches as they are.
      obtain ⟨hquiet, hverbose⟩ := Progress.settle_switches hsettle
      have hshown := hpressed'.shows [] .start
      refine ⟨before, after, p.given, inner, ?_, (Except.ok.inj hcombine).symm⟩
      exact {
        args_eq := ⟨command, hargs, hcommand⟩
        no_word := hwords
        outer := ⟨hpressed.shows [] .start, not_both_of_exclusive houter⟩
        inner :=
          ⟨⟨hquiet ▸ hshown.quiet, hverbose ▸ hshown.verbose⟩, not_both_of_exclusive hinner⟩ }

/-- An accepted command line shows the switches of both sides, and no side has
    both `--quiet` and `--verbose`. So the line is both quiet and verbose just if
    one of the two stands before `serve` and the other after it. -/
theorem quiet_and_verbose_iff_split {args : List Argument} {o : Options} (h : read args = .ok o) :
    ∃ before command after, args = before ++ command :: after ∧ command.text? = some "serve" ∧
      (∀ a ∈ before, ¬ a.IsWord) ∧
      let outer := pressed .program before
      let inner := pressed .serve after
      (o.quiet = true ↔ .quiet ∈ outer ∨ .quiet ∈ inner) ∧
      (0 < o.verbose ↔ .verbose ∈ outer ∨ .verbose ∈ inner) ∧
      ¬ (.quiet ∈ outer ∧ .verbose ∈ outer) ∧ ¬ (.quiet ∈ inner ∧ .verbose ∈ inner) ∧
      (o.quiet = true ∧ 0 < o.verbose ↔
        .quiet ∈ outer ∧ .verbose ∈ inner ∨ .verbose ∈ outer ∧ .quiet ∈ inner) := by
  obtain ⟨before, after, outer, inner, hsides, rfl⟩ := sides_of_read h
  obtain ⟨⟨command, hargs, hcommand⟩, hwords, ⟨houter, houter'⟩, ⟨hinner, hinner'⟩⟩ := hsides
  refine ⟨before, command, after, hargs, hcommand, hwords, ?_⟩
  intro outerPressed innerPressed
  rw [houter.quiet_iff, houter.verbose_iff] at houter'
  rw [hinner.quiet_iff, hinner.verbose_iff] at hinner'
  have hquiet : (combine outer inner).quiet = true ↔
      .quiet ∈ outerPressed ∨ .quiet ∈ innerPressed := by
    rw [← houter.quiet_iff, ← hinner.quiet_iff, combine, Bool.or_eq_true]
    exact or_comm
  have hverbose : 0 < (combine outer inner).verbose ↔
      .verbose ∈ outerPressed ∨ .verbose ∈ innerPressed := by
    rw [← houter.verbose_iff, ← hinner.verbose_iff, combine]
    by_cases hzero : 0 < inner.verbose
    · simp [hzero]
    · simp [hzero]
  refine ⟨hquiet, hverbose, houter', hinner', ?_⟩
  rw [hquiet, hverbose]
  tauto

/-- A line that is both, with an option beside the switches. -/
theorem quiet_and_verbose_iff_split_spelled :
    let args := ["--verbose", "serve", "-q", "--log-level=debug"].map Argument.ofText
    read args = .ok ⟨true, 1, some .debug, none⟩ ∧
    ∃ before command after, args = before ++ command :: after ∧ command.text? = some "serve" ∧
      (.quiet ∈ pressed .program before ∧ .verbose ∈ pressed .serve after ∨
        .verbose ∈ pressed .program before ∧ .quiet ∈ pressed .serve after) := by
  intro args
  have hread : read args = .ok ⟨true, 1, some .debug, none⟩ := by rfl
  obtain ⟨before, command, after, hargs, hcommand, -, -, -, -, -, hsplit⟩ :=
    quiet_and_verbose_iff_split hread
  exact ⟨hread, before, command, after, hargs, hcommand, hsplit.1 ⟨rfl, by decide⟩⟩

/-- Quiet and verbose do not exclude each other on every accepted line. -/
theorem split_switches_accepted :
    read (["-v", "serve", "-q"].map Argument.ofText) = .ok ⟨true, 1, none, none⟩ ∧
    ¬ ∀ args o, read args = .ok o → ¬ (o.quiet = true ∧ 0 < o.verbose) := by
  have hread : read (["-v", "serve", "-q"].map Argument.ofText) = .ok ⟨true, 1, none, none⟩ := by
    rfl
  refine ⟨hread, ?_⟩
  intro hexclusive
  exact hexclusive _ _ hread ⟨rfl, by decide⟩

end DocSync.Command
