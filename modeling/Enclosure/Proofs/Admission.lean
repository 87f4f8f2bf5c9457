import Enclosure.Proofs.Numerals
import Enclosure.Proofs.Rounding
import Enclosure.Settings

/-!
# Which environments are admitted

Settings are made from four texts, any of which may be anything or missing.  Only two of them can be
wrong: the one for the mode, which has to be one of two words, and the one for the time limit, which has
to be a numeral for a number above zero.  The announced condition and the tested one differ in the case
of no number, which is neither above zero nor zero or less: it is tested that a limit is not zero or less,
and so the numeral for no number is admitted.

What is here:

* `Numeral.IsPositive`: a numeral for a number that is above zero once it is rounded.
* `Numeral.isAtMostZero_toBinary64_iff`: what is rejected is everything else but no number.
* `Environment.trimmed`: the texts without white space around them, and without the blank ones.
* `Settings.modeOf_eq_error_iff` and `Settings.timeoutOf_eq_error_iff`: what can be wrong with a text.
* `Settings.environment_admitted_iff`: which environments make settings, and what is wrong with others.
-/

set_option autoImplicit false

namespace Enclosure

/-! ## Numbers above zero -/

namespace Binary64

theorem ofFraction_ne_nan (negative : Bool) (num den : Nat) : ofFraction negative num den ≠ .nan := by
  by_cases hzero : num = 0 ∨ den = 0
  · rw [ofFraction, if_pos (by simpa using hzero)]
    simp
  · obtain ⟨hnum, hden⟩ := not_or.mp hzero
    obtain ⟨e, -, heq⟩ := ofFraction_eq negative hnum hden
    rw [heq, assembled]
    split <;> simp

/-- A decimal is always a number. -/
theorem ofDecimal_ne_nan (negative : Bool) (n : Nat) (k : Int) : ofDecimal negative n k ≠ .nan := by
  rw [ofDecimal]
  split
  · simp
  · dsimp only
    split
    · simp
    · split
      · simp
      · split <;> exact ofFraction_ne_nan _ _ _

/-- Of two numbers that are in order with zero, one is above zero. -/
theorem isPositive_eq_true_iff (x : Binary64) :
    x.isPositive = true ↔ x ≠ .nan ∧ x.isAtMostZero = false := by
  cases x with
  | nan => simp [isPositive]
  | infinite negative => simp [isPositive, isAtMostZero]
  | finite negative m e => simp [isPositive, isAtMostZero]

end Binary64

namespace Numeral

/-- A numeral for a number that is above zero once it is rounded: it has no minus, and it is more than
half the least number that is. -/
def IsPositive : Numeral → Prop
  | nan => False
  | infinite negative => negative = false
  | decimal negative n k => negative = false ∧ Binary64.halfLeast < n * 10 ^ k

theorem toBinary64_eq_nan_iff (n : Numeral) : n.toBinary64 = .nan ↔ n = .nan := by
  cases n with
  | nan => simp [toBinary64]
  | infinite negative => simp [toBinary64]
  | decimal negative m k => simp [toBinary64, Binary64.ofDecimal_ne_nan]

/-- **What is zero or less** is everything that is not above zero, but for no number. -/
theorem isAtMostZero_toBinary64_iff (n : Numeral) :
    n.toBinary64.isAtMostZero = true ↔ n ≠ .nan ∧ ¬n.IsPositive := by
  cases n with
  | nan => simp [toBinary64, Binary64.isAtMostZero]
  | infinite negative => simp [toBinary64, Binary64.isAtMostZero, IsPositive]
  | decimal negative m k =>
    rw [toBinary64, Binary64.isAtMostZero_ofDecimal_iff, IsPositive, not_and_or, not_lt,
      Bool.not_eq_false]
    simp

theorem isPositive_toBinary64_iff (n : Numeral) : n.toBinary64.isPositive = true ↔ n.IsPositive := by
  rw [Binary64.isPositive_eq_true_iff, ← Bool.not_eq_true, isAtMostZero_toBinary64_iff, ne_eq,
    toBinary64_eq_nan_iff]
  constructor
  · rintro ⟨hne, hnot⟩
    by_contra hpos
    exact hnot ⟨hne, hpos⟩
  · intro hpos
    refine ⟨?_, fun h => h.2 hpos⟩
    rintro rfl
    exact hpos

end Numeral

/-! ## Texts of variables -/

theorem Text.dropWhile_eq_self {cs : List Char} (h : ∀ c ∈ cs.head?, isBlank c = false) :
    cs.dropWhile isBlank = cs := by
  cases cs with
  | nil => rfl
  | cons c cs => exact List.dropWhile_cons_of_neg (by simp [h c rfl])

/-- What is left of a text has no white space around it. -/
theorem Text.trimChars_trimChars (cs : List Char) : trimChars (trimChars cs) = trimChars cs := by
  have hstart : ∀ c ∈ (trimChars cs).head?, isBlank c = false := by
    intro c hc
    -- what is cut off at the end is not cut off at the start
    have hhead := List.head?_dropWhile_not isBlank cs
    obtain ⟨rest, hrest⟩ : trimChars cs <+: cs.dropWhile isBlank := by
      rw [trimChars, trimEnd, ← List.reverse_suffix, List.reverse_reverse]
      exact List.dropWhile_suffix isBlank
    obtain ⟨zs, hzs⟩ := List.head?_eq_some_iff.mp hc
    rwa [← hrest, hzs, List.cons_append, List.head?_cons] at hhead
  have hstop : ∀ c ∈ (trimChars cs).reverse.head?, isBlank c = false := by
    intro c hc
    have hhead := List.head?_dropWhile_not isBlank (cs.dropWhile isBlank).reverse
    rw [trimChars, trimEnd, List.reverse_reverse] at hc
    rwa [hc] at hhead
  rw [trimChars, dropWhile_eq_self hstart, trimEnd, dropWhile_eq_self hstop, List.reverse_reverse]

namespace Settings

theorem trimChars_value (raw : Option String) :
    Text.trimChars (value raw).toList = (value raw).toList := by
  rw [value, Text.trim, String.toList_ofList, Text.trimChars_trimChars]

/-- A variable without white space around its text; a blank text counts as none. -/
def trimmed (raw : Option String) : Option String := if value raw = "" then none else some (value raw)

theorem value_trimmed (raw : Option String) : value (trimmed raw) = value raw := by
  rw [trimmed]
  split
  · next hblank =>
    rw [hblank]
    rfl
  · rw [value, Option.getD_some, Text.trim, trimChars_value, String.ofList_toList]

/-- The numeral that a variable holds. -/
def Denotes (raw : Option String) (n : Numeral) : Prop := Binary64.IsNumeral (value raw).toList n

theorem ofText?_value_eq_some_iff {raw : Option String} {x : Binary64} :
    Binary64.ofText? (value raw) = some x ↔ ∃ n, Denotes raw n ∧ x = n.toBinary64 := by
  rw [Binary64.ofText?_eq_some_iff, trimChars_value]
  rfl

end Settings

/-- The variables without white space around their texts, and without the blank ones. -/
def Environment.trimmed (e : Environment) : Environment where
  backend := Settings.trimmed e.backend
  mode := Settings.trimmed e.mode
  program := Settings.trimmed e.program
  timeout := Settings.trimmed e.timeout

namespace Settings

/-- **White space does not count**: neither around a text nor for one. -/
theorem ofEnvironment_trimmed (e : Environment) : ofEnvironment e.trimmed = ofEnvironment e := by
  simp only [ofEnvironment, Environment.trimmed, modeOf, timeoutOf, valueOr, value_trimmed]

/-! ## What can be wrong with a text -/

/-- The word for the mode is one of the two, or there is none. -/
def ModeIsKnown (raw : Option String) : Prop :=
  Text.lower (value raw) ∈ ["", "largest", "smallest"]

theorem modeOf_eq_error_iff {raw : Option String} {fault : ConfigFault} :
    modeOf raw = .error fault ↔ ¬ModeIsKnown raw ∧ fault = .unknownMode (Text.lower (value raw)) := by
  rw [modeOf, ModeIsKnown]
  generalize Text.lower (value raw) = word
  by_cases hknown : word ∈ ["", "largest", "smallest"]
  · refine iff_of_false ?_ fun h => h.1 hknown
    simp only [List.mem_cons, List.not_mem_nil, or_false] at hknown
    rcases hknown with rfl | rfl | rfl <;> exact nofun
  · have hword := hknown
    simp only [List.mem_cons, List.not_mem_nil, or_false, not_or] at hword
    rw [if_neg hword.1, Mode.ofText?, if_neg hword.2.1, if_neg hword.2.2]
    exact ⟨fun h => ⟨hknown, (Except.error.inj h).symm⟩, fun h => congrArg _ h.2.symm⟩

theorem exists_modeOf_iff {raw : Option String} : (∃ m, modeOf raw = .ok m) ↔ ModeIsKnown raw := by
  cases h : modeOf raw with
  | ok m =>
    refine iff_of_true ⟨m, rfl⟩ ?_
    by_contra hunknown
    rw [modeOf_eq_error_iff.mpr ⟨hunknown, rfl⟩] at h
    cases h
  | error fault => exact iff_of_false (by simp) (modeOf_eq_error_iff.mp h).1

theorem timeoutOf_of_blank {raw : Option String} (h : value raw = "") : timeoutOf raw = .ok none :=
  if_pos h

theorem value_ne_empty_of_denotes {raw : Option String} {n : Numeral} (h : Denotes raw n) :
    value raw ≠ "" := by
  intro hblank
  have hread := ofText?_value_eq_some_iff.mpr ⟨n, h, rfl⟩
  rw [hblank] at hread
  cases hread

/-- A text that is no numeral makes no time limit. -/
theorem timeoutOf_of_not_denotes {raw : Option String} (hne : value raw ≠ "")
    (h : ¬∃ n, Denotes raw n) :
    timeoutOf raw = .error (.timeoutNotNumber (value raw)) := by
  rw [timeoutOf, if_neg hne]
  cases hread : Binary64.ofText? (value raw) with
  | none => rfl
  | some x =>
    obtain ⟨n, hn, -⟩ := ofText?_value_eq_some_iff.mp hread
    exact absurd ⟨n, hn⟩ h

/-- **A numeral makes a time limit** if it is for no number or for one above zero. -/
theorem timeoutOf_of_denotes {raw : Option String} {n : Numeral} (h : Denotes raw n) :
    (n ≠ .nan ∧ ¬n.IsPositive ∧ timeoutOf raw = .error (.timeoutNotPositive (value raw))) ∨
      ((n = .nan ∨ n.IsPositive) ∧ timeoutOf raw = .ok (some (.real n.toBinary64))) := by
  rw [timeoutOf, if_neg (value_ne_empty_of_denotes h), ofText?_value_eq_some_iff.mpr ⟨n, h, rfl⟩]
  dsimp only
  by_cases hzero : n.toBinary64.isAtMostZero = true
  · obtain ⟨hne, hnot⟩ := n.isAtMostZero_toBinary64_iff.mp hzero
    exact .inl ⟨hne, hnot, if_pos hzero⟩
  · refine .inr ⟨?_, if_neg hzero⟩
    rw [n.isAtMostZero_toBinary64_iff, not_and_or, not_not, not_not] at hzero
    exact hzero

theorem toBinary64_eq_of_denotes {raw : Option String} {n n' : Numeral} (h : Denotes raw n)
    (h' : Denotes raw n') : n.toBinary64 = n'.toBinary64 :=
  Option.some_inj.mp ((ofText?_value_eq_some_iff.mpr ⟨n, h, rfl⟩).symm.trans
    (ofText?_value_eq_some_iff.mpr ⟨n', h', rfl⟩))

/-- A text that is a numeral for a number above zero, or for no number. -/
def HoldsLimit (raw : Option String) : Prop := ∃ n, Denotes raw n ∧ (n = .nan ∨ n.IsPositive)

/-- A text that is a numeral for a number that is not above zero. -/
def HoldsZeroOrLess (raw : Option String) : Prop := ∃ n, Denotes raw n ∧ n ≠ .nan ∧ ¬n.IsPositive

theorem exists_timeoutOf_iff {raw : Option String} :
    (∃ limit, timeoutOf raw = .ok limit) ↔ value raw = "" ∨ HoldsLimit raw := by
  by_cases hblank : value raw = ""
  · exact iff_of_true ⟨none, timeoutOf_of_blank hblank⟩ (.inl hblank)
  rw [or_iff_right hblank]
  constructor
  · rintro ⟨limit, hlimit⟩
    by_contra hnot
    by_cases hnumeral : ∃ n, Denotes raw n
    · obtain ⟨n, hn⟩ := hnumeral
      rcases timeoutOf_of_denotes hn with ⟨-, -, herror⟩ | ⟨hpos, -⟩
      · cases hlimit.symm.trans herror
      · exact hnot ⟨n, hn, hpos⟩
    · cases hlimit.symm.trans (timeoutOf_of_not_denotes hblank hnumeral)
  · rintro ⟨n, hn, hpos⟩
    rcases timeoutOf_of_denotes hn with ⟨hne, hnot, -⟩ | ⟨-, hok⟩
    · exact absurd hpos (not_or.mpr ⟨hne, hnot⟩)
    · exact ⟨_, hok⟩

theorem timeoutOf_eq_error_iff {raw : Option String} {fault : ConfigFault} :
    timeoutOf raw = .error fault ↔
      (value raw ≠ "" ∧ (¬∃ n, Denotes raw n) ∧ fault = .timeoutNotNumber (value raw)) ∨
        (HoldsZeroOrLess raw ∧ fault = .timeoutNotPositive (value raw)) := by
  constructor
  · intro h
    have hblank : value raw ≠ "" := fun hblank => by cases h.symm.trans (timeoutOf_of_blank hblank)
    by_cases hnumeral : ∃ n, Denotes raw n
    · obtain ⟨n, hn⟩ := hnumeral
      rcases timeoutOf_of_denotes hn with ⟨hne, hnot, herror⟩ | ⟨-, hok⟩
      · exact .inr ⟨⟨n, hn, hne, hnot⟩, Except.error.inj (h.symm.trans herror)⟩
      · cases h.symm.trans hok
    · exact .inl ⟨hblank, hnumeral,
        Except.error.inj (h.symm.trans (timeoutOf_of_not_denotes hblank hnumeral))⟩
  · rintro (⟨hblank, hnumeral, rfl⟩ | ⟨⟨n, hn, hne, hnot⟩, rfl⟩)
    · exact timeoutOf_of_not_denotes hblank hnumeral
    · rcases timeoutOf_of_denotes hn with ⟨-, -, herror⟩ | ⟨hpos, -⟩
      · exact herror
      · exact absurd hpos (not_or.mpr ⟨hne, hnot⟩)

/-- **The limit that a text makes** is missing with the text, above zero, or no number; it is the last
exactly if the text is a numeral for that. -/
theorem limit_cases {raw : Option String} {limit : Option Seconds} (h : timeoutOf raw = .ok limit) :
    ((value raw = "" ∧ limit = none) ∨
      ∃ x : Binary64, limit = some (.real x) ∧ (x = .nan ∨ x.isPositive = true)) ∧
    (limit = some (.real .nan) ↔ Denotes raw .nan) := by
  rcases exists_timeoutOf_iff.mp ⟨limit, h⟩ with hblank | ⟨n, hn, hpos⟩
  · obtain rfl := Except.ok.inj (h.symm.trans (timeoutOf_of_blank hblank))
    refine ⟨.inl ⟨hblank, rfl⟩, iff_of_false nofun fun hnan => ?_⟩
    exact value_ne_empty_of_denotes hnan hblank
  · rcases timeoutOf_of_denotes hn with ⟨-, -, herror⟩ | ⟨-, hok⟩
    · cases h.symm.trans herror
    obtain rfl := Except.ok.inj (h.symm.trans hok)
    refine ⟨.inr ⟨_, rfl, hpos.imp n.toBinary64_eq_nan_iff.mpr n.isPositive_toBinary64_iff.mpr⟩, ?_⟩
    rw [Option.some_inj, Seconds.real.injEq]
    constructor
    · intro hnan
      exact n.toBinary64_eq_nan_iff.mp hnan ▸ hn
    · exact toBinary64_eq_of_denotes hn

/-- **Which environments are admitted.**  Only what is left of the texts without white space around them
counts, and a blank text counts as none.  The settings are refused for a mode that is none of the two
words, whatever its case; else for a limit that is no numeral; and else for a limit that is a number but
not above zero, where a decimal of at most half the least number counts as zero.  They are made in all
other cases.  So the limit of settings is missing, above zero, or no number, and it is the last exactly
if the text is a numeral for that. -/
theorem environment_admitted_iff (e : Environment) :
    (∀ e' : Environment, e'.trimmed = e.trimmed → ofEnvironment e' = ofEnvironment e) ∧
    ofEnvironment e.trimmed = ofEnvironment e ∧
    (∀ fault, ofEnvironment e = .error fault ↔
      (¬ModeIsKnown e.mode ∧ fault = .unknownMode (Text.lower (value e.mode))) ∨
      (ModeIsKnown e.mode ∧ value e.timeout ≠ "" ∧ (¬∃ n, Denotes e.timeout n) ∧
        fault = .timeoutNotNumber (value e.timeout)) ∨
      (ModeIsKnown e.mode ∧ HoldsZeroOrLess e.timeout ∧
        fault = .timeoutNotPositive (value e.timeout))) ∧
    ((∃ s, ofEnvironment e = .ok s) ↔
      ModeIsKnown e.mode ∧ (value e.timeout = "" ∨ HoldsLimit e.timeout)) ∧
    (∀ s, ofEnvironment e = .ok s →
      ((value e.timeout = "" ∧ s.timeout = none) ∨
        ∃ x : Binary64, s.timeout = some (.real x) ∧ (x = .nan ∨ x.isPositive = true)) ∧
      (s.timeout = some (.real .nan) ↔ Denotes e.timeout .nan)) := by
  refine ⟨fun e' h => ?_, ofEnvironment_trimmed e, fun fault => ?_, ?_, fun s hs => ?_⟩
  · rw [← ofEnvironment_trimmed e', h, ofEnvironment_trimmed]
  · rw [ofEnvironment]
    cases hmode : modeOf e.mode with
    | error unknown =>
      obtain ⟨hunknown, rfl⟩ := modeOf_eq_error_iff.mp hmode
      simp only [hunknown, not_false_eq_true, true_and, false_and, or_false, Except.error.injEq]
      exact eq_comm
    | ok mode =>
      have hknown := exists_modeOf_iff.mp ⟨mode, hmode⟩
      simp only [hknown, not_true_eq_false, false_and, false_or, true_and, ← timeoutOf_eq_error_iff]
      cases timeoutOf e.timeout <;> simp
  · rw [← exists_modeOf_iff, ← exists_timeoutOf_iff, ofEnvironment]
    cases modeOf e.mode with
    | error unknown => simp
    | ok mode => cases timeoutOf e.timeout <;> simp
  · rw [ofEnvironment] at hs
    cases hmode : modeOf e.mode with
    | error unknown =>
      rw [hmode] at hs
      cases hs
    | ok mode =>
      cases htimeout : timeoutOf e.timeout with
      | error fault =>
        rw [hmode, htimeout] at hs
        cases hs
      | ok limit =>
        rw [hmode, htimeout] at hs
        obtain rfl := Except.ok.inj hs
        exact limit_cases htimeout

/-- The word for no number makes settings, with a limit that is not above zero. -/
theorem nan_admitted :
    ∃ s, ofEnvironment { timeout := some " NaN\n" } = .ok s ∧
      s.timeout = some (.real .nan) ∧ Binary64.isPositive .nan = false := by
  have hnan : Denotes (some " NaN\n") .nan := @Binary64.IsNumeral.signed [] _ false .nan .absent (.nan rfl)
  have hmode : ModeIsKnown none := List.mem_cons_self
  obtain ⟨-, -, -, hadmitted, hlimit⟩ := environment_admitted_iff { timeout := some " NaN\n" }
  obtain ⟨s, hs⟩ := hadmitted.mpr ⟨hmode, .inr ⟨.nan, hnan, .inl rfl⟩⟩
  exact ⟨s, hs, (hlimit s hs).2.mpr hnan, rfl⟩

end Settings
end Enclosure
