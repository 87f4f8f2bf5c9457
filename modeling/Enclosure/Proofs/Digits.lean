import Enclosure.Number.Literal
import Mathlib.Data.List.TakeWhile
import Mathlib.Tactic.Common

/-!
# Digits of numerals

The digits of a numeral may be those of any script, and single underscores may stand between two of
them.  The reader of numerals puts every digit as an ASCII digit and then leaves the underscores out,
before it looks for the parts of a numeral.  What it finds there must be traced back to the text: a row
of digits in what is left has a row of the text behind it, perhaps with underscores in it, and
everything else has the same character behind it.

What is here:

* `Binary64.IsDigitRow`: a row of digits, and their values.
* `Binary64.eq_of_toAscii_eq`: what becomes no digit has not changed.
* `Binary64.exists_row` and `Binary64.exists_cons`: tracing digits and other characters back.
* `Binary64.isDigitRow_of_all`: what is left of a row, and nothing else, is all digits.
-/

set_option autoImplicit false

namespace Enclosure
namespace Binary64

/-- A row of digits of any script, perhaps with single underscores between them, and their values. -/
inductive IsDigitRow : List Char → List Nat → Prop
  | last {c : Char} {d : Nat} (hc : digitValue? c = some d) : IsDigitRow [c] [d]
  | cons {c : Char} {d : Nat} {cs : List Char} {ds : List Nat} (hc : digitValue? c = some d)
    (h : IsDigitRow cs ds) : IsDigitRow (c :: cs) (d :: ds)
  | spaced {c : Char} {d : Nat} {cs : List Char} {ds : List Nat} (hc : digitValue? c = some d)
    (h : IsDigitRow cs ds) : IsDigitRow (c :: '_' :: cs) (d :: ds)

/-- The number that the values of digits make up. -/
def valueOf (ds : List Nat) : Nat := ds.foldl (fun n d => 10 * n + d) 0

/-! ## Characters as ASCII -/

/-- A digit as an ASCII digit, white space as a blank. -/
def toAscii (c : Char) : Char :=
  if c.toNat < 128 then c
  else if Text.isBlank c then ' '
  else match digitValue? c with
    | some d => Char.ofNat (48 + d)
    | none => '?'

theorem inAscii_eq_map (cs : List Char) : inAscii cs = cs.map toAscii := rfl

theorem inAscii_cons (c : Char) (cs : List Char) : inAscii (c :: cs) = toAscii c :: inAscii cs := rfl

/-- The ASCII digit with a value. -/
def asciiDigit (d : Nat) : Char := Char.ofNat (48 + d)

theorem toNat_asciiDigit {d : Nat} (h : d ≤ 9) : (asciiDigit d).toNat = 48 + d := by
  revert d
  decide

theorem isDigit_iff {c : Char} : isDigit c = true ↔ 48 ≤ c.toNat ∧ c.toNat ≤ 57 := by
  rw [isDigit, Bool.and_eq_true, decide_eq_true_eq, decide_eq_true_eq, Char.le_def, Char.le_def,
    UInt32.le_iff_toNat_le, UInt32.le_iff_toNat_le]
  exact Iff.rfl

theorem isDigit_asciiDigit {d : Nat} (h : d ≤ 9) : isDigit (asciiDigit d) = true := by
  rw [isDigit_iff, toNat_asciiDigit h]
  omega

theorem digitValue?_eq_some {c : Char} {d : Nat} (h : digitValue? c = some d) :
    ∃ z ∈ digitZeros, d ≤ 9 ∧ c.toNat = z + d := by
  rw [digitValue?, Option.map_eq_some_iff] at h
  obtain ⟨z, hz, rfl⟩ := h
  have hrange := List.find?_some hz
  rw [Bool.and_eq_true, decide_eq_true_eq, decide_eq_true_eq] at hrange
  exact ⟨z, List.mem_of_find?_eq_some hz, by omega, by omega⟩

/-- A script has its digits in ASCII or beyond, and no white space among them. -/
theorem zero_cases {z : Nat} (hz : z ∈ digitZeros) :
    (z = 48 ∨ 128 ≤ z) ∧ ∀ d ≤ 9, Text.isBlankCode (z + d) = false := by
  revert z
  decide

theorem toAscii_of_lt {c : Char} (h : c.toNat < 128) : toAscii c = c := if_pos h

/-- A digit becomes the ASCII digit with its value. -/
theorem toAscii_of_digitValue? {c : Char} {d : Nat} (h : digitValue? c = some d) :
    d ≤ 9 ∧ toAscii c = asciiDigit d := by
  obtain ⟨z, hz, hd, hc⟩ := digitValue?_eq_some h
  refine ⟨hd, ?_⟩
  obtain ⟨rfl | hlarge, hblank⟩ := zero_cases hz
  · rw [toAscii_of_lt (by omega), ← Char.toNat_inj, toNat_asciiDigit hd, hc]
  · have hvisible : Text.isBlank c = false := by rw [Text.isBlank, hc, hblank d hd]
    rw [toAscii, if_neg (by omega), hvisible, h]
    rfl

theorem digitValue?_of_isDigit {c : Char} (h : isDigit c = true) :
    digitValue? c = some (c.toNat - 48) := by
  obtain ⟨hlow, hhigh⟩ := isDigit_iff.mp h
  rw [digitValue?, digitZeros, List.find?_cons_of_pos (by simp [hlow, hhigh])]
  rfl

/-- **What becomes an ASCII digit** is a digit. -/
theorem exists_digitValue?_of_isDigit {c : Char} (h : isDigit (toAscii c) = true) :
    ∃ d, digitValue? c = some d := by
  by_cases hc : c.toNat < 128
  · rw [toAscii_of_lt hc] at h
    exact ⟨_, digitValue?_of_isDigit h⟩
  · rw [toAscii, if_neg hc] at h
    split at h
    · exact absurd h (by decide)
    · cases hd : digitValue? c with
      | some d => exact ⟨d, rfl⟩
      | none =>
        rw [hd] at h
        exact absurd h (by decide)

theorem isDigit_toAscii_of_digitValue? {c : Char} {d : Nat} (h : digitValue? c = some d) :
    isDigit (toAscii c) = true := by
  obtain ⟨hd, heq⟩ := toAscii_of_digitValue? h
  rw [heq, isDigit_asciiDigit hd]

/-- An ASCII character that stands for nothing else has only itself behind it. -/
theorem eq_of_toAscii_eq {c x : Char} (h : toAscii c = x) (hdigit : isDigit x = false)
    (hblank : x ≠ ' ') (hother : x ≠ '?') : c = x := by
  by_cases hc : c.toNat < 128
  · rwa [toAscii_of_lt hc] at h
  · have hnone : digitValue? c = none := by
      rw [Option.eq_none_iff_forall_ne_some]
      intro d hd
      rw [← h, isDigit_toAscii_of_digitValue? hd] at hdigit
      exact absurd hdigit (by decide)
    rw [toAscii, if_neg hc, hnone] at h
    split at h
    · exact absurd h.symm hblank
    · exact absurd h.symm hother

theorem isBlank_toAscii (c : Char) : Text.isBlank (toAscii c) = Text.isBlank c := by
  by_cases hc : c.toNat < 128
  · rw [toAscii_of_lt hc]
  · cases hblank : Text.isBlank c with
    | true =>
      rw [toAscii, if_neg hc, hblank]
      rfl
    | false =>
      cases hd : digitValue? c with
      | some d =>
        obtain ⟨hle, heq⟩ := toAscii_of_digitValue? hd
        rw [heq, Text.isBlank, toNat_asciiDigit hle]
        exact (zero_cases List.mem_cons_self).2 d hle
      | none =>
        rw [toAscii, if_neg hc, hblank, hd]
        rfl

/-! ## Tracing back what is left -/

section

variable {b c x : Char} {cs es : List Char} {ds : List Nat}

/-- A digit stays, whatever stands before it. -/
theorem withoutUnderscores_digit (b : Char) (hc : isDigit c = true) (cs : List Char) :
    withoutUnderscores b (c :: cs) = (withoutUnderscores c cs).map (c :: ·) := by
  have hne : c ≠ '_' := by rintro rfl; exact absurd hc (by decide)
  rw [withoutUnderscores, if_neg (by simpa using hne), if_neg (by simp [hc])]

/-- Any other character stays too, unless there is an underscore before it. -/
theorem withoutUnderscores_other (hb : b ≠ '_') (hc : c ≠ '_') (cs : List Char) :
    withoutUnderscores b (c :: cs) = (withoutUnderscores c cs).map (c :: ·) := by
  rw [withoutUnderscores, if_neg (by simpa using hc), if_neg (by simp [hb])]

/-- What stands before a text only matters as far as it is a digit. -/
theorem withoutUnderscores_congr (hb : isDigit b = true) (hc : isDigit c = true) (cs : List Char) :
    withoutUnderscores b cs = withoutUnderscores c cs := by
  have hb' : b ≠ '_' := by rintro rfl; exact absurd hb (by decide)
  have hc' : c ≠ '_' := by rintro rfl; exact absurd hc (by decide)
  cases cs with
  | nil => simp [withoutUnderscores, hb', hc']
  | cons x cs => simp [withoutUnderscores, hb, hc, hb', hc']

/-- **The digits of a row are left**, and what follows them is read as behind a digit. -/
theorem IsDigitRow.withoutUnderscores_eq (h : IsDigitRow cs ds) (b : Char) (rest : List Char) :
    withoutUnderscores b (inAscii cs ++ rest) =
      (withoutUnderscores '0' rest).map (ds.map asciiDigit ++ ·) := by
  induction h generalizing b with
  | @last c d hc =>
    obtain ⟨hd, heq⟩ := toAscii_of_digitValue? hc
    have hdigit := isDigit_asciiDigit hd
    rw [inAscii_cons, List.cons_append, heq, withoutUnderscores_digit b hdigit,
      withoutUnderscores_congr hdigit (c := '0') rfl]
    rfl
  | @cons c d cs ds hc h ih =>
    obtain ⟨hd, heq⟩ := toAscii_of_digitValue? hc
    rw [inAscii_cons, List.cons_append, heq, withoutUnderscores_digit b (isDigit_asciiDigit hd), ih,
      Option.map_map]
    rfl
  | @spaced c d cs ds hc h ih =>
    obtain ⟨hd, heq⟩ := toAscii_of_digitValue? hc
    have hdigit := isDigit_asciiDigit hd
    rw [inAscii_cons, inAscii_cons, List.cons_append, List.cons_append, heq,
      withoutUnderscores_digit b hdigit, show toAscii '_' = '_' from rfl, withoutUnderscores,
      if_pos (by decide), if_pos hdigit, ih, Option.map_map]
    rfl

/-- An underscore is followed by a digit. -/
theorem exists_digit_of_underscore (h : withoutUnderscores '_' cs = some es) :
    ∃ d es', es = d :: es' ∧ isDigit d = true := by
  cases cs with
  | nil => cases h
  | cons c cs =>
    by_cases hc : isDigit c = true
    · rw [withoutUnderscores_digit _ hc] at h
      obtain ⟨es', -, rfl⟩ := Option.map_eq_some_iff.mp h
      exact ⟨c, es', rfl, hc⟩
    · have hunder : isDigit '_' = false := rfl
      simp [withoutUnderscores, hc, hunder] at h

/-- **The next character of a text**: it is left if it is no underscore, and an underscore only stands
behind a digit. -/
theorem withoutUnderscores_cons_cases (h : withoutUnderscores b (c :: cs) = some es) :
    (c = '_' ∧ isDigit b = true ∧ withoutUnderscores '_' cs = some es) ∨
      ∃ es', c ≠ '_' ∧ es = c :: es' ∧ withoutUnderscores c cs = some es' := by
  rw [withoutUnderscores] at h
  split at h
  · next hc =>
    obtain rfl := eq_of_beq hc
    split at h
    · next hb => exact .inl ⟨rfl, hb, h⟩
    · cases h
  · next hc =>
    split at h
    · cases h
    · obtain ⟨es', hes, rfl⟩ := Option.map_eq_some_iff.mp h
      exact .inr ⟨es', by simpa using hc, rfl, hes⟩

/-- Nothing is left of nothing only. -/
theorem eq_nil_of_withoutUnderscores (h : withoutUnderscores b (inAscii cs) = some []) : cs = [] := by
  cases cs with
  | nil => rfl
  | cons c cs =>
    rcases withoutUnderscores_cons_cases h with ⟨-, -, hrest⟩ | ⟨es', -, hes, -⟩
    · obtain ⟨d, es', hes, -⟩ := exists_digit_of_underscore hrest
      cases hes
    · cases hes

/-- Nothing is left of nothing. -/
theorem eq_nil_of_withoutUnderscores_nil (h : withoutUnderscores b (inAscii []) = some es) :
    es = [] := by
  rw [inAscii_eq_map, List.map_nil, withoutUnderscores] at h
  split at h
  · cases h
  · exact (Option.some_inj.mp h).symm

/-- **Tracing back a character that is no digit**: it is the next one of the text. -/
theorem exists_cons (h : withoutUnderscores b (inAscii cs) = some (x :: es)) (hx : isDigit x = false)
    (hblank : x ≠ ' ') (hother : x ≠ '?') :
    ∃ cs', cs = x :: cs' ∧ withoutUnderscores x (inAscii cs') = some es := by
  cases cs with
  | nil => cases eq_nil_of_withoutUnderscores_nil h
  | cons c cs =>
    rw [inAscii_cons] at h
    rcases withoutUnderscores_cons_cases h with ⟨-, -, hrest⟩ | ⟨es', -, hes, hrest⟩
    · obtain ⟨d, es', hes, hd⟩ := exists_digit_of_underscore hrest
      obtain ⟨rfl, rfl⟩ := List.cons.inj hes
      rw [hd] at hx
      cases hx
    · obtain ⟨rfl, rfl⟩ := List.cons.inj hes
      exact ⟨cs, congrArg (· :: cs) (eq_of_toAscii_eq rfl hx hblank hother), hrest⟩

/-- **Tracing back a digit** that does not stand behind one: it is for a digit of some script. -/
theorem exists_digit_cons (h : withoutUnderscores b (inAscii cs) = some es) (hb : isDigit b = false)
    (hne : es.takeWhile isDigit ≠ []) :
    ∃ c cs' d es', cs = c :: cs' ∧ digitValue? c = some d ∧ es = asciiDigit d :: es' ∧
      withoutUnderscores (asciiDigit d) (inAscii cs') = some es' := by
  cases cs with
  | nil =>
    obtain rfl := eq_nil_of_withoutUnderscores_nil h
    exact absurd rfl hne
  | cons c cs =>
    rw [inAscii_cons] at h
    rcases withoutUnderscores_cons_cases h with ⟨-, hb', -⟩ | ⟨es', -, rfl, hrest⟩
    · rw [hb] at hb'
      cases hb'
    have hc : isDigit (toAscii c) = true := by
      by_contra hc
      exact hne (List.takeWhile_cons_of_neg hc)
    obtain ⟨d, hd⟩ := exists_digitValue?_of_isDigit hc
    rw [(toAscii_of_digitValue? hd).2] at hrest ⊢
    exact ⟨c, cs, d, es', rfl, hd, rfl, hrest⟩

/-- **What stands behind a digit**, if there are more of them: an underscore, or something that can be
read from the start. -/
theorem underscore_or_restart (h : withoutUnderscores c (inAscii cs) = some es)
    (hne : es.takeWhile isDigit ≠ []) :
    (∃ cs', cs = '_' :: cs' ∧ withoutUnderscores '_' (inAscii cs') = some es) ∨
      withoutUnderscores ' ' (inAscii cs) = some es := by
  cases cs with
  | nil =>
    obtain rfl := eq_nil_of_withoutUnderscores_nil h
    exact absurd rfl hne
  | cons c' cs =>
    rw [inAscii_cons] at h ⊢
    rcases withoutUnderscores_cons_cases h with ⟨hunder, -, hrest⟩ | ⟨es', -, rfl, hrest⟩
    · obtain rfl := eq_of_toAscii_eq hunder (by decide) (by decide) (by decide)
      exact .inl ⟨cs, rfl, hrest⟩
    · have hc' : isDigit (toAscii c') = true := by
        by_contra hc'
        exact hne (List.takeWhile_cons_of_neg hc')
      refine .inr ?_
      rw [withoutUnderscores_digit _ hc', hrest]
      rfl

/-- Without digits in front, nothing is dropped. -/
theorem dropWhile_of_takeWhile_eq_nil (h : es.takeWhile isDigit = []) : es.dropWhile isDigit = es := by
  have hself := List.takeWhile_append_dropWhile (p := isDigit) (l := es)
  rwa [h, List.nil_append] at hself

/-- **Tracing back the digits in front**: there is a row of digits in front of the text. -/
theorem exists_row (h : withoutUnderscores b (inAscii cs) = some es)
    (hb : isDigit b = false) (hne : es.takeWhile isDigit ≠ []) :
    ∃ row rest ds, cs = row ++ rest ∧ IsDigitRow row ds ∧ es.takeWhile isDigit = ds.map asciiDigit ∧
      withoutUnderscores '0' (inAscii rest) = some (es.dropWhile isDigit) := by
  -- an underscore and the digit behind it go together, so the induction is on the length
  induction hn : cs.length using Nat.strong_induction_on generalizing cs es b with
  | _ n ih =>
  subst hn
  obtain ⟨c, cs, d, es, rfl, hd, rfl, hrest⟩ := exists_digit_cons h hb hne
  have hdigit : isDigit (asciiDigit d) = true := isDigit_asciiDigit (toAscii_of_digitValue? hd).1
  rw [List.takeWhile_cons_of_pos hdigit, List.dropWhile_cons_of_pos hdigit]
  by_cases hmore : es.takeWhile isDigit = []
  · -- the row is over
    refine ⟨[c], cs, [d], rfl, .last hd, by rw [hmore]; rfl, ?_⟩
    rw [dropWhile_of_takeWhile_eq_nil hmore, withoutUnderscores_congr rfl hdigit]
    exact hrest
  · rcases underscore_or_restart hrest hmore with ⟨cs, rfl, hspaced⟩ | hagain
    · have hshorter : cs.length < (c :: '_' :: cs).length := by
        simp only [List.length_cons]
        omega
      obtain ⟨row, rest, ds, rfl, hrow, htake, hleft⟩ := ih _ hshorter hspaced rfl hmore rfl
      exact ⟨c :: '_' :: row, rest, d :: ds, rfl, .spaced hd hrow,
        congrArg (asciiDigit d :: ·) htake, hleft⟩
    · obtain ⟨row, rest, ds, rfl, hrow, htake, hleft⟩ :=
        ih _ (Nat.lt_succ_self _) hagain rfl hmore rfl
      exact ⟨c :: row, rest, d :: ds, rfl, .cons hd hrow, congrArg (asciiDigit d :: ·) htake, hleft⟩

/-! ## Rows of digits -/

theorem IsDigitRow.le_nine (h : IsDigitRow cs ds) : ∀ d ∈ ds, d ≤ 9 := by
  induction h with
  | last hc =>
    rw [List.forall_mem_singleton]
    exact (toAscii_of_digitValue? hc).1
  | cons hc _ ih => exact List.forall_mem_cons.mpr ⟨(toAscii_of_digitValue? hc).1, ih⟩
  | spaced hc _ ih => exact List.forall_mem_cons.mpr ⟨(toAscii_of_digitValue? hc).1, ih⟩

theorem IsDigitRow.ne_nil (h : IsDigitRow cs ds) : ds ≠ [] := by
  cases h <;> exact List.cons_ne_nil _ _

theorem IsDigitRow.isDigit_of_mem (h : IsDigitRow cs ds) :
    ∀ c ∈ ds.map asciiDigit, isDigit c = true := by
  intro c hc
  obtain ⟨d, hd, rfl⟩ := List.mem_map.mp hc
  exact isDigit_asciiDigit (h.le_nine d hd)

theorem digitsValue_map_asciiDigit (h : ∀ d ∈ ds, d ≤ 9) (n : Nat) :
    digitsValue n (ds.map asciiDigit) = ds.foldl (fun n d => 10 * n + d) n := by
  induction ds generalizing n with
  | nil => rfl
  | cons d ds ih =>
    rw [List.forall_mem_cons] at h
    have hvalue : (asciiDigit d).toNat - 48 = d := by
      rw [toNat_asciiDigit h.1]
      omega
    rw [List.map_cons, List.foldl_cons]
    unfold digitsValue
    rw [hvalue]
    exact ih h.2 _

/-- **The value of digits** is read off them. -/
theorem digitsValue_eq_valueOf (h : ∀ d ∈ ds, d ≤ 9) :
    digitsValue 0 (ds.map asciiDigit) = valueOf ds := digitsValue_map_asciiDigit h 0

/-- Digits end where something else starts. -/
theorem span_digits {w r : List Char} (hw : ∀ c ∈ w, isDigit c = true)
    (hr : ∀ c ∈ r.head?, isDigit c = false) :
    (w ++ r).takeWhile isDigit = w ∧ (w ++ r).dropWhile isDigit = r := by
  rw [List.takeWhile_append_of_pos hw, List.dropWhile_append_of_pos hw]
  cases r with
  | nil => exact ⟨List.append_nil w, rfl⟩
  | cons x r =>
    have hx : ¬isDigit x = true := by simp [hr x rfl]
    rw [List.takeWhile_cons_of_neg hx, List.dropWhile_cons_of_neg hx]
    exact ⟨List.append_nil w, rfl⟩

/-- What is nothing but digits once the underscores are left out is a row. -/
theorem isDigitRow_of_all (h : withoutUnderscores b (inAscii cs) = some es) (hb : isDigit b = false)
    (hne : es ≠ []) (hall : ∀ c ∈ es, isDigit c = true) :
    ∃ ds, IsDigitRow cs ds ∧ es = ds.map asciiDigit := by
  have htake := List.takeWhile_eq_self_iff.mpr hall
  have hdrop := List.dropWhile_eq_nil_iff.mpr hall
  obtain ⟨row, rest, ds, rfl, hrow, heq, hleft⟩ := exists_row h hb (by rwa [htake])
  rw [hdrop] at hleft
  rw [eq_nil_of_withoutUnderscores hleft, List.append_nil]
  exact ⟨ds, hrow, htake.symm.trans heq⟩

end

end Binary64
end Enclosure
