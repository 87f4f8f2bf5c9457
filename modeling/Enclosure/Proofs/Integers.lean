import Enclosure.Field.Read
import Enclosure.Proofs.Codes
import Enclosure.Proofs.Json.Number
import Mathlib.Data.List.TakeWhile

/-!
# Values that stand for integers

A field for an integer takes more than integers: truth values, numbers without a fraction and texts.
This file says exactly which values it takes, and for which integers they stand.  A text stands for
one if it is a numeral with white space around it, and a numeral has three parts: zeros and
underscores in front, digits with single underscores between them, and a fraction of zeros.  The
reader takes the parts off one after the other, and each step has a lemma that puts its part back.

One form is odd.  The zeros in front end at a minus sign as they do at a digit, so a minus sign may
stand behind them, and then an underscore may follow it.

What is here:

* `Field.HasParts`: the three parts of a numeral.
* `Field.bare?_eq_some_iff`: what is left of them when the reader has cleaned a text.
* `Field.IsNumeral`, with `Field.integerOfCodes?_eq_some_iff`: the numerals are what is read.
* `Json.StandsFor`: a value that stands for an integer.
* `Field.integer_eq_ok_iff`: these values are taken, and no others.
-/

set_option autoImplicit false

namespace Enclosure

namespace Field

/-! ## The parts of a numeral -/

/-- Zeros and underscores in front of a number, if there are any; a zero comes first. -/
structure IsPadding (pad : Codes) : Prop where
  all : ∀ x ∈ pad, x.val = 0x30 ∨ x.val = 0x5f
  head : ∀ x ∈ pad.head?, x.val = 0x30

/-- Characters with single underscores between them, and the same without the underscores. -/
inductive IsSpaced : Codes → Codes → Prop
  | last {x : CodePoint} (hx : x.val ≠ 0x5f) : IsSpaced [x] [x]
  | cons {x : CodePoint} {xs ds : Codes} (hx : x.val ≠ 0x5f) (h : IsSpaced xs ds) :
    IsSpaced (x :: xs) (x :: ds)
  | spaced {x gap : CodePoint} {xs ds : Codes} (hx : x.val ≠ 0x5f) (hgap : gap.val = 0x5f)
    (h : IsSpaced xs ds) : IsSpaced (x :: gap :: xs) (x :: ds)

/-- A point with zeros after it, or nothing. -/
inductive IsFraction : Codes → Prop
  | absent : IsFraction []
  | zeros {point : CodePoint} {zeros : Codes} (hpoint : point.val = 0x2e) (hne : zeros ≠ [])
    (h : ∀ z ∈ zeros, z.val = 0x30) : IsFraction (point :: zeros)

/-- A text has the three parts: something in front, characters with underscores between them, and a
fraction. -/
inductive HasParts (pad ds : Codes) : Codes → Prop
  | intro {row tail : Codes} (hpad : IsPadding pad) (hrow : IsSpaced row ds) (htail : IsFraction tail) :
    HasParts pad ds (pad ++ row ++ tail)

/-- Digits, of which the first one is no zero unless it is alone. -/
structure IsPlain (ds : Codes) : Prop where
  nonempty : ds ≠ []
  digits : ∀ x ∈ ds, Json.isDigit x = true
  alone : (∃ x ∈ ds.head?, x.val = 0x30) → ds.length = 1

/-! ## One step after the other -/

theorem isPadding_nil : IsPadding [] := ⟨by simp, by simp⟩

theorem isZero_or_isGap {x : CodePoint} (h : x.val = 0x30 ∨ x.val = 0x5f) :
    (isZero x || isGap x) = true := by
  rcases h with h | h <;> simp [isZero, isGap, h]

/-- Behind what may stand in front of a number, the last of it is passed on. -/
theorem pastZeros_append {pad : Codes} (h : ∀ x ∈ pad, x.val = 0x30 ∨ x.val = 0x5f)
    (last : CodePoint) (rest : Codes) :
    pastZeros last (pad ++ rest) = pastZeros ((last :: pad).getLast (by simp)) rest := by
  induction pad generalizing last with
  | nil => rfl
  | cons x pad ih =>
    rw [List.forall_mem_cons] at h
    rw [List.cons_append, pastZeros, if_pos (isZero_or_isGap h.1), ih h.2]
    rfl

/-- **The zeros in front come off.**  What is left starts with another digit or a minus sign, or it is
the last of them with a point behind it or nothing. -/
theorem exists_append_of_pastZeros {last : CodePoint} {xs ys : Codes}
    (hlast : last.val = 0x30 ∨ last.val = 0x5f) (h : pastZeros last xs = some ys) :
    ∃ pad, last :: xs = pad ++ ys ∧ (∀ x ∈ pad, x.val = 0x30 ∨ x.val = 0x5f) ∧
      ((∃ y zs, ys = y :: zs ∧ isLead y = true) ∨
        ∃ l zs, ys = l :: zs ∧ (l.val = 0x30 ∨ l.val = 0x5f) ∧ ∀ z ∈ zs.head?, isPoint z = true) := by
  induction xs generalizing last with
  | nil =>
    obtain rfl := Option.some_inj.mp h
    exact ⟨[], rfl, by simp, .inr ⟨last, [], rfl, hlast, by simp⟩⟩
  | cons x xs ih =>
    rw [pastZeros] at h
    split at h
    · next hx =>
      have hx' : x.val = 0x30 ∨ x.val = 0x5f := by simpa [isZero, isGap] using hx
      obtain ⟨pad, hpad, hall, hys⟩ := ih hx' h
      refine ⟨last :: pad, by rw [hpad, List.cons_append], ?_, hys⟩
      exact List.forall_mem_cons.mpr ⟨hlast, hall⟩
    · split at h
      · next hlead =>
        obtain rfl := Option.some_inj.mp h
        exact ⟨[last], rfl, by simpa using hlast, .inl ⟨x, xs, rfl, hlead⟩⟩
      · split at h
        · next hpoint =>
          obtain rfl := Option.some_inj.mp h
          exact ⟨[], rfl, by simp, .inr ⟨last, x :: xs, rfl, hlast, by simpa using hpoint⟩⟩
        · cases h

theorem exists_append_of_withoutZeros? {xs ys : Codes} (h : withoutZeros? xs = some ys) :
    ∃ pad, xs = pad ++ ys ∧ IsPadding pad ∧
      ((∃ y zs, ys = y :: zs ∧ isLead y = true) ∨
        ∃ l zs, ys = l :: zs ∧ (l.val = 0x30 ∨ l.val = 0x5f) ∧ ∀ z ∈ zs.head?, isPoint z = true) := by
  cases xs with
  | nil => cases h
  | cons x xs =>
    rw [withoutZeros?] at h
    split at h
    · next hx =>
      have hx' : x.val = 0x30 := by simpa [isZero] using hx
      obtain ⟨pad, hpad, hall, hys⟩ := exists_append_of_pastZeros (.inl hx') h
      refine ⟨pad, hpad, ⟨hall, ?_⟩, hys⟩
      cases pad with
      | nil => simp
      | cons y pad => simpa [(List.cons.inj hpad).1] using hx'
    · split at h
      · next hlead =>
        obtain rfl := Option.some_inj.mp h
        exact ⟨[], rfl, isPadding_nil, .inl ⟨x, xs, rfl, hlead⟩⟩
      · cases h

/-- Another digit or a minus sign is what the zeros in front end at. -/
theorem withoutZeros?_of_isLead {pad ys : Codes} (hpad : IsPadding pad) {y : CodePoint}
    (hy : isLead y = true) : withoutZeros? (pad ++ y :: ys) = some (y :: ys) := by
  have hzero : isZero y = false := by
    by_contra h
    simp [isLead, isMinus, isZero] at hy h
    simp [h] at hy
  have hgap : isGap y = false := by
    by_contra h
    simp [isLead, isMinus, isGap, Json.isDigit] at hy h
    simp [h] at hy
  cases pad with
  | nil => simp [withoutZeros?, hzero, hy]
  | cons x pad =>
    have hx : isZero x = true := by simpa [isZero] using hpad.head x (by simp)
    rw [List.cons_append, withoutZeros?, if_pos hx,
      pastZeros_append fun z hz => hpad.all z (List.mem_cons_of_mem x hz), pastZeros,
      if_neg (by simp [hzero, hgap]), if_pos hy]

/-- A zero before a point or at the end stays. -/
theorem withoutZeros?_of_zero {pad tail : Codes} (hpad : IsPadding pad) {z : CodePoint}
    (hz : z.val = 0x30) (htail : IsFraction tail) :
    withoutZeros? (pad ++ z :: tail) = some (z :: tail) := by
  have hend (last : CodePoint) : pastZeros last tail = some (last :: tail) := by
    cases htail with
    | absent => rfl
    | @zeros point _ hpoint =>
      rw [pastZeros, if_neg (by simp [isZero, isGap, hpoint]),
        if_neg (by simp [isLead, isMinus, Json.isDigit, hpoint]), if_pos (by simp [isPoint, hpoint])]
  have hzero : isZero z = true := by simp [isZero, hz]
  cases pad with
  | nil => rw [List.nil_append, withoutZeros?, if_pos hzero, hend]
  | cons x pad =>
    have hx : isZero x = true := by simpa [isZero] using hpad.head x (by simp)
    rw [List.cons_append, withoutZeros?, if_pos hx,
      pastZeros_append fun y hy => hpad.all y (List.mem_cons_of_mem x hy), pastZeros,
      if_pos (by simp [hzero]), hend]

theorem isPoint_eq_false_iff {x : CodePoint} : (!isPoint x) = true ↔ x.val ≠ 0x2e := by
  simp [isPoint]

theorem withoutFraction?_append {core tail : Codes} (htail : IsFraction tail)
    (hcore : ∀ x ∈ core, x.val ≠ 0x2e) : withoutFraction? (core ++ tail) = some core := by
  have hpass : ∀ x ∈ core, (!isPoint x) = true := fun x hx => isPoint_eq_false_iff.mpr (hcore x hx)
  rw [withoutFraction?, List.dropWhile_append_of_pos hpass, List.takeWhile_append_of_pos hpass]
  cases htail with
  | absent => simp
  | @zeros point zs hp hne h =>
    have hstop : ¬(!isPoint point) = true := by simp [isPoint, hp]
    have hall : zs.all isZero = true := by simpa [isZero] using h
    have hdrop : (point :: zs).dropWhile (fun x => !isPoint x) = point :: zs :=
      List.dropWhile_cons_of_neg hstop
    have htake : (point :: zs).takeWhile (fun x => !isPoint x) = [] :=
      List.takeWhile_cons_of_neg hstop
    simp [hdrop, htake, hall, hne]

/-- **A fraction of zeros comes off**, and nothing else does. -/
theorem withoutFraction?_eq_some_iff {xs core : Codes} :
    withoutFraction? xs = some core ↔
      ∃ tail, xs = core ++ tail ∧ IsFraction tail ∧ ∀ x ∈ core, x.val ≠ 0x2e := by
  refine ⟨fun h => ?_, fun ⟨tail, hxs, htail, hcore⟩ => hxs ▸ withoutFraction?_append htail hcore⟩
  rw [withoutFraction?] at h
  have hsplit := List.takeWhile_append_dropWhile (p := fun x => !isPoint x) (l := xs)
  have hcore : ∀ x ∈ xs.takeWhile fun x => !isPoint x, x.val ≠ 0x2e := fun x hx =>
    isPoint_eq_false_iff.mp (List.mem_takeWhile_imp (p := fun x => !isPoint x) hx)
  cases hdrop : xs.dropWhile fun x => !isPoint x with
  | nil =>
    rw [hdrop] at h hsplit
    obtain rfl := Option.some_inj.mp h
    rw [List.append_nil] at hsplit
    exact ⟨[], (List.append_nil xs).symm, .absent, hsplit ▸ hcore⟩
  | cons point zeros =>
    rw [hdrop] at h hsplit
    dsimp only at h
    split at h
    · cases h
    · next hzeros =>
      obtain rfl := Option.some_inj.mp h
      simp only [Bool.or_eq_true, List.isEmpty_iff, Bool.not_eq_true', not_or,
        Bool.not_eq_false, List.all_eq_true] at hzeros
      have hfirst := List.head_dropWhile_not (fun x => !isPoint x) (l := xs)
        (by rw [hdrop]; exact List.cons_ne_nil _ _)
      simp only [hdrop, List.head_cons, Bool.not_eq_false'] at hfirst
      refine ⟨_, hsplit.symm, .zeros (by simpa [isPoint] using hfirst) hzeros.1 fun z hz => ?_,
        hcore⟩
      simpa [isZero] using hzeros.2 z hz

/-- After a character an underscore may come, and then another one has to. -/
theorem withoutGaps?_true_eq_some_iff {xs ds : Codes} :
    withoutGaps? true xs = some ds ↔
      xs = [] ∧ ds = [] ∨ withoutGaps? false xs = some ds ∨
        ∃ gap ys, xs = gap :: ys ∧ gap.val = 0x5f ∧ withoutGaps? false ys = some ds := by
  cases xs with
  | nil => simp [withoutGaps?, eq_comm]
  | cons x xs =>
    by_cases hx : isGap x = true
    · have hval : x.val = 0x5f := by simpa [isGap] using hx
      simp [withoutGaps?, hx, hval]
    · have hval : x.val ≠ 0x5f := by simpa [isGap] using hx
      simp [withoutGaps?, hx, hval]

/-- **Underscores come off** if each of them stands between two other characters. -/
theorem withoutGaps?_eq_some_iff {xs ds : Codes} :
    withoutGaps? false xs = some ds ↔ IsSpaced xs ds := by
  constructor
  · intro h
    -- on the length, because an underscore may be passed along with the character before it
    induction hn : xs.length using Nat.strong_induction_on generalizing xs ds with
    | _ n ih =>
      cases xs with
      | nil => cases h
      | cons x xs =>
        rw [withoutGaps?] at h
        split at h
        · cases h
        · next hx =>
          have hval : x.val ≠ 0x5f := by simpa [isGap] using hx
          obtain ⟨es, hes, rfl⟩ := Option.map_eq_some_iff.mp h
          rcases withoutGaps?_true_eq_some_iff.mp hes with ⟨rfl, rfl⟩ | hes | ⟨gap, ys, rfl, hgap, hes⟩
          · exact .last hval
          · exact .cons hval (ih _ (by simp [← hn]) hes rfl)
          · exact .spaced hval hgap (ih _ (by simp only [← hn, List.length_cons]; omega) hes rfl)
  · intro h
    induction h with
    | last hx => simp [withoutGaps?, isGap, hx]
    | cons hx _ ih =>
      rw [withoutGaps?, if_neg (by simp [isGap, hx]),
        withoutGaps?_true_eq_some_iff.mpr (.inr (.inl ih))]
      rfl
    | spaced hx hgap _ ih =>
      rw [withoutGaps?, if_neg (by simp [isGap, hx]),
        withoutGaps?_true_eq_some_iff.mpr (.inr (.inr ⟨_, _, rfl, hgap, ih⟩))]
      rfl

theorem IsSpaced.exists_cons {xs ds : Codes} (h : IsSpaced xs ds) :
    ∃ x ys es, xs = x :: ys ∧ ds = x :: es := by
  cases h <;> exact ⟨_, _, _, rfl, rfl⟩

theorem IsSpaced.mem_or {xs ds : Codes} (h : IsSpaced xs ds) {x : CodePoint} (hx : x ∈ xs) :
    x ∈ ds ∨ x.val = 0x5f := by
  induction h with
  | last => exact .inl hx
  | cons _ _ ih =>
    rcases List.mem_cons.mp hx with rfl | hx
    · exact .inl List.mem_cons_self
    · exact (ih hx).imp_left (List.mem_cons_of_mem _)
  | spaced _ hgap _ ih =>
    rcases List.mem_cons.mp hx with rfl | hx
    · exact .inl List.mem_cons_self
    rcases List.mem_cons.mp hx with rfl | hx
    · exact .inr hgap
    · exact (ih hx).imp_left (List.mem_cons_of_mem _)

theorem isSpaced_self {ds : Codes} (hne : ds ≠ []) (h : ∀ x ∈ ds, x.val ≠ 0x5f) : IsSpaced ds ds := by
  induction ds with
  | nil => exact absurd rfl hne
  | cons x xs ih =>
    rw [List.forall_mem_cons] at h
    cases xs with
    | nil => exact .last h.1
    | cons y ys => exact .cons h.1 (ih (List.cons_ne_nil y ys) h.2)

/-- What a number may start with once it is cleaned: with a zero only if that is all. -/
def StartsPlain (ds : Codes) : Prop :=
  ∃ x es, ds = x :: es ∧ (isLead x = true ∨ x.val = 0x30 ∧ es = [])

/-- **What a text looks like that can be cleaned.** -/
theorem bare?_eq_some_iff {xs ds : Codes} (hpoint : ∀ x ∈ ds, x.val ≠ 0x2e) :
    bare? xs = some ds ↔ (∃ pad, HasParts pad ds xs) ∧ StartsPlain ds := by
  rw [bare?, Option.bind_eq_some_iff]
  constructor
  · rintro ⟨row, hrow, hds⟩
    obtain ⟨ys, hys, hrow⟩ := Option.bind_eq_some_iff.mp hrow
    obtain ⟨tail, rfl, htail, hcore⟩ := withoutFraction?_eq_some_iff.mp hrow
    obtain ⟨pad, rfl, hpad, hstart⟩ := exists_append_of_withoutZeros? hys
    have hspaced := withoutGaps?_eq_some_iff.mp hds
    refine ⟨⟨pad, by rw [← List.append_assoc]; exact ⟨hpad, hspaced, htail⟩⟩, ?_⟩
    obtain ⟨x, zs, es, rfl, rfl⟩ := hspaced.exists_cons
    refine ⟨x, es, rfl, ?_⟩
    rcases hstart with ⟨y, rest, hcons, hlead⟩ | ⟨l, rest, hcons, hl, hrest⟩
    · obtain ⟨rfl, -⟩ := List.cons.inj hcons
      exact .inl hlead
    · obtain ⟨rfl, rfl⟩ := List.cons.inj hcons
      -- a point right behind the zero, or nothing at all, so the row ends here
      have hzs : zs = [] := by
        cases zs with
        | nil => rfl
        | cons z zs =>
          have hz := hrest z (by simp)
          exact absurd (by simpa [isPoint] using hz) (hcore z (by simp))
      subst hzs
      cases hspaced with
      | last hx => exact .inr ⟨hl.resolve_right hx, rfl⟩
      | cons _ h => cases h
  · rintro ⟨⟨pad, hpad, hspaced, htail⟩, x, es, rfl, hstart⟩
    refine ⟨_, Option.bind_eq_some_iff.mpr ⟨_, ?_, withoutFraction?_eq_some_iff.mpr
      ⟨_, rfl, htail, fun z hz => ?_⟩⟩, withoutGaps?_eq_some_iff.mpr hspaced⟩
    · rw [List.append_assoc]
      obtain ⟨y, ys, fs, rfl, hcons⟩ := hspaced.exists_cons
      obtain ⟨rfl, rfl⟩ := List.cons.inj hcons
      rcases hstart with hlead | ⟨hx, rfl⟩
      · exact withoutZeros?_of_isLead hpad hlead
      · cases hspaced with
        | last => exact withoutZeros?_of_zero hpad hx htail
        | cons _ h => cases h
        | spaced _ _ h => cases h
    · rcases hspaced.mem_or hz with hz | hz
      · exact hpoint z hz
      · omega

/-- The first character of a text is that of its first part. -/
theorem HasParts.head {pad ds xs : Codes} (h : HasParts pad ds xs) :
    ∃ x ys, xs = x :: ys ∧ (pad = [] ∧ x ∈ ds ∨ pad ≠ [] ∧ x.val = 0x30) := by
  obtain ⟨hpad, hrow, -⟩ := h
  cases pad with
  | nil =>
    obtain ⟨x, ys, es, rfl, rfl⟩ := hrow.exists_cons
    exact ⟨x, _, rfl, .inl ⟨rfl, List.mem_cons_self⟩⟩
  | cons x pad => exact ⟨x, _, rfl, .inr ⟨List.cons_ne_nil x pad, hpad.head x rfl⟩⟩

/-! ## Numerals -/

theorem of_isDigit {x : CodePoint} (h : Json.isDigit x = true) : 0x30 ≤ x.val ∧ x.val ≤ 0x39 := by
  simpa [Json.isDigit] using h

/-- **A numeral**, what is left of it when it is cleaned, and its value. -/
inductive IsNumeral : Codes → Codes → Int → Prop
  | plain {pad xs ds : Codes} (h : HasParts pad ds xs) (hds : IsPlain ds) :
    IsNumeral xs ds (Json.digitsValue 0 ds)
  | minus {pad xs ds : Codes} {sign : CodePoint} (hsign : sign.val = 0x2d) (h : HasParts pad ds xs)
    (hds : IsPlain ds) : IsNumeral (sign :: xs) (sign :: ds) (-(Json.digitsValue 0 ds : Int))
  /-- The sign stands behind zeros. -/
  | buried {pad xs ds : Codes} {sign : CodePoint} (hne : pad ≠ []) (hsign : sign.val = 0x2d)
    (h : HasParts pad (sign :: ds) xs) (hds : IsPlain ds) :
    IsNumeral xs (sign :: ds) (-(Json.digitsValue 0 ds : Int))
  | plus {xs ds : Codes} {n : Int} {sign : CodePoint} (hsign : sign.val = 0x2b)
    (hbare : ∀ x ∈ xs.head?, x.val ≠ 0x2b ∧ x.val ≠ 0x2d) (h : IsNumeral xs ds n) :
    IsNumeral (sign :: xs) ds n

theorem naturalOfDigits?_eq_some_iff {ds : Codes} {n : Nat} :
    naturalOfDigits? ds = some n ↔ IsPlain ds ∧ Json.digitsValue 0 ds = n := by
  have hplain : (!ds.isEmpty && ds.all Json.isDigit && (ds.length == 1 || !ds.head?.any isZero)) =
      true ↔ IsPlain ds := by
    simp only [Bool.and_eq_true, Bool.not_eq_true', List.isEmpty_eq_false_iff, List.all_eq_true,
      Bool.or_eq_true, beq_iff_eq]
    constructor
    · rintro ⟨⟨hne, hdigits⟩, halone⟩
      refine ⟨hne, hdigits, fun ⟨x, hx, hzero⟩ => halone.resolve_right fun hany => ?_⟩
      rw [Option.mem_def] at hx
      simp [hx, isZero, hzero] at hany
    · rintro ⟨hne, hdigits, halone⟩
      refine ⟨⟨hne, hdigits⟩, ?_⟩
      by_cases hzero : ∃ x ∈ ds.head?, x.val = 0x30
      · exact .inl (halone hzero)
      · right
        cases ds with
        | nil => rfl
        | cons x ds => simpa [isZero] using hzero
  rw [naturalOfDigits?]
  split
  · next h => simp [hplain.mp h]
  · next h => simp [mt hplain.mpr h]

theorem integerOfDigits?_cons {x : CodePoint} {ds : Codes} {n : Int} :
    integerOfDigits? (x :: ds) = some n ↔
      x.val = 0x2d ∧ IsPlain ds ∧ -(Json.digitsValue 0 ds : Int) = n ∨
        IsPlain (x :: ds) ∧ (Json.digitsValue 0 (x :: ds) : Int) = n := by
  have hnot : x.val = 0x2d → ¬IsPlain (x :: ds) := fun hval h => by
    have hbounds := of_isDigit (h.digits x List.mem_cons_self)
    omega
  rw [integerOfDigits?]
  by_cases hval : x.val = 0x2d
  · rw [if_pos (by simp [isMinus, hval]), Option.map_eq_some_iff]
    simp [naturalOfDigits?_eq_some_iff, hval, hnot hval, and_assoc]
  · rw [if_neg (by simp [isMinus, hval]), Option.map_eq_some_iff]
    simp [naturalOfDigits?_eq_some_iff, hval, and_assoc]

namespace IsPlain

variable {ds : Codes} (h : IsPlain ds)

include h

theorem ne_point : ∀ x ∈ ds, x.val ≠ 0x2e := by
  intro x hx
  have hbounds := of_isDigit (h.digits x hx)
  omega

theorem startsPlain : StartsPlain ds := by
  cases ds with
  | nil => exact absurd rfl h.nonempty
  | cons x es =>
    have hx := h.digits x List.mem_cons_self
    by_cases hzero : x.val = 0x30
    · have hlength := h.alone ⟨x, rfl, hzero⟩
      exact ⟨x, es, rfl, .inr ⟨hzero, List.length_eq_zero_iff.mp (by simpa using hlength)⟩⟩
    · exact ⟨x, es, rfl, .inl (by simp [isLead, hx, isZero, hzero])⟩

theorem bare?_iff {xs : Codes} : bare? xs = some ds ↔ ∃ pad, HasParts pad ds xs := by
  rw [bare?_eq_some_iff h.ne_point, and_iff_left h.startsPlain]

/-- The same with a minus sign behind the zeros in front. -/
theorem bare?_cons_iff {xs : Codes} {sign : CodePoint} (hsign : sign.val = 0x2d) :
    bare? xs = some (sign :: ds) ↔ ∃ pad, HasParts pad (sign :: ds) xs := by
  have hpoint : ∀ x ∈ sign :: ds, x.val ≠ 0x2e := List.forall_mem_cons.mpr ⟨by omega, h.ne_point⟩
  have hlead : isLead sign = true := by simp [isLead, isMinus, hsign]
  rw [bare?_eq_some_iff hpoint, and_iff_left ⟨sign, ds, rfl, .inl hlead⟩]

theorem head_ne {pad xs : Codes} (hparts : HasParts pad ds xs) :
    ∀ x ∈ xs.head?, x.val ≠ 0x2b ∧ x.val ≠ 0x2d := by
  obtain ⟨x, ys, rfl, hx⟩ := hparts.head
  have hbounds : 0x30 ≤ x.val := by
    rcases hx with ⟨-, hx⟩ | ⟨-, hx⟩
    · exact (of_isDigit (h.digits x hx)).1
    · omega
  simp only [List.head?_cons, Option.mem_def, Option.some.injEq, forall_eq']
  omega

end IsPlain

theorem HasParts.head_ne_of_padded {pad xs ds : Codes} (h : HasParts pad ds xs) (hne : pad ≠ []) :
    ∀ x ∈ xs.head?, x.val ≠ 0x2b ∧ x.val ≠ 0x2d := by
  obtain ⟨x, ys, rfl, hx⟩ := h.head
  have hzero := (hx.resolve_left fun hnil => hne hnil.1).2
  simp only [List.head?_cons, Option.mem_def, Option.some.injEq, forall_eq']
  omega

/-- A text that starts with no sign is a numeral if a number is left of it. -/
theorem isNumeral_iff_bare? {xs ds : Codes} {n : Int}
    (hbare : ∀ x ∈ xs.head?, x.val ≠ 0x2b ∧ x.val ≠ 0x2d) :
    IsNumeral xs ds n ↔ bare? xs = some ds ∧ integerOfDigits? ds = some n := by
  constructor
  · intro h
    cases h with
    | plain h hds =>
      obtain ⟨x, es, rfl⟩ := List.exists_cons_of_ne_nil hds.nonempty
      exact ⟨hds.bare?_iff.mpr ⟨_, h⟩, integerOfDigits?_cons.mpr (.inr ⟨hds, rfl⟩)⟩
    | minus hsign => exact absurd hsign (hbare _ rfl).2
    | buried hne hsign h hds =>
      exact ⟨(hds.bare?_cons_iff hsign).mpr ⟨_, h⟩,
        integerOfDigits?_cons.mpr (.inl ⟨hsign, hds, rfl⟩)⟩
    | plus hsign => exact absurd hsign (hbare _ rfl).1
  · rintro ⟨hclean, hn⟩
    cases ds with
    | nil => cases hn
    | cons x es =>
      rcases integerOfDigits?_cons.mp hn with ⟨hsign, hes, rfl⟩ | ⟨hds, rfl⟩
      · obtain ⟨pad, hparts⟩ := (hes.bare?_cons_iff hsign).mp hclean
        refine .buried ?_ hsign hparts hes
        rintro rfl
        -- without zeros in front of it the sign would come first
        obtain ⟨-, hrow, -⟩ := hparts
        obtain ⟨y, ys, fs, rfl, hcons⟩ := hrow.exists_cons
        exact (hbare x (by rw [(List.cons.inj hcons).1]; rfl)).2 hsign
      · obtain ⟨pad, hparts⟩ := hds.bare?_iff.mp hclean
        exact .plain hparts hds

theorem isNumeral_plus_iff {xs ds : Codes} {n : Int} {sign : CodePoint} (hsign : sign.val = 0x2b) :
    IsNumeral (sign :: xs) ds n ↔
      (∀ x ∈ xs.head?, x.val ≠ 0x2b ∧ x.val ≠ 0x2d) ∧ IsNumeral xs ds n := by
  refine ⟨fun h => ?_, fun ⟨hbare, h⟩ => .plus hsign hbare h⟩
  cases h with
  | plain h hds => exact absurd hsign (hds.head_ne h sign rfl).1
  | minus hminus => omega
  | buried hne _ h => exact absurd hsign (h.head_ne_of_padded hne sign rfl).1
  | plus _ hbare h => exact ⟨hbare, h⟩

theorem isNumeral_minus_iff {xs ds : Codes} {n : Int} {sign : CodePoint} (hsign : sign.val = 0x2d) :
    IsNumeral (sign :: xs) ds n ↔
      ∃ es, ds = sign :: es ∧ bare? xs = some es ∧ IsPlain es ∧
        n = -(Json.digitsValue 0 es : Int) := by
  constructor
  · intro h
    cases h with
    | plain h hds => exact absurd hsign (hds.head_ne h sign rfl).2
    | minus _ h hds => exact ⟨_, rfl, hds.bare?_iff.mpr ⟨_, h⟩, hds, rfl⟩
    | buried hne _ h => exact absurd hsign (h.head_ne_of_padded hne sign rfl).2
    | plus hplus => omega
  · rintro ⟨es, rfl, hbare, hes, rfl⟩
    obtain ⟨pad, hparts⟩ := hes.bare?_iff.mp hbare
    exact .minus hsign hparts hes

/-- A plus sign is nothing that a number starts with. -/
theorem head_ne_of_bare? {xs ds : Codes} (h : bare? xs = some ds) : ∀ x ∈ xs.head?, x.val ≠ 0x2b := by
  intro x hx hplus
  cases xs with
  | nil => cases hx
  | cons y xs =>
    obtain rfl := Option.some_inj.mp hx
    simp [bare?, withoutZeros?, isZero, isLead, isMinus, Json.isDigit, hplus] at h

theorem isNumeral_iff_cleaned?_of_plus {x : CodePoint} {xs ds : Codes} {n : Int}
    (hplus : x.val = 0x2b) :
    IsNumeral (x :: xs) ds n ↔ cleaned? (x :: xs) = some ds ∧ integerOfDigits? ds = some n := by
  rw [cleaned?, if_pos (by simp [isPlus, hplus]), isNumeral_plus_iff hplus]
  by_cases hminus : ∃ y ∈ xs.head?, y.val = 0x2d
  · obtain ⟨y, hy, hval⟩ := hminus
    rw [Option.mem_def] at hy
    rw [if_pos (by simp [hy, isMinus, hval])]
    exact iff_of_false (fun h => (h.1 y hy).2 hval) (by simp)
  · have hany : ¬xs.head?.any isMinus = true := by
      simpa [Option.any_eq_true, isMinus] using hminus
    rw [if_neg hany]
    constructor
    · rintro ⟨hbare, h⟩
      exact (isNumeral_iff_bare? hbare).mp h
    · rintro ⟨hclean, hn⟩
      have hbare : ∀ y ∈ xs.head?, y.val ≠ 0x2b ∧ y.val ≠ 0x2d := fun y hy =>
        ⟨head_ne_of_bare? hclean y hy, fun hval => hminus ⟨y, hy, hval⟩⟩
      exact ⟨hbare, (isNumeral_iff_bare? hbare).mpr ⟨hclean, hn⟩⟩

theorem isNumeral_iff_cleaned?_of_minus {x : CodePoint} {xs ds : Codes} {n : Int}
    (hminus : x.val = 0x2d) :
    IsNumeral (x :: xs) ds n ↔ cleaned? (x :: xs) = some ds ∧ integerOfDigits? ds = some n := by
  rw [cleaned?, if_neg (by simp [isPlus, hminus]), if_pos (by simp [isMinus, hminus]),
    isNumeral_minus_iff hminus]
  constructor
  · rintro ⟨es, rfl, hbare, hes, rfl⟩
    exact ⟨by rw [hbare, Option.map_some], integerOfDigits?_cons.mpr (.inl ⟨hminus, hes, rfl⟩)⟩
  · rintro ⟨hclean, hn⟩
    obtain ⟨es, hbare, rfl⟩ := Option.map_eq_some_iff.mp hclean
    rcases integerOfDigits?_cons.mp hn with ⟨-, hes, rfl⟩ | ⟨hds, -⟩
    · exact ⟨es, rfl, hbare, hes, rfl⟩
    · have hbounds := of_isDigit (hds.digits x List.mem_cons_self)
      omega

/-- **The numerals are what is cleaned to a number.** -/
theorem isNumeral_iff_cleaned? {xs ds : Codes} {n : Int} :
    IsNumeral xs ds n ↔ cleaned? xs = some ds ∧ integerOfDigits? ds = some n := by
  cases xs with
  | nil =>
    refine (isNumeral_iff_bare? (by simp)).trans ?_
    simp [bare?, withoutZeros?, cleaned?]
  | cons x xs =>
    by_cases hplus : x.val = 0x2b
    · exact isNumeral_iff_cleaned?_of_plus hplus
    by_cases hminus : x.val = 0x2d
    · exact isNumeral_iff_cleaned?_of_minus hminus
    rw [cleaned?, if_neg (by simp [isPlus, hplus]), if_neg (by simp [isMinus, hminus])]
    exact isNumeral_iff_bare? (by simp [hplus, hminus])

/-- **The numerals that are not too long are what is read.** -/
theorem integerOfCodes?_eq_some_iff {xs : Codes} {n : Int} :
    integerOfCodes? xs = some n ↔ ∃ ds, IsNumeral xs ds n ∧ ds.length ≤ maxIntegerText := by
  simp only [integerOfCodes?, Option.bind_eq_some_iff, Option.ite_none_right_eq_some,
    isNumeral_iff_cleaned?]
  exact exists_congr fun ds => by tauto

theorem isNumeral_digitCodes (n : Nat) : IsNumeral (Json.digitCodes n) (Json.digitCodes n) n := by
  have hds : IsPlain (Json.digitCodes n) := by
    refine ⟨Json.digitCodes_ne_nil n, fun x hx => Json.isDigit_of_mem_digitCodes hx, ?_⟩
    rintro ⟨x, hx, hzero⟩
    by_cases hn : n = 0
    · rw [hn, Json.digitCodes_zero]
      rfl
    · exact absurd hx (Json.head?_digitCodes_ne_zero hn hzero)
  have hrow : IsSpaced (Json.digitCodes n) (Json.digitCodes n) := isSpaced_self hds.nonempty fun x hx => by
    have hbounds := of_isDigit (hds.digits x hx)
    omega
  have hparts : HasParts [] (Json.digitCodes n) ([] ++ Json.digitCodes n ++ []) :=
    ⟨isPadding_nil, hrow, .absent⟩
  rw [List.nil_append, List.append_nil] at hparts
  have hnumeral := IsNumeral.plain hparts hds
  rwa [Json.digitsValue_digitCodes] at hnumeral

/-- A numeral consists of digits, signs, points and underscores, which are among these. -/
theorem HasParts.val_bounds {pad ds xs : Codes} (h : HasParts pad ds xs)
    (hds : ∀ x ∈ ds, 0x2b ≤ x.val ∧ x.val ≤ 0x5f) : ∀ x ∈ xs, 0x2b ≤ x.val ∧ x.val ≤ 0x5f := by
  obtain ⟨hpad, hrow, htail⟩ := h
  intro x hx
  rw [List.mem_append, List.mem_append] at hx
  rcases hx with (hx | hx) | hx
  · have hval := hpad.all x hx
    omega
  · rcases hrow.mem_or hx with hx | hx
    · exact hds x hx
    · omega
  · cases htail with
    | absent => cases hx
    | zeros hpoint _ h =>
      rcases List.mem_cons.mp hx with rfl | hx
      · omega
      · have hval := h x hx
        omega

theorem IsNumeral.val_bounds {xs ds : Codes} {n : Int} (h : IsNumeral xs ds n) :
    ∀ x ∈ xs, 0x2b ≤ x.val ∧ x.val ≤ 0x5f := by
  have hdigits : ∀ {es : Codes}, IsPlain es → ∀ x ∈ es, 0x2b ≤ x.val ∧ x.val ≤ 0x5f :=
    fun hes x hx => by
      have hbounds := of_isDigit (hes.digits x hx)
      omega
  induction h with
  | plain h hds => exact h.val_bounds (hdigits hds)
  | minus hsign h hds => exact List.forall_mem_cons.mpr ⟨by omega, h.val_bounds (hdigits hds)⟩
  | buried _ hsign h hds =>
    exact h.val_bounds (List.forall_mem_cons.mpr ⟨by omega, hdigits hds⟩)
  | plus hsign _ _ ih => exact List.forall_mem_cons.mpr ⟨by omega, ih⟩

theorem IsNumeral.isMargin_eq_false {xs ds : Codes} {n : Int} (h : IsNumeral xs ds n) :
    ∀ x ∈ xs, isMargin x = false := by
  intro x hx
  have hbounds := h.val_bounds x hx
  simp only [isMargin, Bool.or_eq_false_iff, Bool.and_eq_false_iff, decide_eq_false_iff_not,
    beq_eq_false_iff_ne]
  omega

/-! ## White space -/

theorem withoutMargin_eq_self {xs : Codes} (h : ∀ x ∈ xs, isMargin x = false) :
    withoutMargin xs = xs := by
  have hdrop : ∀ ys : Codes, (∀ y ∈ ys, isMargin y = false) → ys.dropWhile isMargin = ys := by
    intro ys hys
    cases ys with
    | nil => rfl
    | cons y ys => rw [List.dropWhile_cons_of_neg (by simp [hys y List.mem_cons_self])]
  rw [withoutMargin, hdrop xs h, hdrop _ fun y hy => h y (List.mem_reverse.mp hy),
    List.reverse_reverse]

theorem withoutMargin_append {front core back : Codes} (hfront : ∀ x ∈ front, isMargin x = true)
    (hcore : ∀ x ∈ core, isMargin x = false) (hback : ∀ x ∈ back, isMargin x = true) :
    withoutMargin (front ++ core ++ back) = core := by
  rw [withoutMargin, List.append_assoc, List.dropWhile_append_of_pos hfront]
  cases core with
  | nil =>
    rw [List.nil_append, List.dropWhile_eq_nil_iff.mpr hback]
    rfl
  | cons x xs =>
    have hx : ¬isMargin x = true := by simp [hcore x List.mem_cons_self]
    have hself := withoutMargin_eq_self hcore
    rw [withoutMargin, List.dropWhile_cons_of_neg hx] at hself
    rw [List.cons_append, List.dropWhile_cons_of_neg hx, ← List.cons_append, List.reverse_append,
      List.dropWhile_append_of_pos fun y hy => hback y (List.mem_reverse.mp hy), hself]

theorem exists_append_withoutMargin (xs : Codes) :
    ∃ front back, xs = front ++ withoutMargin xs ++ back ∧ (∀ x ∈ front, isMargin x = true) ∧
      ∀ x ∈ back, isMargin x = true := by
  refine ⟨xs.takeWhile isMargin, ((xs.dropWhile isMargin).reverse.takeWhile isMargin).reverse, ?_,
    fun x hx => List.mem_takeWhile_imp hx,
    fun x hx => List.mem_takeWhile_imp (List.mem_reverse.mp hx)⟩
  rw [withoutMargin, List.append_assoc, ← List.reverse_append, List.takeWhile_append_dropWhile,
    List.reverse_reverse, List.takeWhile_append_dropWhile]

end Field

/-! ## Values -/

/-- A value that stands for an integer: a number without a fraction, which must not be too large if
it is no integer itself, a truth value, or a numeral with white space around it, of which not too
much is left when it is cleaned. -/
inductive Json.StandsFor : Json → Int → Prop
  | whole (n : Int) : StandsFor (.int n) n
  | truth (b : Bool) : StandsFor (.bool b) (if b then 1 else 0)
  | real {x : Binary64} {n : Int} (h : x.toInt? = some n)
    (hexact : -Field.maxExactInteger < n ∧ n < Field.maxExactInteger) : StandsFor (.float x) n
  | numeral {front core back digits : Codes} {n : Int}
    (hfront : ∀ x ∈ front, Field.isMargin x = true) (h : Field.IsNumeral core digits n)
    (hshort : digits.length ≤ Field.maxIntegerText) (hback : ∀ x ∈ back, Field.isMargin x = true) :
    StandsFor (.text (front ++ core ++ back)) n

theorem Json.StandsFor.of_isNumeral {xs ds : Codes} {n : Int} (h : Field.IsNumeral xs ds n)
    (hshort : ds.length ≤ Field.maxIntegerText) : (Json.text xs).StandsFor n := by
  have hbare : (Json.text ([] ++ xs ++ [])).StandsFor n :=
    .numeral (List.forall_mem_nil _) h hshort (List.forall_mem_nil _)
  rwa [List.nil_append, List.append_nil] at hbare

namespace Field

theorem noSurrogates_of_isNumeral {front core back ds : Codes} {n : Int}
    (hfront : ∀ x ∈ front, isMargin x = true) (h : IsNumeral core ds n)
    (hback : ∀ x ∈ back, isMargin x = true) : (front ++ core ++ back).NoSurrogates := by
  have hmargin : ∀ x, isMargin x = true → x.isSurrogate = false := by
    intro x hx
    simp only [isMargin, Bool.or_eq_true, Bool.and_eq_true, decide_eq_true_eq, beq_iff_eq] at hx
    simp only [CodePoint.isSurrogate, Bool.and_eq_false_iff, decide_eq_false_iff_not]
    omega
  intro x hx
  rw [List.mem_append, List.mem_append] at hx
  rcases hx with (hx | hx) | hx
  · exact hmargin x (hfront x hx)
  · have hbounds := h.val_bounds x hx
    simp only [CodePoint.isSurrogate, Bool.and_eq_false_iff, decide_eq_false_iff_not]
    omega
  · exact hmargin x (hback x hx)

theorem integer_text_eq_ok_iff {s : Codes} {n : Int} :
    integer (.text s) = .ok n ↔
      s.NoSurrogates ∧ ∃ ds, IsNumeral (withoutMargin s) ds n ∧ ds.length ≤ maxIntegerText := by
  have hclean : s.any (·.isSurrogate) = true ↔ ¬s.NoSurrogates := by
    simp [Codes.NoSurrogates]
  rw [integer, ← integerOfCodes?_eq_some_iff]
  split
  · next h => simp [flawed, hclean.mp h]
  · next h =>
    rw [hclean, not_not] at h
    cases integerOfCodes? (withoutMargin s) with
    | some m => simp [h]
    | none =>
      dsimp only
      split <;> simp [flawed]

/-- **The values that stand for an integer** are those that a field for an integer takes. -/
theorem integer_eq_ok_iff {v : Json} {n : Int} : integer v = .ok n ↔ v.StandsFor n := by
  constructor
  · intro h
    cases v with
    | int m =>
      obtain rfl := Except.ok.inj h
      exact .whole m
    | bool b =>
      obtain rfl := Except.ok.inj h
      exact .truth b
    | float x =>
      rw [integer] at h
      split at h
      · cases h
      · split at h
        · cases h
        · next m hm =>
          split at h
          · next hexact =>
            obtain rfl := Except.ok.inj h
            rw [Bool.and_eq_true, decide_eq_true_eq, decide_eq_true_eq] at hexact
            exact .real hm hexact
          · cases h
    | text s =>
      obtain ⟨-, ds, hnumeral, hshort⟩ := integer_text_eq_ok_iff.mp h
      obtain ⟨front, back, hs, hfront, hback⟩ := exists_append_withoutMargin s
      rw [hs]
      exact .numeral hfront hnumeral hshort hback
    | null => cases h
    | array vs => cases h
    | object ms => cases h
  · intro h
    cases h with
    | whole n => rfl
    | truth b => rfl
    | @real x n h hexact =>
      have hfinite : x.isFinite = true := by
        cases x with
        | finite => rfl
        | nan => cases h
        | infinite => cases h
      simp [integer, hfinite, h, hexact]
    | numeral hfront h hshort hback =>
      rw [integer_text_eq_ok_iff, withoutMargin_append hfront h.isMargin_eq_false hback]
      exact ⟨noSurrogates_of_isNumeral hfront h hback, _, h, hshort⟩

end Field
end Enclosure
