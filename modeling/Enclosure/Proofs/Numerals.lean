import Enclosure.Proofs.Digits

/-!
# Numerals

Which texts are read as floating point numbers, and as which ones.  The form of a numeral is that of the
language reference: an optional sign before one of the words for infinity and for no number, in either
case, or before digits with an optional point among them and an optional exponent behind them.  The
digits may be those of any script, and single underscores may stand between two of them.

What is here:

* `Numeral`: what a numeral stands for.
* `Binary64.IsNumeral`: the form of a numeral.
* `Binary64.exists_sign` and `Binary64.exists_decimal`: the parts of a numeral in what is left of it.
* `Binary64.ofText?_eq_some_iff`: the numerals are what is read, and nothing else is.
-/

set_option autoImplicit false

namespace Enclosure

/-! ## The form of a numeral -/

/-- What a numeral stands for: no number, an infinity, or a decimal, as yet unrounded. -/
inductive Numeral where
  | nan
  | infinite (negative : Bool)
  | decimal (negative : Bool) (digits : Nat) (exponent : Int)

/-- The floating point number for what a numeral stands for. -/
def Numeral.toBinary64 : Numeral → Binary64
  | nan => .nan
  | infinite negative => .infinite negative
  | decimal negative digits exponent => .ofDecimal negative digits exponent

namespace Binary64

/-- Digits, perhaps with a point among them; their values, and how many of them stand behind the
point. -/
inductive IsMantissa : List Char → List Nat → Nat → Prop
  | whole {cs : List Char} {ds : List Nat} (h : IsDigitRow cs ds) : IsMantissa cs ds 0
  | pointed {cs : List Char} {ds : List Nat} (h : IsDigitRow cs ds) : IsMantissa (cs ++ ['.']) ds 0
  | fraction {cs : List Char} {ds : List Nat} (h : IsDigitRow cs ds) :
    IsMantissa ('.' :: cs) ds ds.length
  | both {cs cs' : List Char} {ds ds' : List Nat} (h : IsDigitRow cs ds) (h' : IsDigitRow cs' ds') :
    IsMantissa (cs ++ '.' :: cs') (ds ++ ds') ds'.length

/-- A sign or nothing, and whether it is a minus. -/
inductive IsSign : List Char → Bool → Prop
  | absent : IsSign [] false
  | plus : IsSign ['+'] false
  | minus : IsSign ['-'] true

/-- A power of ten or nothing, and its exponent. -/
inductive IsExponent : List Char → Int → Prop
  | absent : IsExponent [] 0
  | given {mark : Char} {sign cs : List Char} {negative : Bool} {ds : List Nat}
    (hmark : mark = 'e' ∨ mark = 'E') (hsign : IsSign sign negative) (h : IsDigitRow cs ds) :
    IsExponent (mark :: (sign ++ cs)) (if negative then -(valueOf ds : Int) else valueOf ds)

/-- A word, in either case. -/
def IsWord (word : String) (cs : List Char) : Prop := cs.map Char.toLower = word.toList

/-- A numeral without its sign, and what it stands for behind a plus or a minus. -/
inductive IsUnsigned (negative : Bool) : List Char → Numeral → Prop
  | infinite {cs : List Char} (h : IsWord "inf" cs ∨ IsWord "infinity" cs) :
    IsUnsigned negative cs (.infinite negative)
  | nan {cs : List Char} (h : IsWord "nan" cs) : IsUnsigned negative cs .nan
  | decimal {cs es : List Char} {ds : List Nat} {n : Nat} {k : Int} (h : IsMantissa cs ds n)
    (he : IsExponent es k) : IsUnsigned negative (cs ++ es) (.decimal negative (valueOf ds) (k - n))

/-- A numeral, and what it stands for. -/
inductive IsNumeral : List Char → Numeral → Prop
  | signed {sign cs : List Char} {negative : Bool} {n : Numeral} (hsign : IsSign sign negative)
    (h : IsUnsigned negative cs n) : IsNumeral (sign ++ cs) n

section

variable {b c x : Char} {cs es : List Char} {ds : List Nat}

/-! ## Exponents -/

/-- A sign at the start, if there is one, and what follows it. -/
def signOf : List Char → Bool × List Char
  | '-' :: cs => (true, cs)
  | '+' :: cs => (false, cs)
  | cs => (false, cs)

theorem signOf_cases (cs : List Char) :
    (∃ ds, cs = '-' :: ds ∧ signOf cs = (true, ds)) ∨
      (∃ ds, cs = '+' :: ds ∧ signOf cs = (false, ds)) ∨ signOf cs = (false, cs) := by
  fun_cases signOf cs with
  | case1 ds => exact .inl ⟨ds, rfl, rfl⟩
  | case2 ds => exact .inr (.inl ⟨ds, rfl, rfl⟩)
  | case3 => exact .inr (.inr rfl)

/-- **Tracing back a sign.** -/
theorem exists_sign (h : withoutUnderscores b (inAscii cs) = some es) (hb : isDigit b = false) :
    ∃ sign cs' b', cs = sign ++ cs' ∧ IsSign sign (signOf es).1 ∧ isDigit b' = false ∧
      withoutUnderscores b' (inAscii cs') = some (signOf es).2 := by
  rcases signOf_cases es with ⟨ds, rfl, heq⟩ | ⟨ds, rfl, heq⟩ | heq
  · obtain ⟨cs', rfl, hrest⟩ := exists_cons h rfl (by decide) (by decide)
    exact ⟨['-'], cs', '-', rfl, heq ▸ .minus, rfl, heq ▸ hrest⟩
  · obtain ⟨cs', rfl, hrest⟩ := exists_cons h rfl (by decide) (by decide)
    exact ⟨['+'], cs', '+', rfl, heq ▸ .plus, rfl, heq ▸ hrest⟩
  · exact ⟨[], cs, b, rfl, heq ▸ .absent, hb, heq ▸ h⟩

theorem exponentOf_cons (c : Char) (cs : List Char) :
    exponentOf (c :: cs) =
      if c = 'e' ∨ c = 'E' then
        if (signOf cs).2 ≠ [] ∧ (signOf cs).2.all isDigit = true then
          some (if (signOf cs).1 then -(digitsValue 0 (signOf cs).2 : Int)
            else digitsValue 0 (signOf cs).2)
        else none
      else none := by
  have hfold : exponentOf (c :: cs) =
      if c == 'e' || c == 'E' then
        if (signOf cs).2.isEmpty || !(signOf cs).2.all isDigit then none
        else some (if (signOf cs).1 then -(digitsValue 0 (signOf cs).2 : Int)
          else digitsValue 0 (signOf cs).2)
      else none := rfl
  rw [hfold]
  by_cases hmark : c = 'e' ∨ c = 'E'
  · rw [if_pos (by simpa using hmark), if_pos hmark]
    by_cases hdigits : (signOf cs).2 ≠ [] ∧ (signOf cs).2.all isDigit = true
    · rw [if_neg (by simpa using hdigits), if_pos hdigits]
    · rw [if_pos (by simpa [Classical.or_iff_not_imp_left] using hdigits), if_neg hdigits]
  · rw [if_neg (by simpa using hmark), if_neg hmark]

/-- What is read as an exponent is one. -/
theorem isExponent_of_exponentOf {k : Int} (h : withoutUnderscores b (inAscii cs) = some es)
    (hk : exponentOf es = some k) : IsExponent cs k := by
  cases es with
  | nil =>
    rw [eq_nil_of_withoutUnderscores h, ← Option.some_inj.mp hk]
    exact .absent
  | cons mark es =>
    rw [exponentOf_cons] at hk
    split at hk
    · next hmark =>
      split at hk
      · next hdigits =>
        have hplain : isDigit mark = false ∧ mark ≠ ' ' ∧ mark ≠ '?' := by
          rcases hmark with rfl | rfl <;> decide
        obtain ⟨cs', rfl, hrest⟩ := exists_cons h hplain.1 hplain.2.1 hplain.2.2
        obtain ⟨sign, cs'', b', rfl, hsign, hb', hleft⟩ := exists_sign hrest hplain.1
        obtain ⟨ds, hrow, heq⟩ := isDigitRow_of_all hleft hb' hdigits.1
          (List.all_eq_true.mp hdigits.2)
        have hvalue : digitsValue 0 (signOf es).2 = valueOf ds := by
          rw [heq, digitsValue_eq_valueOf hrow.le_nine]
        rw [hvalue] at hk
        rw [← Option.some_inj.mp hk]
        exact .given hmark hsign hrow
      · cases hk
    · cases hk

/-- A sign is found in front of something that does not start with one. -/
theorem IsSign.signOf_append {sign : List Char} {negative : Bool} (h : IsSign sign negative)
    (hes : ∀ c ∈ es.head?, c ≠ '-' ∧ c ≠ '+') : signOf (sign ++ es) = (negative, es) := by
  cases h with
  | absent =>
    rcases signOf_cases es with ⟨ds, rfl, -⟩ | ⟨ds, rfl, -⟩ | heq
    · exact absurd rfl (hes '-' rfl).1
    · exact absurd rfl (hes '+' rfl).2
    · exact heq
  | plus => rfl
  | minus => rfl

theorem IsSign.withoutUnderscores_eq {sign : List Char} {negative : Bool} (h : IsSign sign negative)
    (hb : b ≠ '_') (cs : List Char) :
    ∃ b', b' ≠ '_' ∧ withoutUnderscores b (inAscii (sign ++ cs)) =
      (withoutUnderscores b' (inAscii cs)).map (sign ++ ·) := by
  cases h with
  | absent => exact ⟨b, hb, by simp⟩
  | plus => exact ⟨'+', by decide, withoutUnderscores_other hb (by decide) _⟩
  | minus => exact ⟨'-', by decide, withoutUnderscores_other hb (by decide) _⟩

theorem ne_sign_of_isDigit (hc : isDigit c = true) : c ≠ '-' ∧ c ≠ '+' := by
  constructor <;> rintro rfl <;> exact absurd hc (by decide)

/-- **An exponent is read as one**, and does not start with a digit. -/
theorem IsExponent.exists_exponentOf {k : Int} (h : IsExponent cs k) (hb : b ≠ '_') :
    ∃ es, withoutUnderscores b (inAscii cs) = some es ∧ exponentOf es = some k ∧
      ∀ c ∈ es.head?, c = 'e' ∨ c = 'E' := by
  cases h with
  | absent => exact ⟨[], by simp [inAscii, withoutUnderscores, hb], rfl, by simp⟩
  | @given mark sign cs negative ds hmark hsign hrow =>
    have hplain : mark ≠ '_' ∧ toAscii mark = mark := by
      rcases hmark with rfl | rfl <;> exact ⟨by decide, rfl⟩
    obtain ⟨b', -, hsigned⟩ := hsign.withoutUnderscores_eq hplain.1 cs
    have hread := hrow.withoutUnderscores_eq b' []
    rw [List.append_nil, withoutUnderscores, if_neg (by decide), Option.map_some,
      List.append_nil] at hread
    refine ⟨mark :: (sign ++ ds.map asciiDigit), ?_, ?_, ?_⟩
    · rw [inAscii_cons, hplain.2, withoutUnderscores_other hb hplain.1, hsigned, hread]
      rfl
    · rw [exponentOf_cons, if_pos hmark, hsign.signOf_append fun c hc =>
          ne_sign_of_isDigit (hrow.isDigit_of_mem c (List.mem_of_head? hc)),
        if_pos ⟨by simpa using hrow.ne_nil, List.all_eq_true.mpr hrow.isDigit_of_mem⟩,
        digitsValue_eq_valueOf hrow.le_nine]
    · rintro c ⟨⟩
      exact hmark

/-! ## Decimals -/

/-- The digits behind a point, if there is one, and what follows them. -/
def pointOf : List Char → List Char × List Char
  | '.' :: cs => (cs.takeWhile isDigit, cs.dropWhile isDigit)
  | cs => ([], cs)

theorem pointOf_cases (cs : List Char) :
    (∃ ds, cs = '.' :: ds ∧ pointOf cs = (ds.takeWhile isDigit, ds.dropWhile isDigit)) ∨
      pointOf cs = ([], cs) := by
  fun_cases pointOf cs with
  | case1 ds => exact .inl ⟨ds, rfl, rfl⟩
  | case2 => exact .inr rfl

/-- The decimal that characters denote. -/
def decimalOf (negative : Bool) (cs : List Char) : Option Binary64 :=
  let whole := cs.takeWhile isDigit
  let fraction := (pointOf (cs.dropWhile isDigit)).1
  if whole = [] ∧ fraction = [] then none
  else (exponentOf (pointOf (cs.dropWhile isDigit)).2).map fun e =>
    ofDecimal negative (digitsValue 0 (whole ++ fraction)) (e - fraction.length)

instance (word : String) (cs : List Char) : Decidable (IsWord word cs) :=
  inferInstanceAs (Decidable (_ = _))

theorem unsigned_eq (negative : Bool) (cs : List Char) :
    unsigned negative cs =
      if IsWord "inf" cs ∨ IsWord "infinity" cs then some (.infinite negative)
      else if IsWord "nan" cs then some .nan
      else decimalOf negative cs := by
  have hword (word : String) :
      (String.ofList (cs.map Char.toLower) == word) = decide (IsWord word cs) := by
    rw [Bool.eq_iff_iff, beq_iff_eq, decide_eq_true_eq, ← String.toList_inj, String.toList_ofList]
    exact Iff.rfl
  have hfold : unsigned negative cs =
      if String.ofList (cs.map Char.toLower) == "inf" ||
          String.ofList (cs.map Char.toLower) == "infinity" then
        some (.infinite negative)
      else if String.ofList (cs.map Char.toLower) == "nan" then some .nan
      else if (cs.takeWhile isDigit).isEmpty && (pointOf (cs.dropWhile isDigit)).1.isEmpty then none
      else (exponentOf (pointOf (cs.dropWhile isDigit)).2).map fun e =>
        ofDecimal negative (digitsValue 0 (cs.takeWhile isDigit ++ (pointOf (cs.dropWhile isDigit)).1))
          (e - (pointOf (cs.dropWhile isDigit)).1.length) := rfl
  simp only [hfold, hword, decimalOf, Bool.or_eq_true, Bool.and_eq_true, decide_eq_true_eq,
    List.isEmpty_iff]

/-- **Tracing back a decimal**: a mantissa and an exponent. -/
theorem exists_decimal {negative : Bool} {x : Binary64}
    (h : withoutUnderscores b (inAscii cs) = some es) (hb : isDigit b = false)
    (hx : decimalOf negative es = some x) :
    ∃ ms ex ds n k, cs = ms ++ ex ∧ IsMantissa ms ds n ∧ IsExponent ex k ∧
      x = ofDecimal negative (valueOf ds) (k - n) := by
  rw [decimalOf] at hx
  split at hx
  · cases hx
  next hsome =>
  obtain ⟨k, hk, rfl⟩ := Option.map_eq_some_iff.mp hx
  -- what the digits of a row are read as
  have hvalue {w : List Char} {ds : List Nat} (hle : ∀ d ∈ ds, d ≤ 9) (hw : w = ds.map asciiDigit) :
      digitsValue 0 w = valueOf ds := by rw [hw, digitsValue_eq_valueOf hle]
  by_cases hwhole : es.takeWhile isDigit = []
  · rw [dropWhile_of_takeWhile_eq_nil hwhole] at hsome hk ⊢
    rw [hwhole] at hsome ⊢
    rcases pointOf_cases es with ⟨es', rfl, heq⟩ | heq
    · rw [heq] at hsome hk ⊢
      obtain ⟨cs', rfl, hrest⟩ := exists_cons h rfl (by decide) (by decide)
      obtain ⟨row, ex, ds, rfl, hrow, htake, hleft⟩ := exists_row hrest rfl (by simpa using hsome)
      refine ⟨'.' :: row, ex, ds, _, k, rfl, .fraction hrow, isExponent_of_exponentOf hleft hk, ?_⟩
      rw [List.nil_append, hvalue hrow.le_nine htake, htake, List.length_map]
    · rw [heq] at hsome
      exact absurd ⟨rfl, rfl⟩ hsome
  · obtain ⟨row, rest, ds, rfl, hrow, htake, hleft⟩ := exists_row h hb hwhole
    rcases pointOf_cases (es.dropWhile isDigit) with ⟨es', hes, heq⟩ | heq
    · rw [heq] at hk ⊢
      rw [hes] at hleft
      obtain ⟨cs', rfl, hrest⟩ := exists_cons hleft rfl (by decide) (by decide)
      by_cases hfraction : es'.takeWhile isDigit = []
      · rw [dropWhile_of_takeWhile_eq_nil hfraction] at hk
        refine ⟨row ++ ['.'], cs', ds, 0, k, by simp, .pointed hrow,
          isExponent_of_exponentOf hrest hk, ?_⟩
        rw [hfraction, List.append_nil, hvalue hrow.le_nine htake]
        rfl
      · obtain ⟨row', ex, ds', rfl, hrow', htake', hleft'⟩ := exists_row hrest rfl hfraction
        refine ⟨row ++ '.' :: row', ex, ds ++ ds', _, k, by simp, .both hrow hrow',
          isExponent_of_exponentOf hleft' hk, ?_⟩
        have hle : ∀ d ∈ ds ++ ds', d ≤ 9 := List.forall_mem_append.mpr ⟨hrow.le_nine, hrow'.le_nine⟩
        rw [hvalue hle (by rw [htake, htake', List.map_append]), htake', List.length_map]
    · rw [heq] at hk ⊢
      refine ⟨row, rest, ds, 0, k, rfl, .whole hrow, isExponent_of_exponentOf hleft hk, ?_⟩
      rw [List.append_nil, hvalue hrow.le_nine htake]
      rfl

theorem decimalOf_eq {negative : Bool} {whole rest fraction ex : List Char} {k : Int} {n : Nat}
    (hwhole : es.takeWhile isDigit = whole) (hrest : es.dropWhile isDigit = rest)
    (hpoint : pointOf rest = (fraction, ex)) (hne : whole = [] → fraction ≠ [])
    (hn : fraction.length = n) (hk : exponentOf ex = some k) :
    decimalOf negative es = some (ofDecimal negative (digitsValue 0 (whole ++ fraction)) (k - n)) := by
  rw [decimalOf, hwhole, hrest, hpoint, if_neg fun h => hne h.1 h.2, hk, hn, Option.map_some]

theorem inAscii_append (cs cs' : List Char) : inAscii (cs ++ cs') = inAscii cs ++ inAscii cs' :=
  List.map_append

theorem withoutUnderscores_point (hb : b ≠ '_') (cs : List Char) :
    withoutUnderscores b (inAscii ('.' :: cs)) = (withoutUnderscores '.' (inAscii cs)).map ('.' :: ·) :=
  withoutUnderscores_other hb (by decide) _

theorem IsDigitRow.exists_head (h : IsDigitRow cs ds) (rest : List Char) :
    ∃ c es, ds.map asciiDigit ++ rest = c :: es ∧ (isDigit c = true ∨ c = '.') := by
  obtain ⟨d, ds, rfl⟩ := List.exists_cons_of_ne_nil h.ne_nil
  exact ⟨asciiDigit d, _, rfl, .inl (isDigit_asciiDigit (h.le_nine d List.mem_cons_self))⟩

/-- **A decimal is read as one**, and starts with a digit or a point. -/
theorem IsMantissa.exists_decimalOf {ms ex : List Char} {n : Nat} {k : Int} (hm : IsMantissa ms ds n)
    (he : IsExponent ex k) (hb : b ≠ '_') (negative : Bool) :
    ∃ es, withoutUnderscores b (inAscii (ms ++ ex)) = some es ∧
      decimalOf negative es = some (ofDecimal negative (valueOf ds) (k - n)) ∧
      ∃ c es', es = c :: es' ∧ (isDigit c = true ∨ c = '.') := by
  -- what follows the mantissa, as it is left behind a digit or behind a point
  obtain ⟨ex₀, hread₀, hk₀, hhead₀⟩ := he.exists_exponentOf (show '0' ≠ '_' by decide)
  obtain ⟨ex₁, hread₁, hk₁, hhead₁⟩ := he.exists_exponentOf (show '.' ≠ '_' by decide)
  have hstop {es : List Char} (h : ∀ c ∈ es.head?, c = 'e' ∨ c = 'E') :
      ∀ c ∈ es.head?, isDigit c = false := fun c hc => by rcases h c hc with rfl | rfl <;> rfl
  cases hm with
  | whole hrow =>
    obtain ⟨htake, hdrop⟩ := span_digits hrow.isDigit_of_mem (hstop hhead₀)
    have hpoint : pointOf ex₀ = ([], ex₀) := by
      refine (pointOf_cases ex₀).resolve_left ?_
      rintro ⟨ds, rfl, -⟩
      exact absurd (hhead₀ '.' rfl) (by decide)
    refine ⟨ds.map asciiDigit ++ ex₀, ?_, ?_, hrow.exists_head ex₀⟩
    · rw [inAscii_append, hrow.withoutUnderscores_eq, hread₀, Option.map_some]
    · rw [decimalOf_eq htake hdrop hpoint (fun h => absurd h (by simpa using hrow.ne_nil)) rfl hk₀,
        List.append_nil, digitsValue_eq_valueOf hrow.le_nine]
      rfl
  | @pointed cs ds hrow =>
    obtain ⟨htake, hdrop⟩ := span_digits (r := '.' :: ex₁) hrow.isDigit_of_mem (by rintro c ⟨⟩; rfl)
    obtain ⟨htake₁, hdrop₁⟩ := span_digits (w := []) (by simp) (hstop hhead₁)
    rw [List.nil_append] at htake₁ hdrop₁
    refine ⟨ds.map asciiDigit ++ '.' :: ex₁, ?_, ?_, hrow.exists_head _⟩
    · rw [List.append_assoc, inAscii_append, hrow.withoutUnderscores_eq, List.singleton_append,
        withoutUnderscores_point (by decide), hread₁]
      rfl
    · have hpoint : pointOf ('.' :: ex₁) = ([], ex₁) := by rw [pointOf, htake₁, hdrop₁]
      rw [decimalOf_eq htake hdrop hpoint (fun h => absurd h (by simpa using hrow.ne_nil)) rfl hk₁,
        List.append_nil, digitsValue_eq_valueOf hrow.le_nine]
      rfl
  | @fraction cs ds hrow =>
    obtain ⟨htake, hdrop⟩ := span_digits hrow.isDigit_of_mem (hstop hhead₀)
    refine ⟨'.' :: (ds.map asciiDigit ++ ex₀), ?_, ?_, '.', _, rfl, .inr rfl⟩
    · rw [List.cons_append, withoutUnderscores_point hb, inAscii_append,
        hrow.withoutUnderscores_eq, hread₀]
      rfl
    · have hpoint : pointOf ('.' :: (ds.map asciiDigit ++ ex₀)) = (ds.map asciiDigit, ex₀) := by
        rw [pointOf, htake, hdrop]
      have hrest : ('.' :: (ds.map asciiDigit ++ ex₀)).dropWhile isDigit =
          '.' :: (ds.map asciiDigit ++ ex₀) := rfl
      rw [decimalOf_eq rfl hrest hpoint (fun _ => by simpa using hrow.ne_nil) (List.length_map _) hk₀]
      exact congrArg (fun v => some (ofDecimal negative v _)) (digitsValue_eq_valueOf hrow.le_nine)
  | @both cs cs' ds ds' hrow hrow' =>
    obtain ⟨htake, hdrop⟩ := span_digits (r := '.' :: (ds'.map asciiDigit ++ ex₀)) hrow.isDigit_of_mem
      (by rintro c ⟨⟩; rfl)
    obtain ⟨htake', hdrop'⟩ := span_digits hrow'.isDigit_of_mem (hstop hhead₀)
    refine ⟨ds.map asciiDigit ++ '.' :: (ds'.map asciiDigit ++ ex₀), ?_, ?_, hrow.exists_head _⟩
    · rw [List.append_assoc, inAscii_append, hrow.withoutUnderscores_eq, List.cons_append,
        withoutUnderscores_point (by decide), inAscii_append, hrow'.withoutUnderscores_eq, hread₀]
      rfl
    · have hpoint : pointOf ('.' :: (ds'.map asciiDigit ++ ex₀)) = (ds'.map asciiDigit, ex₀) := by
        rw [pointOf, htake', hdrop']
      have hle : ∀ d ∈ ds ++ ds', d ≤ 9 := List.forall_mem_append.mpr ⟨hrow.le_nine, hrow'.le_nine⟩
      rw [decimalOf_eq htake hdrop hpoint (fun h => absurd h (by simpa using hrow.ne_nil))
        (List.length_map _) hk₀, ← List.map_append, digitsValue_eq_valueOf hle]

/-! ## Words -/

/-- A small letter of ASCII. -/
def IsLetter (x : Char) : Prop := 97 ≤ x.toNat ∧ x.toNat ≤ 122

theorem toLower_of_lt (h : c.toNat < 65 ∨ 128 ≤ c.toNat) : c.toLower = c := by
  refine dif_neg ?_
  rintro ⟨hlow, hhigh⟩
  rw [ge_iff_le, UInt32.le_iff_toNat_le] at hlow
  rw [UInt32.le_iff_toNat_le] at hhigh
  have hA : ('A'.val).toNat = 65 := rfl
  have hZ : ('Z'.val).toNat = 90 := rfl
  have hc : c.toNat = c.val.toNat := rfl
  omega

/-- Neither digits nor signs nor points are letters of a word. -/
theorem not_isLetter_of_lt (h : c.toNat < 65) : ¬IsLetter c.toLower := by
  rw [toLower_of_lt (.inl h), IsLetter]
  omega

theorem toNat_toAscii_lt (h : 128 ≤ c.toNat) : (toAscii c).toNat < 65 := by
  rw [toAscii, if_neg (by omega)]
  split
  · decide
  · cases hd : digitValue? c with
    | none => decide
    | some d =>
      obtain ⟨-, -, hle, -⟩ := digitValue?_eq_some hd
      have hvalue := toNat_asciiDigit hle
      rw [asciiDigit] at hvalue
      dsimp only
      omega

/-- A letter is behind a letter only. -/
theorem toLower_toAscii_eq_iff (hx : IsLetter x) : (toAscii c).toLower = x ↔ c.toLower = x := by
  rcases lt_or_ge c.toNat 128 with hc | hc
  · rw [toAscii_of_lt hc]
  · refine iff_of_false (fun h => ?_) fun h => ?_
    · exact not_isLetter_of_lt (toNat_toAscii_lt hc) (h ▸ hx)
    · rw [toLower_of_lt (.inr hc)] at h
      rw [← h, IsLetter] at hx
      omega

variable {word : String}

theorem isWord_inAscii_iff (hword : ∀ x ∈ word.toList, IsLetter x) :
    IsWord word (inAscii cs) ↔ IsWord word cs := by
  rw [IsWord, IsWord]
  revert hword
  generalize word.toList = w
  intro hword
  induction w generalizing cs with
  | nil => simp [inAscii]
  | cons x w ih =>
    rw [List.forall_mem_cons] at hword
    cases cs with
    | nil => rfl
    | cons c cs =>
      rw [inAscii_cons, List.map_cons, List.map_cons, List.cons.injEq, List.cons.injEq, ih hword.2,
        toLower_toAscii_eq_iff hword.1]

theorem IsWord.isLetter_of_mem (h : IsWord word es) (hword : ∀ x ∈ word.toList, IsLetter x) :
    ∀ c ∈ es, IsLetter c.toLower := fun _ hc =>
  hword _ (h ▸ List.mem_map_of_mem hc)

/-- Where no digits are left, there was nothing to leave out. -/
theorem eq_inAscii_of_withoutUnderscores (h : withoutUnderscores b (inAscii cs) = some es)
    (hes : ∀ c ∈ es, isDigit c = false) : es = inAscii cs := by
  induction cs generalizing b es with
  | nil =>
    rw [inAscii_eq_map, List.map_nil, withoutUnderscores] at h
    split at h
    · cases h
    · exact (Option.some_inj.mp h).symm
  | cons c cs ih =>
    rw [inAscii_cons] at h
    rcases withoutUnderscores_cons_cases h with ⟨-, -, hrest⟩ | ⟨es', -, rfl, hrest⟩
    · obtain ⟨d, es', rfl, hd⟩ := exists_digit_of_underscore hrest
      rw [hes d List.mem_cons_self] at hd
      cases hd
    · rw [inAscii_cons, ih hrest fun x hx => hes x (List.mem_cons_of_mem _ hx)]

theorem withoutUnderscores_eq_self (hb : b ≠ '_') (h : ∀ c ∈ es, c ≠ '_') :
    withoutUnderscores b es = some es := by
  induction es generalizing b with
  | nil => simp [withoutUnderscores, hb]
  | cons c es ih =>
    rw [List.forall_mem_cons] at h
    rw [withoutUnderscores_other hb h.1, ih h.1 h.2, Option.map_some]

theorem toNat_lt_of_isDigit (h : isDigit c = true) : c.toNat < 65 := by
  have hrange := isDigit_iff.mp h
  omega

/-- **Tracing back a word.** -/
theorem IsWord.of_withoutUnderscores (hw : IsWord word es) (hword : ∀ x ∈ word.toList, IsLetter x)
    (h : withoutUnderscores b (inAscii cs) = some es) : IsWord word cs := by
  have hes := eq_inAscii_of_withoutUnderscores h fun c hc => by
    by_contra hdigit
    exact not_isLetter_of_lt (toNat_lt_of_isDigit (by simpa using hdigit))
      (hw.isLetter_of_mem hword c hc)
  rwa [hes, isWord_inAscii_iff hword] at hw

/-- **A word is left as it is.** -/
theorem IsWord.withoutUnderscores_eq (hw : IsWord word cs) (hword : ∀ x ∈ word.toList, IsLetter x)
    (hb : b ≠ '_') :
    withoutUnderscores b (inAscii cs) = some (inAscii cs) ∧ IsWord word (inAscii cs) := by
  have hascii := (isWord_inAscii_iff hword).mpr hw
  refine ⟨withoutUnderscores_eq_self hb fun c hc => ?_, hascii⟩
  rintro rfl
  exact absurd (hascii.isLetter_of_mem hword '_' hc) (by rw [IsLetter]; decide)

theorem isLetter_inf : ∀ x ∈ "inf".toList, IsLetter x := by
  simp [IsLetter]

theorem isLetter_infinity : ∀ x ∈ "infinity".toList, IsLetter x := by
  simp [IsLetter]

theorem isLetter_nan : ∀ x ∈ "nan".toList, IsLetter x := by
  simp [IsLetter]

/-! ## Numerals -/

/-- **What is read without its sign** is a numeral. -/
theorem exists_isUnsigned {negative : Bool} {y : Binary64}
    (h : withoutUnderscores b (inAscii cs) = some es) (hb : isDigit b = false)
    (hy : unsigned negative es = some y) : ∃ n, IsUnsigned negative cs n ∧ y = n.toBinary64 := by
  rw [unsigned_eq] at hy
  split at hy
  · next hword =>
    refine ⟨.infinite negative, .infinite ?_, (Option.some_inj.mp hy).symm⟩
    exact hword.imp (·.of_withoutUnderscores isLetter_inf h)
      (·.of_withoutUnderscores isLetter_infinity h)
  · split at hy
    · next hword =>
      exact ⟨.nan, .nan (hword.of_withoutUnderscores isLetter_nan h), (Option.some_inj.mp hy).symm⟩
    · obtain ⟨ms, ex, ds, n, k, rfl, hm, he, rfl⟩ := exists_decimal h hb hy
      exact ⟨_, .decimal hm he, rfl⟩

/-- **A numeral is read** without its sign, and does not start with another one. -/
theorem IsUnsigned.exists_unsigned {negative : Bool} {n : Numeral} (h : IsUnsigned negative cs n)
    (hb : b ≠ '_') :
    ∃ es, withoutUnderscores b (inAscii cs) = some es ∧ unsigned negative es = some n.toBinary64 ∧
      ∀ c ∈ es.head?, c ≠ '-' ∧ c ≠ '+' := by
  have hhead {es : List Char} (hes : ∀ c ∈ es, IsLetter c.toLower) :
      ∀ c ∈ es.head?, c ≠ '-' ∧ c ≠ '+' := by
    intro c hc
    constructor <;> rintro rfl <;> exact not_isLetter_of_lt (by decide) (hes _ (List.mem_of_head? hc))
  cases h with
  | infinite hword =>
    rcases hword with hw | hw
    · obtain ⟨hread, hw'⟩ := hw.withoutUnderscores_eq isLetter_inf hb
      exact ⟨_, hread, by rw [unsigned_eq, if_pos (.inl hw')]; rfl,
        hhead (hw'.isLetter_of_mem isLetter_inf)⟩
    · obtain ⟨hread, hw'⟩ := hw.withoutUnderscores_eq isLetter_infinity hb
      exact ⟨_, hread, by rw [unsigned_eq, if_pos (.inr hw')]; rfl,
        hhead (hw'.isLetter_of_mem isLetter_infinity)⟩
  | nan hw =>
    obtain ⟨hread, hw'⟩ := hw.withoutUnderscores_eq isLetter_nan hb
    have hother {word : String} (hword : word.toList ≠ "nan".toList) : ¬IsWord word (inAscii cs) :=
      fun h => hword (h.symm.trans hw')
    refine ⟨_, hread, ?_, hhead (hw'.isLetter_of_mem isLetter_nan)⟩
    rw [unsigned_eq, if_neg (not_or.mpr ⟨hother (by decide), hother (by decide)⟩), if_pos hw']
    rfl
  | decimal hm he =>
    obtain ⟨es, hread, hdecimal, c, es', rfl, hc⟩ := hm.exists_decimalOf he hb negative
    have hsmall : c.toNat < 65 := by
      rcases hc with hc | rfl
      · exact toNat_lt_of_isDigit hc
      · decide
    have hother {word : String} (hword : ∀ x ∈ word.toList, IsLetter x) : ¬IsWord word (c :: es') :=
      fun h => not_isLetter_of_lt hsmall (h.isLetter_of_mem hword c List.mem_cons_self)
    refine ⟨_, hread, ?_, ?_⟩
    · rw [unsigned_eq, if_neg (not_or.mpr ⟨hother isLetter_inf, hother isLetter_infinity⟩),
        if_neg (hother isLetter_nan), hdecimal]
      rfl
    · rintro x ⟨⟩
      rcases hc with hc | rfl
      · exact ne_sign_of_isDigit hc
      · decide

theorem inAscii_trimChars (cs : List Char) :
    Text.trimChars (inAscii cs) = inAscii (Text.trimChars cs) := by
  have hdrop (cs : List Char) : (cs.map toAscii).dropWhile Text.isBlank =
      (cs.dropWhile Text.isBlank).map toAscii := by
    rw [List.dropWhile_map]
    congr 2
    exact funext isBlank_toAscii
  simp only [Text.trimChars, Text.trimEnd, inAscii_eq_map, hdrop, ← List.map_reverse]

theorem ofChars?_eq (cs : List Char) :
    ofChars? cs = (withoutUnderscores ' ' (inAscii (Text.trimChars cs))).bind fun es =>
      unsigned (signOf es).1 (signOf es).2 := by
  rw [ofChars?, inAscii_trimChars]
  cases withoutUnderscores ' ' (inAscii (Text.trimChars cs)) with
  | none => rfl
  | some es =>
    rw [Option.bind_some]
    fun_cases signOf es with
    | case1 ds => rfl
    | case2 ds => rfl
    | case3 => simp

end

/-- **The numerals are what is read**, up to white space around them, and nothing else is. -/
theorem ofText?_eq_some_iff {s : String} {y : Binary64} :
    ofText? s = some y ↔ ∃ n, IsNumeral (Text.trimChars s.toList) n ∧ y = n.toBinary64 := by
  rw [ofText?, ofChars?_eq]
  generalize Text.trimChars s.toList = cs
  constructor
  · intro h
    obtain ⟨es, hread, hy⟩ := Option.bind_eq_some_iff.mp h
    obtain ⟨sign, cs', b, rfl, hsign, hb, hleft⟩ := exists_sign hread rfl
    obtain ⟨n, hn, hyn⟩ := exists_isUnsigned hleft hb hy
    exact ⟨n, .signed hsign hn, hyn⟩
  · rintro ⟨n, ⟨hsign, hn⟩, rfl⟩
    obtain ⟨b, hb, hread⟩ := hsign.withoutUnderscores_eq (show ' ' ≠ '_' by decide) _
    obtain ⟨es, hleft, hunsigned, hhead⟩ := hn.exists_unsigned hb
    rw [hread, hleft, Option.map_some, Option.bind_some, hsign.signOf_append hhead, hunsigned]

end Binary64
end Enclosure
