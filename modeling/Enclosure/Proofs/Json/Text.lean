import Enclosure.Json.Read
import Enclosure.Json.Write
import Enclosure.Proofs.Codes

/-!
# Reading a text that was written in ASCII

Writing splits a code point beyond 16 bits into two surrogates, and reading puts two surrogates
together that make up a pair.  So a text comes back with its pairs joined, and unchanged if it had
none to join.  Between the two sides stand the 16-bit units of the text: each unit is written on its
own, and the reader takes one or two of them at a time.

What is here:

* `Json.unicodeEscape_hexLower`: four hexadecimal digits are read as the number they write.
* `Utf16.split`: the 16-bit units of a text, with `Utf16.joinPairs_split`.
* `Json.stringFrom_step` and `Json.stringFrom_pair`: one unit, or two that make up a pair.
* `Json.stringFrom_written`: a whole text.
-/

set_option autoImplicit false

namespace Enclosure

namespace CodePoint

@[simp] theorem val_ofChar (c : Char) : (ofChar c).val = c.toNat := rfl

end CodePoint

namespace Codes

@[simp] theorem ofString_append (s t : String) : ofString (s ++ t) = ofString s ++ ofString t := by
  rw [ofString, String.toList_append, ofChars, List.map_append]
  rfl

theorem ofString_join (l : List String) : ofString (String.join l) = l.flatMap ofString := by
  induction l with
  | nil => rfl
  | cons s l ih => rw [String.join_cons, ofString_append, ih, List.flatMap_cons]

theorem length_ofString (s : String) : (ofString s).length = s.length := by
  rw [ofString, ofChars, List.length_map, String.length_toList]

theorem ofString_singleton {x : CodePoint} (h : x.isSurrogate = false) :
    ofString (String.singleton (Char.ofNat x.val)) = [x] := by
  obtain ⟨c, rfl⟩ := CodePoint.exists_ofChar_eq h
  rw [CodePoint.val_ofChar, Char.ofNat_toNat, ofString, String.toList_singleton]
  rfl

end Codes

/-! ## Hexadecimal digits -/

namespace Text

/-- Four digits are enough for 16 bits, and zeros stand in front of a smaller number. -/
theorem toList_hexLower_four {n : Nat} (h : n < 0x10000) :
    (hexLower 4 n).toList = [digitChar 'a' (n / 0x1000), digitChar 'a' (n / 0x100 % 0x10),
      digitChar 'a' (n / 0x10 % 0x10), digitChar 'a' (n % 0x10)] := by
  have hzero : '0' = digitChar 'a' 0 := rfl
  rw [hexLower, String.toList_ofList, hexDigits]
  split
  · simp only [padLeft, List.map_cons, List.map_nil, List.length_singleton, Nat.reduceSub,
      List.replicate, List.cons_append, List.nil_append, hzero]
    rw [show n / 0x1000 = 0 by omega, show n / 0x100 % 0x10 = 0 by omega,
      show n / 0x10 % 0x10 = 0 by omega, show n % 0x10 = n by omega]
  · rw [hexDigits]
    split
    · simp only [padLeft, List.map_cons, List.map_nil, List.length_cons, List.length_nil,
        Nat.reduceAdd, Nat.reduceSub, List.replicate, List.cons_append, List.nil_append, hzero]
      rw [show n / 0x1000 = 0 by omega, show n / 0x100 % 0x10 = 0 by omega,
        show n / 0x10 % 0x10 = n / 0x10 by omega]
    · rw [hexDigits]
      split
      · simp only [padLeft, List.map_cons, List.map_nil, List.length_cons, List.length_nil,
          Nat.reduceAdd, Nat.reduceSub, List.replicate, List.cons_append, List.nil_append, hzero]
        rw [show n / 0x1000 = 0 by omega, show n / 0x10 / 0x10 = n / 0x100 % 0x10 by omega]
      · rw [hexDigits, if_pos (by omega)]
        simp only [padLeft, List.map_cons, List.map_nil, List.length_cons, List.length_nil,
          Nat.reduceAdd, Nat.reduceSub, List.replicate, List.cons_append, List.nil_append]
        rw [show n / 0x10 / 0x10 / 0x10 = n / 0x1000 by omega,
          show n / 0x10 / 0x10 % 0x10 = n / 0x100 % 0x10 by omega]

end Text

namespace Json

theorem hexDigit?_digitChar : ∀ d < 16,
    hexDigit? (CodePoint.ofChar (Text.digitChar 'a' d)) = some d := by
  decide

/-- The four digits of a number below 2¹⁶ denote it. -/
theorem hexNumber?_hexLower {n : Nat} (h : n < 0x10000) :
    hexNumber? 0 (Codes.ofString (Text.hexLower 4 n)) = some n := by
  rw [Codes.ofString, Text.toList_hexLower_four h]
  simp only [Codes.ofChars, List.map_cons, List.map_nil, hexNumber?]
  rw [hexDigit?_digitChar _ (by omega), hexDigit?_digitChar _ (by omega),
    hexDigit?_digitChar _ (by omega), hexDigit?_digitChar _ (by omega)]
  simp only [Option.some_inj]
  omega

theorem length_hexLower_four {n : Nat} (h : n < 0x10000) :
    (Codes.ofString (Text.hexLower 4 n)).length = 4 := by
  rw [Codes.ofString, Text.toList_hexLower_four h]
  rfl

theorem unicodeEscape_hexLower {n : Nat} (h : n < 0x10000) {rest : Codes} (hrest : rest ≠ [])
    (place : Nat) : unicodeEscape ⟨Codes.ofString (Text.hexLower 4 n) ++ rest, place⟩ = .ok n := by
  rw [unicodeEscape, List.drop_left' (length_hexLower_four h),
    List.take_left' (length_hexLower_four h), hexNumber?_hexLower h]
  simp [hrest]

end Json

/-! ## Units of sixteen bits -/

namespace Utf16

/-- The units of one code point: two surrogates stand for one beyond 16 bits. -/
def splitOne (x : CodePoint) : Codes :=
  if x.val < 0x10000 then [x]
  else [Json.codePoint (0xd800 + (x.val - 0x10000) / 0x400),
    Json.codePoint (0xdc00 + (x.val - 0x10000) % 0x400)]

/-- The units of a text. -/
def split (xs : Codes) : Codes := xs.flatMap splitOne

theorem split_cons (x : CodePoint) (xs : Codes) : split (x :: xs) = splitOne x ++ split xs :=
  List.flatMap_cons

theorem val_codePoint {n : Nat} (h : n < 0x110000) : (Json.codePoint n).val = n :=
  Nat.mod_eq_of_lt h

theorem splitOne_of_lt {x : CodePoint} (h : x.val < 0x10000) : splitOne x = [x] := if_pos h

/-- The two units of a code point beyond 16 bits make it up again. -/
theorem exists_pair_of_le {x : CodePoint} (h : 0x10000 ≤ x.val) :
    ∃ a b, splitOne x = [a, b] ∧ paired? a b = some x ∧ 0xd800 ≤ a.val ∧ a.val < 0xdc00 ∧
      0xdc00 ≤ b.val ∧ b.val < 0xe000 := by
  have hx := x.isLt
  refine ⟨_, _, if_neg (by omega), ?_, ?_⟩
  · rw [paired?, val_codePoint (by omega), val_codePoint (by omega), if_pos (by omega)]
    rw [Option.some_inj, ← Fin.val_inj, Fin.val_ofNat]
    omega
  · rw [val_codePoint (by omega), val_codePoint (by omega)]
    omega

theorem lt_of_mem_split {xs : Codes} {u : CodePoint} (h : u ∈ split xs) : u.val < 0x10000 := by
  obtain ⟨x, -, hu⟩ := List.mem_flatMap.mp h
  by_cases hx : x.val < 0x10000
  · rw [splitOne_of_lt hx, List.mem_singleton] at hu
    exact hu ▸ hx
  · obtain ⟨a, b, hab, -, ha, ha', hb, hb'⟩ := exists_pair_of_le (Nat.le_of_not_lt hx)
    rw [hab, List.mem_cons, List.mem_singleton] at hu
    rcases hu with rfl | rfl <;> omega

theorem paired?_eq_none_of_le {a b : CodePoint} (h : 0x10000 ≤ a.val) : paired? a b = none := by
  rw [paired?, if_neg]
  omega

/-- What comes first in the units of a text makes a pair with an earlier unit only if it is a code
point of its own. -/
theorem joinPairs_cons_split (a : CodePoint) (xs : Codes) (h : joinPairs (split xs) = joinPairs xs)
    (hcons : ∀ b ys, xs = b :: ys → paired? a b ≠ none →
      joinPairs (split ys) = joinPairs ys) :
    joinPairs (a :: split xs) = joinPairs (a :: xs) := by
  cases xs with
  | nil => rfl
  | cons b ys =>
    rw [split_cons] at h ⊢
    by_cases hb : b.val < 0x10000
    · rw [splitOne_of_lt hb, List.singleton_append] at h ⊢
      rw [joinPairs, joinPairs]
      cases hpair : paired? a b with
      | none => exact congrArg (a :: ·) h
      | some x => exact congrArg (x :: ·) (hcons b ys rfl (by simp [hpair]))
    · obtain ⟨c, d, hcd, -, hc, hc', -⟩ := exists_pair_of_le (Nat.le_of_not_lt hb)
      have hac : paired? a c = none := by rw [paired?, if_neg]; omega
      have hab : paired? a b = none := by rw [paired?, if_neg]; omega
      rw [hcd, List.cons_append] at h ⊢
      rw [joinPairs, hac, joinPairs, hab, h]

/-- Joining the pairs among the units of a text is joining them in the text. -/
theorem joinPairs_split (xs : Codes) : joinPairs (split xs) = joinPairs xs := by
  induction h : xs.length using Nat.strongRecOn generalizing xs with
  | ind n ih =>
    cases xs with
    | nil => rfl
    | cons x xs =>
      have hxs := ih xs.length (by simp [← h]) xs rfl
      rw [split_cons]
      by_cases hx : x.val < 0x10000
      · rw [splitOne_of_lt hx, List.singleton_append]
        refine joinPairs_cons_split x xs hxs fun b ys hys _ => ?_
        exact ih ys.length (by simp only [← h, hys, List.length_cons]; omega) ys rfl
      · obtain ⟨a, b, hab, hpair, -⟩ := exists_pair_of_le (Nat.le_of_not_lt hx)
        rw [hab, List.cons_append, List.singleton_append, joinPairs, hpair]
        cases xs with
        | nil => rfl
        | cons y ys => rw [joinPairs, paired?_eq_none_of_le (Nat.le_of_not_lt hx), hxs]

end Utf16

/-! ## Texts in quotes -/

namespace Json

/-- A quotation mark. -/
def quoteMark : CodePoint := .ofChar '"'

/-- What a written unit looks like: itself, an escape with a letter of its own, or an escape with
four digits. -/
inductive Spelling (u : CodePoint) : Codes → Prop
  | plain (hlow : 32 ≤ u.val) (hquote : u.val ≠ 0x22) (hslash : u.val ≠ 0x5c) : Spelling u [u]
  | short (y : CodePoint) (hy : y.val ≠ 117) (hu : escapeOf y = some u.val) :
    Spelling u [.ofChar '\\', y]
  | long : Spelling u (.ofChar '\\' :: .ofChar 'u' :: Codes.ofString (Text.hexLower 4 u.val))

/-- A unit as it is written. -/
def spelled (u : CodePoint) : Codes := Codes.ofString (writeAsciiCode u)

theorem spelled_of_le {u : CodePoint} (h : 127 ≤ u.val) (h' : u.val < 0x10000) :
    spelled u = .ofChar '\\' :: .ofChar 'u' :: Codes.ofString (Text.hexLower 4 u.val) := by
  simp only [spelled, writeAsciiCode]
  rw [if_neg (by omega), if_pos h', Codes.ofString_append]
  rfl

theorem spelling_spelled {u : CodePoint} (h : u.val < 0x10000) : Spelling u (spelled u) := by
  by_cases hle : 127 ≤ u.val
  · rw [spelled_of_le hle h]
    exact .long
  have hsurrogate : u.isSurrogate = false := by
    simp only [CodePoint.isSurrogate, Bool.and_eq_false_iff, decide_eq_false_iff_not]
    omega
  simp only [spelled, writeAsciiCode, writeCode, if_pos (Nat.lt_of_not_le hle), hsurrogate,
    Bool.or_false, beq_iff_eq, decide_eq_true_eq]
  -- the escapes with a letter of their own, one by one
  split
  · next hu => exact .short (.ofChar '"') (by decide) (by rw [hu]; rfl)
  split
  · next hu => exact .short (.ofChar '\\') (by decide) (by rw [hu]; rfl)
  split
  · next hu => exact .short (.ofChar 'b') (by decide) (by rw [hu]; rfl)
  split
  · next hu => exact .short (.ofChar 'f') (by decide) (by rw [hu]; rfl)
  split
  · next hu => exact .short (.ofChar 'n') (by decide) (by rw [hu]; rfl)
  split
  · next hu => exact .short (.ofChar 'r') (by decide) (by rw [hu]; rfl)
  split
  · next hu => exact .short (.ofChar 't') (by decide) (by rw [hu]; rfl)
  split
  · rw [Codes.ofString_append]
    exact .long
  · next hquote hslash _ _ _ _ _ hlow =>
    rw [Codes.ofString_singleton hsurrogate]
    exact .plain (by omega) hquote hslash

theorem spelled_ne_nil {u : CodePoint} (h : u.val < 0x10000) : spelled u ≠ [] := by
  intro hnil
  have hspelling := spelling_spelled h
  rw [hnil] at hspelling
  cases hspelling

/-- What may come after a unit: the end of the text, or a unit that makes no pair with it. -/
inductive Follows (u : CodePoint) : Codes → Prop
  | done (tail : Codes) : Follows u (quoteMark :: tail)
  | unit (b : CodePoint) (hb : b.val < 0x10000) (hpair : Utf16.paired? u b = none)
    (after : Codes) (hafter : after ≠ []) : Follows u (spelled b ++ after)

theorem Follows.ne_nil {u : CodePoint} {rest : Codes} (h : Follows u rest) : rest ≠ [] := by
  cases h with
  | done tail => simp
  | unit b hb hpair after hafter => simp [hafter]

theorem startsWith_escape (rest : Codes) (place : Nat) :
    Cursor.startsWith ⟨rest, place⟩ "\\u" = (rest.take 2 == [.ofChar '\\', .ofChar 'u']) := rfl

theorem codePoint_val (u : CodePoint) : codePoint u.val = u := Fin.ext (Nat.mod_eq_of_lt u.isLt)

/-- A unit that could be the first one of a pair, and one that could be the second, make it up. -/
theorem not_low_of_paired?_eq_none {a b : CodePoint} (h : Utf16.paired? a b = none)
    (ha : 0xd800 ≤ a.val) (ha' : a.val < 0xdc00) : ¬(0xdc00 ≤ b.val ∧ b.val < 0xe000) := by
  intro hb
  rw [Utf16.paired?, if_pos ⟨ha, ha', hb⟩] at h
  exact absurd h (Option.some_ne_none _)

/-- What follows a unit and starts with an escape is a unit with four digits. -/
theorem Follows.eq_long {u : CodePoint} {rest : Codes} (h : Follows u rest)
    (hstart : (rest.take 2 == [CodePoint.ofChar '\\', .ofChar 'u']) = true) :
    ∃ b after, b.val < 0x10000 ∧ Utf16.paired? u b = none ∧ after ≠ [] ∧
      rest.drop 2 = Codes.ofString (Text.hexLower 4 b.val) ++ after := by
  cases h with
  | done tail =>
    rw [quoteMark, List.take_succ_cons, beq_iff_eq] at hstart
    exact absurd (List.cons.inj hstart).1 (by decide)
  | unit b hb hpair after hafter =>
    have hspelling := spelling_spelled hb
    generalize spelled b = w at hspelling hstart
    cases hspelling with
    | plain hlow hquote hslash =>
      rw [List.singleton_append, List.take_succ_cons, beq_iff_eq] at hstart
      exact absurd (congrArg Fin.val (List.cons.inj hstart).1) hslash
    | short y hy hescape =>
      simp only [List.cons_append, List.nil_append, List.take_succ_cons, List.take_zero,
        beq_iff_eq, List.cons.injEq, true_and, and_true] at hstart
      exact absurd (congrArg Fin.val hstart) hy
    | long => exact ⟨b, after, hb, hpair, hafter, rfl⟩

/-- After an escape with four digits the reader looks for a second surrogate; what follows a unit is
none that would make up a pair with it. -/
theorem stringFrom_long (start fuel : Nat) (taken : Codes) {u : CodePoint} (hu : u.val < 0x10000)
    {rest : Codes} (hrest : Follows u rest) (place : Nat) :
    stringFrom start (fuel + 1) taken
        ⟨.ofChar '\\' :: .ofChar 'u' :: Codes.ofString (Text.hexLower 4 u.val) ++ rest, place⟩ =
      stringFrom start fuel (u :: taken) ⟨rest, place + 6⟩ := by
  have hlen := length_hexLower_four hu
  have hescape := unicodeEscape_hexLower hu hrest.ne_nil (place + 2)
  rw [stringFrom]
  simp only [List.cons_append, CodePoint.val_ofChar, Char.reduceToNat, Nat.reduceBEq,
    Bool.false_eq_true, if_false, if_true, Cursor.next, Cursor.skip, List.drop_succ_cons,
    List.drop_zero, hescape, codePoint_val, List.drop_left' hlen, startsWith_escape]
  split
  · next hcond =>
    simp only [Bool.and_eq_true, decide_eq_true_eq] at hcond
    obtain ⟨⟨⟨hhigh, hhigh'⟩, -⟩, hstart⟩ := hcond
    obtain ⟨b, after, hb, hpair, hafter, hdrop⟩ := hrest.eq_long hstart
    rw [hdrop, unicodeEscape_hexLower hb hafter]
    simp only [Bool.and_eq_true, decide_eq_true_eq]
    rw [if_neg (not_low_of_paired?_eq_none hpair hhigh hhigh')]
  · rfl

/-- **One unit.** -/
theorem stringFrom_step (start fuel : Nat) (taken : Codes) {u : CodePoint} (hu : u.val < 0x10000)
    {rest : Codes} (hrest : Follows u rest) (place : Nat) :
    stringFrom start (fuel + 1) taken ⟨spelled u ++ rest, place⟩ =
      stringFrom start fuel (u :: taken) ⟨rest, place + (spelled u).length⟩ := by
  have hspelling := spelling_spelled hu
  generalize spelled u = w at hspelling
  cases hspelling with
  | plain hlow hquote hslash =>
    rw [stringFrom]
    simp only [List.singleton_append, beq_iff_eq, hquote, hslash, if_false, Cursor.next,
      if_neg (Nat.not_lt.mpr hlow), List.drop_succ_cons, List.drop_zero, List.length_singleton]
  | short y hy hescape =>
    rw [stringFrom]
    simp only [List.cons_append, List.nil_append, CodePoint.val_ofChar, Char.reduceToNat,
      Nat.reduceBEq, Bool.false_eq_true, if_false, if_true, Cursor.next, Cursor.skip,
      List.drop_succ_cons, List.drop_zero, beq_iff_eq, hy, hescape, codePoint_val,
      List.length_cons, List.length_nil]
  | long =>
    rw [stringFrom_long start fuel taken hu hrest, List.length_cons, List.length_cons,
      length_hexLower_four hu]

/-- **Two units that make up a pair.** -/
theorem stringFrom_pair (start fuel : Nat) (taken : Codes) {a b x : CodePoint}
    (hpair : Utf16.paired? a b = some x) {rest : Codes} (hrest : rest ≠ []) (place : Nat) :
    stringFrom start (fuel + 1) taken ⟨spelled a ++ (spelled b ++ rest), place⟩ =
      stringFrom start fuel (x :: taken)
        ⟨rest, place + ((spelled a).length + (spelled b).length)⟩ := by
  rw [Utf16.paired?] at hpair
  split at hpair
  · next h =>
    obtain ⟨ha, ha', hb, hb'⟩ := h
    have hlena := length_hexLower_four (show a.val < 0x10000 by omega)
    have hlenb := length_hexLower_four (show b.val < 0x10000 by omega)
    have hfirst := unicodeEscape_hexLower (show a.val < 0x10000 by omega)
      (show spelled b ++ rest ≠ [] by simp [hrest]) (place + 2)
    have hsecond := unicodeEscape_hexLower (show b.val < 0x10000 by omega) hrest
    have hx : codePoint (0x10000 + (a.val - 0xd800) * 0x400 + (b.val - 0xdc00)) = x :=
      Option.some_inj.mp hpair
    have hrest' : rest.isEmpty = false := by simpa using hrest
    rw [spelled_of_le (u := b) (by omega) (by omega)] at hfirst ⊢
    rw [spelled_of_le (u := a) (by omega) (by omega), stringFrom]
    simp only [List.cons_append, CodePoint.val_ofChar, Char.reduceToNat, Nat.reduceBEq,
      Bool.false_eq_true, if_false, if_true, Cursor.next, Cursor.skip, List.drop_succ_cons,
      List.drop_zero] at hfirst ⊢
    simp only [hfirst, List.drop_left' hlena, startsWith_escape, List.drop_succ_cons,
      List.drop_zero, List.drop_left' hlenb, List.take_succ_cons, List.take_zero, beq_self_eq_true,
      hrest', Bool.not_false, Bool.and_true, ha, ha', hb, hb', decide_true, if_true, hsecond, hx,
      List.length_cons, hlena, hlenb]
  · exact absurd hpair (by simp)

/-- The end of a text. -/
theorem stringFrom_done (start fuel : Nat) (taken tail : Codes) (place : Nat) :
    stringFrom start (fuel + 1) taken ⟨quoteMark :: tail, place⟩ =
      .ok (taken.reverse, ⟨tail, place + 1⟩) := by
  rw [stringFrom]
  rfl

/-- Units are read with their pairs joined. -/
theorem stringFrom_spelled (us : Codes) (hus : ∀ u ∈ us, u.val < 0x10000) (start fuel : Nat)
    (hfuel : us.length < fuel) (taken tail : Codes) (place : Nat) :
    stringFrom start fuel taken ⟨us.flatMap spelled ++ quoteMark :: tail, place⟩ =
      .ok (taken.reverse ++ Utf16.joinPairs us,
        ⟨tail, place + (us.flatMap spelled).length + 1⟩) := by
  obtain ⟨fuel, rfl⟩ := Nat.exists_eq_add_one_of_ne_zero (Nat.ne_of_gt (Nat.zero_lt_of_lt hfuel))
  -- by the recursion of `joinPairs`: the reader takes both units of a pair in one step, too
  fun_induction Utf16.joinPairs us generalizing fuel taken place with
  | case1 => simpa using stringFrom_done start fuel taken tail place
  | case2 a b us x hpair ih =>
    obtain ⟨fuel, rfl⟩ := Nat.exists_eq_add_one_of_ne_zero (n := fuel) (by
      simp only [List.length_cons] at hfuel; omega)
    rw [List.flatMap_cons, List.flatMap_cons, List.append_assoc, List.append_assoc,
      stringFrom_pair start _ taken hpair (by simp),
      ih (fun u hu => hus u (by simp [hu])) _ _ fuel
        (by simp only [List.length_cons] at hfuel; omega)]
    simp [Nat.add_assoc]
  | case3 a b us hpair ih =>
    obtain ⟨fuel, rfl⟩ := Nat.exists_eq_add_one_of_ne_zero (n := fuel) (by
      simp only [List.length_cons] at hfuel; omega)
    have hfollows : Follows a ((b :: us).flatMap spelled ++ quoteMark :: tail) := by
      rw [List.flatMap_cons, List.append_assoc]
      exact .unit b (hus b (by simp)) hpair _ (by simp)
    rw [List.flatMap_cons, List.append_assoc,
      stringFrom_step start _ taken (hus a (by simp)) hfollows,
      ih (fun u hu => hus u (List.mem_cons_of_mem _ hu)) _ _ fuel
        (by simp only [List.length_cons] at hfuel ⊢; omega)]
    simp [Nat.add_assoc]
  | case4 a =>
    obtain ⟨fuel, rfl⟩ := Nat.exists_eq_add_one_of_ne_zero (n := fuel) (by
      simp only [List.length_cons] at hfuel; omega)
    rw [List.flatMap_cons, List.append_assoc, List.flatMap_nil, List.nil_append,
      stringFrom_step start _ taken (hus a (by simp)) (.done tail), stringFrom_done]
    simp

theorem ofString_writeAsciiCode (x : CodePoint) :
    Codes.ofString (writeAsciiCode x) = (Utf16.splitOne x).flatMap spelled := by
  by_cases hx : x.val < 0x10000
  · rw [Utf16.splitOne_of_lt hx, List.flatMap_singleton, spelled]
  · have hlt := x.isLt
    have hunit : ∀ {n : Nat}, 0xd800 ≤ n → n < 0x10000 →
        spelled (codePoint n) = Codes.ofString ("\\u" ++ Text.hexLower 4 n) := by
      intro n hn hn'
      have hval : (codePoint n).val = n := Utf16.val_codePoint (by omega)
      rw [spelled_of_le (by omega) (by omega), hval, Codes.ofString_append]
      rfl
    simp only [writeAsciiCode, Utf16.splitOne]
    rw [if_neg (by omega), if_neg hx, if_neg hx, List.flatMap_cons, List.flatMap_singleton,
      hunit (by omega) (by omega), hunit (by omega) (by omega), String.append_assoc,
      Codes.ofString_append]

/-- A written text: its units between two quotation marks. -/
theorem ofString_writeAsciiText (s : Codes) :
    Codes.ofString (writeAsciiText s) =
      quoteMark :: ((Utf16.split s).flatMap spelled ++ [quoteMark]) := by
  have hmark : Codes.ofString "\"" = [quoteMark] := rfl
  rw [writeAsciiText, Codes.ofString_append, Codes.ofString_append, Codes.ofString_join,
    List.flatMap_map, Utf16.split, List.flatMap_assoc, hmark]
  simp only [ofString_writeAsciiCode]
  rfl

theorem length_le_length_flatMap_spelled (us : Codes) (hus : ∀ u ∈ us, u.val < 0x10000) :
    us.length ≤ (us.flatMap spelled).length := by
  induction us with
  | nil => exact Nat.le_refl 0
  | cons u us ih =>
    have hu := List.length_pos_iff.mpr (spelled_ne_nil (hus u List.mem_cons_self))
    have hle := ih fun v hv => hus v (List.mem_cons_of_mem _ hv)
    rw [List.flatMap_cons, List.length_append, List.length_cons]
    omega

/-- **Reading a written text** joins its pairs of surrogates and leaves the rest as it is. -/
theorem stringFrom_written (s : Codes) (start fuel : Nat)
    (hfuel : (Codes.ofString (writeAsciiText s)).length ≤ fuel) (tail : Codes) (place : Nat) :
    stringFrom start fuel [] ⟨(Utf16.split s).flatMap spelled ++ quoteMark :: tail, place⟩ =
      .ok (Utf16.joinPairs s,
        ⟨tail, place + ((Utf16.split s).flatMap spelled).length + 1⟩) := by
  have hunits : ∀ u ∈ Utf16.split s, u.val < 0x10000 := fun u hu => Utf16.lt_of_mem_split hu
  have hle := length_le_length_flatMap_spelled _ hunits
  rw [ofString_writeAsciiText] at hfuel
  simp only [List.length_cons, List.length_append, List.length_nil] at hfuel
  rw [stringFrom_spelled _ hunits start fuel (by omega), Utf16.joinPairs_split]
  rfl

end Json
end Enclosure
