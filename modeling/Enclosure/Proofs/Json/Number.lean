import Enclosure.Proofs.Json.Text
import Mathlib.Tactic.IntervalCases

/-!
# Reading a number or a word that was written

A whole number is written with the digits that it needs and with a sign if it is negative.  The
reader takes all digits that come, unless the first one is a zero, and it stops there if neither a
fraction nor an exponent follows, which nothing that comes after a value can be taken for.

What is here:

* `Json.Ends`: what may come after a value.
* `Json.ofString_intText`: the digits of a written number.
* `Json.wordOrNumber_written`: reading it.
-/

set_option autoImplicit false

namespace Enclosure.Json

/-- What may come after a value: nothing, a comma, or the end of a list or an object. -/
inductive Ends : Codes → Prop
  | nil : Ends []
  | cons (x : Char) (hx : x = ',' ∨ x = ']' ∨ x = '\x7d') (rest : Codes) :
    Ends (.ofChar x :: rest)

@[simp] theorem at?_ofChar (x y : Char) (rest : Codes) (place : Nat) :
    Cursor.at? ⟨.ofChar x :: rest, place⟩ y = (x == y) := by
  rw [Bool.eq_iff_iff, beq_iff_eq, ← Char.toNat_inj, ← beq_iff_eq (a := x.toNat)]
  rfl

/-! ## Digits -/

/-- The digits of a natural number. -/
def digitCodes (n : Nat) : Codes := Codes.ofChars (Nat.toDigits 10 n)

theorem ofString_intText (n : Int) :
    Codes.ofString (intText n) =
      (if n < 0 then [CodePoint.ofChar '-'] else []) ++ digitCodes n.natAbs := by
  rw [intText, Int.toString_eq_repr, Int.repr_eq_if]
  by_cases h : n < 0
  · rw [if_neg (by omega), if_pos h, Codes.ofString_append, show (-n).toNat = n.natAbs by omega,
      Codes.ofString, Codes.ofString, Nat.toList_repr]
    rfl
  · rw [if_pos (by omega), if_neg h, show n.toNat = n.natAbs by omega, Codes.ofString,
      Nat.toList_repr]
    rfl

theorem isDigit_ofChar {c : Char} (h : c.isDigit = true) : isDigit (.ofChar c) = true := by
  rw [Char.isDigit_iff_toNat] at h
  rw [isDigit, Bool.and_eq_true]
  exact ⟨decide_eq_true h.1, decide_eq_true h.2⟩

theorem isDigit_of_mem_digitCodes {n : Nat} {x : CodePoint} (h : x ∈ digitCodes n) :
    isDigit x = true := by
  obtain ⟨c, hc, rfl⟩ := List.mem_map.mp h
  exact isDigit_ofChar (Nat.isDigit_of_mem_toDigits (by decide) (by decide) hc)

theorem digitCodes_ne_nil (n : Nat) : digitCodes n ≠ [] := by
  simp [digitCodes, Codes.ofChars]

theorem digitsValue_ofChars (cs : List Char) (k : Nat) :
    digitsValue k (Codes.ofChars cs) = Nat.ofDigitChars 10 cs k := by
  induction cs generalizing k with
  | nil => rfl
  | cons c cs ih =>
    have hzero : '0'.toNat = 48 := rfl
    rw [Nat.ofDigitChars_cons, ← ih, hzero]
    rfl

theorem digitsValue_digitCodes (n : Nat) : digitsValue 0 (digitCodes n) = n := by
  rw [digitCodes, digitsValue_ofChars, Nat.ofDigitChars_ten_toDigits]

/-- The digits of a number that is not zero do not start with a zero. -/
theorem head?_toDigits_ne_zero (n : Nat) (hn : n ≠ 0) : (Nat.toDigits 10 n).head? ≠ some '0' := by
  induction n using Nat.strongRecOn with
  | ind n ih =>
    rw [Nat.toDigits_eq_if (by decide)]
    split
    · next h =>
      rw [List.head?_cons, ne_eq, Option.some_inj]
      interval_cases n <;> simp_all [Nat.digitChar]
    · next h =>
      have hhead := ih (n / 10) (by omega) (by omega)
      obtain ⟨c, cs, hcs⟩ :=
        List.exists_cons_of_ne_nil (Nat.toDigits_ne_nil (n := n / 10) (b := 10))
      rw [hcs] at hhead ⊢
      exact hhead

/-- The same for their code points. -/
theorem head?_digitCodes_ne_zero {n : Nat} (hn : n ≠ 0) {x : CodePoint} (hzero : x.val = 48) :
    x ∉ (digitCodes n).head? := by
  intro hx
  rw [digitCodes, Codes.ofChars, List.head?_map] at hx
  obtain ⟨c, hc, rfl⟩ := Option.map_eq_some_iff.mp hx
  have hchar : c = '0' := Char.toNat_inj.mp hzero
  exact head?_toDigits_ne_zero n hn (hchar ▸ hc)

theorem digitCodes_zero : digitCodes 0 = [.ofChar '0'] := rfl

/-! ## What comes after a number -/

theorem Ends.takeWhile_append {tail : Codes} (h : Ends tail) (n : Nat) :
    (digitCodes n ++ tail).takeWhile isDigit = digitCodes n := by
  have htail : tail.takeWhile isDigit = [] := by
    cases h with
    | nil => rfl
    | cons x hx rest => rcases hx with rfl | rfl | rfl <;> rfl
  rw [List.takeWhile_append_of_pos fun x hx => isDigit_of_mem_digitCodes hx, htail,
    List.append_nil]

theorem Ends.at?_eq_false {tail : Codes} (h : Ends tail) {y : Char}
    (hy : y ≠ ',' ∧ y ≠ ']' ∧ y ≠ '\x7d') (place : Nat) : Cursor.at? ⟨tail, place⟩ y = false := by
  cases h with
  | nil => rfl
  | cons x hx rest =>
    rw [at?_ofChar, beq_eq_false_iff_ne]
    rintro rfl
    rcases hx with rfl | rfl | rfl <;> simp at hy

/-- The digits that the reader takes are those that were written. -/
theorem digits_taken {tail : Codes} (h : Ends tail) (n place : Nat) :
    (if Cursor.at? ⟨digitCodes n ++ tail, place⟩ '0' then (digitCodes n ++ tail).take 1
      else (digitCodes n ++ tail).takeWhile isDigit) = digitCodes n := by
  split
  · next hzero =>
    by_cases hn : n = 0
    · subst hn
      rw [digitCodes_zero]
      rfl
    · have hhead := head?_toDigits_ne_zero n hn
      obtain ⟨c, cs, hcs⟩ := List.exists_cons_of_ne_nil (Nat.toDigits_ne_nil (n := n) (b := 10))
      rw [digitCodes, hcs, Codes.ofChars, List.map_cons, List.cons_append, at?_ofChar,
        beq_iff_eq] at hzero
      exact absurd (by rw [hcs, hzero, List.head?_cons]) hhead
  · exact h.takeWhile_append n

/-- The first digit is no other character. -/
theorem at?_digitCodes {y : Char} (hy : y.isDigit = false) (n : Nat) (tail : Codes) (place : Nat) :
    Cursor.at? ⟨digitCodes n ++ tail, place⟩ y = false := by
  obtain ⟨c, cs, hcs⟩ := List.exists_cons_of_ne_nil (Nat.toDigits_ne_nil (n := n) (b := 10))
  have hc := Nat.isDigit_of_mem_toDigits (c := c) (n := n) (b := 10) (by decide) (by decide)
    (by simp [hcs])
  rw [digitCodes, hcs, Codes.ofChars, List.map_cons, List.cons_append, at?_ofChar,
    beq_eq_false_iff_ne]
  rintro rfl
  simp [hc] at hy

/-- **A written number is read back**, with its sign. -/
theorem number_written {tail : Codes} (h : Ends tail) (n : Int)
    (hn : (digitCodes n.natAbs).length ≤ maxDigits) (place : Nat) :
    number ⟨Codes.ofString (intText n) ++ tail, place⟩ =
      .ok (.int n, ⟨tail, place + (Codes.ofString (intText n)).length⟩) := by
  have hne : (digitCodes n.natAbs).isEmpty = false := by simp [digitCodes_ne_nil]
  have hdot (p : Nat) := h.at?_eq_false (y := '.') (by decide) p
  have hsmall (p : Nat) := h.at?_eq_false (y := 'e') (by decide) p
  have hlarge (p : Nat) := h.at?_eq_false (y := 'E') (by decide) p
  have hminus (p : Nat) := at?_digitCodes (y := '-') (by decide) n.natAbs tail p
  rw [ofString_intText]
  split
  · next hneg =>
    have htaken := digits_taken h n.natAbs (place + 1)
    simp only [number, Cursor.digits, List.cons_append, List.nil_append, at?_ofChar,
      beq_self_eq_true, if_true, Cursor.next, List.drop_succ_cons, List.drop_zero, htaken, hne,
      Bool.false_eq_true, if_false, Cursor.skip, List.drop_left, hdot, hsmall, hlarge,
      Bool.or_self, List.isEmpty_nil, Option.isNone_none, Bool.and_self,
      if_neg (Nat.not_lt.mpr hn), digitsValue_digitCodes, List.length_cons]
    rw [show -(n.natAbs : Int) = n by omega, Nat.add_assoc, Nat.add_comm 1]
  · next hpos =>
    have htaken := digits_taken h n.natAbs place
    simp only [number, Cursor.digits, List.nil_append, hminus, htaken, hne,
      Bool.false_eq_true, if_false, Cursor.skip, List.drop_left, hdot, hsmall, hlarge,
      Bool.or_self, List.isEmpty_nil, if_true, Option.isNone_none, Bool.and_self,
      if_neg (Nat.not_lt.mpr hn), digitsValue_digitCodes]
    rw [show (n.natAbs : Int) = n by omega]

/-! ## Words -/

/-- What starts with a text starts with its first character. -/
theorem startsWith_eq_false {c : Cursor} {s : String} {x : Char} {xs : List Char}
    (hs : s.toList = x :: xs) (hc : c.at? x = false) : c.startsWith s = false := by
  rw [Cursor.startsWith, beq_eq_false_iff_ne, Codes.ofString, hs, ← String.length_toList, hs]
  intro htake
  obtain ⟨rest, place⟩ := c
  cases rest with
  | nil => simp [Codes.ofChars] at htake
  | cons y rest =>
    have hy : y = .ofChar x := (List.cons.inj htake).1
    rw [hy, at?_ofChar, beq_self_eq_true] at hc
    exact absurd hc (by decide)

theorem startsWith_cons {x : Char} {s t : String} (h : s.toList = x :: t.toList) (rest : Codes)
    (place : Nat) :
    Cursor.startsWith ⟨.ofChar x :: rest, place⟩ s = Cursor.startsWith ⟨rest, place + 1⟩ t := by
  rw [Cursor.startsWith, Cursor.startsWith, ← String.length_toList, ← String.length_toList, h,
    Codes.ofString, Codes.ofString, h]
  simp [Codes.ofChars]

theorem startsWith_append (s : String) (tail : Codes) (place : Nat) :
    Cursor.startsWith ⟨Codes.ofString s ++ tail, place⟩ s = true := by
  rw [Cursor.startsWith, List.take_left' (Codes.length_ofString s), beq_self_eq_true]

/-- What starts with none of the letters of the words is a number. -/
theorem wordOrNumber_eq_number {c : Cursor} (hn : c.at? 'n' = false) (ht : c.at? 't' = false)
    (hf : c.at? 'f' = false) (hN : c.at? 'N' = false) (hI : c.at? 'I' = false)
    (hminus : c.startsWith "-Infinity" = false) : wordOrNumber c = number c := by
  rw [wordOrNumber, startsWith_eq_false (s := "null") rfl hn,
    startsWith_eq_false (s := "true") rfl ht, startsWith_eq_false (s := "false") rfl hf,
    startsWith_eq_false (s := "NaN") rfl hN, startsWith_eq_false (s := "Infinity") rfl hI, hminus]
  rfl

/-- **Reading a written number.** -/
theorem wordOrNumber_written {tail : Codes} (h : Ends tail) (n : Int)
    (hn : (digitCodes n.natAbs).length ≤ maxDigits) (place : Nat) :
    wordOrNumber ⟨Codes.ofString (intText n) ++ tail, place⟩ =
      .ok (.int n, ⟨tail, place + (Codes.ofString (intText n)).length⟩) := by
  rw [← number_written h n hn place, ofString_intText]
  split
  · have hrest : Cursor.startsWith ⟨digitCodes n.natAbs ++ tail, place + 1⟩ "Infinity" = false :=
      startsWith_eq_false rfl (at?_digitCodes (by decide) n.natAbs tail _)
    rw [← startsWith_cons (s := "-Infinity") rfl] at hrest
    exact wordOrNumber_eq_number rfl rfl rfl rfl rfl hrest
  · have hhead {y : Char} (hy : y.isDigit = false) :=
      at?_digitCodes hy n.natAbs tail place
    exact wordOrNumber_eq_number (hhead (by decide)) (hhead (by decide)) (hhead (by decide))
      (hhead (by decide)) (hhead (by decide)) (startsWith_eq_false rfl (hhead (by decide)))

theorem wordOrNumber_null (tail : Codes) (place : Nat) :
    wordOrNumber ⟨Codes.ofString "null" ++ tail, place⟩ = .ok (.null, ⟨tail, place + 4⟩) := by
  rw [wordOrNumber, if_pos (startsWith_append _ _ _)]
  rfl

theorem wordOrNumber_true (tail : Codes) (place : Nat) :
    wordOrNumber ⟨Codes.ofString "true" ++ tail, place⟩ = .ok (.bool true, ⟨tail, place + 4⟩) := by
  have hnull : Cursor.startsWith ⟨Codes.ofString "true" ++ tail, place⟩ "null" = false :=
    startsWith_eq_false rfl rfl
  rw [wordOrNumber, hnull, startsWith_append]
  rfl

theorem wordOrNumber_false (tail : Codes) (place : Nat) :
    wordOrNumber ⟨Codes.ofString "false" ++ tail, place⟩ =
      .ok (.bool false, ⟨tail, place + 5⟩) := by
  have hnull : Cursor.startsWith ⟨Codes.ofString "false" ++ tail, place⟩ "null" = false :=
    startsWith_eq_false rfl rfl
  have htrue : Cursor.startsWith ⟨Codes.ofString "false" ++ tail, place⟩ "true" = false :=
    startsWith_eq_false rfl rfl
  rw [wordOrNumber, hnull, htrue, startsWith_append]
  rfl

end Enclosure.Json
