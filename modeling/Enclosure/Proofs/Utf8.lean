import Enclosure.Encoding.Detect
import Enclosure.Proofs.Codes
import Mathlib.Tactic.Common

/-!
# Bytes of a text and back

Every text has bytes, surrogates or not, and decoding with surrogates allowed gives the text back;
where they are not allowed, that holds for every text without them.  The decoder reads one code point
at a time, so it is enough to follow one code point: its first byte tells how many come after it, and
the bounds on the second one only shut out spellings that the encoder never uses.

What is here:

* `Utf8.piece_encodeOne`: the bytes of a code point are read as that code point, whatever follows.
* `Utf8.decode_encode` and `Utf8.decode_encode_of_noSurrogates`: the round trip.
* `Utf8.decodeReplacing_encode`: the same where bytes that are not UTF-8 are replaced.
* `decodeAny_encode`: a document that starts with two ASCII characters is taken for UTF-8.
-/

set_option autoImplicit false

namespace Enclosure

namespace Utf8

theorem toNat_tail (n : Nat) : (tail n).toNat = 0x80 + n % 0x40 := by
  rw [tail, UInt8.toNat_ofNat']
  omega

theorem isTail_tail (n : Nat) : isTail (tail n) = true := by
  simp only [isTail, toNat_tail, Bool.and_eq_true, decide_eq_true_eq]
  omega

/-- A first byte that is below 256 is written as it is. -/
theorem toNat_first {n : Nat} (h : n < 0x100) : (UInt8.ofNat n).toNat = n := by
  rw [UInt8.toNat_ofNat']
  omega

theorem made_eq {n : Nat} {x : CodePoint} (size : Nat) (h : n = x.val) :
    made n size = .code x size := by
  subst h
  rw [made, dif_pos x.isLt]

/-- The bytes of a code point are its first one and those after it, and reading them gives the code
point back, a surrogate only if these are allowed. -/
theorem piece_encodeOne {surrogates : Bool} {x : CodePoint}
    (hallowed : surrogates = true ∨ x.isSurrogate = false) :
    ∃ b bs, encodeOne x = b :: bs ∧
      ∀ rest, piece surrogates b (bs ++ rest) = .code x (bs.length + 1) := by
  have hx := x.isLt
  rw [encodeOne]
  split
  · next h1 =>
    refine ⟨_, [], rfl, fun rest => ?_⟩
    simp only [piece, toNat_first (show x.val < 0x100 by omega), if_pos h1]
    exact made_eq 1 rfl
  · next h1 =>
    split
    · next h2 =>
      refine ⟨_, _, rfl, fun rest => ?_⟩
      have hfirst := toNat_first (show 0xc0 + x.val / 0x40 < 0x100 by omega)
      simp only [piece, hfirst, List.cons_append, isTail_tail, toNat_tail, if_true]
      rw [if_neg (by omega), if_neg (by omega), if_pos (by omega)]
      exact made_eq 2 (by omega)
    · next h2 =>
      split
      · next h3 =>
        refine ⟨_, _, rfl, fun rest => ?_⟩
        have hfirst := toNat_first (show 0xe0 + x.val / 0x1000 < 0x100 by omega)
        -- the least first byte asks for a larger second one, which a number from 0x800 on has
        have hsecond : (0xe0 + x.val / 0x1000 == 0xe0 &&
            decide (0x80 + x.val / 0x40 % 0x40 < 0xa0)) = false := by
          simp only [Bool.and_eq_false_iff, beq_eq_false_iff_ne, decide_eq_false_iff_not]
          omega
        have hthird : (surrogates || !(0xe0 + x.val / 0x1000 == 0xed &&
            decide (0xa0 ≤ 0x80 + x.val / 0x40 % 0x40))) = true := by
          rw [Bool.or_eq_true]
          refine hallowed.imp_right fun hplain => ?_
          simp only [CodePoint.isSurrogate, Bool.and_eq_false_iff, decide_eq_false_iff_not] at hplain
          simp only [Bool.not_eq_true', Bool.and_eq_false_iff, beq_eq_false_iff_ne,
            decide_eq_false_iff_not]
          omega
        simp only [piece, hfirst, List.cons_append, isTail_tail, toNat_tail, hsecond, hthird]
        rw [if_neg (by omega), if_neg (by omega), if_neg (by omega), if_pos (by omega)]
        simp only [Bool.not_false, Bool.and_true, Bool.not_true, Bool.false_eq_true, if_false]
        exact made_eq 3 (by omega)
      · next h3 =>
        refine ⟨_, _, rfl, fun rest => ?_⟩
        have hfirst := toNat_first (show 0xf0 + x.val / 0x40000 < 0x100 by omega)
        have hsecond : (0xf0 + x.val / 0x40000 == 0xf0 &&
            decide (0x80 + x.val / 0x1000 % 0x40 < 0x90)) = false := by
          simp only [Bool.and_eq_false_iff, beq_eq_false_iff_ne, decide_eq_false_iff_not]
          omega
        have hlast : (0xf0 + x.val / 0x40000 == 0xf4 &&
            decide (0x90 ≤ 0x80 + x.val / 0x1000 % 0x40)) = false := by
          simp only [Bool.and_eq_false_iff, beq_eq_false_iff_ne, decide_eq_false_iff_not]
          omega
        simp only [piece, hfirst, List.cons_append, isTail_tail, toNat_tail, hsecond, hlast]
        rw [if_neg (by omega), if_neg (by omega), if_neg (by omega), if_neg (by omega),
          if_pos (by omega)]
        simp only [Bool.not_true, Bool.or_false, Bool.false_eq_true, if_false]
        exact made_eq 4 (by omega)

theorem encode_cons (x : CodePoint) (xs : Codes) : encode (x :: xs) = encodeOne x ++ encode xs :=
  List.flatMap_cons

theorem decodeFrom_encode {surrogates : Bool} {xs : Codes}
    (hallowed : surrogates = true ∨ xs.NoSurrogates) (place : Nat) :
    decodeFrom surrogates place (encode xs) = .ok xs := by
  induction xs generalizing place with
  | nil => rw [encode, List.flatMap_nil, decodeFrom]
  | cons x xs ih =>
    obtain ⟨b, bs, hbytes, hpiece⟩ :=
      piece_encodeOne (hallowed.imp_right fun h => h x List.mem_cons_self)
    have hrest := ih (hallowed.imp_right fun h y hy => h y (List.mem_cons_of_mem x hy))
    rw [encode_cons, hbytes, List.cons_append, decodeFrom]
    simp only [hpiece, Nat.add_sub_cancel, List.drop_left, hrest]

/-- **The round trip**: a text is what its bytes are decoded to, surrogates included. -/
theorem decode_encode (xs : Codes) : decode true (encode xs) = .ok xs :=
  decodeFrom_encode (.inl rfl) 0

/-- A text without surrogates does not need them to be allowed. -/
theorem decode_encode_of_noSurrogates {xs : Codes} (h : xs.NoSurrogates) :
    decode false (encode xs) = .ok xs := decodeFrom_encode (.inr h) 0

/-- Nothing is replaced in the bytes of a text. -/
theorem decodeReplacing_encode (cs : List Char) :
    decodeReplacing (encode (Codes.ofChars cs)) = cs := by
  induction cs with
  | nil => rw [Codes.ofChars, List.map_nil, encode, List.flatMap_nil, decodeReplacing]
  | cons c cs ih =>
    have hallowed : false = true ∨ (CodePoint.ofChar c).isSurrogate = false :=
      .inr (CodePoint.isSurrogate_ofChar c)
    obtain ⟨b, bs, hbytes, hpiece⟩ := piece_encodeOne hallowed
    have hcons : Codes.ofChars (c :: cs) = CodePoint.ofChar c :: Codes.ofChars cs := rfl
    rw [hcons, encode_cons, hbytes, List.cons_append, decodeReplacing]
    simp only [hpiece, Nat.add_sub_cancel, List.drop_left, ih, CodePoint.toChar?_ofChar,
      Option.getD_some]

theorem encodeOne_of_lt {x : CodePoint} (h : x.val < 0x80) : encodeOne x = [UInt8.ofNat x.val] := by
  rw [encodeOne]
  exact if_pos h

end Utf8

/-- Two bytes of ASCII characters at the start rule out all marks and all other encodings. -/
theorem Encoding.detect_ascii {a b : UInt8} (bs : Bytes) (ha : 0 < a.toNat) (ha' : a.toNat < 0x80)
    (hb : 0 < b.toNat) : Encoding.detect (a :: b :: bs) = .utf8 false := by
  have ha0 : a ≠ 0 := by
    rintro rfl
    exact Nat.lt_irrefl 0 ha
  have hb0 : b ≠ 0 := by
    rintro rfl
    exact Nat.lt_irrefl 0 hb
  have hzero : ((0 : UInt8) == a) = false := beq_eq_false_iff_ne.mpr ha0.symm
  have hmark {x : UInt8} (hx : 0x80 ≤ x.toNat) : (x == a) = false := by
    rw [beq_eq_false_iff_ne]
    rintro rfl
    omega
  have hff : ((0xff : UInt8) == a) = false := hmark (by decide)
  have hfe : ((0xfe : UInt8) == a) = false := hmark (by decide)
  have hef : ((0xef : UInt8) == a) = false := hmark (by decide)
  have hzeros : Encoding.ofZeros (a :: b :: bs) = .utf8 false := by
    rcases bs with _ | ⟨c, _ | ⟨d, bs⟩⟩
    · simp only [ofZeros, if_neg ha0, if_neg hb0]
    · rfl
    · simp only [ofZeros, if_neg ha0, if_neg hb0]
  simp only [detect, List.isPrefixOf, hzero, hff, hfe, hef, Bool.false_and, Bool.false_eq_true,
    if_false, hzeros]

/-- A document whose first two characters are ASCII characters other than NUL is read back from its
bytes. -/
theorem decodeAny_encode {x y : CodePoint} (rest : Codes) (hx : 0 < x.val) (hx' : x.val < 0x80)
    (hy : 0 < y.val) (hy' : y.val < 0x80) :
    decodeAny (Utf8.encode (x :: y :: rest)) = .ok (x :: y :: rest) := by
  have hdetect : Encoding.detect (Utf8.encode (x :: y :: rest)) = .utf8 false := by
    rw [Utf8.encode_cons, Utf8.encode_cons, Utf8.encodeOne_of_lt hx', Utf8.encodeOne_of_lt hy']
    refine Encoding.detect_ascii _ ?_ ?_ ?_ <;> rw [Utf8.toNat_first (by omega)] <;> assumption
  simp only [decodeAny, hdetect, Bool.false_eq_true, if_false, Utf8.decode_encode]

end Enclosure
