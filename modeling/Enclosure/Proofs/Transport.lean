import Enclosure.Backend.Interpreter
import Enclosure.Proofs.Utf8

/-!
# A text on its way to another program

A text is sent to another program as bytes, and the program makes a text of them again.  Neither side
may refuse anything: the text is whatever was given, with surrogates in it or not, and two surrogates
that would make up a pair are still two code points at the other end.  That what is decoded is what was
encoded says that no two texts are sent alike.  The other direction says more about the decoder: it does
not take a code point that is written with more bytes than it needs, so the bytes that were sent are the
only ones that stand for the text.

What is here:

* `Utf8.exists_two_of_piece`, `Utf8.exists_three_of_piece`, `Utf8.exists_four_of_piece`: what is read
  after a first byte, by the number of bytes that it announces.
* `Utf8.exists_append_of_piece`: what is read as a code point are the bytes of that code point.
* `Utf8.decode_eq_ok_iff`: the bytes of a text, and no others, are decoded to it.
* `Abstract.endingOf` and `Abstract.reportEnding_encode`: how the other program ends.
* `Backend.events_answer_interpreter`: what happens while the back end answers.
* `source_arrives_unchanged`: the text that was given is the text that is read.
-/

set_option autoImplicit false

namespace Enclosure

namespace Utf8

variable {surrogates : Bool} {b c d e : UInt8} {x : CodePoint}

/-! ## The bytes of a code point -/

theorem made_eq_code_iff {n size k : Nat} : made n size = .code x k ↔ n = x.val ∧ size = k := by
  rw [made]
  constructor
  · intro h
    split at h
    · obtain ⟨rfl, rfl⟩ := Piece.code.inj h
      exact ⟨rfl, rfl⟩
    · cases h
  · rintro ⟨rfl, rfl⟩
    rw [dif_pos x.isLt]

theorem encodeOne_ne_nil (x : CodePoint) : encodeOne x ≠ [] := by
  have hallowed : true = true ∨ x.isSurrogate = false := .inl rfl
  obtain ⟨b, bs, hbytes, -⟩ := piece_encodeOne hallowed
  exact hbytes ▸ List.cons_ne_nil b bs

theorem bounds_of_isTail (h : isTail c = true) : 0x80 ≤ c.toNat ∧ c.toNat < 0xc0 := by
  simpa [isTail] using h

/-- A byte after the first one is known by its six bits. -/
theorem tail_eq_of_isTail (h : isTail c = true) {n : Nat} (hn : n % 0x40 = c.toNat - 0x80) :
    tail n = c := by
  obtain ⟨hle, -⟩ := bounds_of_isTail h
  rw [← UInt8.toNat_inj, toNat_tail]
  omega

theorem ofNat_eq_of_toNat {n : Nat} (h : n = b.toNat) : UInt8.ofNat n = b := by
  rw [h, UInt8.ofNat_toNat]

theorem encodeOne_eq_two (hb : 0xc2 ≤ b.toNat) (hb' : b.toNat < 0xe0) (hc : isTail c = true)
    (hx : x.val = (b.toNat - 0xc0) * 0x40 + (c.toNat - 0x80)) : encodeOne x = [b, c] := by
  obtain ⟨-, hlt⟩ := bounds_of_isTail hc
  have hfirst : UInt8.ofNat (0xc0 + x.val / 0x40) = b := ofNat_eq_of_toNat (by omega)
  rw [encodeOne, if_neg (by omega), if_pos (by omega), hfirst, tail_eq_of_isTail hc (by omega)]

/-- The least first byte asks for a larger second one, or else two bytes would do. -/
theorem encodeOne_eq_three (hb : 0xe0 ≤ b.toNat) (hb' : b.toNat < 0xf0) (hc : isTail c = true)
    (hd : isTail d = true) (hleast : b.toNat = 0xe0 → 0xa0 ≤ c.toNat)
    (hx : x.val = (b.toNat - 0xe0) * 0x1000 + (c.toNat - 0x80) * 0x40 + (d.toNat - 0x80)) :
    encodeOne x = [b, c, d] := by
  obtain ⟨hle, hlt⟩ := bounds_of_isTail hc
  obtain ⟨-, hlt'⟩ := bounds_of_isTail hd
  have hfirst : UInt8.ofNat (0xe0 + x.val / 0x1000) = b := ofNat_eq_of_toNat (by omega)
  rw [encodeOne, if_neg (by omega), if_neg (by omega), if_pos (by omega), hfirst,
    tail_eq_of_isTail hc (by omega), tail_eq_of_isTail hd (by omega)]

theorem encodeOne_eq_four (hb : 0xf0 ≤ b.toNat) (hc : isTail c = true) (hd : isTail d = true)
    (he : isTail e = true) (hleast : b.toNat = 0xf0 → 0x90 ≤ c.toNat)
    (hx : x.val = (b.toNat - 0xf0) * 0x40000 + (c.toNat - 0x80) * 0x1000 +
      (d.toNat - 0x80) * 0x40 + (e.toNat - 0x80)) :
    encodeOne x = [b, c, d, e] := by
  obtain ⟨hle, hlt⟩ := bounds_of_isTail hc
  obtain ⟨-, hlt'⟩ := bounds_of_isTail hd
  obtain ⟨-, hlt''⟩ := bounds_of_isTail he
  have hbound := b.toNat_lt
  have hfirst : UInt8.ofNat (0xf0 + x.val / 0x40000) = b := ofNat_eq_of_toNat (by omega)
  rw [encodeOne, if_neg (by omega), if_neg (by omega), if_neg (by omega), hfirst,
    tail_eq_of_isTail hc (by omega), tail_eq_of_isTail hd (by omega),
    tail_eq_of_isTail he (by omega)]

/-- What is read after a first byte that announces two bytes. -/
theorem exists_two_of_piece {bs : Bytes} {size : Nat} (h : piece surrogates b bs = .code x size)
    (hb : 0xc2 ≤ b.toNat) (hb' : b.toNat < 0xe0) :
    ∃ c rest, bs = c :: rest ∧ encodeOne x = [b, c] ∧ size = 2 := by
  simp only [piece] at h
  rw [if_neg (by omega), if_neg (by omega), if_pos hb'] at h
  rcases bs with _ | ⟨c, rest⟩
  · cases h
  · dsimp only at h
    split at h
    · next hc =>
      obtain ⟨hx, rfl⟩ := made_eq_code_iff.mp h
      exact ⟨c, rest, rfl, encodeOne_eq_two hb hb' hc hx.symm, rfl⟩
    · cases h

/-- What is read after a first byte that announces three bytes. -/
theorem exists_three_of_piece {bs : Bytes} {size : Nat} (h : piece surrogates b bs = .code x size)
    (hb : 0xe0 ≤ b.toNat) (hb' : b.toNat < 0xf0) :
    ∃ c d rest, bs = c :: d :: rest ∧ encodeOne x = [b, c, d] ∧ size = 3 := by
  simp only [piece] at h
  rw [if_neg (by omega), if_neg (by omega), if_neg (by omega), if_pos hb'] at h
  rcases bs with _ | ⟨c, _ | ⟨d, rest⟩⟩
  · cases h
  · dsimp only at h
    split at h <;> cases h
  · dsimp only at h
    split at h
    · cases h
    next hallowed =>
    split at h
    · split at h <;> cases h
    next hd =>
    rw [Bool.not_eq_true', Bool.not_eq_false] at hallowed hd
    rw [Bool.and_eq_true, Bool.and_eq_true] at hallowed
    obtain ⟨⟨hc, hleast⟩, -⟩ := hallowed
    simp only [Bool.not_eq_true', Bool.and_eq_false_iff, beq_eq_false_iff_ne,
      decide_eq_false_iff_not] at hleast
    obtain ⟨hx, rfl⟩ := made_eq_code_iff.mp h
    exact ⟨c, d, rest, rfl, encodeOne_eq_three hb hb' hc hd (by omega) hx.symm, rfl⟩

/-- What is read after a first byte that announces four bytes. -/
theorem exists_four_of_piece {bs : Bytes} {size : Nat} (h : piece surrogates b bs = .code x size)
    (hb : 0xf0 ≤ b.toNat) :
    ∃ c d e rest, bs = c :: d :: e :: rest ∧ encodeOne x = [b, c, d, e] ∧ size = 4 := by
  simp only [piece] at h
  rw [if_neg (by omega), if_neg (by omega), if_neg (by omega), if_neg (by omega)] at h
  split at h
  · rcases bs with _ | ⟨c, bs⟩
    · cases h
    dsimp only at h
    split at h
    · cases h
    next hc =>
    rcases bs with _ | ⟨d, bs⟩
    · cases h
    dsimp only at h
    split at h
    · cases h
    next hd =>
    rcases bs with _ | ⟨e, rest⟩
    · cases h
    dsimp only at h
    split at h
    · cases h
    next he =>
    simp only [Bool.or_eq_true, Bool.not_eq_true', Bool.and_eq_true, beq_iff_eq, decide_eq_true_eq,
      not_or, Bool.not_eq_false] at hc hd he
    obtain ⟨hx, rfl⟩ := made_eq_code_iff.mp h
    exact ⟨c, d, e, rest, rfl, encodeOne_eq_four hb hc.1.1 hd he (by omega) hx.symm, rfl⟩
  · cases h

/-- **What is read as a code point** are the bytes of that code point, and nothing shorter or longer. -/
theorem exists_append_of_piece {bs : Bytes} {size : Nat} (h : piece surrogates b bs = .code x size) :
    ∃ rest, b :: bs = encodeOne x ++ rest ∧ size = (encodeOne x).length := by
  rcases Nat.lt_or_ge b.toNat 0x80 with hone | hone
  · simp only [piece, if_pos hone] at h
    obtain ⟨hx, rfl⟩ := made_eq_code_iff.mp h
    rw [encodeOne_of_lt (hx ▸ hone), ofNat_eq_of_toNat hx.symm]
    exact ⟨bs, rfl, rfl⟩
  rcases Nat.lt_or_ge b.toNat 0xc2 with htail | htwo
  · -- no code point starts with such a byte
    simp only [piece, if_neg (Nat.not_lt.mpr hone), if_pos htail] at h
    cases h
  rcases Nat.lt_or_ge b.toNat 0xe0 with htwo' | hthree
  · obtain ⟨c, rest, rfl, hbytes, rfl⟩ := exists_two_of_piece h htwo htwo'
    rw [hbytes]
    exact ⟨rest, rfl, rfl⟩
  rcases Nat.lt_or_ge b.toNat 0xf0 with hthree' | hfour
  · obtain ⟨c, d, rest, rfl, hbytes, rfl⟩ := exists_three_of_piece h hthree hthree'
    rw [hbytes]
    exact ⟨rest, rfl, rfl⟩
  · obtain ⟨c, d, e, rest, rfl, hbytes, rfl⟩ := exists_four_of_piece h hfour
    rw [hbytes]
    exact ⟨rest, rfl, rfl⟩

/-! ## The bytes of a text -/

/-- **What is decoded** was encoded: no other bytes stand for a text. -/
theorem eq_encode_of_decodeFrom {place : Nat} {bs : Bytes} {xs : Codes}
    (h : decodeFrom surrogates place bs = .ok xs) : bs = encode xs := by
  fun_induction decodeFrom surrogates place bs generalizing xs with
  | case1 => exact Except.ok.inj h ▸ rfl
  | case2 place b bs x size hpiece xs' hrest ih =>
    obtain rfl := Except.ok.inj h
    obtain ⟨rest, hbytes, rfl⟩ := exists_append_of_piece hpiece
    have hdrop : bs.drop ((encodeOne x).length - 1) = rest := by
      obtain ⟨c, cs, hone⟩ := List.exists_cons_of_ne_nil (encodeOne_ne_nil x)
      rw [hone, List.cons_append, List.cons.injEq] at hbytes
      rw [hbytes.2, hone, List.length_cons, Nat.add_sub_cancel, List.drop_left]
    rw [hbytes, encode_cons, ← hdrop, ih hrest]
  | case3 => cases h
  | case4 => cases h

/-- **The bytes of a text**, and no others, are decoded to it. -/
theorem decode_eq_ok_iff {bs : Bytes} {xs : Codes} : decode true bs = .ok xs ↔ bs = encode xs :=
  ⟨eq_encode_of_decodeFrom, fun h => h ▸ decode_encode xs⟩

theorem encode_inj {xs ys : Codes} : encode xs = encode ys ↔ xs = ys := by
  refine ⟨fun h => ?_, congrArg encode⟩
  have hdecoded := decode_encode xs
  rw [h, decode_encode] at hdecoded
  exact (Except.ok.inj hdecoded).symm

/-- Two surrogates are six bytes; the character that they would make up is four. -/
example :
    encode [⟨0xd83d, by decide⟩, ⟨0xde00, by decide⟩] = [0xed, 0xa0, 0xbd, 0xed, 0xb8, 0x80] ∧
      encode [⟨0x1f600, by decide⟩] = [0xf0, 0x9f, 0x98, 0x80] := by decide

end Utf8

/-! ## The other program -/

namespace Abstract

/-- How a program that reads texts ends once it has read one: with its report, or with the failure that
kept it from reporting. -/
def endingOf : Except (String × Codes) Json → Ending
  | .ok document => .exited 0 (Utf8.encode (Codes.ofString document.writeAscii)) []
  | .error (kind, message) => .exited 1 [] (Utf8.encode (Codes.ofString s!"{kind}: " ++ message))

/-- **The other program reads the text that was sent.** -/
theorem reportEnding_encode (read : Codes → Except Fault Tree) (source : Codes) :
    reportEnding read (Utf8.encode source) = endingOf (report (read source)) := by
  rw [reportEnding, Utf8.decode_encode]
  dsimp only
  cases report (read source) <;> rfl

end Abstract

namespace Backend

/-- While the back end answers, one program is started with the bytes of the text. -/
theorem events_answer_interpreter (start : Launch → Ending) (program : String)
    (timeout : Option Seconds) (earlier : Nat) (source : Codes) :
    ((Backend.interpreter start program timeout).answer earlier source).events =
      [.noted (.reading source.length program), .launched (launchFor program timeout source)] := rfl

end Backend

/-- **A text arrives unchanged**, whatever code points it consists of.  The back end for another
interpreter always starts one program; the bytes that this is given are decoded to the text, and no
other bytes are; so the program ends as it does after reading this text, and it is given the same bytes
for no other text. -/
theorem source_arrives_unchanged (start : Launch → Ending) (program : String)
    (timeout : Option Seconds) (earlier : Nat) (source : Codes) :
    ∃ input : Bytes,
      ((Backend.interpreter start program timeout).answer earlier source).events =
        [.noted (.reading source.length program), .launched ⟨program, input, timeout⟩] ∧
      (∀ text, Utf8.decode true input = .ok text ↔ text = source) ∧
      (∀ bytes, Utf8.decode true bytes = .ok source ↔ bytes = input) ∧
      (∀ read, Abstract.reportEnding read input =
        Abstract.endingOf (Abstract.report (read source))) ∧
      ∀ other, .launched ⟨program, input, timeout⟩ ∈
        ((Backend.interpreter start program timeout).answer earlier other).events ↔
          other = source := by
  refine ⟨Utf8.encode source, Backend.events_answer_interpreter start program timeout earlier source,
    fun text => ?_, fun bytes => Utf8.decode_eq_ok_iff,
    fun read => Abstract.reportEnding_encode read source, fun other => ?_⟩
  · rw [Utf8.decode_eq_ok_iff, Utf8.encode_inj, eq_comm]
  · rw [Backend.events_answer_interpreter]
    simp [launchFor, Utf8.encode_inj, eq_comm]

end Enclosure
