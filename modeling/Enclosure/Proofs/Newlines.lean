import Enclosure.Proofs.Utf8
import Enclosure.Text.Newline

/-!
# Line ends of a text

Once all line ends of a text are single line feeds, its lines can be counted in its code points or
in its bytes: a line feed is written as one byte, and no other code point is written with that byte.
A line feed at the end of a text ends the last line and opens no further one, so an offset inside
the text never has as many line feeds before it as the text has lines.

What is here:

* `Text.lineFeedsOnly_eq_oneNewline`: replacing line ends takes one pass.
* `Text.mem_oneNewline`: replacing line ends brings in nothing but line feeds.
* `Text.lineCount`: how many lines a text has.
* `Utf8.count_encode`: line feeds in code points and in bytes.
* `Utf8.newlinesBefore_lt_lineCount`: line feeds before an offset inside a text.
-/

set_option autoImplicit false

namespace Enclosure

namespace Text

/-! ## Replacing -/

theorem replaceFrom_eq_drop (first : CodePoint) (others new : Codes) (skip : Nat) (xs : Codes) :
    replaceFrom first others new skip xs = replace first others new (xs.drop skip) := by
  induction xs generalizing skip with
  | nil => cases skip <;> rfl
  | cons x xs ih =>
    cases skip with
    | zero => rfl
    | succ skip => exact ih skip

/-- Where the pattern occurs, it is replaced, and the search goes on behind it. -/
theorem replace_occurrence (first : CodePoint) (others new rest : Codes) :
    replace first others new (first :: (others ++ rest)) = new ++ replace first others new rest := by
  have hoccurs : first = first ∧ others.isPrefixOf (others ++ rest) = true :=
    ⟨rfl, List.isPrefixOf_iff_prefix.mpr (List.prefix_append others rest)⟩
  rw [replace, replaceFrom, if_pos hoccurs, replaceFrom_eq_drop, List.drop_left]
  rfl

/-- Where the pattern does not occur, the text stays. -/
theorem replace_cons_of_not {first x : CodePoint} {others xs : Codes}
    (h : x = first → ¬others <+: xs) (new : Codes) :
    replace first others new (x :: xs) = x :: replace first others new xs := by
  rw [replace, replaceFrom, if_neg]
  rintro ⟨hx, hothers⟩
  exact h hx (List.isPrefixOf_iff_prefix.mp hothers)

/-- A pattern of one code point is replaced code point by code point. -/
theorem replace_singleton (first : CodePoint) (new xs : Codes) :
    replace first [] new xs = xs.flatMap fun x => if x = first then new else [x] := by
  induction xs with
  | nil => rfl
  | cons x xs ih =>
    rw [List.flatMap_cons, ← ih]
    by_cases hx : x = first
    · subst hx
      rw [if_pos rfl]
      exact replace_occurrence x [] new xs
    · rw [if_neg hx]
      exact replace_cons_of_not (fun h => absurd h hx) new

/-- **Replacing takes one pass**: pairs first and single carriage returns afterwards is the same as one
walk along the text with an eye on the next code point. -/
theorem lineFeedsOnly_eq_oneNewline (xs : Codes) : lineFeedsOnly xs = oneNewline xs := by
  have step (x : CodePoint) (ys : Codes) :
      replace carriageReturn [] [lineFeed] (x :: ys) =
        (if x = carriageReturn then lineFeed else x) :: replace carriageReturn [] [lineFeed] ys := by
    rw [replace_singleton, replace_singleton, List.flatMap_cons]
    split <;> rfl
  rw [lineFeedsOnly]
  fun_induction oneNewline xs with
  | case1 => rfl
  | case2 ys ih =>
    have hpair := replace_occurrence carriageReturn [lineFeed] [lineFeed] ys
    rw [show carriageReturn :: lineFeed :: ys = carriageReturn :: ([lineFeed] ++ ys) from rfl, hpair,
      List.singleton_append, step, ih, if_neg (by decide)]
  | case3 y ys hy ih =>
    rw [replace_cons_of_not (fun _ h => hy (List.cons_prefix_cons.mp h).1.symm), step, ih, if_pos rfl]
  | case4 => rfl
  | case5 x xs hx ih =>
    rw [replace_cons_of_not (fun h => absurd h hx), step, ih, if_neg hx]

/-! ## Code points -/

/-- What a text with its line ends replaced holds is a line feed or was there before. -/
theorem mem_oneNewline {x : CodePoint} {xs : Codes} (h : x ∈ oneNewline xs) :
    x = lineFeed ∨ x ∈ xs := by
  fun_induction oneNewline xs with
  | case1 => cases h
  | case2 ys ih =>
    rcases List.mem_cons.mp h with rfl | h
    · exact .inl rfl
    · exact (ih h).imp_right fun h => by simp [h]
  | case3 y ys hy ih =>
    rcases List.mem_cons.mp h with rfl | h
    · exact .inl rfl
    · exact (ih h).imp_right (List.mem_cons_of_mem _)
  | case4 => exact .inl (List.mem_singleton.mp h)
  | case5 y ys hy ih =>
    rcases List.mem_cons.mp h with rfl | h
    · exact .inr List.mem_cons_self
    · exact (ih h).imp_right (List.mem_cons_of_mem _)

theorem noSurrogates_oneNewline {xs : Codes} (h : xs.NoSurrogates) :
    (oneNewline xs).NoSurrogates := by
  intro x hx
  rcases mem_oneNewline hx with rfl | hx
  · decide
  · exact h x hx

/-- How many lines a text has: a line feed ends one, and what comes after the last line feed, if
anything does, is one more. -/
def lineCount (xs : Codes) : Nat :=
  xs.count lineFeed + if xs = [] ∨ xs.getLast? = some lineFeed then 0 else 1

theorem lineCount_concat (xs : Codes) (x : CodePoint) :
    lineCount (xs ++ [x]) = xs.count lineFeed + 1 := by
  rw [lineCount, List.count_append, List.getLast?_concat]
  by_cases h : x = lineFeed <;> simp [h]

end Text

/-! ## Bytes -/

namespace Utf8

/-- The byte of a line feed. -/
def newline : UInt8 := 10

/-- How many lines end before an offset. -/
def newlinesBefore (bytes : Bytes) (offset : Nat) : Nat := (bytes.take offset).count newline

theorem newlinesBefore_mono (bytes : Bytes) {m n : Nat} (h : m ≤ n) :
    newlinesBefore bytes m ≤ newlinesBefore bytes n :=
  (List.take_prefix_take_left h).sublist.count_le newline

theorem newlinesBefore_le_count (bytes : Bytes) (offset : Nat) :
    newlinesBefore bytes offset ≤ bytes.count newline :=
  (List.take_sublist offset bytes).count_le newline

theorem newlinesBefore_succ {bytes : Bytes} {n : Nat} (h : n < bytes.length) :
    newlinesBefore bytes (n + 1) =
      newlinesBefore bytes n + if bytes[n] = newline then 1 else 0 := by
  rw [newlinesBefore, newlinesBefore, List.take_succ_eq_append_getElem h, List.count_append,
    List.count_singleton]
  simp only [beq_iff_eq]

/-- From 0x80 on, no code point is written with bytes below 0x80. -/
theorem le_toNat_of_mem_encodeOne {x : CodePoint} (hx : 0x80 ≤ x.val) {b : UInt8}
    (hb : b ∈ encodeOne x) : 0x80 ≤ b.toNat := by
  have hlt := x.isLt
  have htail : ∀ n, 0x80 ≤ (tail n).toNat := fun n => by rw [toNat_tail]; omega
  have hfirst : ∀ n, 0x80 ≤ n → n < 0x100 → 0x80 ≤ (UInt8.ofNat n).toNat := fun n hn hn' => by
    rwa [toNat_first hn']
  rw [encodeOne, if_neg (by omega)] at hb
  split at hb
  · rcases List.mem_cons.mp hb with rfl | hb
    · exact hfirst _ (by omega) (by omega)
    · exact List.mem_singleton.mp hb ▸ htail _
  · split at hb
    · rcases List.mem_cons.mp hb with rfl | hb
      · exact hfirst _ (by omega) (by omega)
      · simp only [List.mem_cons, List.not_mem_nil, or_false] at hb
        rcases hb with rfl | rfl <;> exact htail _
    · rcases List.mem_cons.mp hb with rfl | hb
      · exact hfirst _ (by omega) (by omega)
      · simp only [List.mem_cons, List.not_mem_nil, or_false] at hb
        rcases hb with rfl | rfl | rfl <;> exact htail _

/-- Only a line feed is written with the byte of a line feed. -/
theorem count_encodeOne (x : CodePoint) :
    (encodeOne x).count newline = if x = Text.lineFeed then 1 else 0 := by
  by_cases hx : x.val < 0x80
  · have hiff : UInt8.ofNat x.val = newline ↔ x = Text.lineFeed := by
      rw [← UInt8.toNat_inj, toNat_first (by omega), Fin.ext_iff]
      rfl
    rw [encodeOne_of_lt hx, List.count_singleton]
    simp only [beq_iff_eq, hiff]
  · have hne : x ≠ Text.lineFeed := by
      rintro rfl
      exact hx (by decide)
    rw [if_neg hne, List.count_eq_zero]
    intro hmem
    exact absurd (le_toNat_of_mem_encodeOne (by omega) hmem) (by decide)

theorem count_encode (xs : Codes) : (encode xs).count newline = xs.count Text.lineFeed := by
  induction xs with
  | nil => rfl
  | cons x xs ih =>
    rw [encode_cons, List.count_append, ih, count_encodeOne, List.count_cons, Nat.add_comm]
    simp only [beq_iff_eq]

/-- **An offset inside a text** has fewer line feeds before it than the text has lines. -/
theorem newlinesBefore_lt_lineCount {xs : Codes} {offset : Nat}
    (h : offset < (encode xs).length) :
    newlinesBefore (encode xs) offset < Text.lineCount xs := by
  obtain rfl | ⟨ys, x, rfl⟩ := xs.eq_nil_or_concat
  · cases h
  rw [List.concat_eq_append] at *
  rw [Text.lineCount_concat, Nat.lt_succ_iff]
  by_cases hx : x = Text.lineFeed
  · -- the last byte is a line feed, and the offset does not lie behind it
    subst hx
    have hbytes : encode (ys ++ [Text.lineFeed]) = encode ys ++ [newline] := List.flatMap_append
    rw [hbytes, List.length_append, List.length_singleton, Nat.lt_succ_iff] at h
    rw [hbytes, newlinesBefore, List.take_append_of_le_length h, ← count_encode]
    exact newlinesBefore_le_count (encode ys) offset
  · have hcount : (ys ++ [x]).count Text.lineFeed = ys.count Text.lineFeed := by
      rw [List.count_append, List.count_singleton, if_neg (by simpa using hx), Nat.add_zero]
    rw [← hcount, ← count_encode]
    exact newlinesBefore_le_count _ offset

end Utf8
end Enclosure
