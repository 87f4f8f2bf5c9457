import Enclosure.Encoding.Utf16
import Enclosure.Text.CodePoint
import Mathlib.Tactic.Common

/-!
# Texts without surrogates

Surrogates are the only code points that are no characters.  A text without them is the text of a
`String`, in both directions; a text in which no two of them make up a pair survives a detour over
16-bit units.

What is here:

* `Codes.NoSurrogates`: no code point of a text is a surrogate.
* `Codes.toString?_eq_some_of_noSurrogates` and `Codes.toString?_eq_none_iff`: such a text, and no other
  one, is one of characters.
* `Codes.PairFree`: joining pairs of surrogates changes nothing.
-/

set_option autoImplicit false

namespace Enclosure

namespace CodePoint

theorem isSurrogate_ofChar (c : Char) : (ofChar c).isSurrogate = false := by
  have h := c.valid
  simp only [UInt32.isValidChar, Nat.isValidChar] at h
  have hval : (ofChar c).val = c.val.toNat := rfl
  simp only [isSurrogate, hval, Bool.and_eq_false_iff, decide_eq_false_iff_not]
  omega

/-- A code point that is no surrogate is a character. -/
theorem exists_ofChar_eq {x : CodePoint} (h : x.isSurrogate = false) :
    ∃ c : Char, ofChar c = x := by
  have hvalid : x.val.isValidChar := by
    have := x.isLt
    simp only [isSurrogate, Bool.and_eq_false_iff, decide_eq_false_iff_not] at h
    simp only [Nat.isValidChar]
    omega
  exact ⟨Char.ofNatAux x.val hvalid, Fin.ext rfl⟩

theorem ofChar_of_toChar? {x : CodePoint} {c : Char} (h : x.toChar? = some c) : ofChar c = x := by
  by_cases hvalid : x.val.isValidChar
  · rw [toChar?, dif_pos hvalid] at h
    obtain rfl := Option.some_inj.mp h
    exact Fin.ext rfl
  · rw [toChar?, dif_neg hvalid] at h
    cases h

end CodePoint

namespace Codes

/-- No code point of the text is a surrogate. -/
def NoSurrogates (xs : Codes) : Prop := ∀ x ∈ xs, x.isSurrogate = false

theorem NoSurrogates.of_subset {xs ys : Codes} (h : ys.NoSurrogates) (hsub : xs ⊆ ys) :
    xs.NoSurrogates := fun x hx => h x (hsub hx)

theorem noSurrogates_ofChars (cs : List Char) : (ofChars cs).NoSurrogates := by
  intro x hx
  obtain ⟨c, -, rfl⟩ := List.mem_map.mp hx
  exact CodePoint.isSurrogate_ofChar c

theorem noSurrogates_ofString (s : String) : (ofString s).NoSurrogates :=
  noSurrogates_ofChars s.toList

/-- A text without surrogates consists of characters. -/
theorem exists_ofChars_eq {xs : Codes} (h : xs.NoSurrogates) : ∃ cs, ofChars cs = xs := by
  induction xs with
  | nil => exact ⟨[], rfl⟩
  | cons x xs ih =>
    obtain ⟨c, rfl⟩ := CodePoint.exists_ofChar_eq (h x List.mem_cons_self)
    obtain ⟨cs, rfl⟩ := ih fun y hy => h y (List.mem_cons_of_mem _ hy)
    exact ⟨c :: cs, rfl⟩

theorem toString?_ofString (s : String) : (ofString s).toString? = some s := by
  rw [toString?, ofString, toChars?_ofChars, Option.map_some, String.ofList_toList]

theorem ofString_inj {s t : String} : ofString s = ofString t ↔ s = t := by
  refine ⟨fun h => ?_, congrArg ofString⟩
  rw [← Option.some_inj, ← toString?_ofString, ← toString?_ofString, h]

theorem toString?_eq_some_of_noSurrogates {xs : Codes} (h : xs.NoSurrogates) :
    ∃ s, xs.toString? = some s := by
  obtain ⟨cs, rfl⟩ := exists_ofChars_eq h
  exact ⟨String.ofList cs, by rw [toString?, toChars?_ofChars, Option.map_some]⟩

theorem ofChars_of_toChars? {xs : Codes} {cs : List Char} (h : xs.toChars? = some cs) :
    ofChars cs = xs := by
  induction xs generalizing cs with
  | nil => exact Option.some_inj.mp h ▸ rfl
  | cons x xs ih =>
    rw [toChars?] at h
    split at h
    · next c cs' hx hxs =>
      obtain rfl := Option.some_inj.mp h
      rw [← CodePoint.ofChar_of_toChar? hx, ← ih hxs]
      rfl
    · cases h

/-- A text with surrogates is none of characters. -/
theorem toString?_eq_none_iff {xs : Codes} : xs.toString? = none ↔ ¬xs.NoSurrogates := by
  refine ⟨fun h hclean => ?_, fun h => Option.eq_none_iff_forall_ne_some.mpr fun s hs => h ?_⟩
  · obtain ⟨s, hs⟩ := toString?_eq_some_of_noSurrogates hclean
    rw [h] at hs
    cases hs
  · obtain ⟨cs, hcs, -⟩ := Option.map_eq_some_iff.mp hs
    exact ofChars_of_toChars? hcs ▸ noSurrogates_ofChars cs

/-- The characters of a text are those of one `String`. -/
theorem toString?_eq_some_iff {xs : Codes} {s : String} :
    xs.toString? = some s ↔ xs = ofString s := by
  refine ⟨fun h => ?_, fun h => by rw [h, toString?_ofString]⟩
  obtain ⟨cs, hcs, rfl⟩ := Option.map_eq_some_iff.mp h
  rw [ofString, String.toList_ofList, ofChars_of_toChars? hcs]

/-! ## Pairs of surrogates -/

/-- No two surrogates stand side by side that would make up a pair. -/
def PairFree (xs : Codes) : Prop := Utf16.joinPairs xs = xs

theorem paired?_eq_none_of_not_isSurrogate {a : CodePoint} (h : a.isSurrogate = false)
    (b : CodePoint) : Utf16.paired? a b = none := by
  simp only [CodePoint.isSurrogate, Bool.and_eq_false_iff, decide_eq_false_iff_not] at h
  rw [Utf16.paired?, if_neg]
  omega

theorem pairFree_of_noSurrogates {xs : Codes} (h : xs.NoSurrogates) : xs.PairFree := by
  unfold PairFree
  fun_induction Utf16.joinPairs xs with
  | case1 => rfl
  | case2 a b us x hpair ih =>
    rw [paired?_eq_none_of_not_isSurrogate (h a List.mem_cons_self)] at hpair
    exact absurd hpair (by simp)
  | case3 a b us hpair ih => rw [ih fun y hy => h y (List.mem_cons_of_mem _ hy)]
  | case4 => rfl

end Codes
end Enclosure
